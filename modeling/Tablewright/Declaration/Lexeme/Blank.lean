import Tablewright.Text.WhiteSpace

namespace Tablewright.Declaration.Lexeme

def isBlank (character : Char) : Bool :=
  Text.isWhiteSpace character || character == '\u200E' || character == '\u200F'

def startsWith (phrase : String) (text : List Char) : Bool :=
  phrase.toList.isPrefixOf text

def lineLength : List Char → Nat
  | [] => 0
  | '\n' :: _ => 0
  | '\r' :: '\n' :: _ => 0
  | _ :: rest => lineLength rest + 1

/-- A block comment goes up to the mark that closes it. Block comments nest. -/
def blockLength : (depth : Nat) → List Char → Option Nat
  | depth, '/' :: '*' :: rest => (blockLength (depth + 1) rest).map (· + 2)
  | depth, '*' :: '/' :: rest =>
      if depth ≤ 1 then some 2 else (blockLength (depth - 1) rest).map (· + 2)
  | depth, _ :: rest => (blockLength depth rest).map (· + 1)
  | _, [] => none

/-- Three slashes and a slash with two stars start documentation, but four slashes, three stars
and an empty block comment do not. -/
def isLineComment (text : List Char) : Bool :=
  startsWith "//" text && (!startsWith "///" text || startsWith "////" text) &&
    !startsWith "//!" text

def isBlockComment (text : List Char) : Bool :=
  startsWith "/**/" text ||
    (startsWith "/*" text && (!startsWith "/**" text || startsWith "/***" text) &&
      !startsWith "/*!" text)

/-- This function is the length of the white space character or comment at the start of a text.
A block comment that is never closed is not blank. -/
def blankLength? (text : List Char) : Option Nat :=
  match text with
  | [] => none
  | first :: _ =>
      if isLineComment text then some (lineLength text)
      else if isBlockComment text then blockLength 0 text
      else if isBlank first then some 1
      else none

structure Documentation where
  inner : Bool
  text : String
  length : Nat

def returnsAreLineEnds : List Char → Bool
  | [] => true
  | '\r' :: '\n' :: rest => returnsAreLineEnds rest
  | '\r' :: _ => false
  | _ :: rest => returnsAreLineEnds rest

def documentation? (text : List Char) : Option Documentation :=
  let read (inner : Bool) (length closing : Nat) : Option Documentation :=
    let comment := (text.take (length - closing)).drop 3
    if returnsAreLineEnds comment then some ⟨inner, String.ofList comment, length⟩ else none
  if startsWith "//!" text then read true (lineLength text) 0
  else if startsWith "/*!" text then
    (blockLength 0 text).bind fun length => read true length 2
  else if startsWith "///" text && !startsWith "////" text then read false (lineLength text) 0
  else if startsWith "/**" text && !startsWith "/***" text then
    (blockLength 0 text).bind fun length => read false length 2
  else none

end Tablewright.Declaration.Lexeme
