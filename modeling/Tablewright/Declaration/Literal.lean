import Tablewright.Declaration.Lexeme.Number

namespace Tablewright.Declaration.Literal

open Lexeme

def shortEscapes : List (Char × Char) :=
  [('n', '\n'), ('r', '\r'), ('t', '\t'), ('\\', '\\'), ('0', '\x00'), ('\'', '\''),
    ('"', '"')]

/-- This function reads one escape after its backslash. It gives the characters that it stands
for and the length. -/
def unescape (text : List Char) : List Char × Nat :=
  match text with
  | 'x' :: high :: low :: _ =>
      let value := (hexadecimalValue? high).getD 0 * 16 + (hexadecimalValue? low).getD 0
      ([Char.ofNat value], 3)
  | 'u' :: '\x7b' :: rest =>
      match codePoint? 0 0 rest with
      | some (value, length) => ([Char.ofNat value], length + 2)
      | none => ([], 1)
  | '\n' :: _ | '\r' :: _ => ([], (lineJoinLength text).getD 0)
  | character :: _ => ((shortEscapes.lookup character).toList, 1)
  | [] => ([], 0)

/-- This function reads text up to the closing quote. It skips the given number of characters
first. A carriage return before a line feed is left out. -/
def unquoted : (skip : Nat) → List Char → List Char
  | _, [] => []
  | skip + 1, _ :: rest => unquoted skip rest
  | 0, '"' :: _ => []
  | 0, '\\' :: rest =>
      let (characters, length) := unescape rest
      characters ++ unquoted length rest
  | 0, '\r' :: rest => unquoted 0 rest
  | 0, character :: rest => character :: unquoted 0 rest

/-- This function reads raw text. It ends at the last quote. -/
def rawText (text : List Char) : List Char :=
  let inside := (text.dropWhile (· == '#')).drop 1
  ((inside.reverse.dropWhile (· ≠ '"')).drop 1).reverse

def textValue? (literal : String) : Option String :=
  match literal.toList with
  | '"' :: rest => some (String.ofList (unquoted 0 rest))
  | 'r' :: rest => some (String.ofList (rawText rest))
  | _ => none

def isNumber (literal : String) : Bool :=
  literal.toList.head?.any Char.isDigit

def isExponent : List Char → Bool
  | letter :: rest =>
      (letter == 'e' || letter == 'E') &&
        (rest.dropWhile (· == '_')).head?.any fun character =>
          character.isDigit || character == '+' || character == '-'
  | [] => false

def isDecimal (literal : String) : Bool :=
  let text := literal.toList
  let rest := text.dropWhile isDigitOrGap
  isNumber literal && (baseOf text).1 == 10 && (rest.head? == some '.' || isExponent rest)

def isWhole (literal : String) : Bool :=
  isNumber literal && !isDecimal literal

def maxIndex : Nat := 4294967295

def isIndex (text : List Char) : Bool :=
  let (base, lead) := baseOf text
  let digits := (text.drop lead).filter (· ≠ '_')
  let value := digits.foldl (fun total digit =>
    total * base + (hexadecimalValue? digit).getD 0) 0
  !digits.isEmpty && value ≤ maxIndex &&
    digits.all fun digit => (hexadecimalValue? digit).any (· < base)

end Tablewright.Declaration.Literal
