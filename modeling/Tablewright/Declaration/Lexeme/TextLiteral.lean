import Tablewright.Declaration.Lexeme.Blank
import Tablewright.Text.IdentifierChar

namespace Tablewright.Declaration.Lexeme

inductive TextKind
  | plain
  | bytes
  | terminated
  deriving DecidableEq

def TextKind.admits (kind : TextKind) (character : Char) : Bool :=
  match kind with
  | .plain => true
  | .bytes => character.toNat < 0x80
  | .terminated => character ≠ '\x00'

def hexadecimalValue? (character : Char) : Option Nat :=
  if character.isDigit then some (character.toNat - '0'.toNat)
  else if 'a' ≤ character ∧ character ≤ 'f' then some (character.toNat - 'a'.toNat + 10)
  else if 'A' ≤ character ∧ character ≤ 'F' then some (character.toNat - 'A'.toNat + 10)
  else none

/-- This function reads the rest of an escape by code point after the opening brace. One to six
digits are allowed, with underscores after the first. It gives the value and the length. -/
def codePoint? : (digits value : Nat) → List Char → Option (Nat × Nat)
  | _, _, [] => none
  | digits, value, character :: rest =>
      if character = '_' ∧ 0 < digits then
        (codePoint? digits value rest).map fun (found, length) => (found, length + 1)
      else if character = '\x7d' ∧ 0 < digits then
        if value.isValidChar then some (value, 1) else none
      else match hexadecimalValue? character with
        | none => none
        | some digit =>
            if digits = 6 then none
            else (codePoint? (digits + 1) (value * 16 + digit) rest).map fun (found, length) =>
              (found, length + 1)

/-- A backslash at the end of a line skips the line end and the blanks after it. This function
is the length of what is skipped. -/
def lineJoinLength : List Char → Option Nat
  | '\r' :: '\n' :: rest => (lineJoinLength rest).map (· + 2)
  | '\r' :: _ => none
  | '\n' :: rest | ' ' :: rest | '\t' :: rest => (lineJoinLength rest).map (· + 1)
  | _ :: _ => some 0
  | [] => none

def byteEscapeLength (kind : TextKind) : List Char → Option Nat
  | high :: low :: _ =>
      match hexadecimalValue? high, hexadecimalValue? low with
      | some first, some second =>
          match kind with
          | .plain => if first < 8 then some 2 else none
          | .bytes => some 2
          | .terminated => if first = 0 ∧ second = 0 then none else some 2
      | _, _ => none
  | _ => none

def escapeLength (kind : TextKind) : List Char → Option Nat
  | 'x' :: rest => (byteEscapeLength kind rest).map (· + 1)
  | 'u' :: '\x7b' :: rest =>
      match kind, codePoint? 0 0 rest with
      | .plain, some (_, length) => some (length + 2)
      | .terminated, some (value, length) => if value = 0 then none else some (length + 2)
      | _, _ => none
  | '0' :: _ => if kind = .terminated then none else some 1
  | character :: _ =>
      if character ∈ ['n', 'r', 't', '\\', '\'', '"'] then some 1 else none
  | [] => none

/-- This function is the length of a literal after its opening quote, the closing quote
included. It skips the given number of characters first. -/
def quotedLength (kind : TextKind) : (skip : Nat) → List Char → Option Nat
  | _, [] => none
  | skip + 1, _ :: rest => (quotedLength kind skip rest).map (· + 1)
  | 0, '"' :: _ => some 1
  | 0, '\r' :: rest =>
      if rest.head? = some '\n' then (quotedLength kind 1 rest).map (· + 1) else none
  | 0, '\\' :: rest =>
      let escape :=
        if rest.head? = some '\n' ∨ rest.head? = some '\r' then lineJoinLength rest
        else escapeLength kind rest
      escape.bind fun length => (quotedLength kind length rest).map (· + 1)
  | 0, character :: rest =>
      if kind.admits character then (quotedLength kind 0 rest).map (· + 1) else none

/-- This function is the length of a raw literal after its opening quote, the closing quote and
its number signs included. A raw literal has no escapes. -/
def rawLength (kind : TextKind) (signs : List Char) : List Char → Option Nat
  | [] => none
  | '\r' :: '\n' :: rest => (rawLength kind signs rest).map (· + 2)
  | '\r' :: _ => none
  | character :: rest =>
      if character = '"' ∧ signs.isPrefixOf rest then some (signs.length + 1)
      else if kind.admits character then (rawLength kind signs rest).map (· + 1)
      else none

def rawLiteralLength (kind : TextKind) (text : List Char) : Option Nat :=
  let signs := text.takeWhile (· == '#')
  match text.drop signs.length with
  | '"' :: rest =>
      if signs.length ≤ 255 then
        (rawLength kind signs rest).map (· + (signs.length + 1))
      else none
  | _ => none

/-- A name may follow a literal as its ending. This function is the length of the name at the
start of a text. -/
def nameLength : List Char → Nat
  | [] => 0
  | first :: rest =>
      if Text.isIdentifierStart first then
        (rest.takeWhile Text.isIdentifierContinue).length + 1
      else 0

def withEnding (text : List Char) (length : Nat) : Nat :=
  length + nameLength (text.drop length)

def characterLength (kind : TextKind) : List Char → Option Nat
  | '\\' :: rest =>
      match escapeLength kind rest with
      | some length => if (rest.drop length).head? = some '\'' then some (length + 2) else none
      | none => none
  | character :: '\'' :: _ => if kind.admits character then some 2 else none
  | _ => none

def textLiteralLength (text : List Char) : Option Nat :=
  let after (lead : Nat) (length : Option Nat) : Option Nat :=
    length.map fun found => withEnding text (found + lead)
  match text with
  | '"' :: rest => after 1 (quotedLength .plain 0 rest)
  | 'r' :: rest => after 1 (rawLiteralLength .plain rest)
  | 'b' :: '"' :: rest => after 2 (quotedLength .bytes 0 rest)
  | 'b' :: 'r' :: rest => after 2 (rawLiteralLength .bytes rest)
  | 'c' :: '"' :: rest => after 2 (quotedLength .terminated 0 rest)
  | 'c' :: 'r' :: rest => after 2 (rawLiteralLength .terminated rest)
  | 'b' :: '\'' :: rest => after 2 (characterLength .bytes rest)
  | '\'' :: rest => after 1 (characterLength .plain rest)
  | _ => none

end Tablewright.Declaration.Lexeme
