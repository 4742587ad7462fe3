import Tablewright.Declaration.Lexeme.TextLiteral

namespace Tablewright.Declaration.Lexeme

def isDigitOrGap (character : Char) : Bool :=
  character.isDigit || character == '_'

def startsName (text : List Char) : Bool :=
  text.head?.any Text.isIdentifierStart

def endsHere (text : List Char) (length : Nat) : Option Nat :=
  if (text.drop length).head?.any Text.isIdentifierContinue then none else some length

/-- This function is the length of an exponent after its letter. It has a sign at most, before
its digits. -/
def exponentLength : (signed valued : Bool) → List Char → Option Nat
  | _, valued, [] => if valued then some 0 else none
  | signed, valued, character :: rest =>
      if character = '+' ∨ character = '-' then
        if valued then some 0
        else if signed then none
        else (exponentLength true valued rest).map (· + 1)
      else if character.isDigit then (exponentLength signed true rest).map (· + 1)
      else if character = '_' then (exponentLength signed valued rest).map (· + 1)
      else if valued then some 0
      else none

/-- This function is the length of the part of a number behind its point, the point included. A
point before a name or a second point belongs to no number. -/
def fractionLength? : List Char → Option Nat
  | '.' :: rest =>
      if rest.head? = some '.' ∨ startsName rest then none
      else some ((rest.takeWhile isDigitOrGap).length + 1)
  | _ => some 0

def decimalLength? (text : List Char) : Option Nat :=
  if text.head?.any Char.isDigit then
    let whole := (text.takeWhile isDigitOrGap).length
    match fractionLength? (text.drop whole) with
    | none => none
    | some fraction =>
        let start := whole + fraction
        let pointed := if fraction = 0 then none else some start
        match text.drop start with
        | letter :: rest =>
            if letter = 'e' ∨ letter = 'E' then
              match exponentLength false false rest with
              | some length => some (start + 1 + length)
              | none => pointed
            else pointed
        | [] => pointed
  else none

def decimalLiteralLength (text : List Char) : Option Nat :=
  (decimalLength? text).bind fun length => endsHere text (withEnding text length)

/-- This function is the length of digits of a base. A digit of ten or more that is too large
ends them, and a smaller one that is too large makes them invalid. -/
def digitsLength (base : Nat) : (started : Bool) → List Char → Option Nat
  | started, [] => if started then some 0 else none
  | started, character :: rest =>
      if character = '_' then
        if base = 10 ∧ !started then none else (digitsLength base started rest).map (· + 1)
      else match hexadecimalValue? character with
        | none => if started then some 0 else none
        | some digit =>
            if digit < base then (digitsLength base true rest).map (· + 1)
            else if digit < 10 then none
            else if started then some 0
            else none

def baseOf (text : List Char) : Nat × Nat :=
  if startsWith "0x" text then (16, 2)
  else if startsWith "0o" text then (8, 2)
  else if startsWith "0b" text then (2, 2)
  else (10, 0)

def wholeLiteralLength (text : List Char) : Option Nat :=
  let (base, lead) := baseOf text
  (digitsLength base false (text.drop lead)).bind fun length =>
    endsHere text (withEnding text (lead + length))

def numberLength (text : List Char) : Option Nat :=
  decimalLiteralLength text <|> wholeLiteralLength text

end Tablewright.Declaration.Lexeme
