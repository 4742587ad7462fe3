import Tablewright.Toml.Text
import Tablewright.Toml.Value

namespace Tablewright.Toml

open Scanning

def groupedDigits (isDigit : Char → Bool) : Nat → Scanning (List Char)
  | 0 => return []
  | fuel + 1 => do
      let first ← oneOrMore isDigit
      if ← optionalPhrase "_" then
        return first ++ (← groupedDigits isDigit fuel)
      return first

def grouped (isDigit : Char → Bool) : Scanning (List Char) := do
  groupedDigits isDigit ((← get).length + 1)

/-- This step takes a sign. It tells whether the sign is minus. -/
def optionalSign : Scanning Bool := do
  if ← optionalPhrase "-" then
    return true
  discard (optionalPhrase "+")
  return false

/-- This step takes the digits of a decimal number. A zero stands alone. -/
def decimalDigits : Scanning (List Char) := do
  if ← optionalPhrase "0" then
    return ['0']
  grouped Char.isDigit

def valueOf (base : Nat) (digits : List Char) : Nat :=
  digits.foldl (fun total digit => total * base + (hexadecimalDigit? digit).getD 0) 0

def fits (value : Int) : Bool :=
  -9223372036854775808 ≤ value && value < 9223372036854775808

def wholeValue (value : Int) : Scanning Value :=
  if fits value then return .whole value else failure

def whole : Scanning Value := do
  let inBase (base : Nat) : Scanning Value := do
    let digits ← grouped fun character => (hexadecimalDigit? character).any (· < base)
    wholeValue (valueOf base digits)
  if ← optionalPhrase "0x" then
    inBase 16
  else if ← optionalPhrase "0o" then
    inBase 8
  else if ← optionalPhrase "0b" then
    inBase 2
  else
    let negative ← optionalSign
    let value : Int := valueOf 10 (← decimalDigits)
    wholeValue (if negative then -value else value)

/-- The least number that is too large for a number with a point. Smaller ones round to one that
is not. -/
def tooLarge : Nat := Nat.pow 2 1024 - Nat.pow 2 970

/-- This function tells whether a positive number with a point is too large. The number is whole
digits times a power of ten. -/
def overflows (digits : Nat) (exponent : Int) : Bool :=
  if digits = 0 then false
  else
    let size : Int := (Nat.toDigits 10 digits).length + exponent
    if size ≤ 308 then false
    else if 310 ≤ size then true
    else if 0 ≤ exponent then tooLarge ≤ digits * Nat.pow 10 exponent.toNat
    else tooLarge * Nat.pow 10 (-exponent).toNat ≤ digits

def fraction : Scanning (List Char) := do
  phrase "."
  grouped Char.isDigit

def exponent : Scanning Int := do
  discard (one fun character => character == 'e' || character == 'E')
  let negative ← optionalSign
  let value : Int := valueOf 10 (← grouped Char.isDigit)
  return if negative then -value else value

def decimal : Scanning Value := do
  let negative ← optionalSign
  let first ← decimalDigits
  let (behind, power) ← (do return ([], ← exponent)) <|> (do
    let behind ← fraction
    let power ← exponent <|> pure 0
    return (behind, power))
  if !negative && overflows (valueOf 10 (first ++ behind)) (power - behind.length) then
    failure
  return .decimal

def special : Scanning Value := do
  discard optionalSign
  phrase "inf" <|> phrase "nan"
  return .decimal

def daysOf (year month : Nat) : Nat :=
  if month = 2 then
    if year % 4 = 0 ∧ (year % 100 ≠ 0 ∨ year % 400 = 0) then 29 else 28
  else if month = 4 ∨ month = 6 ∨ month = 9 ∨ month = 11 then 30
  else 31

def date : Scanning Unit := do
  let year ← digits 4
  phrase "-"
  let month ← digitsWithin 2 1 12
  phrase "-"
  discard (digitsWithin 2 1 (daysOf year month))

def time : Scanning Unit := do
  discard (digitsWithin 2 0 23)
  phrase ":"
  discard (digitsWithin 2 0 59)
  phrase ":"
  discard (digitsWithin 2 0 60)
  if (← get).head? = some '.' ∧ ((← get).drop 1).head?.any Char.isDigit then
    phrase "."
    discard (many Char.isDigit)

def zone : Scanning Unit := do
  let mark ← one fun character => "Zz+-".toList.contains character
  if mark == '+' || mark == '-' then
    discard (digitsWithin 2 0 23)
    phrase ":"
    discard (digitsWithin 2 0 59)

def timeAfterDate : Scanning Unit := do
  discard (one fun character => "Tt ".toList.contains character)
  time
  zone <|> return

def moment : Scanning Value := do
  (do
    date
    timeAfterDate <|> return) <|> time
  return .moment

end Tablewright.Toml
