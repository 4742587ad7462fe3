import Tablewright.Toml.Scanning

namespace Tablewright.Toml

open Scanning

def hexadecimalDigit? (character : Char) : Option Nat :=
  if character.isDigit then some (character.toNat - '0'.toNat)
  else if 'a' ≤ character ∧ character ≤ 'f' then some (character.toNat - 'a'.toNat + 10)
  else if 'A' ≤ character ∧ character ≤ 'F' then some (character.toNat - 'A'.toNat + 10)
  else none

def codePoint (count : Nat) : Scanning Char := do
  let text ← get
  let digits := (text.take count).filterMap hexadecimalDigit?
  let value := digits.foldl (fun total digit => total * 16 + digit) 0
  if digits.length = count ∧ value.isValidChar then
    set (text.drop count)
    return Char.ofNat value
  failure

def escape : Scanning Char := do
  match ← one fun _ => true with
  | 'b' => return '\x08'
  | 'f' => return '\x0C'
  | 'n' => return '\n'
  | 'r' => return '\r'
  | 't' => return '\t'
  | '\\' => return '\\'
  | '"' => return '"'
  | 'u' => codePoint 4
  | 'U' => codePoint 8
  | _ => failure

def basicRest : Nat → Scanning (List Char)
  | 0 => failure
  | fuel + 1 => do
      match ← one isTextChar with
      | '"' => return []
      | '\\' => return (← escape) :: (← basicRest fuel)
      | character => return character :: (← basicRest fuel)

/-- This step takes text up to a single quote on the same line. There are no escapes. -/
def literalRest : Scanning (List Char) := do
  let found ← many fun character => isTextChar character && character ≠ '\''
  phrase "'"
  return found

/-- Three quotes end a text of several lines. Up to two quotes before them belong to it. This
function counts these when the text ends. -/
def closingQuotes? (quote : Char) (text : List Char) : Option Nat :=
  let run := (text.takeWhile (· == quote)).length
  if run < 3 then none else some (min (run - 3) 2)

def skipLines : Nat → Scanning Unit
  | 0 => return
  | fuel + 1 => do
      blanks
      if ← optionalNewline then
        skipLines fuel

def longEscape : Scanning (List Char) := do
  let text ← get
  let rest := text.dropWhile isBlank
  if rest.head? = some '\n' ∨ rest.take 2 = ['\r', '\n'] then
    skipLines (text.length + 1)
    return []
  return [← escape]

def longRest (quote : Char) (escapes : Bool) : Nat → Scanning (List Char)
  | 0 => failure
  | fuel + 1 => do
      let text ← get
      match closingQuotes? quote text with
      | some count =>
          set (text.drop (count + 3))
          return List.replicate count quote
      | none =>
          if ← optionalNewline then
            return '\n' :: (← longRest quote escapes fuel)
          let character ← one isTextChar
          if escapes && character == '\\' then
            return (← longEscape) ++ (← longRest quote escapes fuel)
          return character :: (← longRest quote escapes fuel)

/-- This step takes a text of several lines after its opening quotes. A line end right behind
these does not count. -/
def longText (quote : Char) (escapes : Bool) : Scanning (List Char) := do
  discard optionalNewline
  longRest quote escapes ((← get).length + 1)

def shortText (quote : Char) : Scanning (List Char) := do
  if quote == '"' then
    basicRest ((← get).length + 1)
  else
    literalRest

def anyText : Scanning String := do
  if ← optionalPhrase "\"\"\"" then
    return String.ofList (← longText '"' true)
  if ← optionalPhrase "'''" then
    return String.ofList (← longText '\'' false)
  let quote ← one fun character => character == '"' || character == '\''
  return String.ofList (← shortText quote)

end Tablewright.Toml
