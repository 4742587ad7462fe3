import Tablewright.Text.Pieces

namespace Tablewright.Toml

/-- A scanning step takes characters from the front or fails. A step that fails takes none. -/
abbrev Scanning := StateT (List Char) Option

namespace Scanning

def peek : Scanning (Option Char) := do
  return (← get).head?

def one (test : Char → Bool) : Scanning Char := do
  match ← get with
  | character :: rest =>
      if test character then
        set rest
        return character
      failure
  | [] => failure

def many (test : Char → Bool) : Scanning (List Char) := do
  let text ← get
  set (text.dropWhile test)
  return text.takeWhile test

def oneOrMore (test : Char → Bool) : Scanning (List Char) := do
  return (← one test) :: (← many test)

def phrase (expected : String) : Scanning Unit := do
  let text ← get
  if expected.toList.isPrefixOf text then
    set (text.drop expected.length)
  else
    failure

def optionalPhrase (expected : String) : Scanning Bool := do
  if expected.toList.isPrefixOf (← get) then
    phrase expected
    return true
  return false

def lookPhrase (expected : String) : Scanning Bool := do
  return expected.toList.isPrefixOf (← get)

def digits (count : Nat) : Scanning Nat := do
  let text ← get
  let found := text.take count
  if found.length = count ∧ found.all Char.isDigit then
    set (text.drop count)
    return found.foldl (fun total digit => total * 10 + (digit.toNat - '0'.toNat)) 0
  failure

def digitsWithin (count low high : Nat) : Scanning Nat := do
  let found ← digits count
  if low ≤ found ∧ found ≤ high then
    return found
  failure

def isBlank (character : Char) : Bool :=
  character == ' ' || character == '\t'

def isTextChar (character : Char) : Bool :=
  character == '\t' || (' ' ≤ character && character ≠ '\x7F')

def blanks : Scanning Unit :=
  discard (many isBlank)

def newline : Scanning Unit :=
  phrase "\n" <|> phrase "\r\n"

def optionalNewline : Scanning Bool := do
  if (← lookPhrase "\n") || (← lookPhrase "\r\n") then
    newline
    return true
  return false

def optionalComment : Scanning Unit := do
  if ← optionalPhrase "#" then
    discard (many isTextChar)

def lineEnd : Scanning Unit := do
  if !(← get).isEmpty then
    newline

def restOfLine : Scanning Unit := do
  blanks
  optionalComment
  lineEnd

def gapUpTo : Nat → Scanning Unit
  | 0 => return
  | fuel + 1 => do
      blanks
      if (← lookPhrase "#") then
        optionalComment
        gapUpTo fuel
      else if ← optionalNewline then
        gapUpTo fuel

def gap : Scanning Unit := do
  gapUpTo ((← get).length + 1)

end Tablewright.Toml.Scanning
