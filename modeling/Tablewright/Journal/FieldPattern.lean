import Tablewright.Text.Alphanumeric

namespace Tablewright.FieldPattern

def isExponent : List Char → Bool
  | [] => true
  | letter :: rest =>
      let digits := match rest with
        | '+' :: more | '-' :: more => more
        | _ => rest
      (letter = 'e' || letter = 'E') && !digits.isEmpty && digits.all Char.isDigit

/-- A number without a sign has digits, at most one point among them and an exponent. Infinity
and the number that is none have names. -/
def isNumber (text : List Char) : Bool :=
  let whole := text.takeWhile Char.isDigit
  let rest := text.drop whole.length
  let fraction := match rest with
    | '.' :: more => more.takeWhile Char.isDigit
    | _ => []
  let point := if rest.head? = some '.' then 1 else 0
  ["inf", "infinity", "nan"].contains (String.ofList (text.map Char.toLower)) ||
    !(whole ++ fraction).isEmpty && isExponent (rest.drop (point + fraction.length))

/-- The place within a pattern tells what may come next. A quantifier may stand behind an item
only. Inside a set every character is an item but those that open, close and escape. -/
inductive Place
  | start
  | item
  | escape
  | digits (left : Nat)
  | category
  | group
  | flags (last : Char)
  | label
  | name (empty : Bool)
  | set
  | negatedSet
  deriving DecidableEq, Repr

structure Reader where
  groups : Nat := 0
  sets : Nat := 0
  place : Place := .start
  deriving DecidableEq, Repr

namespace Reader

def movedTo (reader : Reader) (place : Place) : Reader :=
  { reader with place }

/-- This function reads the character behind a backslash. A letter needs a meaning, and the edges
of words are refused. The signs of the short alphabet stand for themselves. -/
def escaped? (reader : Reader) (character : Char) : Option Reader :=
  if character = 'x' then some (reader.movedTo (.digits 2))
  else if character = 'u' then some (reader.movedTo (.digits 4))
  else if character = 'U' then some (reader.movedTo (.digits 8))
  else if character = 'p' ∨ character = 'P' then some (reader.movedTo .category)
  else if "dDsSwWafnrtv".toList.contains character then some (reader.movedTo .item)
  else if reader.sets = 0 ∧ (character = 'A' ∨ character = 'z') then some (reader.movedTo .item)
  else if character.isAlphanum ∨ character = '<' ∨ character = '>' then none
  else if 0x80 ≤ character.toNat then none
  else some (reader.movedTo .item)

/-- This function reads a character inside a set. A closing bracket at the start of a set stands
for itself. -/
def inSet? (reader : Reader) (character : Char) : Option Reader :=
  if character = '\\' then some (reader.movedTo .escape)
  else if character = '[' then some { reader with sets := reader.sets + 1, place := .set }
  else if character = '^' ∧ reader.place = .set then some (reader.movedTo .negatedSet)
  else if character = ']' ∧ reader.place ≠ .set ∧ reader.place ≠ .negatedSet then
    some { reader with sets := reader.sets - 1, place := .item }
  else some (reader.movedTo .item)

/-- This function reads a character outside of sets. No counted repetition is ever closed, for
the field ends at the first closing brace. -/
def outside? (reader : Reader) (character : Char) : Option Reader :=
  match character with
  | '\\' => some (reader.movedTo .escape)
  | '[' => some { reader with sets := 1, place := .set }
  | '(' => some { reader with groups := reader.groups + 1, place := .group }
  | ')' =>
      if reader.groups = 0 then none
      else some { reader with groups := reader.groups - 1, place := .item }
  | '|' => some (reader.movedTo .start)
  | '*' | '+' | '?' => if reader.place = .item then some reader else none
  | '{' => none
  | _ => some (reader.movedTo .item)

/-- This function reads a character of the flags of a group. Flags alone are no item. -/
def flagged? (reader : Reader) (last character : Char) : Option Reader :=
  match character with
  | ':' => if last = '-' then none else some (reader.movedTo .start)
  | ')' =>
      if last = '-' ∨ last = '?' then none
      else some { reader with groups := reader.groups - 1, place := .start }
  | 'P' => if last = '?' then some (reader.movedTo .label) else none
  | '<' => if last = '?' then some (reader.movedTo (.name true)) else none
  | _ =>
      if "imsUuxR-".toList.contains character then some (reader.movedTo (.flags character)) else none

def named? (reader : Reader) (empty : Bool) (character : Char) : Option Reader :=
  if character = '>' then
    if empty then none else some (reader.movedTo .start)
  else if character = '_' ∨ (Text.isAlphanumeric character ∧ !(empty && character.isDigit)) then
    some (reader.movedTo (.name false))
  else if !empty ∧ ['.', '[', ']'].contains character then some (reader.movedTo (.name false))
  else none

def read? (reader : Reader) (character : Char) : Option Reader :=
  match reader.place with
  | .escape => reader.escaped? character
  | .digits left =>
      if !(character.isDigit || "abcdefABCDEF".toList.contains character) then none
      else if left ≤ 1 then some (reader.movedTo .item)
      else some (reader.movedTo (.digits (left - 1)))
  | .category =>
      if "clmnpszCLMNPSZ".toList.contains character then some (reader.movedTo .item) else none
  | .group =>
      if character = '?' then some (reader.movedTo (.flags '?'))
      else (reader.movedTo .start).outside? character
  | .flags last => reader.flagged? last character
  | .label => if character = '<' then some (reader.movedTo (.name true)) else none
  | .name empty => reader.named? empty character
  | _ => if reader.sets = 0 then reader.outside? character else reader.inSet? character

def mayEnd (reader : Reader) : Bool :=
  reader.groups = 0 && reader.sets = 0 && (reader.place = .start || reader.place = .item)

end Reader

def isPattern (text : List Char) : Bool :=
  (text.foldlM Reader.read? {}).any Reader.mayEnd

/-- This function tells whether a text may stand for the value of a field. All numbers but those
with a plus sign are patterns too. -/
def isValue (text : List Char) : Bool :=
  isPattern text || (text.head? = some '+' && isNumber (text.drop 1))

end Tablewright.FieldPattern
