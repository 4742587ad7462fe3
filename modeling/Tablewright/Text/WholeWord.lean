import Tablewright.Text.Alphanumeric

namespace Tablewright.Text.WholeWord

def isWordChar (character : Char) : Bool :=
  isAlphanumeric character || character == '_'

def bounds (neighbour : Option Char) : Bool :=
  match neighbour with
  | none => true
  | some character => !isWordChar character

/-- This function looks at the occurrences of a phrase from the left, none overlapping the one
before it. It skips the given number of characters first. -/
def occursFrom (phrase : List Char) : (skip : Nat) → (before : Option Char) → List Char → Bool
  | _, _, [] => false
  | skip + 1, _, character :: rest => occursFrom phrase skip (some character) rest
  | 0, before, character :: rest =>
      if phrase.isPrefixOf (character :: rest) then
        (bounds before && bounds ((character :: rest).drop phrase.length).head?) ||
          occursFrom phrase (phrase.length - 1) (some character) rest
      else
        occursFrom phrase 0 (some character) rest

def occurs (phrase text : String) : Bool :=
  occursFrom phrase.toList 0 none text.toList

end Tablewright.Text.WholeWord
