import Tablewright.Text.Alphanumeric
import Tablewright.Text.CaseMapping
import Tablewright.Text.LetterCase
import Tablewright.Text.Pieces

namespace Tablewright.Text.CaseStyle

inductive Mode
  | boundary
  | lower
  | upper
  deriving DecidableEq, Repr

def Mode.after (mode : Mode) (character : Char) : Mode :=
  if isLowerCase character then .lower
  else if isUpperCase character then .upper
  else mode

/-- This function cuts one alphanumeric piece. A word ends before an upper case character that
follows a lower case one, and before the last upper case character of a run that a lower case
one follows. The characters in `word` are already read. -/
def cut (mode : Mode) (word : List Char) : List Char → List (List Char)
  | [] => []
  | [last] => [word ++ [last]]
  | character :: next :: rest =>
      if mode.after character = .lower ∧ isUpperCase next then
        (word ++ [character]) :: cut .boundary [] (next :: rest)
      else if mode = .upper ∧ isUpperCase character ∧ isLowerCase next then
        word :: cut .boundary [character] (next :: rest)
      else
        cut (mode.after character) (word ++ [character]) (next :: rest)

def nameWords (name : List Char) : List (List Char) :=
  (pieces (fun character => !isAlphanumeric character) name).flatMap (cut .boundary [])

/-- This function is the lower case form of one word. A capital sigma at its end is final. -/
def lowerWord : List Char → List Char
  | [] => []
  | [last] => if last == capitalSigma then [finalSigma] else lowerCaseOf last
  | character :: rest => lowerCaseOf character ++ lowerWord rest

def upperWord (word : List Char) : List Char :=
  word.flatMap upperCaseOf

end CaseStyle

def snakeCase (name : String) : String :=
  String.ofList (List.intercalate ['_']
    ((CaseStyle.nameWords name.toList).map CaseStyle.lowerWord))

def upperSnakeCase (name : String) : String :=
  String.ofList (List.intercalate ['_']
    ((CaseStyle.nameWords name.toList).map CaseStyle.upperWord))

end Tablewright.Text
