import Tablewright.Text.Pieces

namespace Tablewright.CommandLine

inductive OptionKind
  | text
  | path
  | flag
  deriving DecidableEq, Repr

abbrev OptionTable := List (String × OptionKind)

/-- A given option has its value. The value of a flag is empty. -/
abbrev GivenOptions := List (String × String)

namespace GivenOptions

def cut (text : List Char) : String × Option String :=
  let name := text.takeWhile (· ≠ '=')
  match text.drop name.length with
  | _ :: value => (String.ofList name, some (String.ofList value))
  | [] => (String.ofList name, none)

def mayBeValue (argument : String) : Bool :=
  argument = "-" || argument.toList.head? ≠ some '-'

def accepts : OptionKind → String → Bool
  | .text, _ => true
  | .path, value => value ≠ ""
  | .flag, _ => false

/-- This function reads an option after its two dashes. The rest of the arguments has its value
unless the value is attached. -/
def readOption (table : OptionTable) (text : List Char) (rest : List String) :
    Option ((String × String) × List String) := do
  let (name, attached) := cut text
  match ← table.lookup name, attached, rest with
  | .flag, none, _ => return ((name, ""), rest)
  | kind, some value, _ => if accepts kind value then return ((name, value), rest) else none
  | kind, none, value :: others =>
      if mayBeValue value && accepts kind value then return ((name, value), others) else none
  | _, none, [] => none

/-- This function reads options up to the end of the arguments. Two dashes may stand at the
end. -/
def readUpTo (table : OptionTable) : Nat → List String → Option GivenOptions
  | _, [] => some []
  | _, ["--"] => some []
  | 0, _ => none
  | fuel + 1, argument :: rest =>
      match argument.toList with
      | '-' :: '-' :: text => do
          let (given, others) ← readOption table text rest
          return given :: (← readUpTo table fuel others)
      | _ => none

def read (table : OptionTable) (arguments : List String) : Option GivenOptions := do
  let given ← readUpTo table arguments.length arguments
  if (given.map Prod.fst).Nodup then return given else none

end Tablewright.CommandLine.GivenOptions
