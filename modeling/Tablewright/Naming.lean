import Tablewright.Text.CaseStyle

namespace Tablewright.Naming

def storageVariable (table : String) : String :=
  "TABLE_" ++ Text.upperSnakeCase table

def functionSuffix (table : String) : String :=
  Text.snakeCase table

def withoutRawMarks (field : String) : String :=
  String.ofList (Text.withoutLeads ['r', '#'] field.length field.toList)

/-- A parameter has the name of its field without raw marks, and a field named `type` has the
parameter `typ`. -/
def parameterName (field : String) : String :=
  let name := withoutRawMarks field
  if name = "type" then "typ" else name

def startsIdentifier (character : Char) : Bool :=
  character == '_' || character.isAlpha

def continuesIdentifier (character : Char) : Bool :=
  character == '_' || character.isAlphanum

/-- A plain identifier has ASCII letters, digits and underscores, does not start with a digit,
and is not a lone underscore. -/
def isIdentifier (name : String) : Bool :=
  match name.toList with
  | [] => false
  | first :: rest =>
      startsIdentifier first && name ≠ "_" && (first :: rest).all continuesIdentifier

theorem continues_of_identifier {name : String} (identifier : isIdentifier name = true) :
    ∀ character ∈ name.toList, continuesIdentifier character = true := by
  rw [isIdentifier] at identifier
  split at identifier
  · cases identifier
  · next letters =>
      rw [letters]
      exact List.all_eq_true.mp (Bool.and_eq_true_iff.mp identifier).2

end Tablewright.Naming
