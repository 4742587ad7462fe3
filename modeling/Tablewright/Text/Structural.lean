import Tablewright.Text.Pieces
import Tablewright.Text.Quoted

namespace Tablewright.Text.Structural

def call (constructor : String) (arguments : List String) : String :=
  constructor ++ "(" ++ joined ", " arguments ++ ")"

def named (argument : String × String) : String :=
  argument.1 ++ ": " ++ argument.2

def record (constructor : String) (arguments : List (String × String)) : String :=
  constructor ++ " \x7b " ++ joined ", " (arguments.map named) ++ " \x7d"

def optional (write : String → String) : Option String → String
  | none => "None"
  | some value => call "Some" [write value]

def truth (value : Bool) : String :=
  if value then "true" else "false"

end Tablewright.Text.Structural
