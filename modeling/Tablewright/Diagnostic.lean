namespace Tablewright

inductive Severity
  | error
  | warning
  deriving DecidableEq, Repr

def Severity.label : Severity → String
  | .error => "error"
  | .warning => "warning"

structure Diagnostic where
  severity : Severity
  code : String
  subject : String
  message : String
  deriving DecidableEq, Repr

namespace Diagnostic

def error (code subject message : String) : Diagnostic :=
  ⟨.error, code, subject, message⟩

def warning (code subject message : String) : Diagnostic :=
  ⟨.warning, code, subject, message⟩

def isError (diagnostic : Diagnostic) : Bool :=
  diagnostic.severity = .error

def isWarning (diagnostic : Diagnostic) : Bool :=
  diagnostic.severity = .warning

def display (diagnostic : Diagnostic) : String :=
  diagnostic.severity.label ++ "[" ++ diagnostic.code ++ "] " ++ diagnostic.subject ++ ": " ++
    diagnostic.message

end Diagnostic

abbrev Diagnostics := List Diagnostic

namespace Diagnostics

def errors (diagnostics : Diagnostics) : Diagnostics :=
  diagnostics.filter Diagnostic.isError

def warnings (diagnostics : Diagnostics) : Diagnostics :=
  diagnostics.filter Diagnostic.isWarning

def isFatal (diagnostics : Diagnostics) : Bool :=
  diagnostics.any Diagnostic.isError

end Tablewright.Diagnostics
