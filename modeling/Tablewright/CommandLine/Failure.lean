import Tablewright.Build.Error
import Tablewright.Journal.Filter
import Tablewright.Text.Structural

namespace Tablewright.CommandLine

/-- A command fails for its settings, its log filter, its log file, its report file or its build,
or reports on tables that are not resolved. -/
inductive Failure
  | config (cause : ConfigError)
  | filter (fault : FilterFault)
  | build (cause : BuildError)
  | files (cause : FileError)
  | unresolved (errors : Nat)
  deriving DecidableEq, Repr

open Text Structural

def fileErrorText (error : FileError) : String :=
  match error.code? with
  | some code =>
      record "Os"
        [("code", Nat.repr code), ("kind", error.kind), ("message", quoted error.description)]
  | none => record "Error" [("kind", error.kind), ("message", quoted error.description)]

def pathText (path : FilePath) : String :=
  quotedPath path.text

def configErrorText : ConfigError → String
  | .unreadable path cause =>
      record "Io" [("path", pathText path), ("source", fileErrorText cause)]
  | .invalidDocument path => record "Toml" [("path", pathText path)]
  | .invalidOutput cause => call "Invalid" [quoted cause.reason]

def introspectionErrorText : IntrospectionError → String
  | .unreadableDirectory path cause =>
      record "Io" [("path", pathText path), ("source", fileErrorText cause)]
  | .typeNotFound name => call "TypeNotFound" [quoted name]
  | .emptyType name path =>
      record "EmptyType" [("name", quoted name), ("path", pathText path)]

def emitErrorText : EmitError → String
  | .aborted errors => record "Aborted" [("errors", Nat.repr errors)]

def buildErrorText : BuildError → String
  | .files cause => call "Io" [fileErrorText cause]
  | .config cause => call "Config" [configErrorText cause]
  | .introspection cause => call "Introspect" [introspectionErrorText cause]
  | .emission cause => call "Emit" [emitErrorText cause]
  | .formatterNotStarted program cause =>
      record "FormatterSpawn" [("program", quoted program), ("source", fileErrorText cause)]
  | .formatterFailed program path status =>
      record "FormatterFailed"
        [("program", quoted program), ("path", pathText path),
          ("status", quoted (statusText status))]
  | .noFileName path => call "InvalidPath" [quoted path.text]

/-- This function writes a failure by its structure. The details of a filter or of a document
that cannot be read are left out, and the text ends where they would stand. -/
def Failure.structural : Failure → String
  | .config (.invalidDocument _) => "Config(Toml"
  | .config cause => call "Config" [configErrorText cause]
  | .filter _ => "Driver(Logging"
  | .build cause => call "Driver" [buildErrorText cause]
  | .files cause => call "Io" [fileErrorText cause]
  | .unresolved errors => record "Unresolved" [("errors", Nat.repr errors)]

/-- A command that cannot go on within its log filter stops at once, with a code of its own and
without a word about its failure. -/
def Failure.stops : Failure → Bool
  | .filter .cut => true
  | _ => false

def Failure.exitCode (failure : Failure) : Nat :=
  if failure.stops then 101 else 1

def Failure.line? (failure : Failure) : Option String :=
  if failure.stops then none else some ("Error: " ++ failure.structural)

end Tablewright.CommandLine
