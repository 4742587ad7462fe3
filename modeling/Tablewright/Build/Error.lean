import Tablewright.Emission
import Tablewright.Introspection
import Tablewright.Settings

namespace Tablewright

/-- A build fails when files cannot be changed, when the settings, the declarations or the
emission are refused, when the formatter does not start or does not succeed, or when an output
has no file name. -/
inductive BuildError
  | files (cause : FileError)
  | config (cause : ConfigError)
  | introspection (cause : IntrospectionError)
  | emission (cause : EmitError)
  | formatterNotStarted (program : String) (cause : FileError)
  | formatterFailed (program : String) (path : FilePath) (status : Nat)
  | noFileName (path : FilePath)
  deriving DecidableEq, Repr

def statusText (status : Nat) : String :=
  s!"exit status: {status}"

def BuildError.message : BuildError → String
  | .files cause => s!"io error: {cause.message}"
  | .config cause => s!"config error: {cause.message}"
  | .introspection cause => s!"introspection error: {cause.message}"
  | .emission cause => s!"emit error: {cause.message}"
  | .formatterNotStarted program cause =>
      s!"failed to run formatter '{program}': {cause.message}"
  | .formatterFailed program path status =>
      s!"formatter '{program}' failed on {path.text} ({statusText status})"
  | .noFileName path => s!"invalid path: {path.text}"

end Tablewright
