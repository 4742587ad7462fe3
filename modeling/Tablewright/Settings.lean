import Tablewright.Emission.Options
import Tablewright.FileError
import Tablewright.FilePath
import Tablewright.Introspection.Options
import Tablewright.Naming
import Tablewright.Text.Structural

namespace Tablewright

structure FormatterSettings where
  enabled : Bool := true
  program : String := "rustfmt"
  edition : String := "2021"
  deriving DecidableEq, Repr

/-- The settings name the tools module, the declaration files, the key marker and the outputs.
Without an output directory, the outputs stand beside the declarations. -/
structure Settings where
  base : String := ({} : EmitOptions).base
  lead : String := ({} : IntrospectionOptions).lead
  primaryOutput : String := "table.rs"
  secondaryOutput : String := "table_after_load.rs"
  marker : String := ({} : IntrospectionOptions).marker
  outputDirectory : Option FilePath := none
  formatter : FormatterSettings := {}
  deriving DecidableEq, Repr

inductive OutputError
  | invalidName (file : String)
  | wrongExtension (file : String)
  deriving DecidableEq, Repr

def OutputError.reason : OutputError → String
  | .invalidName file => s!"output '{file}' is not a valid module file name"
  | .wrongExtension file => s!"output '{file}' must be a .rs file"

/-- A settings file cannot be read, is no valid document, or names outputs that are refused. -/
inductive ConfigError
  | unreadable (path : FilePath) (cause : FileError)
  | invalidDocument (path : FilePath)
  | invalidOutput (cause : OutputError)
  deriving DecidableEq, Repr

def ConfigError.message : ConfigError → String
  | .unreadable path cause => s!"io error reading {path.text}: {cause.message}"
  | .invalidDocument path => s!"invalid settings file {path.text}"
  | .invalidOutput cause => s!"invalid configuration: {cause.reason}"

namespace Settings

def introspectionOptions (settings : Settings) : IntrospectionOptions :=
  ⟨settings.lead, settings.marker⟩

def extension : String := "rs"

def moduleName (file : String) : Except OutputError String :=
  let path := FilePath.ofText file
  match path.stem? with
  | none => .error (.invalidName file)
  | some stem =>
      if !Naming.isIdentifier stem then .error (.invalidName file)
      else if path.extension? = some extension then .ok stem
      else .error (.wrongExtension file)

def emitOptions (settings : Settings) : Except OutputError EmitOptions := do
  let primary ← moduleName settings.primaryOutput
  let secondary ← moduleName settings.secondaryOutput
  return ⟨settings.base, primary, secondary⟩

def outputFolder (settings : Settings) (directory : FilePath) : FilePath :=
  settings.outputDirectory.getD directory

def primaryPath (settings : Settings) (directory : FilePath) : FilePath :=
  (settings.outputFolder directory).join (.ofText settings.primaryOutput)

def secondaryPath (settings : Settings) (directory : FilePath) : FilePath :=
  (settings.outputFolder directory).join (.ofText settings.secondaryOutput)

open Text in
def structural (settings : Settings) : String :=
  Structural.record "GenerateSettings"
    [("base", quoted settings.base),
      ("prefix", quoted settings.lead),
      ("primary_output", quoted settings.primaryOutput),
      ("secondary_output", quoted settings.secondaryOutput),
      ("key_marker", quoted settings.marker),
      ("out_dir", Structural.optional quotedPath (settings.outputDirectory.map FilePath.text)),
      ("formatter", Structural.record "FormatterSettings"
        [("enabled", Structural.truth settings.formatter.enabled),
          ("program", quoted settings.formatter.program),
          ("edition", quoted settings.formatter.edition)])]

end Tablewright.Settings
