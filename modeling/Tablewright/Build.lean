import Tablewright.Build.Formatter
import Tablewright.Build.Replacement
import Tablewright.Build.Rotation

namespace Tablewright

structure Rendering where
  artifacts : Artifacts
  tables : Nat
  warnings : Nat
  deriving DecidableEq, Repr

structure BuildReport where
  tables : Nat
  warnings : Nat
  primary : FilePath
  secondary : FilePath
  deriving DecidableEq, Repr

namespace Build

def startedEvent (directory : FilePath) : Event :=
  .named .info .build "build_started" [("dir", .text directory.text)]

def failedEvent (error : BuildError) : Event :=
  .named .error .build "build_failed" [("error", .text error.message)]

def writeFailedEvent (error : BuildError) : Event :=
  .named .error .build "write_failed" [("error", .text error.message)]

def writtenEvent (primary secondary : FilePath) : Event :=
  .named .info .build "artifacts_written"
    [("primary", .text primary.text), ("secondary", .text secondary.text)]

def finishedEvent (tables : Nat) : Event :=
  { Event.named .info .build "build_finished" [("tables", .number tables)] with
    others := ["duration_ms"] }

def diagnosticEvent (diagnostic : Diagnostic) : Event :=
  .named (match diagnostic.severity with | .error => .error | .warning => .warn) .build
    "diagnostic"
    [("code", .text diagnostic.code), ("subject", .text diagnostic.subject),
      ("message", .text diagnostic.message)]

def introspection (files : FileTree) (directory : FilePath) (options : IntrospectionOptions) :
    Introspection :=
  Introspection.introspect (files.entriesAt directory) files.textAt directory options

def inspect (directory : FilePath) (settings : Settings) :
    Work BuildError (List ResolvedTable × Context) := do
  let found := introspection (← Work.files) directory settings.introspectionOptions
  Work.noteAll found.context.journal
  match found.outcome with
  | .error cause => throw (.introspection cause)
  | .ok tables =>
      Work.noteAll (found.context.diagnostics.map diagnosticEvent)
      return (tables, found.context)

def emit (options : EmitOptions) (tables : List ResolvedTable) (context : Context) :
    Work BuildError Rendering := do
  let emitted := Emission.emit options context.diagnostics tables
  Work.noteAll (Emission.events context.diagnostics tables emitted)
  match emitted with
  | .error cause => throw (.emission cause)
  | .ok artifacts =>
      return ⟨artifacts, tables.length, context.diagnostics.warnings.length⟩

def render (directory : FilePath) (settings : Settings) : Work BuildError Rendering := do
  match settings.emitOptions with
  | .error cause => throw (.config (.invalidOutput cause))
  | .ok options =>
      let (tables, context) ← inspect directory settings
      emit options tables context

def write (primary secondary : FilePath) (artifacts : Artifacts) : Work BuildError Unit := do
  Replacement.replace primary artifacts.primary.toUTF8
  Replacement.replace secondary artifacts.secondary.toUTF8

def finishOutput (programs : Programs) (settings : Settings) (path : FilePath) :
    Work BuildError Unit := do
  settings.formatter.format programs path
  Work.mapError .files (Work.perform (.setWritable path false))

def giveUp {α : Type} (rotation : Rotation) (event : Event) (error : BuildError) :
    Work BuildError α := do
  Work.note event
  Work.mapError .files rotation.restore
  throw error

/-- This work renders and writes both outputs while the earlier ones are moved aside. The earlier
ones are moved back when that fails. -/
def regenerate (rotation : Rotation) (directory primary secondary : FilePath)
    (settings : Settings) : Work BuildError Rendering := do
  match ← Work.outcome (render directory settings) with
  | .error error => giveUp rotation (failedEvent error) error
  | .ok rendering =>
      match ← Work.outcome (write primary secondary rendering.artifacts) with
      | .error error => giveUp rotation (writeFailedEvent error) error
      | .ok _ =>
          Work.mapError .files rotation.discard
          return rendering

def run (programs : Programs) (directory : FilePath) (settings : Settings) :
    Work BuildError BuildReport := do
  let primary := settings.primaryPath directory
  let secondary := settings.secondaryPath directory
  Work.note (startedEvent directory)
  let rotation ← Work.mapError .files (Rotation.start [primary, secondary])
  let rendering ← regenerate rotation directory primary secondary settings
  Work.note (writtenEvent primary secondary)
  finishOutput programs settings primary
  finishOutput programs settings secondary
  Work.note (finishedEvent rendering.tables)
  return ⟨rendering.tables, rendering.warnings, primary, secondary⟩

end Tablewright.Build
