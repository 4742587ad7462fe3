import Tablewright.Context
import Tablewright.Emission.Secondary

namespace Tablewright

inductive EmitError
  | aborted (errors : Nat)
  deriving DecidableEq, Repr

def EmitError.message : EmitError → String
  | .aborted errors => s!"emission aborted: {errors} unresolved table error(s)"

structure Artifacts where
  primary : String
  secondary : String
  deriving DecidableEq, Repr

namespace Emission

/-- Tables are visited in ascending order of their names. -/
def ordered (tables : List ResolvedTable) : List ResolvedTable :=
  tables.mergeSort fun left right => left.name ≤ right.name

def primary (options : EmitOptions) (tables : List ResolvedTable) : Artifact :=
  ((primaryArtifact options).pushAll (tables.flatMap primaryFragments)).push
    (loadAllFragment tables)

def secondary (options : EmitOptions) (tables : List ResolvedTable) : Artifact :=
  (secondaryArtifact options).pushAll (tables.flatMap secondaryFragments)

def emit (options : EmitOptions) (diagnostics : Diagnostics) (tables : List ResolvedTable) :
    Except EmitError Artifacts :=
  if diagnostics.isFatal then
    .error (.aborted diagnostics.errors.length)
  else
    .ok ⟨(primary options (ordered tables)).render, (secondary options (ordered tables)).render⟩

def events (diagnostics : Diagnostics) (tables : List ResolvedTable) :
    Except EmitError Artifacts → Journal
  | .error _ =>
      [.named .error .emission "emit_aborted" [("errors", .number diagnostics.errors.length)]]
  | .ok artifacts =>
      ((ordered tables).map fun table =>
        .named .debug .emission "emit_table" [("table", .text table.name)]) ++
      [.named .info .emission "emit_done"
        [("tables", .number tables.length),
          ("primary_bytes", .number artifacts.primary.utf8ByteSize),
          ("secondary_bytes", .number artifacts.secondary.utf8ByteSize)]]

end Tablewright.Emission
