import Tablewright.Proofs.Build.Running
import Tablewright.Proofs.Build.Stage
import Tablewright.Proofs.Settings.Outputs

namespace Tablewright

namespace Diagnostics

theorem isFatal_iff {diagnostics : Diagnostics} :
    diagnostics.isFatal = true ↔ 0 < diagnostics.errors.length := by
  rw [errors, List.length_pos_iff, Ne, List.filter_eq_nil_iff, isFatal, List.any_eq_true]
  simp

end Diagnostics

namespace Build

open FileTree (IsProperName)
open Rotation (IsSlot Outputs)

/-- This function is what a rendering makes of an introspection. -/
def renderingFrom (settings : Settings) (found : Introspection) : Except BuildError Rendering := do
  let options ← settings.emitOptions.mapError fun cause => .config (.invalidOutput cause)
  let tables ← found.outcome.mapError .introspection
  let artifacts ← (Emission.emit options found.context.diagnostics tables).mapError .emission
  return ⟨artifacts, tables.length, found.context.diagnostics.warnings.length⟩

section Results

variable (directory : FilePath) (settings : Settings) (world : World)

theorem noteAll_apply {ε : Type} (events : Journal) :
    (Work.noteAll events : Work ε Unit) world =
      (.ok (), { world with history := world.history ++ events.map .event }) := rfl

/-- An inspection is an introspection of the files that are there. -/
theorem inspect_result :
    (inspect directory settings world).1 =
      let found := introspection world.files directory settings.introspectionOptions
      (found.outcome.mapError .introspection).map fun tables => (tables, found.context) := by
  have files : (Work.files : Work BuildError FileTree) world = (.ok world.files, world) := rfl
  rw [inspect, Work.bind_apply, files]
  dsimp only
  rw [Work.bind_apply, noteAll_apply]
  cases (introspection world.files directory settings.introspectionOptions).outcome with
  | error cause => rfl
  | ok tables => rfl

theorem emit_result (options : EmitOptions) (tables : List ResolvedTable) (context : Context) :
    (emit options tables context world).1 =
      ((Emission.emit options context.diagnostics tables).mapError .emission).map fun artifacts =>
        ⟨artifacts, tables.length, context.diagnostics.warnings.length⟩ := by
  rw [emit, Work.bind_apply, noteAll_apply]
  cases Emission.emit options context.diagnostics tables with
  | error cause => rfl
  | ok artifacts => rfl

theorem render_result :
    (render directory settings world).1 = renderingFrom settings
      (introspection world.files directory settings.introspectionOptions) := by
  rw [render, renderingFrom]
  cases settings.emitOptions with
  | error cause => rfl
  | ok options =>
      have inspected := inspect_result directory settings world
      dsimp only at inspected ⊢
      rw [Work.bind_apply]
      generalize inspect directory settings world = ended at inspected
      obtain ⟨result, later⟩ := ended
      dsimp only at inspected
      subst inspected
      cases (introspection world.files directory settings.introspectionOptions).outcome with
      | error cause => rfl
      | ok tables =>
          dsimp only [Except.map, Except.mapError]
          rw [emit_result]
          rfl

end Results

section Outcomes

variable {settings : Settings} {found : Introspection}

/-- A rendering succeeds with what is emitted for the tables that were found. -/
theorem renderingFrom_ok {rendering : Rendering}
    (rendered : renderingFrom settings found = .ok rendering) :
    ∃ options tables artifacts, settings.emitOptions = .ok options ∧ found.outcome = .ok tables ∧
      Emission.emit options found.context.diagnostics tables = .ok artifacts ∧
      rendering = ⟨artifacts, tables.length, found.context.diagnostics.warnings.length⟩ := by
  rw [renderingFrom] at rendered
  obtain ⟨options, accepted, rendered⟩ := of_bind_ok rendered
  obtain ⟨tables, listed, rendered⟩ := of_bind_ok rendered
  obtain ⟨artifacts, emitted, rendered⟩ := of_bind_ok rendered
  exact ⟨options, tables, artifacts, of_mapError_ok accepted, of_mapError_ok listed,
    of_mapError_ok emitted, (Except.ok.inj rendered).symm⟩

/-- With accepted settings a rendering is aborted if and only if an inspection finds errors. -/
theorem renderingFrom_aborted_iff {options : EmitOptions}
    (accepted : settings.emitOptions = .ok options) {count : Nat} :
    renderingFrom settings found = .error (.emission (.aborted count)) ↔
      ∃ tables, found.outcome = .ok tables ∧ found.context.diagnostics.errors.length = count ∧
        0 < count := by
  rw [renderingFrom, accepted]
  cases found.outcome with
  | error cause => simp [Except.mapError, bind, Except.bind]
  | ok tables =>
      have errors : found.context.diagnostics.isFatal = true ↔
          0 < found.context.diagnostics.errors.length := Diagnostics.isFatal_iff
      cases fatal : found.context.diagnostics.isFatal with
      | true =>
          have some := errors.mp fatal
          have aborted : Emission.emit options found.context.diagnostics tables =
              .error (.aborted found.context.diagnostics.errors.length) := if_pos fatal
          simp only [Except.mapError, bind, Except.bind, aborted, Except.error.injEq,
            BuildError.emission.injEq, EmitError.aborted.injEq, Except.ok.injEq, exists_eq_left']
          constructor
          · rintro rfl
            exact ⟨rfl, some⟩
          · exact fun both => both.1
      | false =>
          have none : ¬ 0 < found.context.diagnostics.errors.length := by simp [← errors, fatal]
          have emitted : ∃ artifacts, Emission.emit options found.context.diagnostics tables =
              .ok artifacts := ⟨_, if_neg (by simp [fatal])⟩
          obtain ⟨artifacts, emitted⟩ := emitted
          simp only [Except.mapError, bind, Except.bind, emitted, Except.ok.injEq,
            exists_eq_left']
          constructor
          · exact fun aborted => by cases aborted
          · rintro ⟨rfl, some⟩
            exact absurd some none

end Outcomes

section Names

variable {settings : Settings} {options : EmitOptions}
  (accepted : settings.emitOptions = .ok options) {directory : FilePath}
include accepted

/-- Accepted outputs with a last name have the extension of modules. -/
theorem last_of_accepted {output : FilePath}
    (isOutput : output ∈ [settings.primaryPath directory, settings.secondaryPath directory])
    (proper : IsProperName output.last) : ∃ stem, output.last = stem ++ ".rs" := by
  have ofModule : ∀ {file stem : String}, Settings.moduleName file = .ok stem →
      IsProperName (FilePath.ofText file).last →
        ∃ stem, (FilePath.ofText file).last = stem ++ ".rs" := by
    intro file stem named proper
    have found := Settings.fileName?_of_module named
    rw [FilePath.fileName?_proper proper] at found
    exact ⟨stem, Option.some.inj found⟩
  obtain ⟨primary, secondary⟩ := Settings.modules_of_accepted accepted
  obtain rfl | rfl : output = settings.primaryPath directory ∨
      output = settings.secondaryPath directory := by simpa using isOutput
  · rw [Settings.primaryPath, FilePath.last_join] at proper ⊢
    exact ofModule primary proper
  · rw [Settings.secondaryPath, FilePath.last_join] at proper ⊢
    exact ofModule secondary proper

end Names

/-- Accepted outputs have names that no copy has. -/
theorem outputs_of_accepted {tree : FileTree} {directory : FilePath} {settings : Settings}
    {options : EmitOptions} (formed : tree.WellFormed)
    (accepted : settings.emitOptions = .ok options)
    (nodup : [settings.primaryPath directory, settings.secondaryPath directory].Nodup)
    (regular : ∀ output ∈ [settings.primaryPath directory, settings.secondaryPath directory],
      ∀ slot, IsSlot output slot → tree.Regular slot)
    (different : ∀ place, tree.locate false (settings.primaryPath directory) = .ok place →
      tree.locate false (settings.secondaryPath directory) ≠ .ok place) :
    Outputs tree [settings.primaryPath directory, settings.secondaryPath directory] := by
  refine ⟨nodup, regular, ?_, ?_⟩
  · intro one oneInside other otherInside unequal place located otherLocated
    rw [List.mem_pair] at oneInside otherInside
    obtain rfl | rfl := oneInside <;> obtain rfl | rfl := otherInside
    · exact unequal rfl
    · exact different place located otherLocated
    · exact different place otherLocated located
    · exact unequal rfl
  · intro one oneInside other otherInside _ place located copyLocated
    obtain ⟨proper, _, _, same⟩ := (regular one oneInside one (.inl rfl)).seat formed located
    obtain ⟨_, _, _, copySame⟩ :=
      (regular other otherInside _ (.inr rfl)).seat formed copyLocated
    obtain ⟨stem, ending⟩ := last_of_accepted accepted oneInside proper
    have names := (List.append_singleton_inj.mp (same.symm.trans copySame)).2
    rw [ending, Rotation.asidePath_last] at names
    have letters := congrArg (fun text => text.toList.getLast?) names
    simp [Rotation.ending] at letters

end Build

end Tablewright
