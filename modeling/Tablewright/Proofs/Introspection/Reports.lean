import Tablewright.Introspection
import Tablewright.Proofs.Table.Registry

namespace Tablewright

/-- Diagnostics grow when the earlier ones keep their places and allowed ones follow them. -/
def Diagnostics.Grow (allowed : Diagnostic → Prop) (before after : Diagnostics) : Prop :=
  ∃ added, after = before ++ added ∧ ∀ diagnostic ∈ added, allowed diagnostic

/-- A step adds allowed diagnostics to a context and keeps the registry. -/
structure Context.Adds (allowed : Diagnostic → Prop) (before after : Context) : Prop where
  registry : after.registry = before.registry
  grow : before.diagnostics.Grow allowed after.diagnostics

/-- A warning is no error. -/
abbrev Diagnostic.Warns (diagnostic : Diagnostic) : Prop :=
  diagnostic.isError = false

namespace Diagnostics

variable {allowed wider : Diagnostic → Prop} {first second third : Diagnostics}

theorem Grow.refl (diagnostics : Diagnostics) : diagnostics.Grow allowed diagnostics :=
  ⟨[], by simp, by simp⟩

theorem Grow.trans (start : first.Grow allowed second) (rest : second.Grow allowed third) :
    first.Grow allowed third := by
  obtain ⟨early, rfl, earlyAllowed⟩ := start
  obtain ⟨late, rfl, lateAllowed⟩ := rest
  refine ⟨early ++ late, List.append_assoc _ _ _, ?_⟩
  intro diagnostic inside
  exact (List.mem_append.mp inside).elim (earlyAllowed diagnostic) (lateAllowed diagnostic)

/-- Warnings do not make diagnostics fatal. -/
theorem Grow.isFatal_eq (grow : first.Grow Diagnostic.Warns second) :
    second.isFatal = first.isFatal := by
  obtain ⟨added, rfl, every⟩ := grow
  have none : added.any Diagnostic.isError = false := List.any_eq_false.mpr fun diagnostic inside =>
    Bool.eq_false_iff.mp (every diagnostic inside)
  unfold Diagnostics.isFatal
  rw [List.any_append, none, Bool.or_false]

theorem not_isFatal_iff {diagnostics : Diagnostics} :
    diagnostics.isFatal = false ↔ diagnostics.errors = [] := by
  simp [Diagnostics.isFatal, errors]

end Diagnostics

namespace Context

open Diagnostics (Grow)

variable {allowed wider : Diagnostic → Prop} {first second third : Context}

theorem Adds.refl (context : Context) : context.Adds allowed context :=
  ⟨rfl, Grow.refl _⟩

theorem Adds.trans (start : first.Adds allowed second) (rest : second.Adds allowed third) :
    first.Adds allowed third :=
  ⟨rest.registry.trans start.registry, start.grow.trans rest.grow⟩

theorem adds_note (context : Context) (event : Event) :
    context.Adds allowed (context.note event) :=
  ⟨rfl, Grow.refl _⟩

theorem adds_report (context : Context) {diagnostic : Diagnostic} (fits : allowed diagnostic) :
    context.Adds allowed (context.report diagnostic) :=
  ⟨rfl, [diagnostic], rfl, by simpa using fits⟩

theorem adds_noted_report (context : Context) (event : Event) {diagnostic : Diagnostic}
    (fits : allowed diagnostic) :
    context.Adds allowed ((context.note event).report diagnostic) :=
  (adds_note context event).trans (adds_report _ fits)

/-- A fold adds what its steps add. The state may hold more than a context. -/
theorem adds_foldl {State Item : Type} (view : State → Context) {step : State → Item → State}
    (each : ∀ state item, (view state).Adds allowed (view (step state item)))
    (items : List Item) (state : State) :
    (view state).Adds allowed (view (items.foldl step state)) := by
  induction items generalizing state with
  | nil => exact Adds.refl _
  | cons item rest hypothesis => exact (each state item).trans (hypothesis (step state item))

end Context

theorem SourceFile.reportUnreadable_adds (path : FilePath) (error : FileError)
    (context : Context) :
    context.Adds Diagnostic.Warns (SourceFile.reportUnreadable path error context) :=
  Context.adds_noted_report context _ rfl

theorem SourceFile.parse_adds (path : FilePath) (text : String) (context : Context) :
    context.Adds Diagnostic.Warns (SourceFile.parse path text context).2 := by
  unfold SourceFile.parse
  split
  · exact Context.Adds.refl context
  · exact Context.adds_noted_report context _ rfl

theorem SourceSet.load_adds (read : FilePath → Except FileError String) (paths : List FilePath)
    (context : Context) :
    context.Adds Diagnostic.Warns (SourceSet.load read paths context).2 := by
  induction paths generalizing context with
  | nil => exact Context.Adds.refl context
  | cons path rest hypothesis =>
      unfold SourceSet.load
      split
      · exact (SourceFile.reportUnreadable_adds path _ context).trans (hypothesis _)
      · exact (SourceFile.parse_adds path _ context).trans (hypothesis _)

namespace Annotation

theorem readTag_adds (entry : TableEntry) (tag : List Char) (context : Context) :
    context.Adds Diagnostic.Warns (readTag entry tag context).2 := by
  unfold readTag
  split
  · split
    · exact Context.Adds.refl context
    · exact Context.Adds.refl context
    · exact Context.Adds.refl context
    · exact Context.adds_note context _
  · exact Context.adds_noted_report context _ rfl

theorem readBlock_adds (origin : FilePath) (block : List Char) (context : Context) :
    context.Adds Diagnostic.Warns (readBlock origin block context).2 := by
  unfold readBlock
  split
  · exact Context.Adds.refl context
  · dsimp only
    split
    · exact Context.adds_foldl Prod.snd (fun state tag => readTag_adds state.1 tag state.2) _
        (_, context)
    · exact Context.adds_noted_report context _ rfl

theorem readBlocks_adds (origin : FilePath) (blocks : List (List Char)) (context : Context) :
    context.Adds Diagnostic.Warns (readBlocks origin blocks context).2 := by
  induction blocks generalizing context with
  | nil => exact Context.Adds.refl context
  | cons block rest hypothesis =>
      exact (readBlock_adds origin block context).trans (hypothesis _)

/-- Registration leaves the diagnostics as they are. -/
theorem register_diagnostics (origin : FilePath) (context : Context) (entry : TableEntry) :
    (register origin context entry).diagnostics = context.diagnostics := by
  unfold register
  dsimp only
  split <;> rfl

theorem register_registry (origin : FilePath) (context : Context) (entry : TableEntry) :
    (register origin context entry).registry = (context.registry.insert entry).2 := by
  unfold register
  dsimp only
  split <;> rfl

theorem registerAll_diagnostics (origin : FilePath) (entries : List TableEntry)
    (context : Context) :
    (entries.foldl (register origin) context).diagnostics = context.diagnostics := by
  induction entries generalizing context with
  | nil => rfl
  | cons entry rest hypothesis =>
      exact (hypothesis _).trans (register_diagnostics origin context entry)

theorem registerAll_ordered (origin : FilePath) (entries : List TableEntry) {context : Context}
    (ordered : context.registry.Ordered) :
    (entries.foldl (register origin) context).registry.Ordered := by
  induction entries generalizing context with
  | nil => exact ordered
  | cons entry rest hypothesis =>
      apply hypothesis
      rw [register_registry]
      exact ordered.insert entry

/-- Extraction fills the registry, and only warns. -/
theorem extractInto_grow (origin : FilePath) (text : String) (context : Context) :
    context.diagnostics.Grow Diagnostic.Warns (extractInto origin text context).diagnostics := by
  unfold extractInto
  dsimp only
  rw [registerAll_diagnostics]
  exact (readBlocks_adds origin _ context).grow

theorem extractInto_ordered (origin : FilePath) (text : String) {context : Context}
    (ordered : context.registry.Ordered) :
    (extractInto origin text context).registry.Ordered := by
  apply registerAll_ordered
  rw [show (extract origin text context).2.registry = context.registry from
    (readBlocks_adds origin _ context).registry]
  exact ordered

end Annotation

namespace Introspection

open Annotation (extractInto_grow extractInto_ordered)

theorem annotate_grow (sources : SourceSet) (context : Context) :
    context.diagnostics.Grow Diagnostic.Warns (annotate sources context).diagnostics := by
  unfold annotate
  induction sources generalizing context with
  | nil => exact Diagnostics.Grow.refl _
  | cons file rest hypothesis =>
      exact (extractInto_grow file.path file.text context).trans (hypothesis _)

theorem annotate_ordered (sources : SourceSet) {context : Context}
    (ordered : context.registry.Ordered) : (annotate sources context).registry.Ordered := by
  unfold annotate
  induction sources generalizing context with
  | nil => exact ordered
  | cons file rest hypothesis =>
      exact hypothesis (extractInto_ordered file.path file.text ordered)

end Introspection

namespace Probe

theorem addIndex_adds (table : String) (functions : List Declaration.FunctionDeclaration)
    (state : Capabilities × Context) (pattern : Pattern) :
    state.2.Adds Diagnostic.Warns (addIndex table functions state pattern).2 := by
  unfold addIndex
  split
  · exact Context.Adds.refl _
  · dsimp only
    split
    · exact Context.adds_noted_report _ _ rfl
    · exact Context.Adds.refl _

theorem probe_adds (sources : SourceSet) (table : String) (context : Context) :
    context.Adds Diagnostic.Warns (probe sources table context).2 :=
  (Context.adds_foldl Prod.snd (addIndex_adds table _) Pattern.all (_, context)).trans
    (Context.adds_note _ _)

end Probe

theorem Introspection.probeAll_adds (sources : SourceSet) (keys : List ResolvedKey)
    (context : Context) :
    context.Adds Diagnostic.Warns (Introspection.probeAll sources keys context).2 := by
  induction keys generalizing context with
  | nil => exact Context.Adds.refl context
  | cons resolved rest hypothesis =>
      exact (Probe.probe_adds sources resolved.entry.name context).trans (hypothesis _)

end Tablewright
