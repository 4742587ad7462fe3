import Tablewright.Proofs.Introspection.Reports

namespace Tablewright

/-- A diagnostic blames a table when it is an error about it. -/
def Diagnostic.Blames (table : String) (diagnostic : Diagnostic) : Prop :=
  diagnostic.isError = true ∧ diagnostic.subject = table

namespace KeyResolution

/-- An entry stops resolution when its struct is missing or has no fields. -/
def stop? (sources : SourceSet) (entry : TableEntry) : Option IntrospectionError :=
  match sources.findStruct entry.name with
  | .missing => some (.typeNotFound entry.name)
  | .unparsed _ => none
  | .found declaration path =>
      if declaration.fields.isEmpty then some (.emptyType entry.name path) else none

theorem structKey_problems {marker : String} {fields : List Declaration.Field}
    {problems : List KeyProblem} (failed : structKey marker fields = .error problems) :
    problems ≠ [] := by
  unfold structKey at failed
  dsimp only at failed
  split at failed
  · cases failed
    simp
  · cases failed
  · split at failed
    · cases failed
      simp
    · split at failed
      · cases failed
      · cases failed
        simp

section Entry

variable {sources : SourceSet} {marker : String} {registry : Registry}
  {resolved : List ResolvedKey} {entry : TableEntry}

/-- Nothing else stops resolution, whatever was resolved before. -/
theorem entryKey_error_iff {error : IntrospectionError} :
    entryKey sources marker registry resolved entry = .error error ↔
      stop? sources entry = some error := by
  unfold entryKey stop?
  cases sources.findStruct entry.name with
  | missing => simp
  | unparsed path => simp
  | found declaration path =>
      by_cases empty : declaration.fields.isEmpty = true
      · simp [empty]
      · simp only [empty, Bool.false_eq_true, if_false, reduceCtorEq, iff_false]
        cases structKey marker declaration.fields with
        | error problems => simp
        | ok key => cases owner? resolved entry.name <;> simp

/-- An entry without a key has a problem. -/
theorem entryKey_problems {problems : List KeyProblem}
    (failed : entryKey sources marker registry resolved entry = .ok (.error problems)) :
    problems ≠ [] := by
  unfold entryKey at failed
  split at failed
  · cases failed
  · cases failed
    simp
  · split at failed
    · cases failed
    · split at failed
      case h_1 struct =>
        cases failed
        exact structKey_problems struct
      case h_2 =>
        split at failed
        · cases failed
          simp
        · cases failed

/-- The key of an entry is the key of its struct. -/
theorem entryKey_key {key : KeySchema}
    (found : entryKey sources marker registry resolved entry = .ok (.ok key)) :
    ∃ declaration path, sources.findStruct entry.name = .found declaration path ∧
      structKey marker declaration.fields = .ok key := by
  unfold entryKey at found
  split at found
  · cases found
  · cases found
  case h_3 declaration path lookup =>
    split at found
    · cases found
    · split at found
      · cases found
      case h_2 struct =>
        split at found
        · cases found
        · cases found
          exact ⟨declaration, path, lookup, struct⟩

/-- No entry before has the function suffix of an entry that gets its key. -/
theorem entryKey_unowned {key : KeySchema}
    (found : entryKey sources marker registry resolved entry = .ok (.ok key)) :
    ∀ other ∈ resolved,
      Naming.functionSuffix other.entry.name ≠ Naming.functionSuffix entry.name := by
  unfold entryKey at found
  split at found
  · cases found
  · cases found
  · split at found
    · cases found
    · split at found
      · cases found
      · split at found
        · cases found
        case h_2 unowned =>
          intro other inside same
          rw [owner?, List.find?_eq_none] at unowned
          exact unowned other inside (decide_eq_true same)

end Entry

theorem report_diagnostics (table : String) (context : Context) (problem : KeyProblem) :
    (problem.report table context).diagnostics =
      context.diagnostics ++ [.error problem.code table problem.message] := rfl

theorem reportAll_diagnostics (table : String) (problems : List KeyProblem) (context : Context) :
    (problems.foldl (KeyProblem.report table) context).diagnostics = context.diagnostics ++
      problems.map fun problem => .error problem.code table problem.message := by
  induction problems generalizing context with
  | nil => simp
  | cons problem rest hypothesis =>
      rw [List.foldl_cons, hypothesis, report_diagnostics, List.append_assoc]
      rfl

theorem reportAll_registry (table : String) (problems : List KeyProblem) (context : Context) :
    (problems.foldl (KeyProblem.report table) context).registry = context.registry := by
  induction problems generalizing context with
  | nil => rfl
  | cons problem rest hypothesis => exact hypothesis _

/-- Entries are settled by the keys of some of them, in their order, and by at least one error
about each of the others. -/
inductive Settled (sources : SourceSet) (marker : String) :
    List TableEntry → List ResolvedKey → Diagnostics → Prop
  | nil : Settled sources marker [] [] []
  | keyed {entry : TableEntry} {declaration : Declaration.StructDeclaration} {path : FilePath}
      {key : KeySchema} {rest : List TableEntry} {keys : List ResolvedKey} {added : Diagnostics}
      (found : sources.findStruct entry.name = .found declaration path)
      (struct : structKey marker declaration.fields = .ok key)
      (others : Settled sources marker rest keys added) :
      Settled sources marker (entry :: rest) (⟨entry, key⟩ :: keys) added
  | blamed {entry : TableEntry} {own : Diagnostics} {rest : List TableEntry}
      {keys : List ResolvedKey} {added : Diagnostics} (some : own ≠ [])
      (blame : ∀ diagnostic ∈ own, diagnostic.Blames entry.name)
      (others : Settled sources marker rest keys added) :
      Settled sources marker (entry :: rest) keys (own ++ added)

section Settled

variable {sources : SourceSet} {marker : String} {entries : List TableEntry}
  {keys : List ResolvedKey} {added : Diagnostics}

theorem Settled.sublist (settled : Settled sources marker entries keys added) :
    (keys.map ResolvedKey.entry).Sublist entries := by
  induction settled with
  | nil => exact List.Sublist.slnil
  | keyed _ _ _ hypothesis => exact hypothesis.cons_cons _
  | blamed _ _ _ hypothesis => exact hypothesis.cons _

/-- An entry without a key is blamed. -/
theorem Settled.left_out (settled : Settled sources marker entries keys added)
    {entry : TableEntry} (inside : entry ∈ entries)
    (absent : entry ∉ keys.map ResolvedKey.entry) :
    ∃ diagnostic ∈ added, diagnostic.Blames entry.name := by
  induction settled with
  | nil => cases inside
  | keyed _ _ _ hypothesis =>
      rw [List.map_cons, List.mem_cons, not_or] at absent
      have later := (List.mem_cons.mp inside).resolve_left absent.1
      exact hypothesis later absent.2
  | @blamed _ own _ _ _ some blame _ hypothesis =>
      rcases List.mem_cons.mp inside with rfl | later
      · obtain ⟨diagnostic, first⟩ := List.exists_mem_of_ne_nil own some
        exact ⟨diagnostic, List.mem_append_left _ first, blame diagnostic first⟩
      · obtain ⟨diagnostic, found, about⟩ := hypothesis later absent
        exact ⟨diagnostic, List.mem_append_right _ found, about⟩

/-- Resolution reports nothing but errors about its entries. -/
theorem Settled.errors (settled : Settled sources marker entries keys added) :
    ∀ diagnostic ∈ added, ∃ entry ∈ entries, diagnostic.Blames entry.name := by
  induction settled with
  | nil => simp
  | keyed _ _ _ hypothesis =>
      intro diagnostic inside
      obtain ⟨entry, among, about⟩ := hypothesis diagnostic inside
      exact ⟨entry, List.mem_cons_of_mem _ among, about⟩
  | blamed _ blame _ hypothesis =>
      intro diagnostic inside
      rcases List.mem_append.mp inside with own | late
      · exact ⟨_, List.mem_cons_self, blame diagnostic own⟩
      · obtain ⟨entry, among, about⟩ := hypothesis diagnostic late
        exact ⟨entry, List.mem_cons_of_mem _ among, about⟩

/-- Without errors every entry has its key. -/
theorem Settled.complete (settled : Settled sources marker entries keys added)
    (silent : added = []) : keys.map ResolvedKey.entry = entries := by
  induction settled with
  | nil => rfl
  | keyed _ _ _ hypothesis => rw [List.map_cons, hypothesis silent]
  | blamed some _ _ _ => exact absurd (List.append_eq_nil_iff.mp silent).1 some

end Settled

section Run

variable {sources : SourceSet} {marker : String}

/-- A resolution that ends settles all entries, and none of them stops it. -/
theorem resolveAfter_ok {entries : List TableEntry} {resolved keys : List ResolvedKey}
    {context after : Context}
    (ended : resolveAfter sources marker resolved entries context = (.ok keys, after)) :
    ∃ new added, keys = resolved ++ new ∧ Settled sources marker entries new added ∧
      after.diagnostics = context.diagnostics ++ added ∧ after.registry = context.registry ∧
      ∀ entry ∈ entries, stop? sources entry = none := by
  induction entries generalizing resolved context with
  | nil =>
      cases ended
      exact ⟨[], [], by simp, .nil, by simp, rfl, by simp⟩
  | cons entry rest hypothesis =>
      have goesOn : ∀ {outcome}, entryKey sources marker context.registry resolved entry =
          .ok outcome → stop? sources entry = none := by
        intro outcome found
        rw [Option.eq_none_iff_forall_ne_some]
        intro error stops
        rw [entryKey_error_iff.mpr stops] at found
        cases found
      unfold resolveAfter at ended
      split at ended
      · cases ended
      case h_2 problems failed =>
        obtain ⟨new, added, rfl, settled, grown, same, others⟩ := hypothesis ended
        rw [reportAll_diagnostics, List.append_assoc] at grown
        refine ⟨new, _, rfl, .blamed ?_ ?_ settled, grown,
          same.trans (reportAll_registry _ _ _), List.forall_mem_cons.mpr ⟨goesOn failed, others⟩⟩
        · simpa using entryKey_problems failed
        · intro diagnostic inside
          obtain ⟨problem, _, rfl⟩ := List.mem_map.mp inside
          exact ⟨rfl, rfl⟩
      case h_3 key found =>
        obtain ⟨new, added, rfl, settled, grown, same, others⟩ := hypothesis ended
        obtain ⟨declaration, path, lookup, struct⟩ := entryKey_key found
        exact ⟨⟨entry, key⟩ :: new, added, by simp, .keyed lookup struct settled, grown, same,
          List.forall_mem_cons.mpr ⟨goesOn found, others⟩⟩

/-- A resolution that fails does so at the first entry that stops it, with the diagnostics of the
entries before. -/
theorem resolveAfter_error {entries : List TableEntry} {resolved : List ResolvedKey}
    {context after : Context} {error : IntrospectionError}
    (failed : resolveAfter sources marker resolved entries context = (.error error, after)) :
    ∃ before entry rest keys reached, entries = before ++ entry :: rest ∧
      stop? sources entry = some error ∧
      resolveAfter sources marker resolved before context = (.ok keys, reached) ∧
      after.diagnostics = reached.diagnostics := by
  induction entries generalizing resolved context with
  | nil => cases failed
  | cons entry rest hypothesis =>
      unfold resolveAfter at failed
      split at failed
      case h_1 cause stopped =>
        cases failed
        refine ⟨[], entry, rest, resolved, context, rfl, entryKey_error_iff.mp stopped, rfl, ?_⟩
        cases stopEvent error <;> rfl
      case h_2 problems keyless =>
        obtain ⟨before, stopper, others, keys, reached, rfl, stops, earlier, same⟩ :=
          hypothesis failed
        refine ⟨entry :: before, stopper, others, keys, reached, rfl, stops, ?_, same⟩
        unfold resolveAfter
        rw [keyless]
        exact earlier
      case h_3 key found =>
        obtain ⟨before, stopper, others, keys, reached, rfl, stops, earlier, same⟩ :=
          hypothesis failed
        refine ⟨entry :: before, stopper, others, keys, reached, rfl, stops, ?_, same⟩
        unfold resolveAfter
        rw [found]
        exact earlier

/-- Resolved entries keep different function suffixes. -/
theorem resolveAfter_suffixes {entries : List TableEntry} {resolved keys : List ResolvedKey}
    {context after : Context}
    (apart : (resolved.map fun other => Naming.functionSuffix other.entry.name).Nodup)
    (ended : resolveAfter sources marker resolved entries context = (.ok keys, after)) :
    (keys.map fun other => Naming.functionSuffix other.entry.name).Nodup := by
  induction entries generalizing resolved context with
  | nil =>
      cases ended
      exact apart
  | cons entry rest hypothesis =>
      unfold resolveAfter at ended
      split at ended
      case h_1 => cases ended
      case h_2 => exact hypothesis apart ended
      case h_3 key found =>
        refine hypothesis ?_ ended
        have unowned := entryKey_unowned found
        rw [List.map_append, List.nodup_append]
        refine ⟨apart, List.pairwise_singleton _ _, ?_⟩
        simpa using unowned

end Run

end KeyResolution

end Tablewright
