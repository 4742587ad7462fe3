import Tablewright.Proofs.Introspection.Resolution

namespace Tablewright

namespace KeyResolution

/-- Resolved keys account for entries when they keep the order of the entries, and the diagnostics
grow by errors about the entries, at least one for every entry that is left out. -/
structure Accounts (entries : List TableEntry) (keys : List ResolvedKey)
    (before after : Diagnostics) : Prop where
  subsequence : (keys.map ResolvedKey.entry).Sublist entries
  grown : ∃ added, after = before ++ added ∧
    (∀ diagnostic ∈ added, ∃ entry ∈ entries, diagnostic.Blames entry.name) ∧
    ∀ entry ∈ entries, entry ∉ keys.map ResolvedKey.entry →
      ∃ diagnostic ∈ added, diagnostic.Blames entry.name

section Resolve

variable {sources : SourceSet} {marker : String} {context after : Context}
  {keys : List ResolvedKey}

theorem accounts_of_resolveAfter {entries : List TableEntry}
    (ended : resolveAfter sources marker [] entries context = (.ok keys, after)) :
    Accounts entries keys context.diagnostics after.diagnostics := by
  obtain ⟨new, added, rfl, settled, grown, _, _⟩ := resolveAfter_ok ended
  exact ⟨settled.sublist, added, grown, settled.errors,
    fun _ inside absent => settled.left_out inside absent⟩

/-- A resolution of all entries accounts for them, and none of them stops it. -/
theorem resolve_ok (ended : resolve sources marker context = (.ok keys, after)) :
    Accounts context.registry.sorted keys context.diagnostics after.diagnostics ∧
      ∀ entry ∈ context.registry.sorted, stop? sources entry = none := by
  obtain ⟨_, _, _, _, _, _, goesOn⟩ := resolveAfter_ok ended
  exact ⟨accounts_of_resolveAfter ended, goesOn⟩

/-- A resolution that fails does so at the first entry that stops it. The entries before it are
accounted for. -/
theorem resolve_error {error : IntrospectionError}
    (failed : resolve sources marker context = (.error error, after)) :
    ∃ before entry rest keys, context.registry.sorted = before ++ entry :: rest ∧
      (∀ earlier ∈ before, stop? sources earlier = none) ∧ stop? sources entry = some error ∧
      Accounts before keys context.diagnostics after.diagnostics := by
  obtain ⟨before, entry, rest, keys, reached, split, stops, ended, same⟩ :=
    resolveAfter_error failed
  obtain ⟨_, _, _, _, _, _, goesOn⟩ := resolveAfter_ok ended
  refine ⟨before, entry, rest, keys, split, goesOn, stops, ?_⟩
  rw [same]
  exact accounts_of_resolveAfter ended

/-- Resolution keeps all earlier diagnostics, also when it fails. -/
theorem resolve_grow (sources : SourceSet) (marker : String) (context : Context) :
    context.diagnostics.Grow (fun diagnostic =>
        ∃ entry ∈ context.registry.sorted, diagnostic.Blames entry.name)
      (resolve sources marker context).2.diagnostics := by
  cases resolution : resolve sources marker context with
  | mk outcome after =>
      cases outcome with
      | ok keys =>
          obtain ⟨⟨_, added, grown, blamed, _⟩, _⟩ := resolve_ok resolution
          exact ⟨added, grown, blamed⟩
      | error error =>
          obtain ⟨before, entry, rest, _, split, _, _, _, added, grown, blamed, _⟩ :=
            resolve_error resolution
          refine ⟨added, grown, ?_⟩
          intro diagnostic inside
          obtain ⟨earlier, among, about⟩ := blamed diagnostic inside
          exact ⟨earlier, split ▸ List.mem_append_left _ among, about⟩

end Resolve

end KeyResolution

namespace Introspection

open Annotation (extractInto)
open KeyResolution (resolve stop? Accounts)

/-- Complete tables are one for every entry of the registry, in ascending order of their names.
Strings ascend by code points, which is the order of their bytes. -/
structure Complete (tables : List ResolvedTable) (context : Context) : Prop where
  clean : context.diagnostics.errors = []
  everyEntry : (tables.map ResolvedTable.entry).Perm context.registry.entries
  ascending : (tables.map ResolvedTable.name).Pairwise (· < ·)
  keyed : ∀ table ∈ tables, table.key.fields ≠ []
  stored : ∀ table ∈ tables, table.storageVariable = Naming.storageVariable table.name

/-- A refusal has no tables, and an error says so. -/
structure Refused (tables : List ResolvedTable) (context : Context) : Prop where
  fatal : context.isFatal = true
  none : tables = []

theorem probeAll_entries (sources : SourceSet) (keys : List ResolvedKey) (context : Context) :
    (probeAll sources keys context).1.map ResolvedTable.entry = keys.map ResolvedKey.entry := by
  induction keys generalizing context with
  | nil => rfl
  | cons resolved rest hypothesis => exact congrArg (resolved.entry :: ·) (hypothesis _)

theorem probeAll_storage (sources : SourceSet) (keys : List ResolvedKey) (context : Context) :
    ∀ table ∈ (probeAll sources keys context).1,
      table.storageVariable = Naming.storageVariable table.name := by
  induction keys generalizing context with
  | nil => simp [probeAll]
  | cons resolved rest hypothesis => exact List.forall_mem_cons.mpr ⟨rfl, hypothesis _⟩

/-- Without an error every entry has its key. -/
theorem keys_of_not_fatal {sources : SourceSet} {marker : String} {context after : Context}
    {keys : List ResolvedKey} (ended : resolve sources marker context = (.ok keys, after))
    (clean : after.diagnostics.isFatal = false) :
    keys.map ResolvedKey.entry = context.registry.sorted ∧ after.registry = context.registry := by
  obtain ⟨new, added, rfl, settled, grown, same, _⟩ := KeyResolution.resolveAfter_ok ended
  refine ⟨settled.complete ?_, same⟩
  rw [List.eq_nil_iff_forall_not_mem]
  intro diagnostic inside
  obtain ⟨_, _, isError, _⟩ := settled.errors diagnostic inside
  have none := List.any_eq_false.mp clean diagnostic
    (grown ▸ List.mem_append_right _ inside)
  exact none isError

theorem complete_of_resolved {sources : SourceSet} {marker : String} {context after : Context}
    (ordered : context.registry.Ordered) {keys : List ResolvedKey}
    (ended : resolve sources marker context = (.ok keys, after))
    (clean : after.diagnostics.isFatal = false) (event : Event) :
    Complete (probeAll sources keys after).1 ((probeAll sources keys after).2.note event) := by
  obtain ⟨every, same⟩ := keys_of_not_fatal ended clean
  have probed := probeAll_adds sources keys after
  have entries := (probeAll_entries sources keys after).trans every
  refine ⟨?_, ?_, ?_, ?_, probeAll_storage sources keys after⟩
  · apply Diagnostics.not_isFatal_iff.mp
    exact probed.grow.isFatal_eq.trans clean
  · have registry : (probeAll sources keys after).2.registry = context.registry :=
      probed.registry.trans same
    rw [entries, Context.note, registry]
    exact context.registry.sorted_perm
  · have names : (probeAll sources keys after).1.map ResolvedTable.name =
        context.registry.sorted.map TableEntry.name := by
      rw [← entries, List.map_map]
      rfl
    rw [names]
    exact ordered.sorted_ascending
  · intro table _
    exact List.cons_ne_nil _ _

theorem finish_complete {sources : SourceSet} {marker : String} {context : Context}
    (ordered : context.registry.Ordered) {tables : List ResolvedTable}
    (ended : (finish sources marker context).outcome = .ok tables) :
    Complete tables (finish sources marker context).context ∨
      Refused tables (finish sources marker context).context := by
  unfold finish at ended ⊢
  cases resolution : resolve sources marker context with
  | mk outcome resolved =>
      rw [resolution] at ended
      cases outcome with
      | error error => cases ended
      | ok keys =>
          cases fatal : resolved.isFatal with
          | true =>
              simp only [fatal, if_true, Except.ok.injEq] at ended ⊢
              exact .inr ⟨fatal, ended.symm⟩
          | false =>
              simp only [fatal, Bool.false_eq_true, if_false, Except.ok.injEq] at ended ⊢
              subst ended
              exact .inl (complete_of_resolved ordered resolution fatal _)

/-- A directory ends with complete tables or with a refusal when it does not end with an error. -/
theorem introspect_complete {listing : Except FileError (List DirectoryEntry)}
    {read : FilePath → Except FileError String} {directory : FilePath}
    {options : IntrospectionOptions} {tables : List ResolvedTable}
    (ended : (introspect listing read directory options).outcome = .ok tables) :
    Complete tables (introspect listing read directory options).context ∨
      Refused tables (introspect listing read directory options).context := by
  unfold introspect at ended ⊢
  cases listing with
  | error cause => cases ended
  | ok entries =>
      refine finish_complete ?_ ended
      apply annotate_ordered
      rw [(SourceSet.load_adds read _ _).registry]
      exact Registry.ordered_empty

/-- No table is lost without an error about it. A directory ends with one table for every entry of
its registry or with a refusal. Resolution, from any context, accounts for all entries, or fails
at the first entry that has no struct with fields and accounts for those before. The other steps
add nothing but warnings, and no step changes an earlier diagnostic. -/
theorem no_table_lost :
    (∀ listing read directory options tables,
      (introspect listing read directory options).outcome = .ok tables →
        Complete tables (introspect listing read directory options).context ∨
          Refused tables (introspect listing read directory options).context) ∧
    (∀ sources marker context keys after, resolve sources marker context = (.ok keys, after) →
      Accounts context.registry.sorted keys context.diagnostics after.diagnostics ∧
        ∀ entry ∈ context.registry.sorted, stop? sources entry = none) ∧
    (∀ sources marker context error after,
      resolve sources marker context = (.error error, after) →
        ∃ before entry rest keys, context.registry.sorted = before ++ entry :: rest ∧
          (∀ earlier ∈ before, stop? sources earlier = none) ∧
          stop? sources entry = some error ∧
          Accounts before keys context.diagnostics after.diagnostics) ∧
    (∀ sources marker (context : Context), context.diagnostics.Grow (fun diagnostic =>
        ∃ entry ∈ context.registry.sorted, diagnostic.Blames entry.name)
      (resolve sources marker context).2.diagnostics) ∧
    (∀ read paths (context : Context), context.diagnostics.Grow Diagnostic.Warns
      (SourceSet.load read paths context).2.diagnostics) ∧
    (∀ origin text (context : Context), context.diagnostics.Grow Diagnostic.Warns
      (extractInto origin text context).diagnostics) ∧
    (∀ sources (context : Context), context.diagnostics.Grow Diagnostic.Warns
      (annotate sources context).diagnostics) ∧
    (∀ sources table (context : Context), context.diagnostics.Grow Diagnostic.Warns
      (Probe.probe sources table context).2.diagnostics) := by
  refine ⟨?_, ?_, ?_, KeyResolution.resolve_grow, ?_, Annotation.extractInto_grow,
    annotate_grow, ?_⟩
  · intro listing read directory options tables ended
    exact introspect_complete ended
  · intro sources marker context keys after ended
    exact KeyResolution.resolve_ok ended
  · intro sources marker context error after failed
    exact KeyResolution.resolve_error failed
  · intro read paths context
    exact (SourceSet.load_adds read paths context).grow
  · intro sources table context
    exact (Probe.probe_adds sources table context).grow

/-- A directory has one declaration file with this text. -/
def ofText (text : String) : Introspection :=
  introspect (.ok [⟨.text "c_item.rs", .file⟩]) (fun _ => .ok text) (.ofText "d") {}

/-- A struct with a key has its table, and a struct without one has its directory refused. -/
theorem no_table_lost_texts :
    (∃ tables, (ofText "/* @Item */ struct Item { id: u8 }").outcome = .ok tables ∧
      tables.map ResolvedTable.name = ["Item"] ∧
      Complete tables (ofText "/* @Item */ struct Item { id: u8 }").context) ∧
    (ofText "/* @Item */ struct Item { no: u8 }").outcome = .ok [] ∧
      Refused [] (ofText "/* @Item */ struct Item { no: u8 }").context := by
  constructor
  · have names : (ofText "/* @Item */ struct Item { id: u8 }").outcome.map
        (List.map ResolvedTable.name) = .ok ["Item"] := by decide +kernel
    cases outcome : (ofText "/* @Item */ struct Item { id: u8 }").outcome with
    | error error =>
        rw [outcome] at names
        cases names
    | ok tables =>
        rw [outcome] at names
        refine ⟨tables, rfl, Except.ok.inj names, ?_⟩
        refine (no_table_lost.1 _ _ _ _ tables outcome).resolve_right ?_
        intro refused
        exact absurd refused.fatal (by decide +kernel)
  · have outcome : (ofText "/* @Item */ struct Item { no: u8 }").outcome = .ok [] := by
      decide +kernel
    refine ⟨outcome, (no_table_lost.1 _ _ _ _ [] outcome).resolve_left ?_⟩
    intro complete
    exact absurd complete.clean (by decide +kernel)

end Introspection

end Tablewright
