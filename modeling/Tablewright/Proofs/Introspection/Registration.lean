import Tablewright.Proofs.Annotation.Entries
import Tablewright.Proofs.Table.LastEntry

namespace Tablewright

namespace Annotation

/-- What a text declares does not depend on the run before it. -/
theorem extract_entries_eq (origin : FilePath) (text : String) (context other : Context) :
    (extract origin text context).1 = (extract origin text other).1 := by
  rw [extract_filterMap, extract_filterMap]

theorem registerAll_registry (origin : FilePath) (entries : List TableEntry)
    (context : Context) :
    (entries.foldl (register origin) context).registry = context.registry.insertAll entries := by
  induction entries generalizing context with
  | nil => rfl
  | cons entry rest hypothesis =>
      rw [List.foldl_cons, hypothesis, register_registry]
      rfl

theorem extractInto_registry (origin : FilePath) (text : String) (context : Context) :
    (extractInto origin text context).registry =
      context.registry.insertAll (extract origin text {}).1 := by
  unfold extractInto
  dsimp only
  rw [registerAll_registry, extract_entries_eq origin text context {}]
  rw [show (extract origin text context).2.registry = context.registry from
    (readBlocks_adds origin _ context).registry]

end Annotation

namespace Introspection

open Annotation (extract)

/-- These are the entries that files declare, in the order of the files and their texts. -/
def declaredEntries (sources : SourceSet) : List TableEntry :=
  sources.flatMap fun file => (extract file.path file.text {}).1

/-- A run puts the entries of all files into the registry. -/
theorem annotate_registry (sources : SourceSet) (context : Context) :
    (annotate sources context).registry =
      context.registry.insertAll (declaredEntries sources) := by
  unfold annotate declaredEntries
  induction sources generalizing context with
  | nil => rfl
  | cons file rest hypothesis =>
      rw [List.foldl_cons, hypothesis, Annotation.extractInto_registry, List.flatMap_cons,
        Registry.insertAll_append]

/-- The last entry of each name wins in a run that starts with an empty registry. Names that
differ in case only are one name. Each insertion displaces the entry that it gives back, and
entries are sorted by the bytes of their names. Without two entries of one name the order of the
files does not matter. -/
theorem annotate_last_wins {sources : SourceSet} {context : Context}
    (fresh : context.registry = {}) :
    let entries := declaredEntries sources
    let registry := (annotate sources context).registry
    (∀ file ∈ sources, ∀ other : Context,
      (extract file.path file.text other).1 = (extract file.path file.text {}).1) ∧
    registry = Registry.insertAll {} entries ∧
    (∀ name, registry.get? name =
      (entries.filter fun entry =>
        Text.lowerCase entry.name = Text.lowerCase name).getLast?) ∧
    registry.size = (entries.map fun entry => Text.lowerCase entry.name).dedup.length ∧
    (∀ front entry, let earlier := Registry.insertAll {} front
      Registry.Displaces earlier entry (earlier.insert entry)) ∧
    ((registry.sorted.map fun entry => Text.bytes entry.name).Pairwise (· < ·) ∧
      (∀ entry, Registry.Survives entry entries → registry.sorted.count entry = 1) ∧
      ∀ entry ∈ registry.sorted, Registry.Survives entry entries) ∧
    ((entries.map fun entry => Text.lowerCase entry.name).Nodup →
      ∀ others : SourceSet, others.Perm sources →
        (annotate others context).registry = registry ∧
        (annotate others context).registry.sorted = registry.sorted) := by
  intro entries registry
  have filled : registry = Registry.insertAll {} entries := by
    rw [← fresh]
    exact annotate_registry sources context
  have ordered : registry.Ordered := filled ▸ Registry.ordered_insertAll entries
  have survivors : ∀ entry, entry ∈ registry.entries ↔ Registry.Survives entry entries := by
    rw [filled]
    exact Registry.mem_entries_insertAll entries
  refine ⟨?_, filled, ?_, ?_, ?_, ⟨ordered.sorted_bytes, ?_, ?_⟩, ?_⟩
  · intro file _ other
    exact Annotation.extract_entries_eq file.path file.text other {}
  · intro name
    rw [filled]
    exact Registry.find?_insertAll entries (Text.lowerCase name)
  · rw [filled]
    exact Registry.size_insertAll entries
  · intro front entry
    exact (Registry.ordered_insertAll front).insert_displaces entry
  · intro entry survives
    exact ordered.count_sorted ((survivors entry).mpr survives)
  · intro entry inside
    exact (survivors entry).mp (registry.sorted_perm.mem_iff.mp inside)
  · intro different others same
    have again : (annotate others context).registry = registry := by
      rw [annotate_registry, fresh, filled]
      exact Registry.insertAll_perm (same.flatMap_right _) different
    exact ⟨again, congrArg Registry.sorted again⟩

/-- A file has its text only. -/
def textFile (path text : String) : SourceFile where
  path := .ofText path
  text
  items := some []

/-- Two files spell one name in two ways. -/
def respelledFiles : SourceSet :=
  [textFile "a.rs" "/*@Item*/", textFile "b.rs" "/*@ITEM*/"]

/-- Two files have two names. -/
def distinctFiles : SourceSet :=
  [textFile "a.rs" "/*@skill*/", textFile "b.rs" "/*@Item*/"]

/-- The second spelling stays, and two names stay in either order of their files. -/
theorem annotate_last_wins_two_files :
    ({} : Context).registry = {} ∧
    ((annotate respelledFiles {}).registry.get? "item").map TableEntry.name = some "ITEM" ∧
    (annotate respelledFiles {}).registry.size = 1 ∧
    ((declaredEntries distinctFiles).map fun entry => Text.lowerCase entry.name).Nodup ∧
    (annotate distinctFiles.reverse {}).registry.sorted =
      (annotate distinctFiles {}).registry.sorted := by
  have fresh : ({} : Context).registry = {} := rfl
  have different :
      ((declaredEntries distinctFiles).map fun entry => Text.lowerCase entry.name).Nodup := by
    decide +kernel
  obtain ⟨_, _, last, size, _⟩ := @annotate_last_wins respelledFiles _ fresh
  obtain ⟨_, _, _, _, _, _, reordered⟩ := @annotate_last_wins distinctFiles _ fresh
  have same := reordered different distinctFiles.reverse (List.reverse_perm distinctFiles)
  refine ⟨fresh, ?_, ?_, different, same.2⟩
  · rw [last]
    decide +kernel
  · rw [size]
    decide +kernel

end Tablewright.Introspection
