import Mathlib.Data.List.Dedup
import Mathlib.Data.List.Induction
import Tablewright.Proofs.Table.Registry
import Tablewright.Proofs.Text.ByteOrder

namespace Tablewright.Registry

/-- This function puts entries into a registry in their order. -/
def insertAll (registry : Registry) (entries : List TableEntry) : Registry :=
  entries.foldl (fun state entry => (state.insert entry).2) registry

/-- An entry survives in a list when no later entry has its key. -/
def Survives (entry : TableEntry) (entries : List TableEntry) : Prop :=
  ∃ before after, entries = before ++ entry :: after ∧
    ∀ later ∈ after, later.registryKey ≠ entry.registryKey

/-- An insertion gives back the entry whose place is taken. All other entries stay. -/
structure Displaces (registry : Registry) (entry : TableEntry)
    (inserted : Option TableEntry × Registry) : Prop where
  found : inserted.1 = registry.get? entry.name
  others : ∃ kept, (∀ other ∈ kept, other.registryKey ≠ entry.registryKey) ∧
    registry.entries.Perm (inserted.1.toList ++ kept) ∧
    inserted.2.entries.Perm (entry :: kept)

section Insertion

variable {registry other : Registry}

theorem find?_insert (registry : Registry) (entry : TableEntry) (key : String) :
    (registry.insert entry).2.find? key =
      if key = entry.registryKey then some entry else registry.find? key :=
  lookup_place entry.registryKey key entry registry.pairs

/-- There is one ordered registry only for some entries. -/
theorem Ordered.eq_of_mem_iff (ordered : registry.Ordered) (otherOrdered : other.Ordered)
    (same : ∀ entry, entry ∈ registry.entries ↔ entry ∈ other.entries) : registry = other := by
  have pairs : registry.pairs.Perm other.pairs := by
    refine (List.perm_ext_iff_of_nodup (List.Nodup.of_map _ ordered.keys_nodup)
      (List.Nodup.of_map _ otherOrdered.keys_nodup)).mpr ?_
    intro pair
    rw [ordered.mem_pairs_iff, otherOrdered.mem_pairs_iff, same]
  have equal : registry.pairs = other.pairs :=
    List.Perm.eq_of_pairwise (fun _ _ _ _ before after => absurd before (lt_asymm after))
      ordered.ascending otherOrdered.ascending pairs
  cases registry
  cases other
  exact congrArg Registry.mk equal

theorem Ordered.insert_displaces (ordered : registry.Ordered) (entry : TableEntry) :
    Displaces registry entry (registry.insert entry) := by
  have cut : registry.pairs.Perm
      ((registry.pairs.filter fun pair => pair.1 = entry.registryKey) ++
        registry.pairs.filter fun pair => pair.1 ≠ entry.registryKey) := by
    simpa using (List.filter_append_perm (fun pair => decide (pair.1 = entry.registryKey))
      registry.pairs).symm
  refine ⟨rfl, (registry.pairs.filter fun pair => pair.1 ≠ entry.registryKey).map Prod.snd,
    ?_, ?_, ?_⟩
  · intro kept inside
    obtain ⟨pair, among, rfl⟩ := List.mem_map.mp inside
    obtain ⟨member, different⟩ := List.mem_filter.mp among
    rw [← ordered.own pair member]
    simpa using different
  · have given : (registry.pairs.filter fun pair => pair.1 = entry.registryKey).map Prod.snd =
        (registry.insert entry).1.toList := by
      exact map_filter_key ordered.keys_nodup entry.registryKey
    rw [← given, ← List.map_append]
    exact cut.map Prod.snd
  · exact (place_perm ordered.ascending).map Prod.snd

end Insertion

section Last

variable {entries : List TableEntry} {entry : TableEntry}

theorem insertAll_append (registry : Registry) (front back : List TableEntry) :
    registry.insertAll (front ++ back) = (registry.insertAll front).insertAll back :=
  List.foldl_append

theorem insertAll_concat (registry : Registry) (front : List TableEntry) (entry : TableEntry) :
    registry.insertAll (front ++ [entry]) = ((registry.insertAll front).insert entry).2 :=
  insertAll_append registry front [entry]

theorem Ordered.insertAll {registry : Registry} (ordered : registry.Ordered)
    (entries : List TableEntry) : (registry.insertAll entries).Ordered := by
  induction entries using List.reverseRecOn with
  | nil => exact ordered
  | append_singleton front entry hypothesis =>
      rw [insertAll_concat]
      exact hypothesis.insert entry

theorem ordered_insertAll (entries : List TableEntry) :
    (Registry.insertAll {} entries).Ordered :=
  ordered_empty.insertAll entries

/-- A key has its last entry. -/
theorem find?_insertAll (entries : List TableEntry) (key : String) :
    (Registry.insertAll {} entries).find? key =
      (entries.filter fun entry => entry.registryKey = key).getLast? := by
  induction entries using List.reverseRecOn with
  | nil => rfl
  | append_singleton front entry hypothesis =>
      rw [insertAll_concat, find?_insert, hypothesis, List.filter_append]
      by_cases own : key = entry.registryKey
      · simp [own]
      · simp [own, Ne.symm own]

theorem survives_iff : Survives entry entries ↔
    (entries.filter fun other => other.registryKey = entry.registryKey).getLast? =
      some entry := by
  rw [List.getLast?_filter, List.find?_eq_some_iff_append]
  constructor
  · rintro ⟨before, after, rfl, none⟩
    refine ⟨by simp, after.reverse, before.reverse, by simp, ?_⟩
    intro later inside
    simpa using none later (List.mem_reverse.mp inside)
  · rintro ⟨_, after, before, reversed, none⟩
    refine ⟨before.reverse, after.reverse, ?_, ?_⟩
    · rw [← List.reverse_reverse entries, reversed]
      simp
    · intro later inside
      simpa using none later (List.mem_reverse.mp inside)

/-- The entries of a registry are those that survive. -/
theorem mem_entries_insertAll (entries : List TableEntry) (entry : TableEntry) :
    entry ∈ (Registry.insertAll {} entries).entries ↔ Survives entry entries := by
  rw [(ordered_insertAll entries).mem_entries_iff, find?_insertAll, survives_iff]

/-- A registry has one entry for each key. -/
theorem size_insertAll (entries : List TableEntry) :
    (Registry.insertAll {} entries).size = (entries.map TableEntry.registryKey).dedup.length := by
  have same : ∀ key, key ∈ (Registry.insertAll {} entries).pairs.map Prod.fst ↔
      key ∈ (entries.map TableEntry.registryKey).dedup := by
    intro key
    have found : (Registry.insertAll {} entries).pairs.lookup key =
        (entries.filter fun entry => entry.registryKey = key).getLast? :=
      find?_insertAll entries key
    rw [← lookup_isSome_iff_mem, found, List.getLast?_isSome, List.mem_dedup, List.mem_map]
    simp
  have perm := (List.perm_ext_iff_of_nodup (ordered_insertAll entries).keys_nodup
    (List.nodup_dedup _)).mpr same
  rw [size, ← perm.length_eq, List.length_map]

/-- Entries with different keys all survive. -/
theorem survives_of_nodup (different : (entries.map TableEntry.registryKey).Nodup)
    (inside : entry ∈ entries) : Survives entry entries := by
  obtain ⟨before, after, rfl⟩ := List.append_of_mem inside
  refine ⟨before, after, rfl, ?_⟩
  intro later behind same
  rw [List.map_append, List.map_cons] at different
  have alone := (List.nodup_cons.mp (List.nodup_append.mp different).2.1).1
  exact alone (same ▸ List.mem_map_of_mem behind)

theorem Survives.mem (survives : Survives entry entries) : entry ∈ entries := by
  obtain ⟨before, after, rfl, _⟩ := survives
  simp

/-- The order of entries with different keys does not matter. -/
theorem insertAll_perm {others : List TableEntry} (same : others.Perm entries)
    (different : (entries.map TableEntry.registryKey).Nodup) :
    Registry.insertAll {} others = Registry.insertAll {} entries := by
  have otherDifferent : (others.map TableEntry.registryKey).Nodup :=
    (same.map TableEntry.registryKey).nodup_iff.mpr different
  refine (ordered_insertAll others).eq_of_mem_iff (ordered_insertAll entries) ?_
  intro entry
  rw [mem_entries_insertAll, mem_entries_insertAll]
  constructor
  · intro survives
    exact survives_of_nodup different (same.mem_iff.mp survives.mem)
  · intro survives
    exact survives_of_nodup otherDifferent (same.mem_iff.mpr survives.mem)

end Last

/-- The sorted names ascend strictly by their bytes. -/
theorem Ordered.sorted_bytes {registry : Registry} (ordered : registry.Ordered) :
    (registry.sorted.map fun entry => Text.bytes entry.name).Pairwise (· < ·) :=
  List.pairwise_map.mpr ((List.pairwise_map.mp ordered.sorted_ascending).imp Text.bytes_lt)

/-- Each entry of an ordered registry is sorted once. -/
theorem Ordered.count_sorted {registry : Registry} (ordered : registry.Ordered)
    {entry : TableEntry} (inside : entry ∈ registry.entries) : registry.sorted.count entry = 1 := by
  have single : registry.entries.Nodup := List.Nodup.of_map _ ordered.names_nodup
  rw [registry.sorted_perm.count_eq, single.count, if_pos inside]

end Tablewright.Registry
