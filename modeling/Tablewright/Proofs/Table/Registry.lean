import Tablewright.Proofs.Lookup
import Tablewright.Proofs.Sorting
import Tablewright.Table.Registry

namespace Tablewright.Registry

/-- In an ordered registry the keys ascend, and every entry stands under its own key. -/
structure Ordered (registry : Registry) : Prop where
  ascending : registry.pairs.Pairwise fun left right => left.1 < right.1
  own : ∀ pair ∈ registry.pairs, pair.1 = pair.2.registryKey

theorem mem_place {key : String} {entry : TableEntry} {pairs : List (String × TableEntry)}
    {pair : String × TableEntry} (inside : pair ∈ place key entry pairs) :
    pair = (key, entry) ∨ pair ∈ pairs := by
  induction pairs with
  | nil => simpa [place] using inside
  | cons head rest hypothesis =>
      unfold place at inside
      split at inside
      · simpa using inside
      split at inside
      · rcases List.mem_cons.mp inside with placed | later
        · exact .inl placed
        · exact .inr (List.mem_cons_of_mem head later)
      · rcases List.mem_cons.mp inside with same | later
        · exact .inr (same ▸ List.mem_cons_self)
        · exact (hypothesis later).imp_right (List.mem_cons_of_mem head)

theorem place_ascending {key : String} {entry : TableEntry} {pairs : List (String × TableEntry)}
    (ascending : pairs.Pairwise fun left right => left.1 < right.1) :
    (place key entry pairs).Pairwise fun left right => left.1 < right.1 := by
  induction pairs with
  | nil => simp [place]
  | cons head rest hypothesis =>
      obtain ⟨above, further⟩ := List.pairwise_cons.mp ascending
      unfold place
      split
      case isTrue smaller =>
        refine List.pairwise_cons.mpr ⟨?_, ascending⟩
        intro pair inside
        rcases List.mem_cons.mp inside with rfl | later
        · exact smaller
        · exact lt_trans smaller (above pair later)
      case isFalse notSmaller =>
        split
        case isTrue same => exact List.pairwise_cons.mpr ⟨same ▸ above, further⟩
        case isFalse different =>
          refine List.pairwise_cons.mpr ⟨?_, hypothesis further⟩
          intro pair inside
          rcases mem_place inside with rfl | later
          · exact lt_of_le_of_ne (not_lt.mp notSmaller) (Ne.symm different)
          · exact above pair later

/-- A placed entry is found under its own key. Under any other key nothing changes. -/
theorem lookup_place (key other : String) (entry : TableEntry)
    (pairs : List (String × TableEntry)) :
    (place key entry pairs).lookup other =
      if other = key then some entry else pairs.lookup other := by
  induction pairs with
  | nil => exact lookup_cons_ite key other entry []
  | cons head rest hypothesis =>
      obtain ⟨first, held⟩ := head
      unfold place
      split
      · exact lookup_cons_ite key other entry _
      split
      case isTrue same =>
        obtain rfl : key = first := same
        rw [lookup_cons_ite, lookup_cons_ite]
        split_ifs <;> rfl
      case isFalse different =>
        rw [lookup_cons_ite, lookup_cons_ite, hypothesis]
        split_ifs with here new
        · exact absurd (new.symm.trans here) different
        all_goals rfl

/-- An entry takes the place of the pair with its key, and no other pair leaves. -/
theorem place_perm {key : String} {entry : TableEntry} {pairs : List (String × TableEntry)}
    (ascending : pairs.Pairwise fun left right => left.1 < right.1) :
    (place key entry pairs).Perm
      ((key, entry) :: pairs.filter fun pair => pair.1 ≠ key) := by
  induction pairs with
  | nil => simp [place]
  | cons head rest hypothesis =>
      obtain ⟨above, further⟩ := List.pairwise_cons.mp ascending
      unfold place
      split
      case isTrue smaller =>
        have others : ∀ pair ∈ head :: rest, decide (pair.1 ≠ key) = true := by
          intro pair inside
          rcases List.mem_cons.mp inside with rfl | later
          · simpa using ne_of_gt smaller
          · simpa using ne_of_gt (lt_trans smaller (above pair later))
        rw [List.filter_eq_self.mpr others]
      case isFalse =>
        split
        case isTrue same =>
          have others : ∀ pair ∈ rest, decide (pair.1 ≠ key) = true := by
            intro pair inside
            simpa [same] using ne_of_gt (above pair inside)
          rw [List.filter_cons_of_neg (by simp [same]), List.filter_eq_self.mpr others]
        case isFalse different =>
          rw [List.filter_cons_of_pos (by simpa using Ne.symm different)]
          exact ((hypothesis further).cons head).trans (List.Perm.swap _ _ _)

theorem ordered_empty : Ordered {} :=
  ⟨List.Pairwise.nil, by simp⟩

theorem Ordered.insert {registry : Registry} (ordered : registry.Ordered) (entry : TableEntry) :
    (registry.insert entry).2.Ordered := by
  refine ⟨place_ascending ordered.ascending, ?_⟩
  intro pair inside
  rcases mem_place inside with rfl | earlier
  · rfl
  · exact ordered.own pair earlier

/-- Two entries with one name would have one key. -/
theorem Ordered.names_nodup {registry : Registry} (ordered : registry.Ordered) :
    (registry.entries.map TableEntry.name).Nodup := by
  have keys : registry.pairs.Pairwise fun left right => left.2.name ≠ right.2.name := by
    refine ordered.ascending.imp_of_mem ?_
    intro left right leftInside rightInside smaller same
    have equal : left.1 = right.1 := by
      rw [ordered.own left leftInside, ordered.own right rightInside, TableEntry.registryKey,
        TableEntry.registryKey, same]
    exact absurd smaller (equal ▸ lt_irrefl _)
  unfold entries List.Nodup
  rw [List.map_map]
  exact List.pairwise_map.mpr keys

theorem Ordered.keys_nodup {registry : Registry} (ordered : registry.Ordered) :
    (registry.pairs.map Prod.fst).Nodup :=
  List.pairwise_map.mpr (ordered.ascending.imp fun before => ne_of_lt before)

/-- A pair belongs to an ordered registry exactly if its entry does and its key is the entry's. -/
theorem Ordered.mem_pairs_iff {registry : Registry} (ordered : registry.Ordered)
    (pair : String × TableEntry) :
    pair ∈ registry.pairs ↔ pair.1 = pair.2.registryKey ∧ pair.2 ∈ registry.entries := by
  constructor
  · intro inside
    exact ⟨ordered.own pair inside, List.mem_map_of_mem inside⟩
  · rintro ⟨own, inside⟩
    obtain ⟨same, among, equal⟩ := List.mem_map.mp inside
    have key : same.1 = pair.1 := by rw [ordered.own same among, own, equal]
    rwa [← Prod.ext key equal]

theorem Ordered.mem_entries_iff {registry : Registry} (ordered : registry.Ordered)
    (entry : TableEntry) :
    entry ∈ registry.entries ↔ registry.find? entry.registryKey = some entry := by
  rw [find?, lookup_eq_some_iff_mem ordered.keys_nodup, ordered.mem_pairs_iff]
  simp

/-- Every entry is found under its own name. -/
theorem Ordered.get?_of_mem {registry : Registry} (ordered : registry.Ordered)
    {entry : TableEntry} (inside : entry ∈ registry.entries) :
    registry.get? entry.name = some entry :=
  (ordered.mem_entries_iff entry).mp inside

theorem sorted_perm (registry : Registry) : registry.sorted.Perm registry.entries :=
  List.mergeSort_perm _ _

/-- The sorted names ascend strictly. -/
theorem Ordered.sorted_ascending {registry : Registry} (ordered : registry.Ordered) :
    (registry.sorted.map TableEntry.name).Pairwise (· < ·) :=
  List.pairwise_map.mpr (ascending_sorted TableEntry.name ordered.names_nodup)

end Tablewright.Registry
