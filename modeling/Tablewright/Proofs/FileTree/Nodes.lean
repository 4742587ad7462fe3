import Tablewright.FileTree
import Tablewright.Proofs.Lookup

namespace Tablewright.FileTree

@[simp] theorem node?_root (tree : FileTree) : tree.node? [] = some .directory := rfl

theorem ne_root_of_file {tree : FileTree} {place : Location} {content : ByteArray}
    {writable : Bool} (found : tree.node? place = some (.file content writable)) : place ≠ [] := by
  intro equal
  subst equal
  cases found

theorem node?_of_ne_root (tree : FileTree) {location : Location} (below : location ≠ []) :
    tree.node? location = tree.nodes.lookup location := by
  rw [node?, if_neg below]

@[simp] theorem put_here (tree : FileTree) (place : Location) (node : Node) :
    (tree.put place node).here = tree.here := rfl

@[simp] theorem erase_here (tree : FileTree) (place : Location) :
    (tree.erase place).here = tree.here := rfl

@[simp] theorem move_here (tree : FileTree) (source target : Location) :
    (tree.move source target).here = tree.here := rfl

theorem node?_put (tree : FileTree) {place : Location} (below : place ≠ []) (node : Node)
    (location : Location) :
    (tree.put place node).node? location =
      if location = place then some node else tree.node? location := by
  by_cases root : location = []
  · subst root
    simp [Ne.symm below]
  · rw [node?_of_ne_root _ root, node?_of_ne_root _ root, put, List.lookup_cons,
      lookup_filter_key tree.nodes (fun key => decide (key ≠ place))]
    by_cases here : location = place
    · simp [here]
    · simp [here, beq_eq_false_iff_ne.mpr here]

theorem node?_erase (tree : FileTree) {place : Location} (below : place ≠ [])
    (location : Location) :
    (tree.erase place).node? location =
      if location = place then none else tree.node? location := by
  by_cases root : location = []
  · subst root
    simp [Ne.symm below]
  · rw [node?_of_ne_root _ root, node?_of_ne_root _ root, erase,
      lookup_filter_key tree.nodes (fun key => decide (key ≠ place))]
    by_cases here : location = place
    · simp [here]
    · simp [here]

section Move

variable (tree : FileTree) {source target : Location}

/-- A move leaves everything alone that is neither below its source nor below its target. -/
theorem node?_move_other {location : Location} (notSource : ¬ source <+: location)
    (notTarget : ¬ target <+: location) :
    (tree.move source target).node? location = tree.node? location := by
  by_cases root : location = []
  · subst root
    rfl
  · rw [node?_of_ne_root _ root, node?_of_ne_root _ root, move]
    apply lookup_map_filter
    · intro entry
      by_cases moved : source.isPrefixOf entry.1 = true
      · have apart : target ++ entry.1.drop source.length ≠ location := by
          intro equal
          exact notTarget ⟨_, equal⟩
        have different : entry.1 ≠ location := by
          intro equal
          exact notSource (equal ▸ List.isPrefixOf_iff_prefix.mp moved)
        simp [moved, apart, different]
      · simp only [moved, Bool.false_eq_true, ↓reduceIte]
        constructor
        · exact fun both => both.2
        · intro equal
          refine ⟨?_, equal⟩
          rw [equal, Bool.not_eq_true', ← Bool.not_eq_true, List.isPrefixOf_iff_prefix]
          exact notTarget
    · intro entry
      split <;> rfl

/-- What stood below the source of a move is gone from there. -/
theorem node?_move_source (below : source ≠ []) {location : Location}
    (isSource : source <+: location) (notTarget : ¬ target <+: location) :
    (tree.move source target).node? location = none := by
  have root : location ≠ [] := by
    intro empty
    exact below (List.prefix_nil.mp (empty ▸ isSource))
  rw [node?_of_ne_root _ root, move]
  apply lookup_map_filter_none
  intro entry _ equal
  by_cases moved : source.isPrefixOf entry.1 = true
  · rw [if_pos moved] at equal
    exact notTarget ⟨_, equal⟩
  · rw [if_neg moved] at equal
    exact moved (List.isPrefixOf_iff_prefix.mpr (equal ▸ isSource))

/-- What stood below the source of a move stands below its target. -/
theorem node?_move_target (sourceBelow : source ≠ []) (targetBelow : target ≠ [])
    (rest : Location) (apart : ¬ target <+: source ++ rest) :
    (tree.move source target).node? (target ++ rest) = tree.node? (source ++ rest) := by
  have targetRoot : target ++ rest ≠ [] := by simp [targetBelow]
  have sourceRoot : source ++ rest ≠ [] := by simp [sourceBelow]
  rw [node?_of_ne_root _ targetRoot, node?_of_ne_root _ sourceRoot, move]
  apply lookup_map_filter
  · intro entry
    rw [Bool.not_eq_true', ← Bool.not_eq_true, List.isPrefixOf_iff_prefix]
    by_cases moved : source.isPrefixOf entry.1 = true
    · obtain ⟨tail, equal⟩ := List.isPrefixOf_iff_prefix.mp moved
      rw [if_pos moved, ← equal, List.drop_left, List.append_cancel_left_eq,
        List.append_cancel_left_eq]
      constructor
      · exact fun both => both.2
      · intro same
        exact ⟨same ▸ apart, same⟩
    · simp only [moved, Bool.false_eq_true, ↓reduceIte]
      constructor
      · intro given
        obtain ⟨outside, equal⟩ := given
        exact absurd ⟨rest, equal.symm⟩ outside
      · intro equal
        exact absurd (List.isPrefixOf_iff_prefix.mpr ⟨rest, equal.symm⟩) moved
  · intro entry
    split <;> rfl

/-- Below the target of a move stands only what stood below its source. -/
theorem node?_of_move_target (sourceBelow : source ≠ []) (targetBelow : target ≠ [])
    {rest : Location} {node : Node}
    (found : (tree.move source target).node? (target ++ rest) = some node) :
    tree.node? (source ++ rest) = some node := by
  by_cases inside : target <+: source ++ rest
  · have targetRoot : target ++ rest ≠ [] := by simp [targetBelow]
    rw [node?_of_ne_root _ targetRoot, move, lookup_map_filter_none] at found
    · cases found
    intro entry kept equal
    rw [Bool.not_eq_true', ← Bool.not_eq_true, List.isPrefixOf_iff_prefix] at kept
    by_cases moved : source.isPrefixOf entry.1 = true
    · obtain ⟨tail, split⟩ := List.isPrefixOf_iff_prefix.mp moved
      rw [if_pos moved, ← split, List.drop_left, List.append_cancel_left_eq] at equal
      exact kept (split ▸ equal ▸ inside)
    · rw [if_neg moved] at equal
      exact kept ⟨rest, equal.symm⟩
  · rw [← found, tree.node?_move_target sourceBelow targetBelow rest inside]

end Move

end Tablewright.FileTree
