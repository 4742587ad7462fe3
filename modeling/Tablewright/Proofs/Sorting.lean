import Mathlib.Data.List.Sort
import Mathlib.Data.String.Basic

namespace Tablewright

variable {α : Type} (name : α → String) {items others : List α}

/-- A list that has been sorted by names ascends. -/
theorem pairwise_sorted (items : List α) :
    (items.mergeSort fun left right => name left ≤ name right).Pairwise
      fun left right => name left ≤ name right := by
  have sorted : (items.mergeSort fun left right => name left ≤ name right).Pairwise
      fun left right => decide (name left ≤ name right) = true := by
    apply List.pairwise_mergeSort
    · intro first second third
      simpa using le_trans
    · intro left right
      simpa using le_total (name left) (name right)
  exact sorted.imp of_decide_eq_true

/-- Different names ascend strictly when they have been sorted. -/
theorem ascending_sorted (different : (items.map name).Nodup) :
    (items.mergeSort fun left right => name left ≤ name right).Pairwise
      fun left right => name left < name right := by
  have apart : ((items.mergeSort fun left right => name left ≤ name right).map name).Nodup :=
    ((List.mergeSort_perm items _).map name).nodup_iff.mpr different
  have both := (pairwise_sorted name items).and (List.pairwise_map.mp apart)
  exact both.imp fun pair => lt_of_le_of_ne pair.1 pair.2

/-- There is one way only to sort items with different names. -/
theorem sorted_eq (ascending : others.Pairwise fun left right => name left < name right)
    (same : others.Perm items) :
    (items.mergeSort fun left right => name left ≤ name right) = others := by
  have different : (items.map name).Nodup := by
    refine (same.map name).nodup_iff.mp (List.pairwise_map.mpr (ascending.imp ?_))
    exact fun before => ne_of_lt before
  refine List.Perm.eq_of_pairwise ?_ (ascending_sorted name different) ascending
    ((List.mergeSort_perm items _).trans same.symm)
  exact fun left right _ _ before after => absurd before (lt_asymm after)

end Tablewright
