import Mathlib.Data.List.Nodup
import Mathlib.Tactic.SplitIfs

namespace Tablewright

variable {Key Value : Type} [BEq Key] [LawfulBEq Key]

/-- The first entry decides a lookup of its own key only. -/
theorem lookup_cons_ite (first key : Key) (value : Value) (rest : List (Key × Value))
    [Decidable (key = first)] :
    ((first, value) :: rest).lookup key = if key = first then some value else rest.lookup key := by
  rw [List.lookup_cons]
  split_ifs with here
  · simp [here]
  · simp [beq_eq_false_iff_ne.mpr here]

/-- A changed list gives for one key what the old list gives for another, when exactly the
entries with the old key stay and get the new one. -/
theorem lookup_map_filter (entries : List (Key × Value)) (keep : Key × Value → Bool)
    (change : Key × Value → Key × Value) (old new : Key)
    (exact : ∀ entry, (keep entry = true ∧ (change entry).1 = new) ↔ entry.1 = old)
    (same : ∀ entry, (change entry).2 = entry.2) :
    ((entries.filter keep).map change).lookup new = entries.lookup old := by
  induction entries with
  | nil => rfl
  | cons entry rest ih =>
      have decided := exact entry
      rw [List.lookup_cons]
      by_cases here : entry.1 = old
      · obtain ⟨kept, renamed⟩ := decided.mpr here
        rw [List.filter_cons_of_pos kept, List.map_cons, List.lookup_cons]
        simp [renamed, here, same]
      · by_cases kept : keep entry = true
        · have renamed : (change entry).1 ≠ new := fun equal => here (decided.mp ⟨kept, equal⟩)
          rw [List.filter_cons_of_pos kept, List.map_cons, List.lookup_cons]
          simp [beq_eq_false_iff_ne.mpr (Ne.symm renamed),
            beq_eq_false_iff_ne.mpr (Ne.symm here), ih]
        · rw [List.filter_cons_of_neg kept, ih]
          simp [beq_eq_false_iff_ne.mpr (Ne.symm here)]

/-- A changed list gives nothing for a key that no entry gets. -/
theorem lookup_map_filter_none (entries : List (Key × Value)) (keep : Key × Value → Bool)
    (change : Key × Value → Key × Value) (new : Key)
    (never : ∀ entry, keep entry = true → (change entry).1 ≠ new) :
    ((entries.filter keep).map change).lookup new = none := by
  induction entries with
  | nil => rfl
  | cons entry rest ih =>
      by_cases kept : keep entry = true
      · rw [List.filter_cons_of_pos kept, List.map_cons, List.lookup_cons]
        simp [beq_eq_false_iff_ne.mpr (Ne.symm (never entry kept)), ih]
      · rw [List.filter_cons_of_neg kept, ih]

/-- A filter that asks for the key alone keeps the entries of a key or drops them. -/
theorem lookup_filter_key (entries : List (Key × Value)) (keep : Key → Bool) (key : Key) :
    (entries.filter fun entry => keep entry.1).lookup key =
      if keep key then entries.lookup key else none := by
  induction entries with
  | nil => simp
  | cons entry rest ih =>
      rw [List.filter_cons, List.lookup_cons]
      by_cases kept : keep entry.1 = true
      · rw [if_pos kept, List.lookup_cons, ih]
        by_cases here : key = entry.1
        · simp [here, kept]
        · simp [beq_eq_false_iff_ne.mpr here]
      · rw [if_neg kept, ih]
        by_cases here : key = entry.1
        · simp [here, kept]
        · simp [beq_eq_false_iff_ne.mpr here]

/-- Distinct keys are found in a list if and only if they are in it. -/
theorem lookup_eq_some_iff_mem {entries : List (Key × Value)}
    (distinct : (entries.map Prod.fst).Nodup) {key : Key} {value : Value} :
    entries.lookup key = some value ↔ (key, value) ∈ entries := by
  induction entries with
  | nil => simp
  | cons entry rest hypothesis =>
      obtain ⟨first, held⟩ := entry
      rw [List.map_cons, List.nodup_cons] at distinct
      rw [List.lookup_cons, List.mem_cons]
      by_cases here : key = first
      · subst here
        have absent : (key, value) ∉ rest := fun inside =>
          distinct.1 (List.mem_map.mpr ⟨_, inside, rfl⟩)
        simp [absent, eq_comm]
      · simp [beq_eq_false_iff_ne.mpr here, here, hypothesis distinct.2]

/-- There is a value under each key of a list. -/
theorem lookup_isSome_iff_mem (entries : List (Key × Value)) (key : Key) :
    (entries.lookup key).isSome = true ↔ key ∈ entries.map Prod.fst := by
  rw [List.lookup_isSome_iff, List.mem_map]
  constructor
  · rintro ⟨entry, inside, same⟩
    exact ⟨entry, inside, (eq_of_beq same).symm⟩
  · rintro ⟨entry, inside, rfl⟩
    exact ⟨entry, inside, beq_self_eq_true _⟩

/-- Distinct keys have one value at most. -/
theorem map_filter_key [DecidableEq Key] {entries : List (Key × Value)}
    (distinct : (entries.map Prod.fst).Nodup) (key : Key) :
    (entries.filter fun entry => entry.1 = key).map Prod.snd = (entries.lookup key).toList := by
  induction entries with
  | nil => rfl
  | cons entry rest hypothesis =>
      obtain ⟨first, held⟩ := entry
      obtain ⟨absent, others⟩ := List.nodup_cons.mp distinct
      rw [lookup_cons_ite]
      by_cases here : key = first
      · subst here
        have none : (rest.filter fun entry => entry.1 = key) = [] := by
          rw [List.filter_eq_nil_iff]
          intro entry inside same
          exact absent (List.mem_map.mpr ⟨entry, inside, of_decide_eq_true same⟩)
        simp [none]
      · simp [here, Ne.symm here, hypothesis others]

end Tablewright
