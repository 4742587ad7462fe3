import Tablewright.Proofs.Text.Pieces

namespace Tablewright.Text

/-- This function lists the lines of a text. Each of them ends with a line feed, and what stands
behind the last line feed is no line. -/
def linesOf (text : String) : List String :=
  (pieces (· == '\n') text.toList).dropLast.map String.ofList

/-- A text on one line has no line feed. -/
def Single (text : String) : Prop :=
  '\n' ∉ text.toList

instance : DecidablePred Single :=
  fun _ => inferInstanceAs (Decidable (¬ _))

theorem single_append {first second : String} :
    Single (first ++ second) ↔ Single first ∧ Single second := by
  rw [Single, String.toList_append, List.mem_append, not_or]
  exact Iff.rfl

theorem single_joined {between : String} (single : Single between) {items : List String}
    (each : ∀ item ∈ items, Single item) : Single (joined between items) := by
  rw [Single, joined, String.toList_intercalate]
  intro inside
  rcases mem_of_intercalate inside with outside | ⟨part, among, own⟩
  · exact single outside
  · obtain ⟨item, member, rfl⟩ := List.mem_map.mp among
    exact each item member own

section Lines

variable {lines : List String}

theorem toList_ofLines_cons (line : String) (lines : List String) :
    (ofLines (line :: lines)).toList = line.toList ++ '\n' :: (ofLines lines).toList := by
  simp [ofLines, String.join_cons]

/-- Lines without line feeds are read back. -/
theorem linesOf_ofLines (single : ∀ line ∈ lines, Single line) :
    linesOf (ofLines lines) = lines := by
  induction lines with
  | nil => rfl
  | cons line rest hypothesis =>
      rw [List.forall_mem_cons] at single
      have whole : ∀ character ∈ line.toList, (character == '\n') = false := by
        intro character inside
        rw [beq_eq_false_iff_ne]
        rintro rfl
        exact single.1 inside
      have later := hypothesis single.2
      unfold linesOf at later ⊢
      rw [toList_ofLines_cons, pieces_cut whole (by decide),
        List.dropLast_cons_of_ne_nil (pieces_ne_nil _ _), List.map_cons, later,
        String.ofList_toList]

end Lines

end Tablewright.Text
