import Mathlib.Data.List.Induction
import Tablewright.Text.Pieces

namespace Tablewright.Text

/-- A text is whole when it has no underscore. -/
def Whole (text : String) : Prop :=
  '_' ∉ text.toList

section Cut

variable {first second rest others : String}

theorem cut_of_chars {separator : Char} {front back left right : List Char}
    (frontFree : separator ∉ front) (backFree : separator ∉ back)
    (same : front ++ separator :: left = back ++ separator :: right) :
    front = back ∧ left = right := by
  induction front generalizing back with
  | nil =>
      cases back with
      | nil => exact ⟨rfl, List.tail_eq_of_cons_eq same⟩
      | cons character tail =>
          have head : separator = character := List.head_eq_of_cons_eq same
          exact absurd (head ▸ List.mem_cons_self) backFree
  | cons character tail hypothesis =>
      cases back with
      | nil =>
          have head : character = separator := List.head_eq_of_cons_eq same
          exact absurd (head ▸ List.mem_cons_self) frontFree
      | cons other final =>
          obtain ⟨rfl, tails⟩ := List.cons.inj same
          rw [List.mem_cons, not_or] at frontFree backFree
          obtain ⟨rfl, sides⟩ := hypothesis frontFree.2 backFree.2 tails
          exact ⟨rfl, sides⟩

/-- Two texts are cut at their first underscore. -/
theorem cut_first (firstWhole : Whole first) (secondWhole : Whole second)
    (same : first ++ "_" ++ rest = second ++ "_" ++ others) : first = second ∧ rest = others := by
  have letters := congrArg String.toList same
  simp only [String.toList_append, List.append_assoc] at letters
  obtain ⟨fronts, sides⟩ := cut_of_chars firstWhole secondWhole letters
  exact ⟨String.toList_inj.mp fronts, String.toList_inj.mp sides⟩

/-- Two texts are cut at their last underscore. -/
theorem cut_last (firstWhole : Whole first) (secondWhole : Whole second)
    (same : rest ++ "_" ++ first = others ++ "_" ++ second) : rest = others ∧ first = second := by
  have letters := congrArg (fun text => text.toList.reverse) same
  simp only [String.toList_append, List.reverse_append] at letters
  have firstFree : '_' ∉ first.toList.reverse := by simpa [Whole] using firstWhole
  have secondFree : '_' ∉ second.toList.reverse := by simpa [Whole] using secondWhole
  obtain ⟨fronts, sides⟩ := cut_of_chars firstFree secondFree letters
  exact ⟨String.toList_inj.mp (List.reverse_inj.mp sides),
    String.toList_inj.mp (List.reverse_inj.mp fronts)⟩

end Cut

theorem joined_cons (first : String) {rest : List String} (more : rest ≠ []) :
    joined "_" (first :: rest) = first ++ "_" ++ joined "_" rest :=
  String.intercalate_cons_of_ne_nil more

theorem joined_concat {front : List String} (more : front ≠ []) (last : String) :
    joined "_" (front ++ [last]) = joined "_" front ++ "_" ++ last := by
  rw [joined, String.intercalate_append_of_ne_nil more (by simp), String.intercalate_singleton]
  rfl

/-- Whole texts behind one other text can be cut off. -/
theorem joined_cons_injective {first second : String} {rest others : List String}
    (length : rest.length = others.length) (restWhole : ∀ text ∈ rest, Whole text)
    (othersWhole : ∀ text ∈ others, Whole text)
    (same : joined "_" (first :: rest) = joined "_" (second :: others)) :
    first = second ∧ rest = others := by
  induction rest using List.reverseRecOn generalizing others with
  | nil =>
      obtain rfl := List.length_eq_zero_iff.mp length.symm
      exact ⟨by simpa [joined] using same, rfl⟩
  | append_singleton front last hypothesis =>
      obtain rfl | ⟨tail, final, rfl⟩ := List.eq_nil_or_concat others
      · simp at length
      · rw [List.concat_eq_append] at length othersWhole same ⊢
        rw [← List.cons_append, ← List.cons_append, joined_concat (by simp),
          joined_concat (by simp)] at same
        obtain ⟨fronts, rfl⟩ := cut_last (restWhole last (by simp)) (othersWhole final (by simp))
          same
        have shorter : front.length = tail.length := by simpa using length
        obtain ⟨rfl, rfl⟩ := hypothesis shorter
          (fun text inside => restWhole text (List.mem_append_left _ inside))
          (fun text inside => othersWhole text (List.mem_append_left _ inside)) fronts
        exact ⟨rfl, rfl⟩

/-- The joined text is made of its two ends and of what stands between them. -/
theorem joined_ends (first last : String) (middle : List String) :
    joined "_" (first :: middle ++ [last]) =
      first ++ joined "_" ("" :: middle ++ [""]) ++ last := by
  have left : joined "_" (first :: middle) = first ++ joined "_" ("" :: middle) := by
    have moved : joined "_" ((first ++ "") :: middle) = first ++ joined "_" ("" :: middle) :=
      String.intercalate_cons_append
    simpa using moved
  rw [joined_concat (by simp), joined_concat (by simp), left]
  simp [String.append_assoc]

/-- Texts between others may be replaced by texts that join to the same. -/
theorem joined_congr {inner other : List String} (some : inner ≠ []) (otherSome : other ≠ [])
    (same : joined "_" inner = joined "_" other) (before after : List String) :
    joined "_" (before ++ inner ++ after) = joined "_" (before ++ other ++ after) := by
  have behind : joined "_" (inner ++ after) = joined "_" (other ++ after) := by
    by_cases ended : after = []
    · simpa [ended] using same
    · unfold joined at same ⊢
      rw [String.intercalate_append_of_ne_nil some ended,
        String.intercalate_append_of_ne_nil otherSome ended, same]
  rw [List.append_assoc, List.append_assoc]
  induction before with
  | nil => exact behind
  | cons text rest hypothesis =>
      rw [List.cons_append, List.cons_append, joined_cons _ (by simp [some]),
        joined_cons _ (by simp [otherSome]), hypothesis]

end Tablewright.Text
