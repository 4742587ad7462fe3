import Tablewright.Annotation.Block
import Tablewright.Proofs.Text.Phrases

namespace Tablewright.Annotation

/-- A comment block starts with this mark. -/
def openingMark : List Char := ['/', '*']

/-- A comment block ends with this mark. -/
def closingMark : List Char := ['*', '/']

section Marks

variable {left right : List Char}

/-- A character outside a mark keeps texts apart in which the mark does not occur. -/
theorem not_infix_cut {mark : List Char} {border : Char} (outside : border ∉ mark)
    (leftFree : ¬ mark <:+: left) (rightFree : ¬ mark <:+: right) :
    ¬ mark <:+: left ++ border :: right := by
  rw [Text.infix_cut_iff outside, not_or]
  exact ⟨leftFree, rightFree⟩

theorem not_infix_of_cons {mark : List Char} {first : Char}
    (free : ¬ mark <:+: first :: right) : ¬ mark <:+: right :=
  fun inside => free (List.infix_cons inside)

end Marks

/-- A block goes up to the first closing mark, also where its content ends with a part of one. -/
theorem upToClose_append {content : List Char} (free : ¬ closingMark <:+: content)
    (rest : List Char) : upToClose (content ++ closingMark ++ rest) = some (content, rest) := by
  induction content with
  | nil => simp [upToClose, closingMark]
  | cons first tail hypothesis =>
      have later := hypothesis (not_infix_of_cons free)
      cases tail with
      | nil => simp [upToClose, closingMark]
      | cons second others =>
          have inside : ¬ (first = '*' ∧ second = '/') := by
            rintro ⟨rfl, rfl⟩
            exact free ⟨[], others, rfl⟩
          simp only [List.cons_append] at later ⊢
          rw [upToClose, if_neg inside, later]
          rfl

/-- Text without an opening mark opens no block, also not together with the text behind it, when
it does not end with the first half of a mark that goes on there. -/
theorem blocks_seam {front rest : List Char} (free : ¬ openingMark <:+: front)
    (seam : ¬ (front.getLast? = some '/' ∧ rest.head? = some '*')) :
    blocks (front ++ rest) = blocks rest := by
  induction front with
  | nil => rfl
  | cons first tail hypothesis =>
      cases tail with
      | nil =>
          cases rest with
          | nil => simp [blocks]
          | cons second others =>
              have closed : ¬ (first = '/' ∧ second = '*') := by
                rintro ⟨rfl, rfl⟩
                exact seam ⟨rfl, rfl⟩
              rw [List.singleton_append, blocks, if_neg closed]
      | cons second others =>
          have later := hypothesis (not_infix_of_cons free)
            (by rwa [List.getLast?_cons_cons] at seam)
          have closed : ¬ (first = '/' ∧ second = '*') := by
            rintro ⟨rfl, rfl⟩
            exact free ⟨[], others, rfl⟩
          rw [← later, List.cons_append, List.cons_append, blocks, if_neg closed]

/-- Text without an opening mark before a block does not open one. -/
theorem blocks_append {filler : List Char} (free : ¬ openingMark <:+: filler)
    (rest : List Char) :
    blocks (filler ++ openingMark ++ rest) = blocks (openingMark ++ rest) := by
  rw [List.append_assoc]
  exact blocks_seam free (by simp [openingMark])

/-- A text without an opening mark has no blocks. -/
theorem blocks_of_free {text : List Char} (free : ¬ openingMark <:+: text) : blocks text = [] := by
  induction text with
  | nil => rw [blocks]
  | cons first tail hypothesis =>
      have later := hypothesis (not_infix_of_cons free)
      cases tail with
      | nil => rw [blocks]
      | cons second others =>
          have closed : ¬ (first = '/' ∧ second = '*') := by
            rintro ⟨rfl, rfl⟩
            exact free ⟨[], others, rfl⟩
          rw [blocks, if_neg closed, later]

/-- After text without an opening mark the first block is the one that follows. -/
theorem blocks_block {filler content : List Char} (fillerFree : ¬ openingMark <:+: filler)
    (contentFree : ¬ closingMark <:+: content) (rest : List Char) :
    blocks (filler ++ openingMark ++ content ++ closingMark ++ rest) = content :: blocks rest := by
  have closes := upToClose_append contentFree rest
  rw [List.append_assoc, List.append_assoc, blocks_append fillerFree, openingMark]
  simp only [List.cons_append, List.nil_append]
  rw [blocks, if_pos ⟨rfl, rfl⟩]
  rw [List.append_assoc] at closes
  split
  · next found =>
      obtain ⟨rfl, rfl⟩ := Prod.mk.inj (Option.some.inj (closes.symm.trans found))
      rfl
  · next none => cases closes.symm.trans none

/-- A text has blocks when they are cut out of it from the left. A block starts at the first
opening mark and goes up to the first closing mark behind it. There are no blocks behind an opening
mark that is not closed. -/
inductive Blocked : List Char → List (List Char) → Prop
  | none {text : List Char} (free : ¬ openingMark <:+: text) : Blocked text []
  | unclosed {front body : List Char} (frontFree : ¬ openingMark <:+: front)
      (bodyFree : ¬ closingMark <:+: body) : Blocked (front ++ openingMark ++ body) []
  | block {front content rest : List Char} {others : List (List Char)}
      (frontFree : ¬ openingMark <:+: front) (contentFree : ¬ closingMark <:+: content)
      (later : Blocked rest others) :
      Blocked (front ++ openingMark ++ content ++ closingMark ++ rest) (content :: others)

/-- A mark in a text has a first place. -/
theorem exists_first {mark text : List Char} (some : mark ≠ []) (inside : mark <:+: text) :
    ∃ front rest, text = front ++ mark ++ rest ∧ ¬ mark <:+: front := by
  obtain ⟨front, rest, rfl⟩ := inside
  induction length : front.length using Nat.strong_induction_on generalizing front rest with
  | _ size hypothesis =>
      by_cases earlier : mark <:+: front
      · obtain ⟨before, between, rfl⟩ := earlier
        have shorter : before.length < size := by
          have filled := List.length_pos_iff.mpr some
          rw [← length, List.length_append, List.length_append]
          omega
        obtain ⟨first, others, same, free⟩ :=
          hypothesis _ shorter before (between ++ mark ++ rest) rfl
        exact ⟨first, others, by rw [← same]; simp, free⟩
      · exact ⟨front, rest, rfl, earlier⟩

theorem upToClose_of_free {text : List Char} (free : ¬ closingMark <:+: text) :
    upToClose text = none := by
  induction text with
  | nil => rfl
  | cons first tail hypothesis =>
      have later := hypothesis (not_infix_of_cons free)
      cases tail with
      | nil => rfl
      | cons second others =>
          have unended : ¬ (first = '*' ∧ second = '/') := by
            rintro ⟨rfl, rfl⟩
            exact free ⟨[], others, rfl⟩
          rw [upToClose, if_neg unended, later]
          rfl

/-- An opening mark that is not closed ends the scan. -/
theorem blocks_unclosed {front body : List Char} (frontFree : ¬ openingMark <:+: front)
    (bodyFree : ¬ closingMark <:+: body) : blocks (front ++ openingMark ++ body) = [] := by
  rw [blocks_append frontFree, openingMark]
  simp only [List.cons_append, List.nil_append]
  rw [blocks, if_pos ⟨rfl, rfl⟩]
  split
  · next found => cases (upToClose_of_free bodyFree).symm.trans found
  · rfl

/-- The scan finds the blocks that a text has. -/
theorem blocked_blocks (text : List Char) : Blocked text (blocks text) := by
  induction length : text.length using Nat.strong_induction_on generalizing text with
  | _ size hypothesis =>
      by_cases opened : openingMark <:+: text
      · obtain ⟨front, body, rfl, frontFree⟩ := exists_first (by simp [openingMark]) opened
        by_cases closed : closingMark <:+: body
        · obtain ⟨content, rest, rfl, contentFree⟩ := exists_first (by simp [closingMark]) closed
          have shorter : rest.length < size := by
            rw [← length]
            simp [openingMark]
            omega
          have whole : front ++ openingMark ++ (content ++ closingMark ++ rest) =
              front ++ openingMark ++ content ++ closingMark ++ rest := by simp
          rw [whole, blocks_block frontFree contentFree rest]
          exact .block frontFree contentFree (hypothesis _ shorter rest rfl)
        · rw [blocks_unclosed frontFree closed]
          exact .unclosed frontFree closed
      · rw [blocks_of_free opened]
        exact .none opened

end Tablewright.Annotation
