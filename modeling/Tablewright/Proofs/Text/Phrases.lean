import Mathlib.Data.List.Infix
import Tablewright.Proofs.Text.Pieces

namespace Tablewright.Text

section Pieces

variable {separates : Char → Bool} {phrase text left right : List Char} {separator : Char}

/-- A text has no separator, or it is cut at its first one. -/
theorem whole_or_cut (separates : Char → Bool) (text : List Char) :
    (∀ character ∈ text, separates character = false) ∨
      ∃ left separator right, text = left ++ separator :: right ∧
        (∀ character ∈ left, separates character = false) ∧ separates separator = true := by
  induction text with
  | nil => simp
  | cons first rest hypothesis =>
      by_cases separated : separates first = true
      · exact .inr ⟨[], first, rest, rfl, by simp, separated⟩
      · have kept : separates first = false := by simpa using separated
        obtain whole | ⟨left, separator, right, rfl, whole, found⟩ := hypothesis
        · exact .inl (List.forall_mem_cons.mpr ⟨kept, whole⟩)
        · exact .inr ⟨first :: left, separator, right, rfl,
            List.forall_mem_cons.mpr ⟨kept, whole⟩, found⟩

/-- A phrase without a separator stands on one side of it. -/
theorem infix_cut_iff (outside : separator ∉ phrase) :
    phrase <:+: left ++ separator :: right ↔ phrase <:+: left ∨ phrase <:+: right := by
  constructor
  · intro inside
    rw [List.infix_append_iff, List.infix_cons_iff] at inside
    obtain before | (start | after) | ⟨front, back, rfl, atEnd, atStart⟩ := inside
    · exact .inl before
    · cases phrase with
      | nil => exact .inl List.nil_infix
      | cons first rest =>
          obtain ⟨rfl, _⟩ := List.cons_prefix_cons.mp start
          exact absurd List.mem_cons_self outside
    · exact .inr after
    · cases back with
      | nil => exact .inl (by simpa using atEnd.isInfix)
      | cons first rest =>
          obtain ⟨rfl, _⟩ := List.cons_prefix_cons.mp atStart
          exact absurd (List.mem_append_right front List.mem_cons_self) outside
  · rintro (before | after)
    · exact before.trans (List.prefix_append left _).isInfix
    · exact after.trans ((List.suffix_cons separator right).trans
        (List.suffix_append left _)).isInfix

/-- A phrase without separators stands in a text exactly if it stands in one of its pieces. -/
theorem infix_iff_pieces (whole : ∀ character ∈ phrase, separates character = false) :
    phrase <:+: text ↔ ∃ piece ∈ pieces separates text, phrase <:+: piece := by
  induction length : text.length using Nat.strong_induction_on generalizing text with
  | _ size hypothesis =>
      obtain single | ⟨left, separator, right, rfl, leftWhole, separated⟩ :=
        whole_or_cut separates text
      · simp [pieces_of_whole single]
      · have outside : separator ∉ phrase := fun inside => by
          simpa [separated] using whole separator inside
        have shorter : right.length < size := by
          rw [← length, List.length_append, List.length_cons]
          omega
        rw [pieces_cut leftWhole separated, infix_cut_iff outside, hypothesis _ shorter rfl]
        simp

end Pieces

section Trimming

variable {phrase text : List Char}

/-- A phrase is found in a text exactly if it stands anywhere in it. -/
theorem contains_iff : contains phrase text = true ↔ phrase <:+: text := by
  induction text with
  | nil => simp [contains]
  | cons character rest hypothesis =>
      rw [contains, Bool.or_eq_true, List.isPrefixOf_iff_prefix, hypothesis,
        List.infix_cons_iff]

/-- A phrase stays when characters are dropped that it does not have. -/
theorem infix_dropWhile_iff {drops : Char → Bool} (some : phrase ≠ [])
    (kept : ∀ character ∈ phrase, drops character = false) :
    phrase <:+: text.dropWhile drops ↔ phrase <:+: text := by
  induction text with
  | nil => simp
  | cons first rest hypothesis =>
      by_cases dropped : drops first = true
      · have later : ¬ phrase <+: first :: rest := by
          intro start
          cases phrase with
          | nil => exact some rfl
          | cons head tail =>
              obtain ⟨rfl, _⟩ := List.cons_prefix_cons.mp start
              simpa [dropped] using kept head List.mem_cons_self
        simp [dropped, hypothesis, List.infix_cons_iff, later]
      · simp [dropped]

/-- Trimming keeps a phrase without white space. -/
theorem infix_trim_iff (some : phrase ≠ [])
    (solid : ∀ character ∈ phrase, isWhiteSpace character = false) :
    phrase <:+: trim text ↔ phrase <:+: text := by
  have backwards : phrase.reverse ≠ [] := by simpa using some
  have backwardsSolid : ∀ character ∈ phrase.reverse, isWhiteSpace character = false := by
    simpa using solid
  rw [trim, trimEnd, ← List.reverse_infix, List.reverse_reverse,
    infix_dropWhile_iff backwards backwardsSolid, List.reverse_infix,
    infix_dropWhile_iff some solid]

/-- An item of a text with commas has a phrase exactly if the text has it. -/
theorem infix_iff_items (some : phrase ≠ []) (noComma : ',' ∉ phrase)
    (solid : ∀ character ∈ phrase, isWhiteSpace character = false) :
    phrase <:+: text ↔ ∃ item ∈ pieces (· == ',') text, phrase <:+: trim item := by
  have whole : ∀ character ∈ phrase, (character == ',') = false := by
    intro character inside
    rw [beq_eq_false_iff_ne]
    exact fun same => noComma (same ▸ inside)
  rw [infix_iff_pieces whole]
  simp only [infix_trim_iff some solid]

end Trimming

end Tablewright.Text
