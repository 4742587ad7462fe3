import Tablewright.Text.WhiteSpace

namespace Tablewright.Text

section Pieces

variable {separates : Char → Bool} {text left right : List Char} {separator : Char}

/-- A text without separators is one piece. -/
theorem pieces_of_whole (whole : ∀ character ∈ text, separates character = false) :
    pieces separates text = [text] := by
  induction text with
  | nil => rfl
  | cons character rest hypothesis =>
      rw [List.forall_mem_cons] at whole
      simp [pieces, whole.1, hypothesis whole.2]

theorem pieces_ne_nil (separates : Char → Bool) (text : List Char) :
    pieces separates text ≠ [] := by
  cases text with
  | nil => simp [pieces]
  | cons character rest =>
      rw [pieces]
      split
      · simp
      · split <;> simp

/-- A separator cuts a text into the pieces before it and those behind it. -/
theorem pieces_append (left right : List Char) (separated : separates separator = true) :
    pieces separates (left ++ separator :: right) =
      pieces separates left ++ pieces separates right := by
  induction left with
  | nil => simp [pieces, separated]
  | cons character rest hypothesis =>
      rw [List.cons_append, pieces, pieces, hypothesis]
      split
      · rfl
      · obtain ⟨piece, others, parted⟩ :=
          List.exists_cons_of_ne_nil (pieces_ne_nil separates rest)
        rw [parted]
        rfl

theorem pieces_eq_splitOnP (separates : Char → Bool) (text : List Char) :
    pieces separates text = text.splitOnP separates := by
  induction text with
  | nil => rfl
  | cons character rest hypothesis =>
      obtain ⟨piece, others, parted⟩ :=
        List.exists_cons_of_ne_nil (List.splitOnP_ne_nil separates rest)
      rw [pieces, List.splitOnP_cons_eq_if_modifyHead, hypothesis, parted]
      rfl

/-- The first separator ends the first piece. -/
theorem pieces_cut (whole : ∀ character ∈ left, separates character = false)
    (separated : separates separator = true) :
    pieces separates (left ++ separator :: right) = left :: pieces separates right := by
  rw [pieces_append left right separated, pieces_of_whole whole]
  rfl

/-- No piece has a separator in it. -/
theorem whole_of_pieces {piece : List Char} {character : Char}
    (among : piece ∈ pieces separates text) (inside : character ∈ piece) :
    separates character = false := by
  induction text generalizing piece with
  | nil =>
      obtain rfl := List.mem_singleton.mp among
      cases inside
  | cons first rest hypothesis =>
      rw [pieces] at among
      split at among
      case isTrue =>
        rcases List.mem_cons.mp among with rfl | later
        · cases inside
        · exact hypothesis later inside
      case isFalse kept =>
        split at among
        case h_1 =>
          obtain rfl := List.mem_singleton.mp among
          obtain rfl := List.mem_singleton.mp inside
          exact eq_false_of_ne_true kept
        case h_2 head others parted =>
          rcases List.mem_cons.mp among with rfl | later
          · rcases List.mem_cons.mp inside with rfl | behind
            · exact eq_false_of_ne_true kept
            · exact hypothesis (parted ▸ List.mem_cons_self) behind
          · exact hypothesis (parted ▸ List.mem_cons_of_mem _ later) inside

/-- Pieces are made of the characters of their text. -/
theorem mem_of_pieces {piece : List Char} {character : Char}
    (among : piece ∈ pieces separates text) (inside : character ∈ piece) : character ∈ text := by
  induction text generalizing piece with
  | nil =>
      obtain rfl := List.mem_singleton.mp among
      cases inside
  | cons first rest hypothesis =>
      rw [pieces] at among
      split at among
      case isTrue =>
        rcases List.mem_cons.mp among with rfl | later
        · cases inside
        · exact List.mem_cons_of_mem _ (hypothesis later inside)
      case isFalse =>
        split at among
        case h_1 =>
          obtain rfl := List.mem_singleton.mp among
          exact List.mem_singleton.mp inside ▸ List.mem_cons_self
        case h_2 head others parted =>
          rcases List.mem_cons.mp among with rfl | later
          · rcases List.mem_cons.mp inside with rfl | behind
            · exact List.mem_cons_self
            · exact List.mem_cons_of_mem _ (hypothesis (parted ▸ List.mem_cons_self) behind)
          · exact List.mem_cons_of_mem _
              (hypothesis (parted ▸ List.mem_cons_of_mem _ later) inside)

/-- Pieces together hold everything but the separators. -/
theorem flatten_pieces (separates : Char → Bool) (text : List Char) :
    (pieces separates text).flatten = text.filter fun character => !separates character := by
  induction text with
  | nil => rfl
  | cons character rest hypothesis =>
      rw [pieces]
      split
      case isTrue separated => simp [separated, hypothesis]
      case isFalse kept =>
        split
        case h_1 parted => simp [kept, ← hypothesis, parted]
        case h_2 head others parted => simp [kept, ← hypothesis, parted]

/-- Parts that are not empty are put together behind the start of the first one. -/
theorem head_intercalate {between : List Char} {parts : List (List Char)}
    (some : ∀ part ∈ parts, part ≠ []) :
    (List.intercalate between parts).head? = parts.flatten.head? := by
  cases parts with
  | nil => rfl
  | cons part rest =>
      obtain ⟨first, others, rfl⟩ := List.exists_cons_of_ne_nil (some part List.mem_cons_self)
      by_cases last : rest = []
      · simp [last]
      · simp [List.intercalate_cons_of_ne_nil last]

theorem mem_of_intercalate {between : List Char} {parts : List (List Char)} {character : Char}
    (inside : character ∈ List.intercalate between parts) :
    character ∈ between ∨ ∃ part ∈ parts, character ∈ part := by
  induction parts with
  | nil => cases inside
  | cons part rest hypothesis =>
      by_cases last : rest = []
      · subst last
        exact .inr ⟨part, List.mem_cons_self, by simpa using inside⟩
      · rw [List.intercalate_cons_of_ne_nil last, List.append_assoc, List.mem_append,
          List.mem_append] at inside
        rcases inside with own | outside | later
        · exact .inr ⟨part, List.mem_cons_self, own⟩
        · exact .inl outside
        · rcases hypothesis later with outside | ⟨other, among, own⟩
          · exact .inl outside
          · exact .inr ⟨other, List.mem_cons_of_mem _ among, own⟩

theorem map_intercalate {α β : Type} (change : α → β) (between : List α) (parts : List (List α)) :
    (List.intercalate between parts).map change =
      List.intercalate (between.map change) (parts.map (List.map change)) := by
  induction parts with
  | nil => rfl
  | cons part rest hypothesis =>
      by_cases last : rest = []
      · subst last
        simp
      · have others : rest.map (List.map change) ≠ [] := by simpa using last
        rw [List.intercalate_cons_of_ne_nil last, List.map_append, List.map_append, hypothesis,
          List.map_cons, List.intercalate_cons_of_ne_nil others]

/-- Pieces that were put together with a separator fall apart again. -/
theorem pieces_intercalate {parts : List (List Char)} (some : parts ≠ [])
    (whole : ∀ part ∈ parts, separator ∉ part) :
    pieces (· == separator) (List.intercalate [separator] parts) = parts := by
  have kept : ∀ {part : List Char}, separator ∉ part →
      ∀ character ∈ part, (character == separator) = false := by
    intro part absent character inside
    rw [beq_eq_false_iff_ne]
    exact fun same => absent (same ▸ inside)
  induction parts with
  | nil => exact absurd rfl some
  | cons part rest hypothesis =>
      rw [List.forall_mem_cons] at whole
      cases rest with
      | nil => simpa using pieces_of_whole (kept whole.1)
      | cons second others =>
          rw [List.intercalate_cons_of_ne_nil (by simp), List.append_assoc,
            List.singleton_append, pieces_cut (kept whole.1) (by simp),
            hypothesis (by simp) whole.2]

end Pieces

section Leads

variable {lead text : List Char}

theorem withoutLeads_of_not_prefix (other : ¬ lead <+: text) (fuel : Nat) :
    withoutLeads lead fuel text = text := by
  cases fuel with
  | zero => rfl
  | succ fuel =>
      rw [withoutLeads, if_neg]
      exact fun starts => other (List.isPrefixOf_iff_prefix.mp starts.2)

theorem withoutLeads_append (some : lead ≠ []) (fuel : Nat) :
    withoutLeads lead (fuel + 1) (lead ++ text) = withoutLeads lead fuel text := by
  have starts : lead.isPrefixOf (lead ++ text) = true :=
    List.isPrefixOf_iff_prefix.mpr (List.prefix_append lead text)
  rw [withoutLeads, if_pos ⟨some, starts⟩, List.drop_left]

end Leads

section Words

variable {text left right : List Char} {space : Char}

theorem words_of_whole (some : text ≠ [])
    (whole : ∀ character ∈ text, isWhiteSpace character = false) : words text = [text] := by
  simp [words, pieces_of_whole whole, some]

/-- The first white space ends the first word. -/
theorem words_cut (some : left ≠ [])
    (whole : ∀ character ∈ left, isWhiteSpace character = false)
    (white : isWhiteSpace space = true) : words (left ++ space :: right) = left :: words right := by
  simp [words, pieces_cut whole white, some]

theorem dropWhile_of_head (starts : ∀ character ∈ text.head?, isWhiteSpace character = false) :
    text.dropWhile isWhiteSpace = text := by
  cases text with
  | nil => rfl
  | cons first rest => simp [starts first rfl]

/-- What is cut off at the end is white space, and none is left there. -/
theorem trimEnd_cut (text : List Char) :
    ∃ blank, text = trimEnd text ++ blank ∧
      (∀ character ∈ blank, isWhiteSpace character = true) ∧
      ∀ character ∈ (trimEnd text).getLast?, isWhiteSpace character = false := by
  have parts := List.takeWhile_append_dropWhile (p := isWhiteSpace) (l := text.reverse)
  refine ⟨(text.reverse.takeWhile isWhiteSpace).reverse, ?_, ?_, ?_⟩
  · rw [trimEnd, ← List.reverse_append, parts, List.reverse_reverse]
  · intro character inside
    exact List.all_eq_true.mp List.all_takeWhile character (List.mem_reverse.mp inside)
  · intro character last
    rw [trimEnd, List.getLast?_reverse] at last
    have head := List.head?_dropWhile_not isWhiteSpace text.reverse
    rw [Option.mem_def.mp last] at head
    simpa using head

/-- A text that neither starts nor ends with white space is trimmed already. -/
theorem trim_of_ends (starts : ∀ character ∈ text.head?, isWhiteSpace character = false)
    (ends : ∀ character ∈ text.getLast?, isWhiteSpace character = false) : trim text = text := by
  rw [← List.head?_reverse] at ends
  rw [trim, dropWhile_of_head starts, trimEnd, dropWhile_of_head ends, List.reverse_reverse]

end Words

end Tablewright.Text
