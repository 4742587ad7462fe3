import Tablewright.Proofs.Text.Pieces
import Tablewright.Text.CaseStyle

namespace Tablewright.Text

/-- Every rule leads behind the parenthesis. -/
theorem target_lowerCaseRules : ∀ rule ∈ lowerCaseRules, '('.toNat < rule.target := by
  decide +kernel

theorem parenthesis_of_toLower {character : Char} (same : character.toLower = '(') :
    character = '(' := by
  unfold Char.toLower at same
  split at same
  case isTrue upper =>
    have codes := congrArg Char.val same
    have above := upper.1
    have below := upper.2
    simp at codes
    grind
  case isFalse => exact same

theorem code_of_parenthesis {code : Nat} (same : Char.ofNat code = '(') : code = '('.toNat := by
  by_cases valid : code.isValidChar
  · have taken : Char.ofNat code = Char.ofNatAux code valid := dif_pos valid
    exact congrArg Char.toNat (taken.symm.trans same)
  · have zero : Char.ofNat code = '\x00' := dif_neg valid
    exact absurd (zero.symm.trans same) (by decide)

/-- Nothing else is a parenthesis in lower case. -/
theorem parenthesis_of_lowerCaseOf {character : Char} (inside : '(' ∈ lowerCaseOf character) :
    character = '(' := by
  unfold lowerCaseOf at inside
  split at inside
  · exact parenthesis_of_toLower (List.mem_singleton.mp inside).symm
  · split at inside
    · exact absurd inside (by decide)
    · split at inside
      case h_1 code found =>
        obtain ⟨rule, among, target⟩ := List.exists_of_findSome?_eq_some found
        have same := code_of_parenthesis (List.mem_singleton.mp inside).symm
        have behind := target_lowerCaseRules rule among
        unfold CaseRule.target? at target
        split at target
        · cases target
          omega
        · cases target
      case h_2 => exact (List.mem_singleton.mp inside).symm

namespace CaseStyle

theorem parenthesis_of_lowerWord {word : List Char} (inside : '(' ∈ lowerWord word) :
    '(' ∈ word := by
  fun_induction lowerWord word with
  | case1 => cases inside
  | case2 last sigma => exact absurd inside (by decide)
  | case3 last plain => exact List.mem_singleton.mpr (parenthesis_of_lowerCaseOf inside).symm
  | case4 first rest more hypothesis =>
      rcases List.mem_append.mp inside with here | later
      · exact parenthesis_of_lowerCaseOf here ▸ List.mem_cons_self
      · exact List.mem_cons_of_mem _ (hypothesis later)

/-- Words are made of the characters that are read. -/
theorem mem_of_cut {mode : Mode} {word text part : List Char} {character : Char}
    (among : part ∈ cut mode word text) (inside : character ∈ part) :
    character ∈ word ∨ character ∈ text := by
  fun_induction cut mode word text with
  | case1 => cases among
  | case2 mode word last =>
      obtain rfl := List.mem_singleton.mp among
      exact List.mem_append.mp inside
  | case3 mode word first next rest ends hypothesis =>
      rcases List.mem_cons.mp among with rfl | later
      · rcases List.mem_append.mp inside with read | here
        · exact .inl read
        · exact .inr (List.mem_singleton.mp here ▸ List.mem_cons_self)
      · have behind := (hypothesis later).resolve_left List.not_mem_nil
        exact .inr (List.mem_cons_of_mem _ behind)
  | case4 mode word first next rest goesOn ends hypothesis =>
      rcases List.mem_cons.mp among with rfl | later
      · exact .inl inside
      · rcases hypothesis later with here | behind
        · exact .inr (List.mem_singleton.mp here ▸ List.mem_cons_self)
        · exact .inr (List.mem_cons_of_mem _ behind)
  | case5 mode word first next rest goesOn joins hypothesis =>
      rcases hypothesis among with read | behind
      · rcases List.mem_append.mp read with read | here
        · exact .inl read
        · exact .inr (List.mem_singleton.mp here ▸ List.mem_cons_self)
      · exact .inr (List.mem_cons_of_mem _ behind)

/-- Words together are the text that is read, behind what was read before. -/
theorem flatten_cut (mode : Mode) (word : List Char) {text : List Char} (some : text ≠ []) :
    (cut mode word text).flatten = word ++ text := by
  fun_induction cut mode word text with
  | case1 => exact absurd rfl some
  | case2 mode word last => simp
  | case3 mode word first next rest ends hypothesis => simp [hypothesis]
  | case4 mode word first next rest goesOn ends hypothesis => simp [hypothesis]
  | case5 mode word first next rest goesOn joins hypothesis => simp [hypothesis]

/-- No word is empty, as a run of upper case characters has a character. -/
theorem nonempty_of_cut {mode : Mode} {word text part : List Char}
    (started : mode = .upper → word ≠ []) (among : part ∈ cut mode word text) : part ≠ [] := by
  fun_induction cut mode word text with
  | case1 => cases among
  | case2 mode word last =>
      obtain rfl := List.mem_singleton.mp among
      simp
  | case3 mode word first next rest ends hypothesis =>
      rcases List.mem_cons.mp among with rfl | later
      · simp
      · exact hypothesis (by simp) later
  | case4 mode word first next rest goesOn ends hypothesis =>
      rcases List.mem_cons.mp among with rfl | later
      · exact started ends.1
      · exact hypothesis (by simp) later
  | case5 mode word first next rest goesOn joins hypothesis =>
      exact hypothesis (by simp) among

/-- The words of a name together are its alphanumeric characters. -/
theorem flatten_nameWords (name : List Char) :
    (nameWords name).flatten = name.filter isAlphanumeric := by
  have whole : ∀ piece : List Char, (cut .boundary [] piece).flatten = piece := by
    intro piece
    by_cases empty : piece = []
    · rw [empty, cut]
      rfl
    · exact flatten_cut .boundary [] empty
  have cuts : (fun piece => (cut .boundary [] piece).flatMap id) = id :=
    funext fun piece => List.flatten_eq_flatMap.symm.trans (whole piece)
  rw [nameWords, List.flatten_eq_flatMap, List.flatMap_assoc, cuts, ← List.flatten_eq_flatMap,
    flatten_pieces]
  simp

theorem nonempty_nameWords {name word : List Char} (among : word ∈ nameWords name) : word ≠ [] := by
  obtain ⟨piece, _, among⟩ := List.mem_flatMap.mp among
  exact nonempty_of_cut (by simp) among

/-- A word has no parenthesis, which is not alphanumeric. -/
theorem parenthesis_nameWords {name word : List Char} (among : word ∈ nameWords name) :
    '(' ∉ word := by
  intro inside
  obtain ⟨piece, part, among⟩ := List.mem_flatMap.mp among
  rcases mem_of_cut among inside with read | within
  · cases read
  · exact absurd (whole_of_pieces part within) (by decide +kernel)

end CaseStyle

/-- A name in snake case has no parenthesis. -/
theorem parenthesis_snakeCase (name : String) : '(' ∉ (snakeCase name).toList := by
  intro inside
  rw [snakeCase, String.toList_ofList] at inside
  rcases mem_of_intercalate inside with between | ⟨part, among, within⟩
  · exact absurd between (by decide)
  · obtain ⟨word, named, rfl⟩ := List.mem_map.mp among
    exact CaseStyle.parenthesis_nameWords named (CaseStyle.parenthesis_of_lowerWord within)

end Tablewright.Text
