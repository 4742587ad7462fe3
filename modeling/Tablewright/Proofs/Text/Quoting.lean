import Mathlib.Algebra.Group.Nat.Defs
import Tablewright.Annotation.Block
import Tablewright.Declaration.Literal
import Tablewright.Proofs.Text.Lines
import Tablewright.Text.Quoted

namespace Tablewright.Text.Quoted

open Annotation (isLineEnd)
open Declaration Declaration.Lexeme Declaration.Literal

section Hexadecimal

theorem hexadecimal_digit {digit : Nat} (small : digit < 16) :
    hexadecimalValue? digit.digitChar = some digit ∧ digit.digitChar ≠ '_' ∧
      digit.digitChar ≠ '\x7d' ∧ isLineEnd digit.digitChar = false := by
  revert digit
  decide

/-- One more digit is read in front of the rest of an escape. -/
theorem codePoint?_digit {digit : Nat} (small : digit < 16) {digits : Nat} (room : digits < 6)
    (value : Nat) (rest : List Char) :
    codePoint? digits value (digit.digitChar :: rest) =
      (codePoint? (digits + 1) (value * 16 + digit) rest).map fun found =>
        (found.1, found.2 + 1) := by
  obtain ⟨read, noGap, noBrace, _⟩ := hexadecimal_digit small
  rw [codePoint?, if_neg (by simp [noGap]), if_neg (by simp [noBrace]), read]
  simp only [if_neg (Nat.ne_of_lt room)]

/-- The digits of a number are read behind those that were read before. -/
theorem codePoint?_hexadecimal (number digits value : Nat)
    (room : digits + (hexadecimal number).length ≤ 6) (rest : List Char) :
    codePoint? digits value (hexadecimal number ++ rest) =
      (codePoint? (digits + (hexadecimal number).length)
        (value * 16 ^ (hexadecimal number).length + number) rest).map fun found =>
          (found.1, found.2 + (hexadecimal number).length) := by
  unfold hexadecimal at room ⊢
  induction number using Nat.strongRecOn generalizing digits value rest with
  | _ number hypothesis =>
      by_cases small : number < 16
      · rw [Nat.toDigits_of_lt_base small] at room ⊢
        simpa using codePoint?_digit small room value rest
      · have split : Nat.toDigits 16 number =
            Nat.toDigits 16 (number / 16) ++ [(number % 16).digitChar] :=
          Nat.toDigits_of_base_le (by decide) (by omega)
        rw [split, List.length_append, List.length_singleton] at room ⊢
        have digit : number % 16 < 16 := Nat.mod_lt _ (by decide)
        have sum : (value * 16 ^ (Nat.toDigits 16 (number / 16)).length + number / 16) * 16 +
            number % 16 =
              value * 16 ^ ((Nat.toDigits 16 (number / 16)).length + 1) + number := by
          rw [Nat.pow_succ, Nat.add_mul, Nat.mul_assoc]
          omega
        rw [List.append_assoc, List.singleton_append,
          hypothesis _ (by omega) digits value (by omega), codePoint?_digit digit (by omega), sum,
          Option.map_map, Nat.add_assoc digits]
        congr 1
        funext found
        simp [Nat.add_assoc, Nat.add_comm 1]

theorem length_hexadecimal (character : Char) : (hexadecimal character.toNat).length ≤ 6 := by
  have small : character.toNat < 16 ^ 6 := by
    have valid : character.toNat.isValidChar := character.valid
    unfold Nat.isValidChar at valid
    omega
  exact (Nat.length_toDigits_le_iff (by decide) (by decide)).mpr small

theorem isLineEnd_hexadecimal (number : Nat) :
    ∀ character ∈ hexadecimal number, isLineEnd character = false := by
  unfold hexadecimal
  induction number using Nat.strongRecOn with
  | _ number hypothesis =>
      by_cases small : number < 16
      · rw [Nat.toDigits_of_lt_base small]
        simpa using (hexadecimal_digit small).2.2.2
      · rw [Nat.toDigits_of_base_le (by decide) (by omega), List.forall_mem_append]
        refine ⟨hypothesis _ (by omega), ?_⟩
        simpa using (hexadecimal_digit (Nat.mod_lt number (by decide))).2.2.2

end Hexadecimal

/-- A character is written in one of three ways, whatever characters count as printable. -/
inductive Escapes (character : Char) : List Char → Prop
  | plain (unmarked : character ≠ '"' ∧ character ≠ '\\')
      (single : isLineEnd character = false) : Escapes character [character]
  | short {letter : Char} (listed : (letter, character) ∈ shortEscapes) :
      Escapes character ['\\', letter]
  | code : Escapes character (escapeCode character)

section Character

variable {character : Char} {written rest : List Char}

theorem escapes_escape (character : Char) : Escapes character (escape character) := by
  unfold escape
  simp only [beq_iff_eq]
  split
  · next same => subst same; exact .short (by decide)
  split
  · next same => subst same; exact .short (by decide)
  split
  · next same => subst same; exact .short (by decide)
  split
  · next same => subst same; exact .short (by decide)
  split
  · next same => subst same; exact .short (by decide)
  split
  · next same => subst same; exact .short (by decide)
  · next noReturn noFeed noSlash noQuote =>
      split
      · exact .plain ⟨noQuote, noSlash⟩ (by simp [isLineEnd, noReturn, noFeed])
      · exact .code

/-- The number of a character is read back, with the brace behind it. -/
theorem codePoint?_code (character : Char) (rest : List Char) :
    codePoint? 0 0 (hexadecimal character.toNat ++ '\x7d' :: rest) =
      some (character.toNat, (hexadecimal character.toNat).length + 1) := by
  have some : 0 < (hexadecimal character.toNat).length := Nat.length_toDigits_pos
  have valid : character.toNat.isValidChar := character.valid
  rw [codePoint?_hexadecimal _ _ _ (by simpa using length_hexadecimal character)]
  simp [codePoint?, some, valid, Nat.add_comm]

theorem unquoted_skip (front rest : List Char) :
    unquoted front.length (front ++ rest) = unquoted 0 rest := by
  induction front with
  | nil => rfl
  | cons first others hypothesis => exact hypothesis

theorem quotedLength_skip (front rest : List Char) :
    quotedLength .plain front.length (front ++ rest) =
      (quotedLength .plain 0 rest).map (· + front.length) := by
  induction front with
  | nil => simp
  | cons first others hypothesis =>
      rw [List.length_cons, List.cons_append, quotedLength, hypothesis, Option.map_map]
      rfl

/-- What stands behind the backslash is read as the character, and no more than that. -/
structure Unescapes (character : Char) (front : List Char) : Prop where
  value : ∀ rest, unescape (front ++ rest) = ([character], front.length)
  length : ∀ rest, escapeLength .plain (front ++ rest) = some front.length
  single : ∀ character ∈ front, isLineEnd character = false

theorem unescapes_short {letter : Char} (listed : (letter, character) ∈ shortEscapes) :
    Unescapes character [letter] := by
  have value : ∀ pair ∈ shortEscapes, ∀ rest, unescape (pair.1 :: rest) = ([pair.2], 1) := by
    simp [shortEscapes, unescape, List.lookup_cons]
  have length : ∀ pair ∈ shortEscapes, ∀ rest,
      escapeLength .plain (pair.1 :: rest) = some 1 := by
    simp [shortEscapes, escapeLength]
  have single : ∀ pair ∈ shortEscapes, isLineEnd pair.1 = false := by decide
  exact ⟨value _ listed, length _ listed, by simpa using single _ listed⟩

theorem unescapes_code (character : Char) : Unescapes character
    (['u', '\x7b'] ++ hexadecimal character.toNat ++ ['\x7d']) where
  value rest := by simp [unescape, codePoint?_code, Char.ofNat_toNat]
  length rest := by simp [escapeLength, codePoint?_code]
  single := by
    have digits := isLineEnd_hexadecimal character.toNat
    simp only [List.forall_mem_append]
    exact ⟨⟨by simp [isLineEnd], digits⟩, by simp [isLineEnd]⟩

/-- A written character stands for itself or behind a backslash. -/
theorem Escapes.cases (escapes : Escapes character written) :
    (written = [character] ∧ (character ≠ '"' ∧ character ≠ '\\') ∧
      isLineEnd character = false) ∨
    ∃ front, written = '\\' :: front ∧ Unescapes character front := by
  cases escapes with
  | plain unmarked single => exact .inl ⟨rfl, unmarked, single⟩
  | short listed => exact .inr ⟨_, rfl, unescapes_short listed⟩
  | code => exact .inr ⟨_, rfl, unescapes_code character⟩

/-- A written character is read as the character. -/
theorem unquoted_escape (character : Char) (rest : List Char) :
    unquoted 0 (escape character ++ rest) = character :: unquoted 0 rest := by
  obtain ⟨written, unmarked, single⟩ | ⟨front, written, unescapes⟩ :=
    (escapes_escape character).cases
  · have noReturn : character ≠ '\r' := by
      rintro rfl
      cases single
    rw [written]
    simp [unquoted, unmarked]
  · rw [written, List.cons_append, unquoted, unescapes.value]
    exact congrArg (character :: ·) (unquoted_skip front rest)

/-- A literal does not end inside a written character. -/
theorem quotedLength_escape (character : Char) (rest : List Char) :
    quotedLength .plain 0 (escape character ++ rest) =
      (quotedLength .plain 0 rest).map (· + (escape character).length) := by
  obtain ⟨written, unmarked, single⟩ | ⟨front, written, unescapes⟩ :=
    (escapes_escape character).cases
  · have noReturn : character ≠ '\r' := by
      rintro rfl
      cases single
    rw [written]
    simp [quotedLength, unmarked, TextKind.admits]
  · have noJoin : ¬ ((front ++ rest).head? = some '\n' ∨ (front ++ rest).head? = some '\r') := by
      cases front with
      | nil => cases unescapes.length []
      | cons first others =>
          have single := unescapes.single first List.mem_cons_self
          rintro (feed | back)
          · cases Option.some.inj feed
            cases single
          · cases Option.some.inj back
            cases single
    rw [written, List.cons_append, quotedLength]
    simp only [if_neg noJoin, unescapes.length, Option.bind_some, quotedLength_skip, Option.map_map]
    rfl

theorem isLineEnd_escape (character : Char) :
    ∀ other ∈ escape character, isLineEnd other = false := by
  obtain ⟨written, _, single⟩ | ⟨front, written, unescapes⟩ := (escapes_escape character).cases
  · simpa [written] using single
  · rw [written]
    exact List.forall_mem_cons.mpr ⟨by decide, unescapes.single⟩

end Character

section Texts

theorem unquoted_encode (text rest : List Char) :
    unquoted 0 (encode text ++ '"' :: rest) = text := by
  induction text with
  | nil => simp [encode, unquoted]
  | cons character others hypothesis =>
      unfold encode at hypothesis ⊢
      rw [List.flatMap_cons, List.append_assoc, unquoted_escape, hypothesis]

theorem quotedLength_encode (text rest : List Char) :
    quotedLength .plain 0 (encode text ++ rest) =
      (quotedLength .plain 0 rest).map (· + (encode text).length) := by
  induction text with
  | nil => simp [encode]
  | cons character others hypothesis =>
      unfold encode at hypothesis ⊢
      rw [List.flatMap_cons, List.append_assoc, quotedLength_escape, hypothesis, Option.map_map,
        List.length_append]
      congr 1
      funext length
      simp [Nat.add_assoc, Nat.add_comm (escape character).length]

theorem isLineEnd_encode (text : List Char) :
    ∀ character ∈ encode text, isLineEnd character = false := by
  intro character inside
  obtain ⟨one, _, written⟩ := List.mem_flatMap.mp inside
  exact isLineEnd_escape one character written

end Texts

end Quoted

open Annotation (isLineEnd)
open Declaration Declaration.Lexeme Declaration.Literal

/-- A literal denotes a text when the text is its value, and when it is read as one token whatever
stands behind it, a name that ends the literal apart. It stands on one line, and no quote before
its last one ends it. -/
structure Denotes (literal text : String) : Prop where
  value : textValue? literal = some text
  token : ∀ rest, textLiteralLength (literal.toList ++ rest) =
    some (literal.length + nameLength rest)
  single : ∀ character ∈ literal.toList, isLineEnd character = false
  closed : ∃ body, literal.toList = '"' :: body ++ ['"'] ∧ quotedLength .plain 0 body = none

theorem Denotes.one_line {literal text : String} (denotes : Denotes literal text) :
    Single literal := by
  intro inside
  cases denotes.single '\n' inside

theorem toList_quoted (text : String) :
    (quoted text).toList = '"' :: (Quoted.encode text.toList ++ ['"']) := by
  rw [quoted, String.toList_ofList, List.cons_append]

/-- The quoted form of a text denotes the text. -/
theorem denotes_quoted (text : String) : Denotes (quoted text) text where
  value := by
    rw [textValue?, toList_quoted]
    show some (String.ofList (unquoted 0 (Quoted.encode text.toList ++ ['"']))) = some text
    rw [Quoted.unquoted_encode, String.ofList_toList]
  token rest := by
    have ends : quotedLength .plain 0 (Quoted.encode text.toList ++ '"' :: rest) =
        some (1 + (Quoted.encode text.toList).length) := by
      rw [Quoted.quotedLength_encode, quotedLength]
      rfl
    have written : (quoted text).toList ++ rest =
        '"' :: (Quoted.encode text.toList ++ '"' :: rest) := by
      simp [toList_quoted]
    have length : (quoted text).length = 1 + (Quoted.encode text.toList).length + 1 := by
      rw [← String.length_toList, toList_quoted]
      simp [Nat.add_comm 1]
    have behind : ((quoted text).toList ++ rest).drop (quoted text).length = rest := by
      rw [← String.length_toList, List.drop_left]
    rw [length] at behind ⊢
    rw [written] at behind ⊢
    show (quotedLength .plain 0 (Quoted.encode text.toList ++ '"' :: rest)).map _ = _
    rw [ends, Option.map_some, withEnding, behind]
  single := by
    rw [toList_quoted, List.forall_mem_cons, List.forall_mem_append]
    exact ⟨by decide, Quoted.isLineEnd_encode _, by simp [isLineEnd]⟩
  closed := by
    refine ⟨Quoted.encode text.toList, toList_quoted text, ?_⟩
    have whole := Quoted.quotedLength_encode text.toList []
    simpa [quotedLength] using whole

end Tablewright.Text
