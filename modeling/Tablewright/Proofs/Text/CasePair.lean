import Mathlib.Data.List.Basic
import Tablewright.Naming
import Tablewright.Proofs.Text.SnakeCase

namespace Tablewright

namespace Text

/-- All characters of a text are ASCII. -/
def IsAscii (text : List Char) : Prop :=
  ∀ character ∈ text, character.toNat < 0x80

section Ascii

variable {name word text : List Char}

/-- What holds for all ASCII codes holds for ASCII characters. -/
theorem ascii_induction {motive : Char → Prop} {character : Char}
    (codes : ∀ code < 0x80, motive (Char.ofNat code)) (ascii : character.toNat < 0x80) :
    motive character :=
  Char.ofNat_toNat character ▸ codes character.toNat ascii

theorem IsAscii.upper_lower (ascii : IsAscii word) :
    (word.map Char.toLower).map Char.toUpper = word.map Char.toUpper := by
  rw [List.map_map]
  refine List.map_congr_left fun character inside => ?_
  exact ascii_induction (motive := fun character =>
    (Char.toUpper ∘ Char.toLower) character = character.toUpper) (by decide)
    (ascii character inside)

theorem IsAscii.lower_upper (ascii : IsAscii word) :
    (word.map Char.toUpper).map Char.toLower = word.map Char.toLower := by
  rw [List.map_map]
  refine List.map_congr_left fun character inside => ?_
  exact ascii_induction (motive := fun character =>
    (Char.toLower ∘ Char.toUpper) character = character.toLower) (by decide)
    (ascii character inside)

theorem IsAscii.nameWords (ascii : IsAscii name) : ∀ word ∈ CaseStyle.nameWords name,
    IsAscii word := by
  intro word among character inside
  obtain ⟨piece, part, among⟩ := List.mem_flatMap.mp among
  rcases CaseStyle.mem_of_cut among inside with read | within
  · cases read
  · exact ascii character (mem_of_pieces part within)

theorem IsAscii.lowerWord (ascii : IsAscii word) :
    CaseStyle.lowerWord word = word.map Char.toLower := by
  fun_induction CaseStyle.lowerWord word with
  | case1 => rfl
  | case2 last sigma =>
      obtain rfl := eq_of_beq sigma
      exact absurd (ascii _ List.mem_cons_self) (by decide)
  | case3 last plain =>
      rw [lowerCaseOf, if_pos (ascii last List.mem_cons_self)]
      rfl
  | case4 first rest more hypothesis =>
      unfold IsAscii at ascii
      rw [List.forall_mem_cons] at ascii
      rw [hypothesis ascii.2, lowerCaseOf, if_pos ascii.1]
      rfl

theorem IsAscii.lowerWords (ascii : IsAscii name) :
    (CaseStyle.nameWords name).map CaseStyle.lowerWord =
      (CaseStyle.nameWords name).map (List.map Char.toLower) :=
  List.map_congr_left fun word among => (ascii.nameWords word among).lowerWord

theorem IsAscii.upperWord (ascii : IsAscii word) :
    CaseStyle.upperWord word = word.map Char.toUpper := by
  rw [CaseStyle.upperWord, List.map_eq_flatMap]
  refine List.flatMap_congr fun character inside => ?_
  rw [upperCaseOf, if_pos (ascii character inside)]

theorem IsAscii.upperWords (ascii : IsAscii name) :
    (CaseStyle.nameWords name).map CaseStyle.upperWord =
      (CaseStyle.nameWords name).map (List.map Char.toUpper) :=
  List.map_congr_left fun word among => (ascii.nameWords word among).upperWord

end Ascii

/-- The words of a name are written in both styles at the same places. -/
theorem styles_ascii {name : String} (ascii : IsAscii name.toList) :
    upperSnakeCase name = String.ofList ((snakeCase name).toList.map Char.toUpper) ∧
      snakeCase name = String.ofList ((upperSnakeCase name).toList.map Char.toLower) := by
  have back := List.map_congr_left fun word among => (ascii.nameWords word among).upper_lower
  have forth := List.map_congr_left fun word among => (ascii.nameWords word among).lower_upper
  unfold upperSnakeCase snakeCase
  rw [ascii.lowerWords, ascii.upperWords, String.toList_ofList, String.toList_ofList,
    map_intercalate, map_intercalate, List.map_map, List.map_map]
  exact ⟨congrArg _ (congrArg _ back.symm), congrArg _ (congrArg _ forth.symm)⟩

/-- Two ASCII names are the same in one style exactly if they are in the other one. -/
theorem snakeCase_eq_iff {first second : String} (ascii : IsAscii first.toList)
    (otherAscii : IsAscii second.toList) :
    snakeCase first = snakeCase second ↔ upperSnakeCase first = upperSnakeCase second := by
  constructor
  · intro same
    rw [(styles_ascii ascii).1, same, ← (styles_ascii otherAscii).1]
  · intro same
    rw [(styles_ascii ascii).2, same, ← (styles_ascii otherAscii).2]

end Text

namespace Naming

theorem ascii_of_continues {character : Char} (continues : continuesIdentifier character = true) :
    character.toNat < 0x80 := by
  rw [continuesIdentifier, Bool.or_eq_true] at continues
  rcases continues with underscore | alphanumeric
  · obtain rfl := eq_of_beq underscore
    decide
  · delta Char.isAlphanum Char.isAlpha Char.isUpper Char.isLower Char.isDigit at alphanumeric
    simp only [Bool.or_eq_true, Bool.and_eq_true, decide_eq_true_eq, ge_iff_le,
      UInt32.le_iff_toNat_le, Char.toNat_val, Char.reduceToNat] at alphanumeric
    omega

theorem ascii_of_identifier {name : String} (identifier : isIdentifier name = true) :
    Text.IsAscii name.toList :=
  fun character inside => ascii_of_continues (continues_of_identifier identifier character inside)

/-- What holds for the ASCII characters of identifiers holds for all of them. -/
theorem continuing_induction {motive : Char → Prop} {character : Char}
    (plain : ∀ code < 0x80, continuesIdentifier (Char.ofNat code) = true →
      motive (Char.ofNat code))
    (continues : continuesIdentifier character = true) : motive character := by
  refine Text.ascii_induction (motive := fun character =>
    continuesIdentifier character = true → motive character) plain ?_ continues
  exact ascii_of_continues continues

/-- An identifier has the same kinds of characters in lower case. -/
theorem continues_toLower {character : Char} (continues : continuesIdentifier character = true) :
    continuesIdentifier character.toLower = true :=
  continuing_induction (motive := fun character => continuesIdentifier character.toLower = true)
    (by decide) continues

/-- An identifier has the same kinds of characters in upper case. -/
theorem continues_toUpper {character : Char} (continues : continuesIdentifier character = true) :
    continuesIdentifier character.toUpper = true :=
  continuing_induction (motive := fun character => continuesIdentifier character.toUpper = true)
    (by decide) continues

/-- The function suffix of an identifier has the kinds of characters that identifiers have. -/
theorem continues_functionSuffix {name : String} (identifier : isIdentifier name = true) :
    ∀ character ∈ (functionSuffix name).toList, continuesIdentifier character = true := by
  intro character inside
  rw [functionSuffix, Text.snakeCase, String.toList_ofList] at inside
  rcases Text.mem_of_intercalate inside with between | ⟨part, among, within⟩
  · rw [List.mem_singleton.mp between]
    rfl
  · obtain ⟨word, named, rfl⟩ := List.mem_map.mp among
    have ascii := (ascii_of_identifier identifier).nameWords word named
    rw [ascii.lowerWord] at within
    obtain ⟨letter, spelled, rfl⟩ := List.mem_map.mp within
    obtain ⟨piece, parted, cut⟩ := List.mem_flatMap.mp named
    rcases Text.CaseStyle.mem_of_cut cut spelled with read | later
    · cases read
    · have among := Text.mem_of_pieces parted later
      exact continues_toLower (continues_of_identifier identifier letter among)

/-- The function suffixes of two tables are the same exactly if their storage variables are. -/
theorem functionSuffix_eq_iff {first second : String} (ascii : Text.IsAscii first.toList)
    (otherAscii : Text.IsAscii second.toList) :
    functionSuffix first = functionSuffix second ↔
      storageVariable first = storageVariable second := by
  unfold functionSuffix storageVariable
  rw [Text.snakeCase_eq_iff ascii otherAscii]
  exact (String.append_right_inj _).symm

end Naming

end Tablewright
