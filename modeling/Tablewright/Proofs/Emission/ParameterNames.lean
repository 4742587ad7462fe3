import Mathlib.Data.List.Nodup
import Mathlib.Data.List.TakeWhile
import Tablewright.Declaration.Lexeme
import Tablewright.Declaration.Reading
import Tablewright.Emission.KeyExpression
import Tablewright.Proofs.Text.Pieces

namespace Tablewright

namespace Declaration

open Lexeme

/-- A word starts as names start and goes on as they go on. -/
def IsWord (word : String) : Prop :=
  ∃ first rest, word.toList = first :: rest ∧ Text.isIdentifierStart first = true ∧
    ∀ character ∈ rest, Text.isIdentifierContinue character = true

/-- A field has a plain name, which is no keyword, or a raw name, which may spell one. -/
inductive IsFieldName : String → Prop
  | plain {word : String} (spelled : IsWord word) (free : word ∉ keywords) : IsFieldName word
  | raw {word : String} (spelled : IsWord word) (admitted : word ∉ wordsWithoutRawForm) :
      IsFieldName (rawMark ++ word)

section Words

variable {word name : String}

/-- The second character of the raw mark stands in no word. -/
theorem IsWord.unmarked (spelled : IsWord word) : '#' ∉ word.toList := by
  obtain ⟨first, rest, letters, starts, goesOn⟩ := spelled
  rw [letters, List.mem_cons]
  rintro (rfl | inside)
  · exact absurd starts (by decide)
  · exact absurd (goesOn _ inside) (by decide)

theorem IsWord.not_raw (spelled : IsWord word) : ¬ ['r', '#'] <+: word.toList :=
  fun starts => spelled.unmarked (starts.subset (by decide))

/-- A word is one name from its start to its end. -/
theorem isWord_iff :
    IsWord word ↔ word.toList ≠ [] ∧ nameLength word.toList = word.toList.length := by
  unfold IsWord
  cases word.toList with
  | nil => simp
  | cons first rest =>
      have whole : (rest.takeWhile Text.isIdentifierContinue).length = rest.length ↔
          ∀ character ∈ rest, Text.isIdentifierContinue character = true := by
        rw [← List.takeWhile_eq_self_iff]
        exact ⟨(List.takeWhile_prefix _).eq_of_length, congrArg List.length⟩
      simp only [List.cons.injEq, nameLength, List.length_cons]
      split
      case isTrue starts => simp [starts, ← whole]
      case isFalse other => simp [other]

theorem toList_rawMark_append : (rawMark ++ word).toList = 'r' :: '#' :: word.toList :=
  String.toList_append

theorem not_empty_of_length {length : Nat} (whole : length + 1 = word.toList.length) :
    word.toList ≠ [] := by
  intro empty
  rw [empty] at whole
  cases whole

theorem wordLength?_plain_iff (plain : startsWith rawMark word.toList = false) :
    wordLength? word.toList = some word.toList.length ↔ IsWord word := by
  rw [isWord_iff, wordLength?, plain]
  cases measured : nameLength word.toList with
  | zero =>
      refine ⟨nofun, ?_⟩
      rintro ⟨some, whole⟩
      exact absurd (List.length_eq_zero_iff.mp whole.symm) some
  | succ length =>
      refine ⟨fun read => ?_, fun ⟨_, whole⟩ => congrArg some whole⟩
      have whole : length + 1 = word.toList.length := Option.some.inj read
      exact ⟨not_empty_of_length whole, whole⟩

theorem wordLength?_raw_iff :
    wordLength? (rawMark ++ word).toList = some (rawMark ++ word).toList.length ↔
      IsWord word ∧ word ∉ wordsWithoutRawForm := by
  have starts : startsWith rawMark ('r' :: '#' :: word.toList) = true := rfl
  rw [isWord_iff, toList_rawMark_append, wordLength?, if_pos starts, List.drop_succ_cons,
    List.drop_succ_cons, List.drop_zero]
  cases measured : nameLength word.toList with
  | zero =>
      refine ⟨nofun, ?_⟩
      rintro ⟨⟨some, whole⟩, -⟩
      exact absurd (List.length_eq_zero_iff.mp whole.symm) some
  | succ length =>
      change (if String.ofList (word.toList.take (length + 1)) ∈ wordsWithoutRawForm then none
        else some (length + 1 + 2)) = some (word.toList.length + 2) ↔ _
      constructor
      · intro read
        split at read
        case isTrue => cases read
        case isFalse admitted =>
          have whole : length + 1 = word.toList.length :=
            Nat.add_right_cancel (Option.some.inj read)
          rw [whole, List.take_length, String.ofList_toList] at admitted
          exact ⟨⟨not_empty_of_length whole, whole⟩, admitted⟩
      · rintro ⟨⟨-, whole⟩, admitted⟩
        rw [whole, List.take_length, String.ofList_toList, if_neg admitted]

/-- Field names are the words of declaration files that are no keywords. -/
theorem isFieldName_iff :
    IsFieldName name ↔ wordLength? name.toList = some name.toList.length ∧ name ∉ keywords := by
  constructor
  · rintro (⟨spelled, free⟩ | ⟨spelled, admitted⟩)
    · have plain : startsWith rawMark name.toList = false :=
        Bool.eq_false_iff.mpr fun starts =>
          spelled.not_raw (List.isPrefixOf_iff_prefix.mp starts)
      exact ⟨(wordLength?_plain_iff plain).mpr spelled, free⟩
    · have unmarked : ∀ keyword ∈ keywords, '#' ∉ keyword.toList := by decide
      refine ⟨wordLength?_raw_iff.mpr ⟨spelled, admitted⟩, fun among => unmarked _ among ?_⟩
      rw [toList_rawMark_append]
      simp
  · rintro ⟨read, free⟩
    by_cases starts : startsWith rawMark name.toList = true
    · obtain ⟨rest, letters⟩ := List.isPrefixOf_iff_prefix.mp starts
      have marked : name = rawMark ++ String.ofList rest := by
        rw [← String.toList_inj, toList_rawMark_append, String.toList_ofList, ← letters]
        rfl
      rw [marked] at read ⊢
      obtain ⟨spelled, admitted⟩ := wordLength?_raw_iff.mp read
      exact .raw spelled admitted
    · exact .plain ((wordLength?_plain_iff (Bool.eq_false_iff.mpr starts)).mp read) free

instance : DecidablePred IsFieldName :=
  fun _ => decidable_of_iff _ isFieldName_iff.symm

end Words

end Declaration

namespace Naming

open Declaration

variable {word first second name : String}

theorem parameterName_of_word (spelled : IsWord word) (free : word ∉ keywords) :
    parameterName word = word := by
  have kept : withoutRawMarks word = word := by
    rw [withoutRawMarks, Text.withoutLeads_of_not_prefix spelled.not_raw, String.ofList_toList]
  have other : word ≠ "type" := fun same => free (same ▸ by decide)
  simp only [parameterName, kept, if_neg other]

theorem parameterName_of_raw (spelled : IsWord word) :
    parameterName (Lexeme.rawMark ++ word) = if word = "type" then "typ" else word := by
  have kept : withoutRawMarks (Lexeme.rawMark ++ word) = word := by
    have length : (Lexeme.rawMark ++ word).length = word.length + 1 + 1 := by
      rw [← String.length_toList, toList_rawMark_append, ← String.length_toList]
      rfl
    have marked : (Lexeme.rawMark ++ word).toList = ['r', '#'] ++ word.toList :=
      toList_rawMark_append
    rw [withoutRawMarks, length, marked, Text.withoutLeads_append (by decide),
      Text.withoutLeads_of_not_prefix spelled.not_raw, String.ofList_toList]
  simp only [parameterName, kept]

/-- Two different fields share a parameter when the second one is the raw form of the first, or
when the second one is the raw `type` and the first spells its replacement. -/
def SharesParameter (first second : String) : Prop :=
  second = Lexeme.rawMark ++ first ∨
    second = Lexeme.rawMark ++ "type" ∧ (first = "typ" ∨ first = Lexeme.rawMark ++ "typ")

theorem SharesParameter.different (shares : SharesParameter first second) : first ≠ second := by
  rintro rfl
  rcases shares with twin | ⟨rfl, typ | typ⟩
  · have longer := congrArg String.length twin
    rw [String.length_append, show Lexeme.rawMark.length = 2 from rfl] at longer
    omega
  · exact absurd typ (by decide)
  · exact absurd typ (by decide)

theorem word_ne_raw (spelled : IsWord word) (other : String) : word ≠ Lexeme.rawMark ++ other := by
  rintro rfl
  exact spelled.unmarked (by rw [toList_rawMark_append]; simp)

/-- A plain field shares its parameter with its raw form, or with the raw `type` as its
replacement. -/
theorem parameterName_plain_raw_iff (spelled : IsWord first) (free : first ∉ keywords)
    (otherSpelled : IsWord word) :
    parameterName first = parameterName (Lexeme.rawMark ++ word) ↔
      SharesParameter first (Lexeme.rawMark ++ word) ∨
        SharesParameter (Lexeme.rawMark ++ word) first := by
  have notType : first ≠ "type" := fun same => free (same ▸ by decide)
  rw [parameterName_of_word spelled free, parameterName_of_raw otherSpelled]
  simp only [SharesParameter, String.append_right_inj, word_ne_raw spelled, false_and, or_false]
  split <;> grind

theorem parameterName_raw_raw_iff (spelled : IsWord first) (otherSpelled : IsWord second)
    (different : first ≠ second) :
    parameterName (Lexeme.rawMark ++ first) = parameterName (Lexeme.rawMark ++ second) ↔
      SharesParameter (Lexeme.rawMark ++ first) (Lexeme.rawMark ++ second) ∨
        SharesParameter (Lexeme.rawMark ++ second) (Lexeme.rawMark ++ first) := by
  have typ : IsWord "typ" := ⟨'t', ['y', 'p'], rfl, rfl, List.all_eq_true.mp rfl⟩
  have notTyp : ∀ word, Lexeme.rawMark ++ word ≠ "typ" :=
    fun word same => word_ne_raw typ word same.symm
  rw [parameterName_of_raw spelled, parameterName_of_raw otherSpelled]
  simp only [SharesParameter, String.append_right_inj, word_ne_raw otherSpelled,
    word_ne_raw spelled, notTyp, false_or]
  split <;> split <;> grind

/-- Fields of different names have one parameter exactly if one shares it with the other. -/
theorem parameterName_eq_iff (named : IsFieldName first) (otherNamed : IsFieldName second)
    (different : first ≠ second) :
    parameterName first = parameterName second ↔
      SharesParameter first second ∨ SharesParameter second first := by
  cases named with
  | plain spelled free =>
      cases otherNamed with
      | plain otherSpelled otherFree =>
          rw [parameterName_of_word spelled free, parameterName_of_word otherSpelled otherFree]
          simp [SharesParameter, different, word_ne_raw spelled, word_ne_raw otherSpelled]
      | raw otherSpelled _ => exact parameterName_plain_raw_iff spelled free otherSpelled
  | raw spelled _ =>
      cases otherNamed with
      | plain otherSpelled otherFree =>
          rw [eq_comm, or_comm]
          exact parameterName_plain_raw_iff otherSpelled otherFree spelled
      | raw otherSpelled _ =>
          exact parameterName_raw_raw_iff spelled otherSpelled fun same => different (same ▸ rfl)

/-- A keyword is the parameter of its raw form and of nothing else, unless it is `type`. -/
theorem parameterName_keyword_iff (named : IsFieldName name) :
    parameterName name ∈ keywords ↔
      ∃ word ∈ keywords, word ≠ "type" ∧ name = Lexeme.rawMark ++ word := by
  cases named with
  | plain spelled free =>
      rw [parameterName_of_word spelled free]
      simp [free, word_ne_raw spelled]
  | @raw word spelled _ =>
      rw [parameterName_of_raw spelled]
      split
      case isTrue same =>
        subst same
        exact iff_of_false (by decide) (by simp)
      case isFalse other => simp [other]

end Naming

namespace Emission

open Declaration Naming

/-- This function lists the names of the fields of a key. -/
def fieldNames (key : KeySchema) : List String :=
  key.fields.map KeyField.name

/-- This function lists the names of the parameters that the accessor of a key takes. -/
def parameterNames (key : KeySchema) : List String :=
  (accessorParameters key).map Parameter.name

theorem parameterNames_composite {key : KeySchema} (composite : key.isComposite = true) :
    parameterNames key = (fieldNames key).map parameterName := by
  rw [parameterNames, accessorParameters, if_pos composite, fieldNames, List.map_map,
    List.map_map]
  rfl

/-- The parameters of different fields are different names unless two fields share one. -/
theorem nodup_parameterNames {names : List String} (named : ∀ name ∈ names, IsFieldName name)
    (different : names.Nodup) :
    (names.map parameterName).Nodup ↔
      ∀ first ∈ names, ∀ second ∈ names, ¬ SharesParameter first second := by
  rw [List.nodup_map_iff_inj_on different]
  constructor
  · intro apart first among second otherAmong shares
    have same := (parameterName_eq_iff (named first among) (named second otherAmong)
      shares.different).mpr (.inl shares)
    exact shares.different (apart first among second otherAmong same)
  · intro apart first among second otherAmong same
    by_contra unequal
    rcases (parameterName_eq_iff (named first among) (named second otherAmong) unequal).mp same
      with shares | shares
    · exact apart first among second otherAmong shares
    · exact apart second otherAmong first among shares

/-- The accessor of a composite key has parameters of different names exactly if no field has a
raw twin and no field spells the parameter of a raw `type`. No parameter is a keyword exactly if
`type` is the only keyword that a field spells. -/
theorem parameterNames_usable_iff {key : KeySchema} (composite : key.isComposite = true)
    (named : ∀ name ∈ fieldNames key, IsFieldName name) (different : (fieldNames key).Nodup) :
    ((parameterNames key).Nodup ↔
        (∀ name ∈ fieldNames key, "r#" ++ name ∉ fieldNames key) ∧
          ("r#type" ∈ fieldNames key →
            "typ" ∉ fieldNames key ∧ "r#typ" ∉ fieldNames key)) ∧
      ((∀ parameter ∈ parameterNames key, parameter ∉ keywords) ↔
        ∀ word ∈ keywords, "r#" ++ word ∈ fieldNames key → word = "type") := by
  rw [parameterNames_composite composite]
  constructor
  · rw [nodup_parameterNames named different]
    constructor
    · intro apart
      refine ⟨fun name among raw => apart name among _ raw (.inl rfl), fun raw => ⟨?_, ?_⟩⟩
      · exact fun among => apart _ among _ raw (.inr ⟨rfl, .inl rfl⟩)
      · exact fun among => apart _ among _ raw (.inr ⟨rfl, .inr rfl⟩)
    · rintro ⟨twinless, untyped⟩ first among second otherAmong (rfl | ⟨rfl, rfl | rfl⟩)
      · exact twinless first among otherAmong
      · exact (untyped otherAmong).1 among
      · exact (untyped otherAmong).2 among
  · rw [List.forall_mem_map]
    constructor
    · intro free word keyword among
      by_contra other
      exact free _ among
        ((parameterName_keyword_iff (named _ among)).mpr ⟨word, keyword, other, rfl⟩)
    · intro typed name among keyword
      obtain ⟨word, spelled, other, rfl⟩ :=
        (parameterName_keyword_iff (named name among)).mp keyword
      exact other (typed word spelled among)

/-- This key has a raw `type` next to a plain name. -/
def typedKey : KeySchema :=
  ⟨⟨"r#type", "i32", .integer, by decide⟩, [⟨"level", "i32", .integer, by decide⟩], true⟩

/-- A raw `type` gets a parameter of its own as long as no other field spells it. -/
theorem parameterNames_usable_typed :
    (typedKey.isComposite = true ∧ (∀ name ∈ fieldNames typedKey, IsFieldName name) ∧
        (fieldNames typedKey).Nodup) ∧
      (parameterNames typedKey).Nodup ∧ ∀ parameter ∈ parameterNames typedKey,
        parameter ∉ keywords :=
  have named : ∀ name ∈ fieldNames typedKey, IsFieldName name := by decide
  have different : (fieldNames typedKey).Nodup := by decide
  have usable := parameterNames_usable_iff (rfl : typedKey.isComposite = true) named different
  ⟨⟨rfl, named, different⟩, usable.1.mpr (by decide), usable.2.mpr (by decide)⟩

/-- This key has the raw form of another keyword. -/
def keywordKey : KeySchema :=
  ⟨⟨"r#fn", "i32", .integer, by decide⟩, [⟨"id", "i32", .integer, by decide⟩], true⟩

/-- This key has a raw `type` next to its replacement. -/
def replacedKey : KeySchema :=
  ⟨⟨"r#type", "i32", .integer, by decide⟩, [⟨"typ", "i32", .integer, by decide⟩], true⟩

/-- Two composite keys of different field names have parameters that no function can take. One
has a keyword among them, and the other one has one name twice. -/
theorem parameterNames_not_usable :
    (keywordKey.isComposite = true ∧ (∀ name ∈ fieldNames keywordKey, IsFieldName name) ∧
        (fieldNames keywordKey).Nodup ∧ parameterNames keywordKey = ["fn", "id"] ∧
        "fn" ∈ keywords) ∧
      replacedKey.isComposite = true ∧ (∀ name ∈ fieldNames replacedKey, IsFieldName name) ∧
        (fieldNames replacedKey).Nodup ∧ parameterNames replacedKey = ["typ", "typ"] := by
  decide

end Emission

end Tablewright
