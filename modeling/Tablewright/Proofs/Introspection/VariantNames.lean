import Tablewright.Proofs.Introspection.Literals
import Tablewright.Proofs.Text.CasePair

namespace Tablewright

open Naming Text

/-- An item is declared under an identifier that is no keyword. -/
def IsDeclarable (name : String) : Prop :=
  isIdentifier name = true ∧ name ∉ Declaration.keywords

/-- A name goes on with a letter behind the underscores in front of it. -/
def LeadsWithLetter (name : String) : Prop :=
  ∃ letter, name.toList.find? (· ≠ '_') = some letter ∧ letter.isAlpha = true

namespace Naming

variable {name lead ending : String} {character : Char}

/-- Identifiers are told by their first character and by the kind of all of them. -/
theorem isIdentifier_iff :
    isIdentifier name = true ↔
      (∃ first, name.toList.head? = some first ∧ startsIdentifier first = true) ∧
        name ≠ "_" ∧ ∀ character ∈ name.toList, continuesIdentifier character = true := by
  rw [isIdentifier]
  split
  case h_1 empty => simp [empty]
  case h_2 first rest letters => simp [letters, and_assoc]

/-- Among the characters of identifiers, just the underscore is not alphanumeric. -/
theorem isAlphanumeric_eq (continues : continuesIdentifier character = true) :
    isAlphanumeric character = decide (character ≠ '_') :=
  continuing_induction
    (motive := fun character => isAlphanumeric character = decide (character ≠ '_'))
    (by decide) continues

/-- Lower case makes no underscores. -/
theorem ne_underscore_of_toLower (continues : continuesIdentifier character = true) :
    character ≠ '_' → character.toLower ≠ '_' :=
  continuing_induction (motive := fun character => character ≠ '_' → character.toLower ≠ '_')
    (by decide) continues

/-- A character that is no underscore starts identifiers exactly if it is a letter. -/
theorem startsIdentifier_toLower_iff (continues : continuesIdentifier character = true) :
    character ≠ '_' →
      (startsIdentifier character.toLower = true ↔ character.isAlpha = true) :=
  continuing_induction
    (motive := fun character => character ≠ '_' →
      (startsIdentifier character.toLower = true ↔ character.isAlpha = true))
    (by decide) continues

/-- A name in snake case starts with the first alphanumeric character, in lower case. -/
theorem head_snakeCase (ascii : IsAscii name.toList) :
    (snakeCase name).toList.head? =
      (name.toList.filter isAlphanumeric).head?.map Char.toLower := by
  have filled : ∀ part ∈ (CaseStyle.nameWords name.toList).map (List.map Char.toLower),
      part ≠ [] := by
    intro part among
    obtain ⟨word, named, rfl⟩ := List.mem_map.mp among
    simpa using CaseStyle.nonempty_nameWords named
  rw [snakeCase, String.toList_ofList, ascii.lowerWords, head_intercalate filled,
    ← List.map_flatten, CaseStyle.flatten_nameWords, List.head?_map]

/-- A name in snake case is an identifier exactly if a letter follows the underscores in front of
the written name. -/
theorem isIdentifier_snakeCase_iff (identifier : isIdentifier name = true) :
    isIdentifier (snakeCase name) = true ↔ LeadsWithLetter name := by
  have continues := continues_of_identifier identifier
  have kept : name.toList.filter isAlphanumeric = name.toList.filter (· ≠ '_') :=
    List.filter_congr fun character inside => isAlphanumeric_eq (continues character inside)
  have head := head_snakeCase (ascii_of_identifier identifier)
  rw [kept, List.head?_filter] at head
  have all : ∀ character ∈ (snakeCase name).toList, continuesIdentifier character = true :=
    continues_functionSuffix identifier
  rw [isIdentifier_iff, LeadsWithLetter, head]
  constructor
  · rintro ⟨⟨first, starts, startsName⟩, -, -⟩
    obtain ⟨letter, found, rfl⟩ := Option.map_eq_some_iff.mp starts
    have other : letter ≠ '_' := by simpa using List.find?_some found
    exact ⟨letter, found,
      (startsIdentifier_toLower_iff (continues letter (List.mem_of_find?_eq_some found)) other).mp
        startsName⟩
  · rintro ⟨letter, found, alphabetic⟩
    have continued := continues letter (List.mem_of_find?_eq_some found)
    have other : letter ≠ '_' := by simpa using List.find?_some found
    rw [found, Option.map_some] at head ⊢
    refine ⟨⟨_, rfl, (startsIdentifier_toLower_iff continued other).mpr alphabetic⟩, ?_, all⟩
    intro lone
    rw [lone] at head
    exact ne_underscore_of_toLower continued other (Option.some.inj head).symm

/-- An identifier has the kinds of characters that identifiers have in upper snake case as well. -/
theorem continues_upperSnakeCase (identifier : isIdentifier name = true) :
    ∀ character ∈ (upperSnakeCase name).toList, continuesIdentifier character = true := by
  rw [(styles_ascii (ascii_of_identifier identifier)).1, String.toList_ofList]
  intro character inside
  obtain ⟨letter, among, rfl⟩ := List.mem_map.mp inside
  exact continues_toUpper (continues_functionSuffix identifier letter among)

end Naming

namespace Variant

open Declaration

variable {variant : Variant}

/-- No keyword ends as holder types do. -/
theorem holderEnding_keywords (pattern : Pattern) :
    ∀ keyword ∈ keywords, ¬ pattern.holderEnding.toList <:+ keyword.toList := by
  cases pattern <;> decide +kernel

/-- No keyword starts as the storage variables of indexes do. -/
theorem storageLead_keywords (pattern : Pattern) :
    ∀ keyword ∈ keywords, ¬ pattern.storageLead.toList <+: keyword.toList := by
  cases pattern <;> decide

/-- The characters of both fixed parts stand in identifiers. -/
theorem continues_parts (pattern : Pattern) :
    pattern.holderEnding.toList.all continuesIdentifier = true ∧
      pattern.storageLead.toList.all continuesIdentifier = true := by
  cases pattern <;> decide

/-- The holder type starts as the name does and ends in a fixed word. -/
theorem isDeclarable_holderType (identifier : isIdentifier variant.name = true)
    (pattern : Pattern) : IsDeclarable (variant.holderType pattern) := by
  have spelled : (variant.holderType pattern).toList =
      variant.name.toList ++ pattern.holderEnding.toList := String.toList_append
  have suffix : pattern.holderEnding.toList <:+ (variant.holderType pattern).toList :=
    ⟨_, spelled.symm⟩
  have keyword : variant.holderType pattern ∉ keywords :=
    fun among => holderEnding_keywords pattern _ among suffix
  obtain ⟨⟨first, head, starts⟩, -, all⟩ := isIdentifier_iff.mp identifier
  refine ⟨isIdentifier_iff.mpr ⟨⟨first, ?_, starts⟩, ?_, ?_⟩, keyword⟩
  · rw [spelled, List.head?_append, head, Option.some_or]
  · exact fun lone => keyword (lone ▸ List.mem_cons_self)
  · intro character inside
    rw [spelled, List.mem_append] at inside
    exact inside.elim (all character) (List.all_eq_true.mp (continues_parts pattern).1 character)

/-- The storage variable starts with a fixed word. -/
theorem isDeclarable_storageVariable (identifier : isIdentifier variant.name = true)
    (pattern : Pattern) : IsDeclarable (variant.storageVariable pattern) := by
  have spelled : (variant.storageVariable pattern).toList =
      pattern.storageLead.toList ++ '_' :: (upperSnakeCase variant.name).toList := by
    simp [storageVariable]
  have lead : pattern.storageLead.toList <+: (variant.storageVariable pattern).toList :=
    ⟨_, spelled.symm⟩
  have keyword : variant.storageVariable pattern ∉ keywords :=
    fun among => storageLead_keywords pattern _ among lead
  refine ⟨isIdentifier_iff.mpr ⟨⟨'S', ?_, rfl⟩, ?_, ?_⟩, keyword⟩
  · rw [spelled]
    cases pattern <;> rfl
  · exact fun lone => keyword (lone ▸ List.mem_cons_self)
  · intro character inside
    rw [spelled, List.mem_append, List.mem_cons] at inside
    rcases inside with fixed | rfl | own
    · exact List.all_eq_true.mp (continues_parts pattern).2 character fixed
    · rfl
    · exact continues_upperSnakeCase identifier character own

/-- Accepted names give holder types and storage variables that can be declared. The accessor is
an identifier exactly if the name goes on with a letter behind the underscores in front of it. -/
theorem declarable_of_literalNames {body : List Statement} {names : List String}
    (accepted : Probe.literalNames body = some names) (pattern : Pattern) (hasSort : Bool) :
    ∀ variant ∈ (SecondaryIndex.custom pattern names hasSort).variants,
      IsDeclarable (variant.holderType pattern) ∧
        IsDeclarable (variant.storageVariable pattern) ∧
        (isIdentifier (variant.accessorName pattern) = true ↔ LeadsWithLetter variant.name) := by
  intro variant among
  obtain ⟨name, listed, rfl⟩ := List.mem_map.mp among
  obtain ⟨-, -, identifiers⟩ := Probe.literalNames_eq_some_iff.mp accepted
  have identifier := identifiers name listed
  exact ⟨isDeclarable_holderType identifier pattern,
    isDeclarable_storageVariable identifier pattern, isIdentifier_snakeCase_iff identifier⟩

/-- Underscores in front and capital letters do no harm as long as a letter follows. -/
theorem declarable_of_literalNames_level :
    Probe.literalNames [.expression (.array [.text "_ByLevel"])] = some ["_ByLevel"] ∧
      isIdentifier (accessorName ⟨"_ByLevel", true⟩ .keySlice) = true :=
  have accepted : Probe.literalNames [.expression (.array [.text "_ByLevel"])] =
      some ["_ByLevel"] := by decide
  ⟨accepted, (declarable_of_literalNames accepted .keySlice false ⟨"_ByLevel", true⟩
    List.mem_cons_self).2.2.mpr ⟨'B', by decide, by decide⟩⟩

/-- Three names are accepted whose accessors have no name, a digit in front and the name of a
keyword. -/
theorem accessors_not_declarable :
    Probe.literalNames [.expression (.array [.text "__", .text "_1st", .text "Fn"])] =
        some ["__", "_1st", "Fn"] ∧
      (SecondaryIndex.custom .keySlice ["__", "_1st", "Fn"] false).variants.map
          (accessorName · .keySlice) = ["", "1st", "fn"] ∧
      isIdentifier "" = false ∧ isIdentifier "1st" = false ∧ "fn" ∈ keywords := by
  refine ⟨by decide, ?_, by decide, by decide, by decide⟩
  decide +kernel

end Variant

end Tablewright
