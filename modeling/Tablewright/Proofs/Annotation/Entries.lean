import Mathlib.Data.List.TakeWhile
import Tablewright.Proofs.Annotation.Writing
import Tablewright.Proofs.Introspection.Reports

namespace Tablewright.Annotation

/-- This function lists the values that tags of two words have for a key. -/
def valuesOf (key : String) (tags : List (List Char)) : List (List Char) :=
  tags.filterMap fun tag =>
    match Text.words tag with
    | [first, value] => if String.ofList first = key then some value else none
    | _ => none

/-- This function is the last value of a key, or the empty text. -/
def lastValue (key : String) (tags : List (List Char)) : String :=
  String.ofList ((valuesOf key tags).getLast?.getD [])

/-- This function is the entry that the tags after the name declare. -/
def declaredEntry (origin : FilePath) (name : String) (tags : List (List Char)) : TableEntry where
  name
  csv := lastValue "csv" tags
  excel := lastValue "excel" tags
  depend := (valuesOf "depend" tags).flatMap dependencies
  origin := some origin

/-- A malformed tag does not consist of two words. -/
def Malformed (tag : List Char) : Prop :=
  (Text.words tag).length ≠ 2

instance (tag : List Char) : Decidable (Malformed tag) :=
  inferInstanceAs (Decidable (_ ≠ _))

/-- This warning is about a malformed tag of a table. -/
def malformedWarning (table : String) (tag : List Char) : Diagnostic :=
  .warning "malformed_tag" table s!"expected '@key value', found '@{String.ofList tag}'"

/-- This warning is about a block that does not name a table. -/
def unnamedWarning (origin : FilePath) (name : String) : Diagnostic :=
  .warning "invalid_table_name" origin.text
    s!"annotation block names '{name}', which is not a type identifier"

/-- This function is the entry that a block declares. -/
def entryOf? (origin : FilePath) (block : List Char) : Option TableEntry :=
  match tags block with
  | [] => none
  | first :: later =>
      if Naming.isIdentifier (blockName first) then
        some (declaredEntry origin (blockName first) later)
      else none

/-- This function lists the warnings about a block. -/
def warningsOf (origin : FilePath) (block : List Char) : Diagnostics :=
  match tags block with
  | [] => []
  | first :: later =>
      if Naming.isIdentifier (blockName first) then
        (later.filter fun tag => Malformed tag).map (malformedWarning (blockName first))
      else [unnamedWarning origin (blockName first)]

section Reading

theorem valuesOf_append (key : String) (front back : List (List Char)) :
    valuesOf key (front ++ back) = valuesOf key front ++ valuesOf key back :=
  List.filterMap_append

/-- A tag of two words counts for its own key only. -/
theorem valuesOf_pair {tag word value : List Char} (words : Text.words tag = [word, value])
    (key : String) :
    valuesOf key [tag] = if String.ofList word = key then [value] else [] := by
  rw [valuesOf, List.filterMap_cons, words]
  split <;> simp_all

theorem malformed_or_pair (tag : List Char) :
    Malformed tag ∨ ∃ word value, Text.words tag = [word, value] := by
  by_cases two : (Text.words tag).length = 2
  · exact .inr (List.length_eq_two.mp two)
  · exact .inl two

/-- A malformed tag has no value for any key. -/
theorem valuesOf_malformed {tag : List Char} (malformed : Malformed tag) (key : String) :
    valuesOf key [tag] = [] := by
  rw [valuesOf, List.filterMap_cons]
  split
  next => rfl
  next value found =>
    split at found
    next words => exact absurd (by rw [words]; rfl) malformed
    next => cases found

theorem readTag_malformed {tag : List Char} (malformed : Malformed tag) (entry : TableEntry)
    (context : Context) : readTag entry tag context =
      (entry, malformedTag entry.name (String.ofList tag) context) := by
  unfold readTag
  split
  next words => exact absurd (by rw [words]; rfl) malformed
  next => rfl

/-- One more tag is read into an entry as its own key and its form say. -/
theorem readTag_declared (origin : FilePath) (name : String) (front : List (List Char))
    (tag : List Char) (context : Context) :
    (readTag (declaredEntry origin name front) tag context).1 =
        declaredEntry origin name (front ++ [tag]) ∧
      (readTag (declaredEntry origin name front) tag context).2.diagnostics =
        context.diagnostics ++
          ([tag].filter fun tag => Malformed tag).map (malformedWarning name) := by
  obtain malformed | ⟨word, value, words⟩ := malformed_or_pair tag
  · rw [readTag_malformed malformed]
    constructor
    · simp [declaredEntry, lastValue, valuesOf_append, valuesOf_malformed malformed]
    · simp [malformed, malformedTag, malformedWarning, declaredEntry, Context.report,
        Context.note]
  · have wellFormed : ¬ Malformed tag := by simp [Malformed, words]
    have values := valuesOf_pair words
    unfold readTag
    rw [words]
    constructor
    · dsimp only
      split <;> simp_all [declaredEntry, lastValue, valuesOf_append]
    · dsimp only
      split <;> simp [wellFormed, Context.note]

/-- The tags after the name are read into the entry that they declare. -/
theorem readTags_declared (origin : FilePath) (name : String) (tags : List (List Char))
    (context : Context) :
    (readTags { name, origin := some origin } tags context).1 = declaredEntry origin name tags ∧
      (readTags { name, origin := some origin } tags context).2.diagnostics =
        context.diagnostics ++
          (tags.filter fun tag => Malformed tag).map (malformedWarning name) := by
  induction tags using List.reverseRecOn with
  | nil => exact ⟨rfl, by simp [readTags]⟩
  | append_singleton front tag hypothesis =>
      obtain ⟨entry, grown⟩ := hypothesis
      obtain ⟨read, reported⟩ := readTag_declared origin name front tag
        (readTags { name, origin := some origin } front context).2
      rw [readTags_append, entry]
      refine ⟨read, reported.trans ?_⟩
      rw [grown, List.filter_append, List.map_append, List.append_assoc]

/-- A block is read by its tags. -/
theorem readBlock_eq (origin : FilePath) (block : List Char) (context : Context) :
    (readBlock origin block context).1 = entryOf? origin block ∧
      (readBlock origin block context).2.diagnostics =
        context.diagnostics ++ warningsOf origin block := by
  cases found : tags block with
  | nil => simp [readBlock, entryOf?, warningsOf, found]
  | cons first later =>
      cases named : Naming.isIdentifier (blockName first) with
      | false =>
          simp [readBlock, entryOf?, warningsOf, found, named, invalidName, unnamedWarning,
            Context.report, Context.note]
      | true =>
          obtain ⟨entry, reported⟩ := readTags_declared origin (blockName first) later context
          simp [readBlock, entryOf?, warningsOf, found, named, entry, reported]

/-- Blocks are read in their order. -/
theorem readBlocks_eq (origin : FilePath) (blocks : List (List Char)) (context : Context) :
    (readBlocks origin blocks context).1 = blocks.filterMap (entryOf? origin) ∧
      (readBlocks origin blocks context).2.diagnostics =
        context.diagnostics ++ blocks.flatMap (warningsOf origin) := by
  induction blocks generalizing context with
  | nil => simp [readBlocks]
  | cons block rest hypothesis =>
      obtain ⟨entry, reported⟩ := readBlock_eq origin block context
      obtain ⟨entries, grown⟩ := hypothesis (readBlock origin block context).2
      rw [readBlocks]
      constructor
      · rw [entries, entry, List.filterMap_cons]
        cases entryOf? origin block <;> rfl
      · rw [grown, reported, List.flatMap_cons, List.append_assoc]

/-- The entries of a text are those of its blocks, whatever run reads it. -/
theorem extract_filterMap (origin : FilePath) (text : String) (context : Context) :
    (extract origin text context).1 = (blocks text.toList).filterMap (entryOf? origin) :=
  (readBlocks_eq origin (blocks text.toList) context).1

/-- The warnings about a text are those about its blocks, whatever was reported before. -/
theorem extract_diagnostics (origin : FilePath) (text : String) (context : Context) :
    (extract origin text context).2.diagnostics =
      context.diagnostics ++ (blocks text.toList).flatMap (warningsOf origin) :=
  (readBlocks_eq origin (blocks text.toList) context).2

end Reading

end Tablewright.Annotation
