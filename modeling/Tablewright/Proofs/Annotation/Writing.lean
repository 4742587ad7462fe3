import Tablewright.Annotation
import Tablewright.Proofs.Annotation.Blocks
import Tablewright.Proofs.Text.Pieces

namespace Tablewright.Annotation

/-- A text writes lines when each of them ends with a line feed, after a carriage return or not. -/
inductive WritesLines : List (List Char) → List Char → Prop
  | none : WritesLines [] []
  | feed (line : List Char) {lines : List (List Char)} {text : List Char}
      (others : WritesLines lines text) : WritesLines (line :: lines) (line ++ '\n' :: text)
  | returnFeed (line : List Char) {lines : List (List Char)} {text : List Char}
      (others : WritesLines lines text) :
      WritesLines (line :: lines) (line ++ '\r' :: '\n' :: text)

/-- A value stands behind its key. There is no line for an empty value. -/
def valueLines (key : String) (value : String) : List (List Char) :=
  if value = "" then [] else ['@' :: key.toList ++ ' ' :: value.toList]

/-- These are the lines of an entry between the marks of its block. The first line is empty, so
that the opening mark stands alone. -/
def entryLines (entry : TableEntry) : List (List Char) :=
  [[], '@' :: entry.name.toList] ++ valueLines "csv" entry.csv ++ valueLines "excel" entry.excel ++
    valueLines "depend" (Text.joined "|" entry.depend)

/-- A text annotates entries when it has one block for each of them in their order, and no opening
mark before, between and after the blocks. -/
inductive Annotates : List TableEntry → List Char → Prop
  | filler {text : List Char} (free : ¬ openingMark <:+: text) : Annotates [] text
  | block {entry : TableEntry} {entries : List TableEntry} {filler content rest : List Char}
      (free : ¬ openingMark <:+: filler) (writes : WritesLines (entryLines entry) content)
      (others : Annotates entries rest) :
      Annotates (entry :: entries) (filler ++ openingMark ++ content ++ closingMark ++ rest)

/-- A value has neither white space nor a closing mark. -/
structure IsValue (text : String) : Prop where
  solid : ∀ character ∈ text.toList, Text.isWhiteSpace character = false
  free : ¬ closingMark <:+: text.toList

instance (text : String) : Decidable (IsValue text) :=
  decidable_of_iff ((text.toList.all fun character => !Text.isWhiteSpace character) = true ∧
      ¬ closingMark <:+: text.toList)
    ⟨fun both => ⟨by simpa using both.1, both.2⟩, fun value => ⟨by simpa using value.solid,
      value.free⟩⟩

/-- An entry can be written when its name is an identifier, its places are values, and its
dependencies are values that are not empty and have no bar. -/
structure Writable (entry : TableEntry) : Prop where
  name : Naming.isIdentifier entry.name = true
  csv : IsValue entry.csv
  excel : IsValue entry.excel
  depend : ∀ item ∈ entry.depend, IsValue item ∧ item ≠ "" ∧ '|' ∉ item.toList

instance (entry : TableEntry) : Decidable (Writable entry) :=
  decidable_of_iff (Naming.isIdentifier entry.name = true ∧ IsValue entry.csv ∧
      IsValue entry.excel ∧
      ∀ item ∈ entry.depend, IsValue item ∧ item ≠ "" ∧ '|' ∉ item.toList)
    ⟨fun all => ⟨all.1, all.2.1, all.2.2.1, all.2.2.2⟩,
      fun writable => ⟨writable.name, writable.csv, writable.excel, writable.depend⟩⟩

section Values

theorem not_whiteSpace_of_identifier {character : Char}
    (continues : Naming.continuesIdentifier character = true) :
    Text.isWhiteSpace character = false := by
  rw [Naming.continuesIdentifier, Bool.or_eq_true, beq_iff_eq] at continues
  obtain rfl | plain := continues
  · rfl
  · delta Char.isAlphanum Char.isAlpha Char.isUpper Char.isLower Char.isDigit at plain
    simp only [Bool.or_eq_true, Bool.and_eq_true, decide_eq_true_eq, ge_iff_le,
      UInt32.le_iff_toNat_le, Char.toNat_val, Char.reduceToNat] at plain
    simp only [Text.isWhiteSpace, Bool.or_eq_false_iff, Bool.and_eq_false_iff,
      decide_eq_false_iff_not, beq_eq_false_iff_ne]
    omega

theorem isValue_of_identifier {name : String} (identifier : Naming.isIdentifier name = true) :
    IsValue name ∧ name ≠ "" := by
  have nonempty : name ≠ "" := by
    rintro rfl
    exact absurd identifier (by decide)
  have continues := Naming.continues_of_identifier identifier
  refine ⟨⟨fun _ inside => not_whiteSpace_of_identifier (continues _ inside), ?_⟩, nonempty⟩
  intro closes
  have star : '*' ∈ name.toList := closes.subset (by simp [closingMark])
  exact absurd (continues '*' star) (by decide)

theorem isLineEnd_of_solid {character : Char} (solid : Text.isWhiteSpace character = false) :
    isLineEnd character = false := by
  rw [isLineEnd, Bool.or_eq_false_iff, beq_eq_false_iff_ne, beq_eq_false_iff_ne]
  constructor <;> (rintro rfl; exact absurd solid (by decide))

end Values

section Lines

/-- This function is the tag of a line. -/
def lineTag? (line : List Char) : Option (List Char) :=
  match line.dropWhile (· ≠ '@') with
  | _ :: first :: rest => some (Text.trim (first :: rest))
  | _ => none

variable {lines : List (List Char)} {text : List Char}

/-- The tags of a text are those of its lines. The line feed after a carriage return ends an empty
line. -/
theorem tags_of_lines (writes : WritesLines lines text)
    (single : ∀ line ∈ lines, ∀ character ∈ line, isLineEnd character = false) :
    tags text = lines.filterMap lineTag? := by
  have tags_eq : ∀ block, tags block = (Text.pieces isLineEnd block).filterMap lineTag? :=
    fun _ => rfl
  induction writes with
  | none => rfl
  | feed line others hypothesis =>
      rw [List.forall_mem_cons] at single
      rw [tags_eq, Text.pieces_cut single.1 rfl, List.filterMap_cons, List.filterMap_cons,
        ← tags_eq, hypothesis single.2]
  | @returnFeed line lines text others hypothesis =>
      rw [List.forall_mem_cons] at single
      have empty : Text.pieces isLineEnd ('\n' :: text) = [] :: Text.pieces isLineEnd text := rfl
      rw [tags_eq, Text.pieces_cut single.1 rfl, empty, List.filterMap_cons, List.filterMap_cons,
        List.filterMap_cons, ← tags_eq, hypothesis single.2]
      rfl

/-- A line with an at sign in front has the rest of the line for its tag when that is trimmed. -/
theorem lineTag?_at (some : text ≠ [])
    (starts : ∀ character ∈ text.head?, Text.isWhiteSpace character = false)
    (ends : ∀ character ∈ text.getLast?, Text.isWhiteSpace character = false) :
    lineTag? ('@' :: text) = .some text := by
  cases text with
  | nil => exact absurd rfl some
  | cons first rest =>
      rw [lineTag?, List.dropWhile_cons_of_neg (by simp)]
      exact congrArg Option.some (Text.trim_of_ends starts ends)

/-- A word and a value make a tag of two words. -/
theorem words_of_tag {key value : List Char} (keySome : key ≠ []) (valueSome : value ≠ [])
    (keySolid : ∀ character ∈ key, Text.isWhiteSpace character = false)
    (valueSolid : ∀ character ∈ value, Text.isWhiteSpace character = false) :
    Text.words (key ++ ' ' :: value) = [key, value] := by
  rw [Text.words_cut keySome keySolid rfl, Text.words_of_whole valueSome valueSolid]

end Lines

section Entries

variable {key value : String} {items : List String}

/-- A line has no line end and no closing mark. -/
structure IsLine (line : List Char) : Prop where
  single : ∀ character ∈ line, isLineEnd character = false
  free : ¬ closingMark <:+: line

theorem IsValue.isLine (isValue : IsValue value) : IsLine value.toList where
  single := fun character inside => isLineEnd_of_solid (isValue.solid character inside)
  free := isValue.free

/-- Lines that are put together with a character that is in no mark and ends no line are a line. -/
theorem isLine_cut {left right : List Char} {border : Char} (outside : border ∉ closingMark)
    (inner : isLineEnd border = false) (leftLine : IsLine left) (rightLine : IsLine right) :
    IsLine (left ++ border :: right) where
  single := List.forall_mem_append.mpr
    ⟨leftLine.single, List.forall_mem_cons.mpr ⟨inner, rightLine.single⟩⟩
  free := not_infix_cut outside leftLine.free rightLine.free

theorem isLine_nil : IsLine [] := ⟨by simp, by simp [closingMark]⟩

theorem isLine_at {line : List Char} (isLine : IsLine line) : IsLine ('@' :: line) :=
  @isLine_cut [] line '@' (by decide) rfl isLine_nil isLine

/-- Values that are put together with bars are one value. -/
theorem isValue_joined (values : ∀ item ∈ items, IsValue item) :
    IsValue (Text.joined "|" items) := by
  induction items with
  | nil => exact ⟨by simp [Text.joined], by simp [Text.joined, closingMark]⟩
  | cons item rest hypothesis =>
      rw [List.forall_mem_cons] at values
      have others := hypothesis values.2
      by_cases last : rest = []
      · simpa [last, Text.joined] using values.1
      · have letters : (Text.joined "|" (item :: rest)).toList =
            item.toList ++ '|' :: (Text.joined "|" rest).toList := by
          simp [Text.joined, String.intercalate_cons_of_ne_nil last]
        refine ⟨?_, ?_⟩ <;> rw [letters]
        · exact List.forall_mem_append.mpr
            ⟨values.1.solid, List.forall_mem_cons.mpr ⟨rfl, others.solid⟩⟩
        · exact not_infix_cut (by decide) values.1.free others.free

theorem isLine_of_valueLines (keyValue : IsValue key) (isValue : IsValue value) :
    ∀ line ∈ valueLines key value, IsLine line := by
  intro line inside
  rw [valueLines] at inside
  split at inside
  · cases inside
  · obtain rfl := List.mem_singleton.mp inside
    exact isLine_at (isLine_cut (by decide) rfl keyValue.isLine isValue.isLine)

theorem isValue_of_plain (plain : Naming.isIdentifier key = true) : IsValue key :=
  (isValue_of_identifier plain).1

/-- The tag of a value is its key and the value. There is no tag for an empty value. -/
theorem tags_of_valueLines (plain : Naming.isIdentifier key = true) (isValue : IsValue value) :
    (valueLines key value).filterMap lineTag? =
      if value = "" then [] else [key.toList ++ ' ' :: value.toList] := by
  have keyValue := isValue_of_identifier plain
  rw [valueLines]
  split
  · rfl
  · next some =>
      have valueSome : value.toList ≠ [] := by simpa using some
      have tag : lineTag? ('@' :: (key.toList ++ ' ' :: value.toList)) =
          .some (key.toList ++ ' ' :: value.toList) := by
        refine lineTag?_at (by simp) (fun character head => ?_) (fun character last => ?_)
        · rw [List.head?_append_of_ne_nil _ (by simpa using keyValue.2)] at head
          exact keyValue.1.solid character (List.mem_of_head? head)
        · rw [List.getLast?_append_of_ne_nil _ (by simp), List.getLast?_cons_of_ne_nil valueSome]
            at last
          exact isValue.solid character (List.mem_of_getLast? last)
      simp [tag]

/-- The bars between dependencies separate them again. -/
theorem dependencies_joined (some : items ≠ [])
    (plain : ∀ item ∈ items, item ≠ "" ∧ '|' ∉ item.toList) :
    dependencies (Text.joined "|" items).toList = items := by
  have parts : Text.pieces (· == '|') (Text.joined "|" items).toList =
      items.map String.toList := by
    rw [Text.joined, String.toList_intercalate]
    refine Text.pieces_intercalate (by simpa using some) fun part inside => ?_
    obtain ⟨item, itemInside, rfl⟩ := List.mem_map.mp inside
    exact (plain item itemInside).2
  have kept : (items.map String.toList).filter (fun name => !name.isEmpty) =
      items.map String.toList := by
    rw [List.filter_eq_self]
    intro part inside
    obtain ⟨item, itemInside, rfl⟩ := List.mem_map.mp inside
    simpa using (plain item itemInside).1
  rw [dependencies, parts, kept, List.map_map]
  simp [Function.comp_def]

end Entries

section Reading

variable {entry : TableEntry} {value : String} {items : List String}

theorem readTags_append (entry : TableEntry) (front back : List (List Char)) (context : Context) :
    readTags entry (front ++ back) context =
      readTags (readTags entry front context).1 back (readTags entry front context).2 :=
  List.foldl_append

/-- The lines of a value make a change of the entry when their one tag makes it, and an empty value
changes nothing. -/
theorem readTags_valueLines {key : String} {read : TableEntry} {context : Context}
    (plain : Naming.isIdentifier key = true) (isValue : IsValue value)
    (absent : value = "" → read = entry)
    (present : ∀ tag, value ≠ "" → Text.words tag = [key.toList, value.toList] →
      readTag entry tag context = (read, context)) :
    readTags entry ((valueLines key value).filterMap lineTag?) context = (read, context) := by
  have keyValue := isValue_of_identifier plain
  rw [tags_of_valueLines plain isValue]
  split
  · next none => rw [absent none]; rfl
  · next some =>
      have words := words_of_tag (mt String.toList_eq_nil_iff.mp keyValue.2)
        (mt String.toList_eq_nil_iff.mp some) keyValue.1.solid isValue.solid
      exact present _ some words

/-- The lines of a path set the field that the tag of their key sets. -/
theorem readTags_path (key : String) (set : String → TableEntry) (context : Context)
    (plain : Naming.isIdentifier key = true) (isValue : IsValue value)
    (reads : ∀ tag, Text.words tag = [key.toList, value.toList] →
      readTag (set "") tag context = (set value, context)) :
    readTags (set "") ((valueLines key value).filterMap lineTag?) context =
      (set value, context) :=
  readTags_valueLines plain isValue (fun none => by rw [none])
    fun tag _ words => reads tag words

theorem readTags_depend (plain : ∀ item ∈ items, IsValue item ∧ item ≠ "" ∧ '|' ∉ item.toList)
    (context : Context) (fresh : entry.depend = []) :
    readTags entry ((valueLines "depend" (Text.joined "|" items)).filterMap lineTag?) context =
      ({ entry with depend := items }, context) := by
  have isValue := isValue_joined fun item inside => (plain item inside).1
  have separated : items ≠ [] → dependencies (Text.joined "|" items).toList = items :=
    fun nonempty => dependencies_joined nonempty fun item inside => (plain item inside).2
  refine readTags_valueLines (by decide) isValue (fun none => ?_) fun tag some words => ?_
  · have absent : items = [] := by
      by_contra nonempty
      exact nonempty ((separated nonempty).symm.trans (by rw [none]; rfl))
    rw [absent, ← fresh]
  · have nonempty : items ≠ [] := by
      rintro rfl
      exact some rfl
    simp [readTag, words, fresh, separated nonempty]

end Reading

section Blocks

variable {entry : TableEntry} {entries : List TableEntry} {content text : List Char}
  {origin : FilePath}

theorem isLine_of_entry (writable : Writable entry) :
    ∀ line ∈ entryLines entry, IsLine line := by
  have depend := isValue_joined fun item inside => (writable.depend item inside).1
  simp only [entryLines, List.forall_mem_append, List.forall_mem_cons]
  exact ⟨⟨⟨⟨isLine_nil, isLine_at (isValue_of_plain writable.name).isLine, by simp⟩,
    isLine_of_valueLines (isValue_of_plain (by decide)) writable.csv⟩,
    isLine_of_valueLines (isValue_of_plain (by decide)) writable.excel⟩,
    isLine_of_valueLines (isValue_of_plain (by decide)) depend⟩

/-- Lines without a closing mark make a text without one. -/
theorem free_of_lines {lines : List (List Char)} (writes : WritesLines lines text)
    (free : ∀ line ∈ lines, IsLine line) : ¬ closingMark <:+: text := by
  induction writes with
  | none => exact isLine_nil.free
  | feed line others hypothesis =>
      rw [List.forall_mem_cons] at free
      exact not_infix_cut (by decide) free.1.free (hypothesis free.2)
  | returnFeed line others hypothesis =>
      rw [List.forall_mem_cons] at free
      exact not_infix_cut (by decide) free.1.free
        (@not_infix_cut [] _ _ _ (by decide) isLine_nil.free (hypothesis free.2))

/-- The block of an entry is read back. -/
theorem readBlock_entry (writable : Writable entry)
    (writes : WritesLines (entryLines entry) content) (context : Context) :
    readBlock origin content context = (some { entry with origin := some origin }, context) := by
  obtain ⟨nameValue, nameSome⟩ := isValue_of_identifier writable.name
  have letters : entry.name.toList ≠ [] := mt String.toList_eq_nil_iff.mp nameSome
  have nameTag : lineTag? ('@' :: entry.name.toList) = some entry.name.toList :=
    lineTag?_at letters
      (fun character head => nameValue.solid character (List.mem_of_head? head))
      (fun character last => nameValue.solid character (List.mem_of_getLast? last))
  have found := tags_of_lines writes fun line inside =>
    (isLine_of_entry writable line inside).single
  rw [entryLines, List.append_assoc, List.append_assoc, List.cons_append, List.cons_append,
    List.nil_append, List.filterMap_cons_none rfl, List.filterMap_cons_some nameTag,
    List.filterMap_append, List.filterMap_append] at found
  have name : blockName entry.name.toList = entry.name := by
    simp [blockName, Text.words_of_whole letters nameValue.solid]
  rw [readBlock, found]
  simp only [name, writable.name, if_true]
  have csv := readTags_path "csv" (fun csv => { name := entry.name, csv, origin := some origin })
    context (by decide) writable.csv fun tag words => by simp [readTag, words]
  have excel := readTags_path "excel"
    (fun excel => { name := entry.name, csv := entry.csv, excel, origin := some origin })
    context (by decide) writable.excel fun tag words => by simp [readTag, words]
  rw [readTags_append, csv, readTags_append, excel, readTags_depend writable.depend _ rfl]

/-- Extraction reads back every entry that a text annotates, with its origin, and reports
nothing. -/
theorem extract_annotated (writable : ∀ entry ∈ entries, Writable entry) {text : String}
    (annotated : Annotates entries text.toList) (origin : FilePath) (context : Context) :
    extract origin text context =
      (entries.map fun entry => { entry with origin := some origin }, context) := by
  rw [extract]
  generalize text.toList = letters at annotated
  induction annotated with
  | filler free => rw [blocks_of_free free]; rfl
  | block free writes others hypothesis =>
      rw [List.forall_mem_cons] at writable
      have content := free_of_lines writes (isLine_of_entry writable.1)
      rw [blocks_block free content, readBlocks, readBlock_entry writable.1 writes,
        hypothesis writable.2]
      rfl

/-- Marks and at signs inside values, a slash before a block and a star behind one are read as
they stand. -/
theorem extract_annotated_marks :
    extract (.ofText "d/c.rs") ("/\n//*\r\n@Item\n@csv /*a@b/\r\n@depend x|@y*\n*/" ++
        "*/ @z //*\n@Slot\r\n@excel @s/*\n*/") {} =
      ([{ name := "Item", csv := "/*a@b/", depend := ["x", "@y*"],
          origin := some (.ofText "d/c.rs") },
        { name := "Slot", excel := "@s/*", origin := some (.ofText "d/c.rs") }], {}) := by
  let item : TableEntry := { name := "Item", csv := "/*a@b/", depend := ["x", "@y*"] }
  let slot : TableEntry := { name := "Slot", excel := "@s/*" }
  have itemLines : entryLines item =
      [[], "@Item".toList, "@csv /*a@b/".toList, "@depend x|@y*".toList] := by decide
  have slotLines : entryLines slot = [[], "@Slot".toList, "@excel @s/*".toList] := by decide
  have itemWrites := WritesLines.returnFeed [] (.feed "@Item".toList
    (.returnFeed "@csv /*a@b/".toList (.feed "@depend x|@y*".toList .none)))
  have slotWrites := WritesLines.feed [] (.returnFeed "@Slot".toList
    (.feed "@excel @s/*".toList .none))
  rw [← itemLines] at itemWrites
  rw [← slotLines] at slotWrites
  have itemFiller : ¬ openingMark <:+: "/\n/".toList := by decide
  have slotFiller : ¬ openingMark <:+: "*/ @z /".toList := by decide
  have ending : ¬ openingMark <:+: [] := by decide
  have annotated := Annotates.block itemFiller itemWrites
    (.block slotFiller slotWrites (.filler ending))
  have writable : ∀ entry ∈ [item, slot], Writable entry := by decide
  refine extract_annotated writable ?_ (.ofText "d/c.rs") {}
  exact Eq.mp (congrArg (Annotates [item, slot]) (by decide)) annotated

end Blocks

end Tablewright.Annotation
