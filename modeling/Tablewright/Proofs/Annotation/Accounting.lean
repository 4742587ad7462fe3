import Tablewright.Proofs.Annotation.Blocks
import Tablewright.Proofs.Annotation.Entries

namespace Tablewright.Annotation

/-- A line ends with one of these characters. -/
def lineEnds : List Char := ['\n', '\r']

/-- White space has these codes. -/
def spaceCodes : List Nat :=
  [9, 10, 11, 12, 13, 32, 133, 160, 5760, 8192, 8193, 8194, 8195, 8196, 8197, 8198, 8199, 8200,
   8201, 8202, 8232, 8233, 8239, 8287, 12288]

def isSpace (character : Char) : Bool := spaceCodes.contains character.toNat

/-- A text is without tags when each of its at signs stands at the end of a line. -/
def Untagged (text : List Char) : Prop :=
  ∀ character ∉ lineEnds, ¬ ['@', character] <:+: text

/-- The spaces around a tag are cut off, and it has none at its own ends. -/
structure Trimmed (body tag : List Char) : Prop where
  cut : ∃ front back, body = front ++ tag ++ back ∧
    ∀ character ∈ front ++ back, isSpace character = true
  starts : ∀ character ∈ tag.head?, isSpace character = false
  ends : ∀ character ∈ tag.getLast?, isSpace character = false

/-- A text has tags when they are cut out of it from the left. A tag starts at the first at sign
that is not at the end of its line, and goes up to the end of the line. -/
inductive Tagged : List Char → List (List Char) → Prop
  | none {text : List Char} (bare : Untagged text) : Tagged text []
  | tag {front body rest tag : List Char} {others : List (List Char)}
      (bare : Untagged (front ++ ['@'])) (some : body ≠ [])
      (single : ∀ character ∈ body, character ∉ lineEnds)
      (ends : ∀ character ∈ rest.head?, character ∈ lineEnds)
      (trimmed : Trimmed body tag) (later : Tagged rest others) :
      Tagged (front ++ '@' :: body ++ rest) (tag :: others)

/-- The tokens of a tag stand between its spaces. -/
def tokens (tag : List Char) : List String :=
  ((tag.splitOnP isSpace).filter (· ≠ [])).map String.ofList

def firstToken (tag : List Char) : String := (tokens tag).head?.getD ""

/-- A type name has ASCII letters, digits and underscores, does not start with a digit, and is not
a lone underscore. -/
structure IsTypeName (name : String) : Prop where
  starts : ∃ first rest, name.toList = first :: rest ∧ (first = '_' ∨ first.isAlpha = true)
  continues : ∀ character ∈ name.toList, character = '_' ∨ character.isAlphanum = true
  more : name ≠ "_"

/-- These are the values of a key in the tags of exactly two tokens. -/
def values (key : String) (tags : List (List Char)) : List String :=
  tags.filterMap fun tag =>
    match tokens tag with
    | [first, value] => if first = key then some value else none
    | _ => none

/-- The bars in a value separate parts, and empty parts do not count. -/
def parts (value : String) : List String :=
  ((value.toList.splitOn '|').filter (· ≠ [])).map String.ofList

/-- The tags of the blocks of a text are accounted for by entries and warnings. A block without
tags yields nothing. A block whose first tag does not start with a type name yields one warning.
Any other block yields one entry, and one warning for each later tag that does not have two
tokens. -/
inductive Accounted (origin : FilePath) :
    List (List (List Char)) → List TableEntry → Diagnostics → Prop
  | none : Accounted origin [] [] []
  | untagged {blocks : List (List (List Char))} {entries : List TableEntry}
      {added : Diagnostics} (others : Accounted origin blocks entries added) :
      Accounted origin ([] :: blocks) entries added
  | unnamed {first : List Char} {later : List (List Char)} {blocks : List (List (List Char))}
      {entries : List TableEntry} {added : Diagnostics}
      (foreign : ¬ IsTypeName (firstToken first))
      (others : Accounted origin blocks entries added) :
      Accounted origin ((first :: later) :: blocks) entries
        (unnamedWarning origin (firstToken first) :: added)
  | declared {first : List Char} {later : List (List Char)} {blocks : List (List (List Char))}
      {entries : List TableEntry} {added : Diagnostics}
      (named : IsTypeName (firstToken first))
      (others : Accounted origin blocks entries added) :
      Accounted origin ((first :: later) :: blocks)
        ({ name := firstToken first
           csv := (values "csv" later).getLast?.getD ""
           excel := (values "excel" later).getLast?.getD ""
           depend := (values "depend" later).flatMap parts
           origin := some origin } :: entries)
        ((later.filter fun tag => (tokens tag).length ≠ 2).map
          (malformedWarning (firstToken first)) ++ added)

section Tags

variable {line text : List Char} {border character : Char} {found : List (List Char)}

theorem mem_lineEnds : character ∈ lineEnds ↔ isLineEnd character = true := by
  simp [lineEnds, isLineEnd]

theorem not_mem_lineEnds : character ∉ lineEnds ↔ isLineEnd character = false := by
  rw [mem_lineEnds, Bool.not_eq_true]

theorem isSpace_eq (character : Char) : isSpace character = Text.isWhiteSpace character := by
  rw [Bool.eq_iff_iff]
  simp [isSpace, spaceCodes, Text.isWhiteSpace]
  omega

theorem trimmed_trim (body : List Char) : Trimmed body (Text.trim body) := by
  obtain ⟨blank, cut, white, ends⟩ := Text.trimEnd_cut (body.dropWhile Text.isWhiteSpace)
  have whole := List.takeWhile_append_dropWhile (p := Text.isWhiteSpace) (l := body)
  refine ⟨⟨body.takeWhile Text.isWhiteSpace, blank, ?_, ?_⟩, ?_, ?_⟩
  · rw [Text.trim, List.append_assoc, ← cut, whole]
  · intro character inside
    rw [isSpace_eq]
    rcases List.mem_append.mp inside with before | behind
    · exact List.all_eq_true.mp List.all_takeWhile character before
    · exact white character behind
  · intro character head
    have first : character ∈ (body.dropWhile Text.isWhiteSpace).head? := by
      rw [Text.trim] at head
      rw [cut, List.head?_append, Option.mem_def.mp head]
      rfl
    have solid := List.head?_dropWhile_not Text.isWhiteSpace body
    rw [Option.mem_def.mp first] at solid
    simpa [isSpace_eq] using solid
  · intro character last
    rw [isSpace_eq]
    exact ends character last

/-- The end of a line keeps texts apart. -/
theorem untagged_cut_iff (ends : border ∈ lineEnds) :
    Untagged (line ++ border :: text) ↔ Untagged line ∧ Untagged text := by
  have outside : ∀ character ∉ lineEnds, border ∉ ['@', character] := by
    intro character inner inside
    rcases List.mem_cons.mp inside with rfl | same
    · exact absurd ends (by decide)
    · exact inner (List.mem_singleton.mp same ▸ ends)
  constructor
  · intro bare
    exact ⟨fun character inner inside => bare character inner
        ((Text.infix_cut_iff (outside character inner)).mpr (.inl inside)),
      fun character inner inside => bare character inner
        ((Text.infix_cut_iff (outside character inner)).mpr (.inr inside))⟩
  · rintro ⟨lineBare, textBare⟩ character inner inside
    rcases (Text.infix_cut_iff (outside character inner)).mp inside with before | after
    · exact lineBare character inner before
    · exact textBare character inner after

/-- A line without a tag in front changes no tags. -/
theorem Tagged.behind (tagged : Tagged text found) (bare : Untagged line)
    (ends : border ∈ lineEnds) : Tagged (line ++ border :: text) found := by
  cases tagged with
  | none textBare => exact .none ((untagged_cut_iff ends).mpr ⟨bare, textBare⟩)
  | @tag front body rest tag others frontBare some single bodyEnds trimmed later =>
      have same : line ++ border :: (front ++ '@' :: body ++ rest) =
          (line ++ border :: front) ++ '@' :: body ++ rest := by simp
      rw [same]
      refine .tag ?_ some single bodyEnds trimmed later
      have grouped : line ++ border :: front ++ ['@'] = line ++ border :: (front ++ ['@']) := by
        simp
      rw [grouped]
      exact (untagged_cut_iff ends).mpr ⟨bare, frontBare⟩

theorem untagged_of_absent (absent : '@' ∉ line) : Untagged line :=
  fun _ _ inside => absent (inside.subset List.mem_cons_self)

/-- A text whose only at sign is its last character is without tags. -/
theorem untagged_concat (absent : '@' ∉ line) : Untagged (line ++ ['@']) := by
  intro character inner inside
  rcases List.infix_concat_iff.mp inside with ending | before
  · rcases List.suffix_concat_iff.mp ending with none | ⟨start, same, suffix⟩
    · cases none
    · cases start with
      | nil => cases same
      | cons first others =>
          obtain ⟨rfl, _⟩ := List.cons.inj same
          exact absent (suffix.subset List.mem_cons_self)
  · exact untagged_of_absent absent character inner before

/-- A line has no tag, or its tag goes from its first at sign to its end. -/
theorem lineTag?_cases (line : List Char) :
    (lineTag? line = none ∧ Untagged line) ∨
      ∃ front body, line = front ++ '@' :: body ∧ body ≠ [] ∧ Untagged (front ++ ['@']) ∧
        lineTag? line = some (Text.trim body) := by
  obtain absent | ⟨front, sign, body, rfl, frontFree, isSign⟩ :=
    Text.whole_or_cut (· == '@') line
  · have free : '@' ∉ line := fun inside => by simpa using absent '@' inside
    have dropped : line.dropWhile (· ≠ '@') = [] := by
      rw [List.dropWhile_eq_nil_iff]
      simpa using absent
    exact .inl ⟨by rw [lineTag?, dropped], untagged_of_absent free⟩
  · obtain rfl := eq_of_beq isSign
    have free : '@' ∉ front := fun inside => by simpa using frontFree '@' inside
    have dropped : (front ++ '@' :: body).dropWhile (· ≠ '@') = '@' :: body := by
      rw [List.dropWhile_append_of_pos (by simpa using frontFree)]
      simp
    cases body with
    | nil => exact .inl ⟨by rw [lineTag?, dropped], untagged_concat free⟩
    | cons first rest =>
        exact .inr ⟨front, first :: rest, rfl, by simp, untagged_concat free,
          by rw [lineTag?, dropped]⟩

/-- The tags that are read from a block are the tags that it has. -/
theorem tagged_tags (block : List Char) : Tagged block (tags block) := by
  have tags_eq : ∀ text, tags text = (Text.pieces isLineEnd text).filterMap lineTag? :=
    fun _ => rfl
  induction length : block.length using Nat.strong_induction_on generalizing block with
  | _ size hypothesis =>
      obtain single | ⟨line, border, rest, rfl, single, ends⟩ :=
        Text.whole_or_cut isLineEnd block
      · rw [tags_eq, Text.pieces_of_whole single]
        obtain ⟨none, bare⟩ | ⟨front, body, rfl, some, bare, tag⟩ := lineTag?_cases block
        · simpa [none] using Tagged.none bare
        · have inner : ∀ character ∈ body, character ∉ lineEnds := fun character inside =>
            not_mem_lineEnds.mpr (single character (by simp [inside]))
          have last := @Tagged.tag front body [] _ [] bare some inner (by simp)
            (trimmed_trim body) (.none (by simp [Untagged]))
          simpa [tag] using last
      · have shorter : rest.length < size := by
          rw [← length, List.length_append, List.length_cons]
          omega
        have later := hypothesis _ shorter rest rfl
        rw [tags_eq] at later ⊢
        rw [Text.pieces_cut single ends, List.filterMap_cons]
        rw [← mem_lineEnds] at ends
        obtain ⟨none, bare⟩ | ⟨front, body, rfl, some, bare, tag⟩ := lineTag?_cases line
        · rw [none]
          exact later.behind bare ends
        · have inner : ∀ character ∈ body, character ∉ lineEnds := fun character inside =>
            not_mem_lineEnds.mpr (single character (by simp [inside]))
          have behind : Tagged (border :: rest) (tags rest) :=
            @Tagged.behind [] rest border _ later (by simp [Untagged]) ends
          have cut := Tagged.tag bare some inner (by simpa using ends) (trimmed_trim body) behind
          rw [tag]
          exact cut

end Tags

section Tokens

theorem tokens_eq (tag : List Char) : tokens tag = (Text.words tag).map String.ofList := by
  have same : isSpace = Text.isWhiteSpace := funext isSpace_eq
  rw [tokens, Text.words, Text.pieces_eq_splitOnP, same]
  congr 2
  funext piece
  cases piece <;> rfl

theorem firstToken_eq (tag : List Char) : firstToken tag = blockName tag := by
  rw [firstToken, blockName, tokens_eq, List.head?_map]
  cases (Text.words tag).head? <;> rfl

theorem isTypeName_iff {name : String} :
    IsTypeName name ↔ Naming.isIdentifier name = true := by
  constructor
  · rintro ⟨⟨first, rest, letters, starts⟩, continues, more⟩
    rw [letters] at continues
    simp only [Naming.isIdentifier, letters, Naming.startsIdentifier, Bool.and_eq_true,
      Bool.or_eq_true, beq_iff_eq, decide_eq_true_eq, List.all_eq_true]
    exact ⟨⟨starts, more⟩, fun character inside => by
      simpa [Naming.continuesIdentifier] using continues character inside⟩
  · intro identifier
    have continues := Naming.continues_of_identifier identifier
    rw [Naming.isIdentifier] at identifier
    split at identifier
    · cases identifier
    · next first rest letters =>
        simp only [Bool.and_eq_true, decide_eq_true_eq] at identifier
        refine ⟨⟨first, rest, letters, ?_⟩, fun character inside => ?_, identifier.1.2⟩
        · simpa [Naming.startsIdentifier] using identifier.1.1
        · simpa [Naming.continuesIdentifier] using continues character inside

theorem values_eq (key : String) (tags : List (List Char)) :
    values key tags = (valuesOf key tags).map String.ofList := by
  rw [values, valuesOf, List.map_filterMap]
  congr 1
  funext tag
  rw [tokens_eq]
  obtain none | ⟨first, none | ⟨value, none | ⟨third, more⟩⟩⟩ := Text.words tag
  · rfl
  · rfl
  · rw [List.map_cons, List.map_cons, List.map_nil]
    dsimp only
    split <;> rfl
  · rfl

theorem lastValue_eq (key : String) (tags : List (List Char)) :
    (values key tags).getLast?.getD "" = lastValue key tags := by
  rw [values_eq, lastValue, List.getLast?_map]
  cases (valuesOf key tags).getLast? <;> rfl

theorem parts_eq (value : List Char) : parts (String.ofList value) = dependencies value := by
  rw [parts, dependencies, Text.pieces_eq_splitOnP, String.toList_ofList]
  congr 2
  funext piece
  cases piece <;> rfl

theorem declaredEntry_eq (origin : FilePath) (name : String) (tags : List (List Char)) :
    declaredEntry origin name tags =
      { name
        csv := (values "csv" tags).getLast?.getD ""
        excel := (values "excel" tags).getLast?.getD ""
        depend := (values "depend" tags).flatMap parts
        origin := some origin } := by
  have depend : (values "depend" tags).flatMap parts =
      (valuesOf "depend" tags).flatMap dependencies := by
    rw [values_eq, List.flatMap_map]
    exact congrArg (List.flatMap · _) (funext parts_eq)
  rw [lastValue_eq, lastValue_eq, depend]
  rfl

theorem malformed_eq : (fun tag => decide (Malformed tag)) =
    fun tag => decide ((tokens tag).length ≠ 2) := by
  funext tag
  rw [tokens_eq, List.length_map]
  rfl

end Tokens

section Results

variable {origin : FilePath} {blocks : List (List (List Char))} {entries : List TableEntry}
  {added : Diagnostics}

/-- One block with its tags is accounted for by what is read from it. -/
theorem accounted_block (block : List Char)
    (others : Accounted origin blocks entries added) :
    Accounted origin (tags block :: blocks) ((entryOf? origin block).toList ++ entries)
      (warningsOf origin block ++ added) := by
  rw [entryOf?, warningsOf]
  cases tags block with
  | nil => exact .untagged others
  | cons first later =>
      cases named : Naming.isIdentifier (blockName first) with
      | false =>
          have foreign : ¬ IsTypeName (firstToken first) := by
            simp [isTypeName_iff, firstToken_eq, named]
          have unnamed : Accounted origin ((first :: later) :: blocks) _ _ :=
            .unnamed foreign others
          rw [firstToken_eq] at unnamed
          simpa [named] using unnamed
      | true =>
          have typeName : IsTypeName (firstToken first) := by
            rw [isTypeName_iff, firstToken_eq, named]
          have declared : Accounted origin ((first :: later) :: blocks) _ _ :=
            .declared typeName others
          rw [firstToken_eq, ← declaredEntry_eq, ← malformed_eq] at declared
          simpa [named] using declared

/-- Blocks are accounted for by what is read from them. -/
theorem accounted_blocks (origin : FilePath) (blocks : List (List Char)) :
    Accounted origin (blocks.map tags) (blocks.filterMap (entryOf? origin))
      (blocks.flatMap (warningsOf origin)) := by
  induction blocks with
  | nil => exact .none
  | cons block rest hypothesis =>
      have accounted := accounted_block block hypothesis
      rw [List.map_cons, List.flatMap_cons, List.filterMap_cons]
      cases found : entryOf? origin block <;> simpa [found] using accounted

namespace Accounted

/-- Nothing but warnings is reported about blocks. -/
theorem warnings (accounted : Accounted origin blocks entries added) :
    ∀ diagnostic ∈ added, diagnostic.isWarning = true := by
  induction accounted with
  | none => simp
  | untagged _ hypothesis => exact hypothesis
  | unnamed _ _ hypothesis => exact List.forall_mem_cons.mpr ⟨rfl, hypothesis⟩
  | declared _ _ hypothesis =>
      rw [List.forall_mem_append]
      refine ⟨?_, hypothesis⟩
      intro diagnostic inside
      obtain ⟨tag, _, rfl⟩ := List.mem_map.mp inside
      rfl

/-- Each block with tags has one result, an entry or a warning about its name. -/
theorem results (accounted : Accounted origin blocks entries added) :
    (blocks.filter (· ≠ [])).length = entries.length +
      (added.filter fun diagnostic => diagnostic.code = "invalid_table_name").length := by
  induction accounted with
  | none => rfl
  | untagged _ hypothesis => rw [List.filter_cons_of_neg (by simp), hypothesis]
  | unnamed _ _ hypothesis =>
      rw [List.filter_cons_of_pos (by simp), List.filter_cons_of_pos (by rfl),
        List.length_cons, List.length_cons, hypothesis]
      omega
  | declared _ _ hypothesis =>
      have other : ∀ (name : String) (malformed : List (List Char)),
          (malformed.map (malformedWarning name)).filter
            (fun diagnostic => diagnostic.code = "invalid_table_name") = [] := by
        intro name malformed
        simp [malformedWarning, Diagnostic.warning]
      rw [List.filter_cons_of_pos (by simp), List.filter_append, other,
        List.nil_append, List.length_cons, List.length_cons, hypothesis]
      omega

end Accounted

end Results

/-- Extraction accounts for all blocks of a text and their tags, keeps the earlier diagnostics and
the registry, and only warns. Each block with tags has one result. -/
theorem extract_accounted (origin : FilePath) (text : String) (context : Context) :
    let extracted := extract origin text context
    extracted.2.registry = context.registry ∧
    ∃ contents tagged added, Blocked text.toList contents ∧
      List.Forall₂ Tagged contents tagged ∧
      extracted.2.diagnostics = context.diagnostics ++ added ∧
      (∀ diagnostic ∈ added, diagnostic.isWarning = true) ∧
      Accounted origin tagged extracted.1 added ∧
      (tagged.filter (· ≠ [])).length = extracted.1.length +
        (added.filter fun diagnostic => diagnostic.code = "invalid_table_name").length := by
  intro extracted
  have accounted := accounted_blocks origin (blocks text.toList)
  rw [← extract_filterMap origin text context] at accounted
  refine ⟨(readBlocks_adds origin _ context).registry, blocks text.toList,
    (blocks text.toList).map tags, _, blocked_blocks text.toList, ?_,
    extract_diagnostics origin text context, accounted.warnings, accounted, accounted.results⟩
  rw [List.forall₂_map_right_iff, List.forall₂_same]
  exact fun block _ => tagged_tags block

/-- Malformed tags, an ignored one and repeated ones stand between blocks without a usable name. -/
theorem extract_accounted_malformed :
    let origin : FilePath := .ofText "d/c.rs"
    let text := "/* none */ /* @Item two\n@csv a b\n@csv i.csv\n@depend A||B\n@note x\n" ++
      "@depend C\r\n@lost */ /* @bad-name\n@csv x y z */ /* @ */"
    let entry : TableEntry :=
      { name := "Item", csv := "i.csv", depend := ["A", "B", "C"], origin := some origin }
    let added := [malformedWarning "Item" "csv a b".toList, malformedWarning "Item" "lost".toList,
      unnamedWarning origin "bad-name", unnamedWarning origin ""]
    (extract origin text {}).1 = [entry] ∧ (extract origin text {}).2.diagnostics = added ∧
      ∃ contents tagged, Blocked text.toList contents ∧ List.Forall₂ Tagged contents tagged ∧
        Accounted origin tagged [entry] added ∧ (tagged.filter (· ≠ [])).length = 3 := by
  intro origin text entry added
  have read : (extract origin text {}).1 = [entry] := by decide +kernel
  have reported : (extract origin text {}).2.diagnostics = added := by decide +kernel
  obtain ⟨_, contents, tagged, found, blocked, tags, grown, _, accounted, results⟩ :=
    extract_accounted origin text {}
  obtain rfl : found = added := by
    rw [reported] at grown
    exact grown.symm
  rw [read] at accounted results
  exact ⟨read, reported, contents, tagged, blocked, tags, accounted, results⟩

end Tablewright.Annotation
