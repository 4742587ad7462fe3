import Tablewright.Proofs.Annotation.Dependencies
import Tablewright.Proofs.Emission.Locality
import Tablewright.Proofs.Text.CasePair
import Tablewright.Proofs.Text.Lines

namespace Tablewright.Emission

open Annotation

/-- This function is the line that calls the loader of a table. -/
def callLine (table : ResolvedTable) : String :=
  "    load_" ++ Naming.functionSuffix table.name ++ "()?;"

/-- This function is the comment that lists the dependencies of a table. -/
def dependencyLine (table : ResolvedTable) : String :=
  "    // " ++ table.name ++ " depends on: " ++ Text.joined ", " table.entry.depend

/-- This function is the lines of a table in `load_all`. -/
def tableLines (table : ResolvedTable) : List String :=
  if table.entry.depend = [] then [callLine table] else [dependencyLine table, callLine table]

/-- This function is the lines of `load_all` with some lines in its body. -/
def functionLines (body : List String) : List String :=
  ["/// Loads every table.", "pub fn load_all() -> Result<(), TableError> \x7b"] ++ body ++
    ["    Ok(())", "\x7d"]

/-- This function tells whether a line in the body of a function is a comment. -/
def isComment (line : String) : Bool :=
  "    // ".toList.isPrefixOf line.toList

section Tables

variable (table : ResolvedTable) (tables : List ResolvedTable)

theorem isComment_dependencyLine : isComment (dependencyLine table) = true := by
  rw [isComment, List.isPrefixOf_iff_prefix, dependencyLine, String.append_assoc,
    String.append_assoc, String.toList_append]
  exact List.prefix_append _ _

theorem isComment_callLine : isComment (callLine table) = false := by
  rw [callLine, String.append_assoc, isComment, String.toList_append]
  rfl

theorem loadAllLines_eq : loadAllLines tables = functionLines (tables.flatMap tableLines) := by
  have body : loadLines tables = tables.flatMap tableLines := by
    rw [loadLines, List.map_flatMap]
    congr 1
    funext table
    rw [LoadLine.ofTable, tableLines]
    by_cases none : table.entry.depend = []
    · rw [if_pos none, none]
      rfl
    · rw [if_neg none, if_neg (mt List.isEmpty_iff.mp none)]
      rfl
  rw [← body]
  rfl

theorem filter_functionLines (body : List String) :
    (functionLines body).filter (fun line => !isComment line) =
      functionLines (body.filter fun line => !isComment line) := by
  rw [functionLines, List.filter_append, List.filter_append]
  rfl

/-- What is left without the comments are the calls in their order. -/
theorem calls_tableLines :
    (tables.flatMap tableLines).filter (fun line => !isComment line) = tables.map callLine := by
  rw [List.filter_flatMap, List.map_eq_flatMap]
  congr 1
  funext table
  rw [tableLines]
  split <;> simp [isComment_dependencyLine, isComment_callLine]

theorem length_tableLines : (tables.flatMap tableLines).length =
    tables.length + tables.countP fun table => table.entry.depend ≠ [] := by
  induction tables with
  | nil => rfl
  | cons table rest hypothesis =>
      rw [List.flatMap_cons, List.length_append, hypothesis, List.length_cons, List.countP_cons,
        tableLines]
      split <;> simp_all <;> omega

end Tables

/-- The only white space in a text are blanks. -/
def IsSpaced (text : String) : Prop :=
  ∀ character ∈ text.toList, Text.isWhiteSpace character = true → character = ' '

instance (text : String) : Decidable (IsSpaced text) :=
  decidable_of_iff (text.toList.all fun character =>
      !Text.isWhiteSpace character || character == ' ')
    (by simp [IsSpaced, imp_iff_not_or])

section Spaced

variable {first second : String} {items : List String}

theorem IsSpaced.append (left : IsSpaced first) (right : IsSpaced second) :
    IsSpaced (first ++ second) := by
  intro character inside
  rw [String.toList_append, List.mem_append] at inside
  exact inside.elim (left character) (right character)

theorem isSpaced_of_solid
    (solid : ∀ character ∈ first.toList, Text.isWhiteSpace character = false) :
    IsSpaced first := by
  intro character inside white
  rw [solid character inside] at white
  cases white

theorem isSpaced_joined (between : IsSpaced first) (spaced : ∀ item ∈ items, IsSpaced item) :
    IsSpaced (Text.joined first items) := by
  intro character inside
  rw [Text.joined, String.toList_intercalate] at inside
  rcases Text.mem_of_intercalate inside with outside | ⟨part, among, own⟩
  · exact between character outside
  · obtain ⟨item, listed, rfl⟩ := List.mem_map.mp among
    exact spaced item listed character own

/-- A text without white space other than blanks is one line. -/
theorem IsSpaced.single (spaced : IsSpaced first) : '\n' ∉ first.toList :=
  fun inside => absurd (spaced '\n' inside rfl) (by decide)

variable {table : ResolvedTable} {texts : List String}

theorem isSpaced_identifier {characters : String}
    (continues : ∀ character ∈ characters.toList, Naming.continuesIdentifier character = true) :
    IsSpaced characters :=
  isSpaced_of_solid fun character inside =>
    not_whiteSpace_of_identifier (continues character inside)

theorem isSpaced_callLine (declared : DeclaredBy texts table.entry) :
    IsSpaced (callLine table) := by
  have front : IsSpaced "    load_" := by decide +kernel
  have back : IsSpaced "()?;" := by decide +kernel
  have suffix := isSpaced_identifier (Naming.continues_functionSuffix declared.plain.1)
  exact (front.append suffix).append back

theorem isSpaced_dependencyLine (declared : DeclaredBy texts table.entry) :
    IsSpaced (dependencyLine table) := by
  obtain ⟨identifier, dependencies⟩ := declared.plain
  have front : IsSpaced "    // " := by decide +kernel
  have middle : IsSpaced " depends on: " := by decide +kernel
  have between : IsSpaced ", " := by decide +kernel
  have name := isSpaced_identifier (Naming.continues_of_identifier identifier)
  have items := isSpaced_joined between fun item inside =>
    isSpaced_of_solid (dependencies item inside).solid
  exact ((front.append name).append middle).append items

theorem isSpaced_tableLines (declared : DeclaredBy texts table.entry) :
    ∀ line ∈ tableLines table, IsSpaced line := by
  have call := isSpaced_callLine declared
  rw [tableLines]
  split
  · exact List.forall_mem_singleton.mpr call
  · exact List.forall_mem_cons.mpr
      ⟨isSpaced_dependencyLine declared, List.forall_mem_singleton.mpr call⟩

theorem isSpaced_functionLines {body : List String} (spaced : ∀ line ∈ body, IsSpaced line) :
    ∀ line ∈ functionLines body, IsSpaced line := by
  simp only [functionLines, List.forall_mem_append]
  exact ⟨⟨by decide +kernel, spaced⟩, by decide +kernel⟩

end Spaced

/-- These are the lines of a text that are no comments. -/
def codeLines (text : String) : List String :=
  (Text.linesOf text).filter fun line => !isComment line

/-- Two tables are the same apart from the dependencies of their entries. -/
def TablesDiffer (table other : ResolvedTable) : Prop :=
  other = { table with entry := { table.entry with depend := other.entry.depend } }

/-- A text loads tables when it has the lines of a function that calls their loaders in their
order. -/
structure LoadsTables (tables : List ResolvedTable) (text : String) : Prop where
  lines : Text.linesOf text = functionLines (tables.flatMap tableLines)
  /-- Nothing stands behind the last line. -/
  whole : text = Text.ofLines (Text.linesOf text)
  size : (Text.linesOf text).length =
    4 + tables.length + tables.countP fun table => table.entry.depend ≠ []
  apart : ∀ table ∈ tables,
    isComment (dependencyLine table) = true ∧ isComment (callLine table) = false
  /-- The lines that are no comments depend on the names of the tables only. -/
  code : codeLines text = functionLines (tables.map callLine)
  /-- No other character ends a line either. -/
  spaced : ∀ line ∈ Text.linesOf text, IsSpaced line

section Fragments

variable {texts : List String} {tables others : List ResolvedTable}

theorem loadsTables (declared : ∀ table ∈ tables, DeclaredBy texts table.entry) :
    LoadsTables tables (loadAllFragment tables).text := by
  have spaced : ∀ line ∈ loadAllLines tables, IsSpaced line := by
    rw [loadAllLines_eq]
    apply isSpaced_functionLines
    intro line inside
    obtain ⟨table, among, own⟩ := List.mem_flatMap.mp inside
    exact isSpaced_tableLines (declared table among) line own
  have found : Text.linesOf (loadAllFragment tables).text = loadAllLines tables :=
    Text.linesOf_ofLines fun line inside => (spaced line inside).single
  constructor
  case lines => rw [found, loadAllLines_eq]
  case whole => exact (congrArg Text.ofLines found).symm
  case size =>
    rw [found, loadAllLines_eq, functionLines, List.length_append, List.length_append,
      length_tableLines]
    simp only [List.length_cons, List.length_nil]
    omega
  case apart => exact fun table _ => ⟨isComment_dependencyLine table, isComment_callLine table⟩
  case code => rw [codeLines, found, loadAllLines_eq, filter_functionLines, calls_tableLines]
  case spaced =>
    rw [found]
    exact spaced

theorem calls_of_differ (differ : List.Forall₂ TablesDiffer tables others) :
    others.map callLine = tables.map callLine := by
  induction differ with
  | nil => rfl
  | cons first _ hypothesis =>
      rw [List.map_cons, List.map_cons, hypothesis, first]
      rfl

/-- Tables have counterparts with the dependencies of other texts. -/
theorem exists_counterparts {otherTexts : List String}
    (declared : ∀ table ∈ tables, DeclaredBy texts table.entry)
    (same : List.Forall₂ SameTextButDependencies texts otherTexts) :
    ∃ others, List.Forall₂ TablesDiffer tables others ∧
      ∀ other ∈ others, DeclaredBy otherTexts other.entry := by
  induction tables with
  | nil => exact ⟨[], .nil, by simp⟩
  | cons table rest hypothesis =>
      rw [List.forall_mem_cons] at declared
      obtain ⟨others, differ, otherDeclared⟩ := hypothesis declared.2
      obtain ⟨entry, entryDeclared, entryDiffers⟩ := declared.1.counterpart same
      refine ⟨{ table with entry } :: others, .cons ?_ differ,
        List.forall_mem_cons.mpr ⟨entryDeclared, otherDeclared⟩⟩
      show ({ table with entry } : ResolvedTable) = _
      rw [entryDiffers]

/-- Dependencies stay in comments. The function `load_all` of tables whose entries are declared by
texts has the call of each table in a line of its own, after one comment if the table has
dependencies. Texts with other dependencies have the same tables apart from these, and the same
lines apart from the comments. -/
theorem dependencies_stay_comments
    (declared : ∀ table ∈ tables, DeclaredBy texts table.entry) :
    (∀ options, (primary options tables).inSection .loadAll = [(loadAllFragment tables).text]) ∧
    LoadsTables tables (loadAllFragment tables).text ∧
    ∀ otherTexts : List String,
      (List.Forall₂ SameTextButDependencies texts otherTexts →
        ∃ others, List.Forall₂ TablesDiffer tables others ∧
          ∀ other ∈ others, DeclaredBy otherTexts other.entry) ∧
      ∀ others : List ResolvedTable, (∀ other ∈ others, DeclaredBy otherTexts other.entry) →
        List.Forall₂ TablesDiffer tables others →
        codeLines (loadAllFragment others).text = codeLines (loadAllFragment tables).text := by
  have loads := loadsTables declared
  refine ⟨fun options => loadAll_primary options tables, loads, ?_⟩
  intro otherTexts
  refine ⟨exists_counterparts declared, ?_⟩
  intro others otherDeclared differ
  rw [loads.code, (loadsTables otherDeclared).code, calls_of_differ differ]

/-- This table is declared with some dependencies. -/
def dependentTable (depend : List String) : ResolvedTable :=
  let table := plainTable "Item" "TABLE_ITEM"
  { table with entry := { table.entry with depend, origin := some (.ofText "item.rs") } }

/-- Marks of comments and ends of statements are no code among the dependencies. -/
theorem dependencies_stay_comments_item :
    let texts := ["/*@Item\n@depend Skill|//\n@depend *\\n*/"]
    let otherTexts := ["/*@Item\n@depend ()?;|\x7d\r@depend \t*/"]
    let table := dependentTable ["Skill", "//", "*\\n"]
    let other := dependentTable ["()?;", "\x7d"]
    (∀ each ∈ [table], DeclaredBy texts each.entry) ∧
    (∀ each ∈ [other], DeclaredBy otherTexts each.entry) ∧
    List.Forall₂ TablesDiffer [table] [other] ∧
    LoadsTables [table] (loadAllFragment [table]).text ∧
    codeLines (loadAllFragment [other]).text = codeLines (loadAllFragment [table]).text := by
  intro texts otherTexts table other
  have declared : ∀ each ∈ [table], DeclaredBy texts each.entry := by
    intro each inside
    rw [List.mem_singleton.mp inside]
    exact ⟨_, List.mem_cons_self, .ofText "item.rs", {}, by decide +kernel⟩
  have otherDeclared : ∀ each ∈ [other], DeclaredBy otherTexts each.entry := by
    intro each inside
    rw [List.mem_singleton.mp inside]
    exact ⟨_, List.mem_cons_self, .ofText "item.rs", {}, by decide +kernel⟩
  have differ : List.Forall₂ TablesDiffer [table] [other] := .cons rfl .nil
  obtain ⟨_, loads, again⟩ := dependencies_stay_comments declared
  exact ⟨declared, otherDeclared, differ, loads, (again otherTexts).2 _ otherDeclared differ⟩

end Fragments

end Tablewright.Emission
