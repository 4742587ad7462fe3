import Mathlib.Data.List.Forall2
import Tablewright.Proofs.Annotation.Entries

namespace Tablewright.Annotation

/-- A dependency can be written on one line. It is not empty and has no white space. -/
structure IsDependency (item : String) : Prop where
  some : item ≠ ""
  solid : ∀ character ∈ item.toList, Text.isWhiteSpace character = false

theorem isDependency_of_value {value : List Char} {item : String}
    (solid : ∀ character ∈ value, Text.isWhiteSpace character = false)
    (inside : item ∈ dependencies value) : IsDependency item := by
  obtain ⟨piece, among, rfl⟩ := List.mem_map.mp inside
  obtain ⟨parted, some⟩ := List.mem_filter.mp among
  refine ⟨by simpa using some, ?_⟩
  intro character within
  rw [String.toList_ofList] at within
  exact solid character (Text.mem_of_pieces parted within)

/-- The values of tags have no white space, since they are words. -/
theorem solid_of_valuesOf {key : String} {tags : List (List Char)} {value : List Char}
    (inside : value ∈ valuesOf key tags) :
    ∀ character ∈ value, Text.isWhiteSpace character = false := by
  obtain ⟨tag, _, found⟩ := List.mem_filterMap.mp inside
  split at found
  · next first second words =>
      split at found
      · obtain rfl := Option.some.inj found
        have word : second ∈ Text.words tag := by simp [words]
        intro character within
        exact Text.whole_of_pieces (List.mem_of_mem_filter word) within
      · cases found
  · cases found

/-- The name of an entry is an identifier, and its dependencies can be written on one line. -/
theorem plain_of_extract {origin : FilePath} {text : String} {context : Context}
    {entry : TableEntry} (inside : entry ∈ (extract origin text context).1) :
    Naming.isIdentifier entry.name = true ∧ ∀ item ∈ entry.depend, IsDependency item := by
  rw [extract_filterMap] at inside
  obtain ⟨block, _, declared⟩ := List.mem_filterMap.mp inside
  unfold entryOf? at declared
  split at declared
  · cases declared
  · split at declared
    · next named =>
        obtain rfl := Option.some.inj declared
        refine ⟨named, ?_⟩
        intro item among
        obtain ⟨value, valued, part⟩ := List.mem_flatMap.mp among
        exact isDependency_of_value (solid_of_valuesOf valued) part
    · cases declared

/-- Texts declare an entry when it is read from one of them. -/
def DeclaredBy (texts : List String) (entry : TableEntry) : Prop :=
  ∃ text ∈ texts, ∃ origin context, entry ∈ (extract origin text context).1

theorem DeclaredBy.plain {texts : List String} {entry : TableEntry}
    (declared : DeclaredBy texts entry) :
    Naming.isIdentifier entry.name = true ∧ ∀ item ∈ entry.depend, IsDependency item := by
  obtain ⟨_, _, _, _, inside⟩ := declared
  exact plain_of_extract inside

/-- This function tells whether a tag lists dependencies. -/
def listsDependencies (tag : List Char) : Bool :=
  match Text.words tag with
  | [key, _] => String.ofList key = "depend"
  | _ => false

/-- Two blocks have the same tags apart from those that list dependencies. The first tag of a block
names its table, whatever it looks like. -/
structure SameButDependencies (block other : List Char) : Prop where
  first : (tags block).head? = (tags other).head?
  later : ((tags block).tail.filter fun tag => !listsDependencies tag) =
    (tags other).tail.filter fun tag => !listsDependencies tag

/-- Two texts have the same blocks apart from the tags that list dependencies. -/
def SameTextButDependencies (text other : String) : Prop :=
  List.Forall₂ SameButDependencies (blocks text.toList) (blocks other.toList)

/-- Two entries are the same apart from their dependencies. -/
def DifferInDependencies (entry other : TableEntry) : Prop :=
  other = { entry with depend := other.depend }

section Differing

/-- Tags that list dependencies have no value for another key. -/
theorem valuesOf_filter {key : String} (foreign : key ≠ "depend") (tags : List (List Char)) :
    valuesOf key (tags.filter fun tag => !listsDependencies tag) = valuesOf key tags := by
  rw [valuesOf, valuesOf, List.filterMap_filter]
  refine List.filterMap_congr fun tag _ => ?_
  unfold listsDependencies
  obtain malformed | ⟨word, value, words⟩ := malformed_or_pair tag
  · split <;> simp_all [Malformed]
  · simp only [words]
    by_cases same : String.ofList word = "depend"
    · simp [same, Ne.symm foreign]
    · simp [same]

theorem differ_of_declared {origin : FilePath} {name : String} {tags others : List (List Char)}
    (same : (tags.filter fun tag => !listsDependencies tag) =
      others.filter fun tag => !listsDependencies tag) :
    DifferInDependencies (declaredEntry origin name tags) (declaredEntry origin name others) := by
  have values : ∀ key, key ≠ "depend" → lastValue key others = lastValue key tags := by
    intro key foreign
    rw [lastValue, lastValue, ← valuesOf_filter foreign others, ← same,
      valuesOf_filter foreign tags]
  simp only [DifferInDependencies, declaredEntry, values "csv" (by decide),
    values "excel" (by decide)]

theorem differ_of_blocks {origin : FilePath} {block other : List Char}
    (same : SameButDependencies block other) :
    Option.Rel DifferInDependencies (entryOf? origin block) (entryOf? origin other) := by
  obtain ⟨first, later⟩ := same
  unfold entryOf?
  generalize tags block = found at first later ⊢
  generalize tags other = otherFound at first later ⊢
  cases found with
  | nil =>
      cases otherFound with
      | nil => exact .none
      | cons => cases first
  | cons head rest =>
      cases otherFound with
      | nil => cases first
      | cons otherHead others =>
          obtain rfl := Option.some.inj first
          dsimp only
          split
          · exact .some (differ_of_declared later)
          · exact .none

/-- Texts that differ in the tags of dependencies only declare entries that differ in their
dependencies only. -/
theorem extract_differ {text other : String} (same : SameTextButDependencies text other)
    (origin : FilePath) (context otherContext : Context) :
    List.Forall₂ DifferInDependencies (extract origin text context).1
      (extract origin other otherContext).1 := by
  rw [extract_filterMap, extract_filterMap]
  exact List.rel_filterMap (fun _ _ each => differ_of_blocks each) same

theorem exists_related {α β : Type} {Related : α → β → Prop} {list : List α} {others : List β}
    (related : List.Forall₂ Related list others) {element : α} (inside : element ∈ list) :
    ∃ other ∈ others, Related element other := by
  induction related with
  | nil => cases inside
  | cons first rest hypothesis =>
      rcases List.mem_cons.mp inside with rfl | later
      · exact ⟨_, List.mem_cons_self, first⟩
      · obtain ⟨other, among, found⟩ := hypothesis later
        exact ⟨other, List.mem_cons_of_mem _ among, found⟩

/-- Every entry of some texts has a counterpart in the texts with other dependencies. -/
theorem DeclaredBy.counterpart {texts others : List String} {entry : TableEntry}
    (declared : DeclaredBy texts entry)
    (same : List.Forall₂ SameTextButDependencies texts others) :
    ∃ other, DeclaredBy others other ∧ DifferInDependencies entry other := by
  obtain ⟨text, among, origin, context, inside⟩ := declared
  obtain ⟨otherText, otherAmong, each⟩ := exists_related same among
  obtain ⟨other, otherInside, differ⟩ :=
    exists_related (extract_differ each origin context context) inside
  exact ⟨other, ⟨otherText, otherAmong, origin, context, otherInside⟩, differ⟩

end Differing

end Tablewright.Annotation
