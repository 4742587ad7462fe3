import Tablewright.Proofs.Emission.Sections
import Tablewright.Proofs.Text.Pieces

namespace Tablewright

namespace Text

/-- A text is stripped when white space behind it has been left out, and none is left at its
end. -/
structure Stripped (text stripped : String) : Prop where
  cut : ∃ blank : List Char, text.toList = stripped.toList ++ blank ∧
    ∀ character ∈ blank, isWhiteSpace character = true
  ends : ∀ character ∈ stripped.toList.getLast?, isWhiteSpace character = false

theorem stripped_iff {text stripped : String} :
    Stripped text stripped ↔ stripped = String.ofList (trimEnd text.toList) := by
  constructor
  · rintro ⟨⟨blank, cut, white⟩, ends⟩
    rw [← List.head?_reverse] at ends
    have dropped : text.toList.reverse.dropWhile isWhiteSpace = stripped.toList.reverse := by
      rw [cut, List.reverse_append, List.dropWhile_append_of_pos (by simpa using white),
        dropWhile_of_head ends]
    rw [trimEnd, dropped, List.reverse_reverse, String.ofList_toList]
  · rintro rfl
    obtain ⟨blank, cut, white, ends⟩ := trimEnd_cut text.toList
    exact ⟨⟨blank, by rw [String.toList_ofList]; exact cut, white⟩,
      by rw [String.toList_ofList]; exact ends⟩

end Text

namespace Emission

/-- A call adds an import line, or a fragment to its section. -/
inductive Call
  | addImport (line : String)
  | push (fragment : Fragment)
  deriving DecidableEq, Repr

namespace Call

def apply (artifact : Artifact) : Call → Artifact
  | .addImport line => artifact.addImport line
  | .push fragment => artifact.push fragment

def import? : Call → Option String
  | .addImport line => some line
  | .push _ => none

/-- This function is the text that a call pushes into a section. -/
def pushed? (kind : Section) : Call → Option String
  | .addImport _ => none
  | .push fragment => if fragment.kind = kind then some fragment.text else none

end Call

/-- This function makes calls one after another on a new artifact. -/
def assembled (description : String) (calls : List Call) : Artifact :=
  calls.foldl Call.apply { description }

/-- These are the import lines of calls in their order. -/
def importedBy (calls : List Call) : List String :=
  calls.filterMap Call.import?

/-- These are the fragments that calls push into a section, in their order. -/
def pushedBy (calls : List Call) (kind : Section) : List String :=
  calls.filterMap (Call.pushed? kind)

section Calls

variable (artifact : Artifact) (call : Call) (calls : List Call) (kind : Section)

theorem description_apply : (call.apply artifact).description = artifact.description := by
  cases call <;> rfl

theorem imports_apply :
    (call.apply artifact).imports = artifact.imports ++ call.import?.toList := by
  cases call with
  | addImport line => rfl
  | push fragment => exact (List.append_nil _).symm

/-- A call leaves all sections as they are but the one it pushes into. -/
theorem inSection_apply : (call.apply artifact).inSection kind =
    artifact.inSection kind ++ (call.pushed? kind).toList := by
  cases call with
  | addImport line => exact (List.append_nil _).symm
  | push fragment =>
      rw [Call.apply, inSection_push, Call.pushed?]
      split <;> rfl

theorem description_run : (calls.foldl Call.apply artifact).description = artifact.description := by
  induction calls generalizing artifact with
  | nil => rfl
  | cons call rest hypothesis => rw [List.foldl_cons, hypothesis, description_apply]

theorem imports_run :
    (calls.foldl Call.apply artifact).imports = artifact.imports ++ importedBy calls := by
  induction calls generalizing artifact with
  | nil => exact (List.append_nil _).symm
  | cons call rest hypothesis =>
      rw [List.foldl_cons, hypothesis, imports_apply, List.append_assoc]
      cases call <;> rfl

theorem inSection_run : (calls.foldl Call.apply artifact).inSection kind =
    artifact.inSection kind ++ pushedBy calls kind := by
  induction calls generalizing artifact with
  | nil => exact (List.append_nil _).symm
  | cons call rest hypothesis =>
      rw [List.foldl_cons, hypothesis, inSection_apply, List.append_assoc, pushedBy, pushedBy,
        List.filterMap_cons]
      cases call.pushed? kind <;> rfl

end Calls

/-- A section stands before another when it is declared first. -/
def Section.Before (left right : Section) : Prop :=
  left.ctorIdx < right.ctorIdx

/-- Fragments are shown one after another. Each is stripped, follows an empty line and ends its
line. -/
inductive ShowsFragments : List String → String → Prop
  | none : ShowsFragments [] ""
  | more {fragment stripped body : String} {rest : List String}
      (cut : Text.Stripped fragment stripped) (later : ShowsFragments rest body) :
      ShowsFragments (fragment :: rest) ("\n" ++ stripped ++ "\n" ++ body)

/-- Sections are shown one after another. Each has its title line behind an empty line, and then
its fragments. -/
inductive ShowsSections (received : Section → List String) : List Section → String → Prop
  | none : ShowsSections received [] ""
  | more {kind : Section} {body others : String} {rest : List Section}
      (fragments : ShowsFragments (received kind) body)
      (later : ShowsSections received rest others) :
      ShowsSections received (kind :: rest)
        ("\n// ---- " ++ kind.title ++ " ----\n" ++ body ++ others)

/-- A file has its header, its imports, and in their order those sections that received a
fragment. -/
structure Layout (description : String) (imports : List String) (received : Section → List String)
    (kinds : List Section) (text : String) : Prop where
  ascending : kinds.Pairwise Section.Before
  filled : ∀ kind, kind ∈ kinds ↔ received kind ≠ []
  whole : ∃ body, ShowsSections received kinds body ∧
    text = "// Code generated by tablegen. DO NOT EDIT.\n// " ++ description ++
      "\n\n#![allow(dead_code, unused_imports, clippy::all)]\n\n" ++ Text.ofLines imports ++ body

section Layouts

variable {received : Section → List String} {kinds others : List Section}
  {description first second : String} {imports fragments : List String}

theorem ShowsFragments.unique (one : ShowsFragments fragments first)
    (two : ShowsFragments fragments second) : first = second := by
  induction one generalizing second with
  | none =>
      cases two
      rfl
  | more cut _ hypothesis =>
      cases two with
      | more otherCut later =>
          rw [Text.stripped_iff.mp cut, Text.stripped_iff.mp otherCut, hypothesis later]

theorem ShowsSections.unique (one : ShowsSections received kinds first)
    (two : ShowsSections received kinds second) : first = second := by
  induction one generalizing second with
  | none =>
      cases two
      rfl
  | more fragments _ hypothesis =>
      cases two with
      | more otherFragments later => rw [fragments.unique otherFragments, hypothesis later]

/-- Sections in ascending order are determined by what is among them. -/
theorem ascending_unique (one : kinds.Pairwise Section.Before)
    (two : others.Pairwise Section.Before) (same : ∀ kind, kind ∈ kinds ↔ kind ∈ others) :
    kinds = others := by
  have apart (left right : Section) (before : left.Before right) : left ≠ right := by
    rintro rfl
    exact lt_irrefl _ before
  have members : kinds.Perm others :=
    (List.perm_ext_iff_of_nodup (one.imp (apart _ _)) (two.imp (apart _ _))).mpr same
  exact members.eq_of_pairwise (fun _ _ _ _ before after => absurd before (lt_asymm after)) one two

/-- There is one layout of a file only. -/
theorem Layout.unique (one : Layout description imports received kinds first)
    (two : Layout description imports received others second) :
    kinds = others ∧ first = second := by
  obtain rfl := ascending_unique one.ascending two.ascending fun kind =>
    (one.filled kind).trans (two.filled kind).symm
  obtain ⟨body, shown, rfl⟩ := one.whole
  obtain ⟨otherBody, otherShown, rfl⟩ := two.whole
  exact ⟨rfl, by rw [shown.unique otherShown]⟩

theorem ascending_all : Section.all.Pairwise Section.Before := by
  unfold Section.Before
  decide

theorem mem_all (kind : Section) : kind ∈ Section.all := by
  cases kind <;> decide

theorem showsFragments (fragments : List String) :
    ShowsFragments fragments (String.join (fragments.map Artifact.renderFragment)) := by
  induction fragments with
  | nil => exact .none
  | cons fragment rest hypothesis =>
      rw [List.map_cons, String.join_cons]
      exact .more (Text.stripped_iff.mpr rfl) hypothesis

theorem renderSection_of_empty {artifact : Artifact} {kind : Section}
    (empty : artifact.inSection kind = []) : artifact.renderSection kind = "" := by
  rw [Artifact.renderSection, empty]

theorem renderSection_of_filled {artifact : Artifact} {kind : Section}
    (filled : artifact.inSection kind ≠ []) : artifact.renderSection kind =
      "\n// ---- " ++ kind.title ++ " ----\n" ++
        String.join ((artifact.inSection kind).map Artifact.renderFragment) := by
  obtain ⟨fragment, rest, some⟩ := List.exists_cons_of_ne_nil filled
  rw [Artifact.renderSection, some]
  simp [Text.ofLines, String.join_cons, ← String.toList_inj]

/-- Only sections with fragments leave a trace. -/
theorem showsSections (artifact : Artifact) (kinds : List Section) :
    ShowsSections artifact.inSection
      (kinds.filter fun kind => artifact.inSection kind ≠ [])
      (String.join (kinds.map artifact.renderSection)) := by
  induction kinds with
  | nil => exact .none
  | cons kind rest hypothesis =>
      rw [List.map_cons, String.join_cons]
      by_cases empty : artifact.inSection kind = []
      · rw [renderSection_of_empty empty, String.empty_append,
          List.filter_cons_of_neg (by simpa using empty)]
        exact hypothesis
      · rw [renderSection_of_filled empty, List.filter_cons_of_pos (by simpa using empty)]
        exact .more (showsFragments _) hypothesis

/-- A rendered artifact is laid out by section. -/
theorem layout_render (artifact : Artifact) :
    Layout artifact.description artifact.imports artifact.inSection
      (Section.all.filter fun kind => artifact.inSection kind ≠ []) artifact.render where
  ascending := ascending_all.filter _
  filled kind := by simp [mem_all kind]
  whole := by
    refine ⟨_, showsSections artifact Section.all, ?_⟩
    simp [Artifact.render, Artifact.header, Text.ofLines, String.join_cons, ← String.toList_inj]

theorem layout_assembled (description : String) (calls : List Call) :
    ∃ kinds, Layout description (importedBy calls) (pushedBy calls) kinds
      (assembled description calls).render := by
  have layout := layout_render (assembled description calls)
  have received : (assembled description calls).inSection = pushedBy calls := by
    funext kind
    exact inSection_run _ calls kind
  have imports : (assembled description calls).imports = importedBy calls := imports_run _ calls
  have described : (assembled description calls).description = description :=
    description_run _ calls
  rw [received, imports, described] at layout
  exact ⟨_, layout⟩

end Layouts

/-- The text of an artifact is the one layout of its imports and of what each section received.
Two artifacts with the same imports, and with the same fragments section by section, have the same
text, in whatever turn the calls were made. -/
theorem render_by_section (description : String) :
    (∀ calls text, (assembled description calls).render = text ↔
      ∃ kinds, Layout description (importedBy calls) (pushedBy calls) kinds text) ∧
    ∀ first second, importedBy first = importedBy second →
      (∀ kind, pushedBy first kind = pushedBy second kind) →
      (assembled description first).render = (assembled description second).render := by
  constructor
  · intro calls text
    obtain ⟨kinds, layout⟩ := layout_assembled description calls
    constructor
    · rintro rfl
      exact ⟨kinds, layout⟩
    · rintro ⟨others, other⟩
      exact (layout.unique other).2
  · intro first second imports sections
    obtain ⟨kinds, one⟩ := layout_assembled description first
    obtain ⟨others, two⟩ := layout_assembled description second
    rw [imports, funext sections] at one
    exact (one.unique two).2

/-- Two turns of the same five calls give one text. One fragment loses its white space, and another
one has nothing else. -/
theorem render_by_section_turns :
    let accessors := [Call.push ⟨.accessors, "fn b() \x7b\x7d \n"⟩, .push ⟨.accessors, " \t"⟩]
    let rest := [Call.addImport "use a;", .push ⟨.mapTypes, "type A = ();"⟩, .addImport ""]
    let text := "// Code generated by tablegen. DO NOT EDIT.\n// Test.\n\n" ++
      "#![allow(dead_code, unused_imports, clippy::all)]\n\nuse a;\n\n\n" ++
      "// ---- map types ----\n\ntype A = ();\n\n// ---- accessors ----\n\n" ++
      "fn b() \x7b\x7d\n\n\n"
    (assembled "Test." (accessors ++ rest)).render = text ∧
      (assembled "Test." (rest ++ accessors)).render = text ∧
      ∃ kinds, Layout "Test." ["use a;", ""] (pushedBy (rest ++ accessors)) kinds text := by
  intro accessors rest text
  obtain ⟨laidOut, turns⟩ := render_by_section "Test."
  have one : (assembled "Test." (accessors ++ rest)).render = text := by decide +kernel
  have sections (kind : Section) :
      pushedBy (accessors ++ rest) kind = pushedBy (rest ++ accessors) kind := by
    cases kind <;> rfl
  have two : (assembled "Test." (rest ++ accessors)).render = text :=
    (turns (accessors ++ rest) (rest ++ accessors) rfl sections).symm.trans one
  exact ⟨one, two, (laidOut _ _).mp two⟩

end Emission

end Tablewright
