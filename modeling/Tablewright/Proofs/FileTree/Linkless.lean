import Tablewright.Proofs.FileTree.Exchange
import Tablewright.Proofs.FileTree.Made

namespace Tablewright.FileTree

/-- A tree is linkless when it has files and directories only. -/
def Linkless (tree : FileTree) : Prop :=
  ∀ location target, tree.node? location ≠ some (.link target)

/-- This function goes along one part of a path by its letters alone. -/
def stride (place : Location) (part : String) : Location :=
  if part = "" ∨ part = "." then place
  else if part = ".." then place.dropLast
  else place ++ [part]

/-- A path spells the place that its letters lead to, whatever stands on the way. -/
def spelled (tree : FileTree) (path : FilePath) : Location :=
  path.parts.foldl stride (tree.origin path)

/-- A tree is linkless when no link is in its list. -/
theorem linkless_of_nodes {tree : FileTree}
    (none : ∀ entry ∈ tree.nodes, ∀ target, entry.2 ≠ .link target) : tree.Linkless := by
  intro location target link
  by_cases root : location = []
  · subst root
    cases link
  · rw [tree.node?_of_ne_root root] at link
    obtain ⟨_, _, same, _⟩ := List.lookup_eq_some_iff.mp link
    exact none (location, .link target) (by simp [same]) target rfl

section Spelled

variable {tree : FileTree} {path : FilePath} {place : Location}

theorem foldl_stride_stripped (parts : List String) (start : Location) :
    (stripped parts).foldl stride start = parts.foldl stride start := by
  induction parts using List.reverseRecOn with
  | nil => rfl
  | append_singleton parts last hypothesis =>
      by_cases named : last = ""
      · subst named
        rw [stripped_concat_empty, hypothesis, List.foldl_append]
        rfl
      · rw [stripped_concat parts named]

theorem spelled_withoutSlashes (path : FilePath) :
    tree.spelled (withoutSlashes path) = tree.spelled path := by
  obtain same | ⟨folders, last, named, kept, same⟩ := withoutSlashes_cases path
  · rw [same]
  · rw [same, spelled, spelled, origin_stripped tree named kept, FilePath.parts, ← kept,
      foldl_stride_stripped]

theorem spelled_of_here {other : FileTree} (here : other.here = tree.here) (path : FilePath) :
    other.spelled path = tree.spelled path := by
  rw [spelled, spelled, origin, origin, here]

/-- A path does not spell the same place with an ending that makes a proper name of its last. -/
theorem spelled_withEnding_ne {ending : String} (proper : IsProperName (path.last ++ ending))
    (some : ending ≠ "") : tree.spelled path ≠ tree.spelled (path.withEnding ending) := by
  have origins : tree.origin (path.withEnding ending) = tree.origin path := rfl
  rw [spelled, spelled, origins, FilePath.parts, FilePath.parts, FilePath.withEnding,
    List.foldl_append, List.foldl_append]
  generalize path.folders.foldl stride (tree.origin path) = folder
  simp only [List.foldl_cons, List.foldl_nil, stride, proper.1, proper.2.1, proper.2.2, or_self,
    if_false]
  intro same
  split at same
  · simp at same
  · split at same
    · have lengths := congrArg List.length same
      simp at lengths
    · have names := congrArg String.toList (List.singleton_inj.mp (List.append_cancel_left same))
      exact some (by simpa using names)

namespace Linkless

/-- In a tree without links a path leads nowhere else than to the place that it spells. -/
theorem walkParts (linkless : tree.Linkless) {follow : Bool}
    {onLink : Location → List String → Except FileError Location} {start : Location}
    {parts : List String} (walked : tree.walkParts follow onLink start parts = .ok place) :
    place = parts.foldl stride start := by
  induction parts generalizing start with
  | nil => exact (Except.ok.inj walked).symm
  | cons part rest hypothesis =>
      rw [List.foldl_cons, stride]
      rw [FileTree.walkParts] at walked
      split at walked
      · cases walked
      · cases walked
      · cases walked
      · split at walked
        · next still => rw [if_pos still]; exact hypothesis walked
        · next moves =>
            rw [if_neg moves]
            split at walked
            · next up => rw [if_pos up]; exact hypothesis walked
            · next down =>
                rw [if_neg down]
                split at walked
                · cases walked
                · split at walked
                  · next link => exact absurd link (linkless _ _)
                  · exact hypothesis walked

theorem locate_eq (linkless : tree.Linkless) {follow : Bool}
    (located : tree.locate follow path = .ok place) : place = tree.spelled path := by
  have walked := (locate_iff.mp located).2
  rw [maxLinks, walk] at walked
  exact linkless.walkParts walked

theorem locate_trimmed_eq (linkless : tree.Linkless) {follow : Bool}
    (located : tree.locate follow (withoutSlashes path) = .ok place) :
    place = tree.spelled path := by
  rw [linkless.locate_eq located, spelled_withoutSlashes]

/-- Growth makes no link. -/
theorem grow (linkless : tree.Linkless) {grown : FileTree} (grows : tree.GrowsInto grown) :
    grown.Linkless :=
  fun location target link => linkless location target ((grows.links _ _).mp link)

/-- A step makes no link. -/
theorem apply (linkless : tree.Linkless) {change : FileChange} {after : FileTree}
    (applied : tree.apply change = .ok after) : after.Linkless := by
  intro location target link
  cases apply_alters applied with
  | nothing => exact linkless location target link
  | put place node _ below noLink =>
      rw [tree.node?_put below] at link
      split at link
      · exact noLink target (Option.some.inj link)
      · exact linkless location target link
  | erase place _ below =>
      rw [tree.node?_erase below] at link
      split at link
      · cases link
      · exact linkless location target link
  | move source goal _ _ sourceBelow goalBelow =>
      by_cases under : goal <+: location
      · obtain ⟨rest, rfl⟩ := under
        exact linkless _ _ (tree.node?_of_move_target sourceBelow goalBelow link)
      · by_cases left : source <+: location
        · rw [tree.node?_move_source sourceBelow left under] at link
          cases link
        · rw [tree.node?_move_other left under] at link
          exact linkless location target link

end Linkless

end Spelled

section Renames

variable {tree after : FileTree} {source target : Location}

/-- A move out of the way of its target keeps a tree well-formed. -/
theorem WellFormed.move (formed : tree.WellFormed) (sourceBelow : source ≠ [])
    (targetBelow : target ≠ []) (outside : ¬ source <+: target) (notAbove : ¬ target <+: source)
    (inFolder : tree.node? target.dropLast = some .directory) :
    (tree.move source target).WellFormed := by
  intro folder name present
  by_cases under : target <+: folder ++ [name]
  · by_cases atTarget : target = folder ++ [name]
    · have direct : target.dropLast = folder := by simp [atTarget]
      rw [direct] at inFolder
      have notTarget : ¬ target <+: folder := fun above => by
        have lengths := above.length_le
        rw [atTarget, List.length_append, List.length_singleton] at lengths
        omega
      have notSource : ¬ source <+: folder := fun above =>
        outside (above.trans (atTarget ▸ List.prefix_append folder [name]))
      rwa [tree.node?_move_other notSource notTarget]
    · obtain ⟨rest, rfl⟩ : target <+: folder := by
        obtain same | above := List.prefix_concat_iff.mp under
        · exact absurd same atTarget
        · exact above
      obtain ⟨node, found⟩ := Option.isSome_iff_exists.mp present
      rw [List.append_assoc] at found
      have standing := tree.node?_of_move_target sourceBelow targetBelow found
      rw [← List.append_assoc] at standing
      have directory := formed _ _ (Option.isSome_iff_exists.mpr ⟨node, standing⟩)
      rw [tree.node?_move_target sourceBelow targetBelow, directory]
      intro above
      obtain inner | inner := List.prefix_or_prefix_of_prefix above (List.prefix_append source rest)
      · exact notAbove inner
      · exact outside inner
  · have notTarget : ¬ target <+: folder := fun above =>
      under (above.trans (List.prefix_append folder [name]))
    by_cases left : source <+: folder ++ [name]
    · rw [tree.node?_move_source sourceBelow left under] at present
      cases present
    · have notSource : ¬ source <+: folder := fun above =>
        left (above.trans (List.prefix_append folder [name]))
      rw [tree.node?_move_other left under] at present
      rw [tree.node?_move_other notSource notTarget]
      exact formed folder name present

/-- The place of a path is a directory or stands in one. -/
theorem WellFormed.directory_of_locate (formed : tree.WellFormed) {path : FilePath}
    {place : Location} (located : tree.locate false path = .ok place) :
    tree.node? place = some .directory ∨ tree.node? place.dropLast = some .directory := by
  obtain ⟨_, folder, _, entered⟩ := locate_iff_enter.mp located
  obtain ⟨directory, ⟨rfl, _⟩ | ⟨rfl, _⟩ | ⟨rfl, _⟩⟩ := of_enter entered
  · exact .inl directory
  · exact .inl (formed.directory_dropLast directory)
  · rw [List.dropLast_concat]
    exact .inr directory

/-- A rename moves a node to a place that is not below it. -/
theorem rename_outside (formed : tree.WellFormed) {path other : FilePath}
    (renamed : tree.rename path other = .ok after)
    (start : tree.locate false (withoutSlashes path) = .ok source)
    (goal : tree.locate false (withoutSlashes other) = .ok target)
    (different : source ≠ target) : ¬ source <+: target := by
  intro above
  have directory : tree.node? source = some .directory := by
    obtain standing | parent := formed.directory_of_locate goal
    · exact formed.directory_above above (by simp [standing]) different
    · have inner : source <+: target.dropLast := by
        obtain ⟨rest, rfl⟩ := above
        have some : rest ≠ [] := fun empty => different (by simp [empty])
        rw [List.dropLast_append_of_ne_nil some]
        exact List.prefix_append source _
      by_cases same : source = target.dropLast
      · rw [same, parent]
      · exact formed.directory_above inner (by simp [parent]) same
  have refused : source.isPrefixOf target = true := List.isPrefixOf_iff_prefix.mpr above
  simp only [rename, start, goal, bind, Except.bind, directory, different, refused, if_true,
    if_false] at renamed
  split at renamed <;> cases renamed

end Renames

section Clearing

variable {before after later : FileTree} {place copy : Location} {path : FilePath}

/-- A place makes way when at most its file is changed or removed. -/
structure MadeWay (before after : FileTree) (place : Location) : Prop where
  ways : before.SameWays after
  formed : after.WellFormed
  kept : ∀ location, location ≠ place → after.node? location = before.node? location
  free : before.node? place = none → after.node? place = none

namespace MadeWay

theorem refl (formed : before.WellFormed) : MadeWay before before place :=
  ⟨.refl before, formed, fun _ _ => rfl, id⟩

theorem trans (first : MadeWay before after place) (second : MadeWay after later place) :
    MadeWay before later place where
  ways := first.ways.trans second.ways
  formed := second.formed
  kept location away := (second.kept location away).trans (first.kept location away)
  free absent := second.free (first.free absent)

theorem linkless (way : MadeWay before after place) (linkless : before.Linkless) :
    after.Linkless :=
  linkless.grow way.ways.there

theorem spelled (way : MadeWay before after place) (path : FilePath) :
    after.spelled path = before.spelled path :=
  spelled_of_here way.ways.there.here path

end MadeWay

theorem madeWay_of_setWritable (formed : before.WellFormed) (linkless : before.Linkless)
    {writable : Bool} (changed : before.setWritable path writable = .ok after) :
    MadeWay before after (before.spelled path) := by
  obtain rfl | ⟨place, content, lock, located, found, rfl⟩ := setWritable_ok changed
  · exact .refl formed
  · obtain rfl := linkless.locate_eq located
    have below := ne_root_of_file found
    have inFolder : before.node? (before.spelled path).dropLast = some .directory := by
      apply formed _ ((before.spelled path).getLast below)
      rw [List.dropLast_concat_getLast, found]
      rfl
    refine ⟨.put_file found, formed.put below inFolder (by simp [found]), ?_, ?_⟩
    · intro location away
      rw [before.node?_put below, if_neg away]
    · intro absent
      rw [absent] at found
      cases found

theorem madeWay_of_remove (formed : before.WellFormed) (linkless : before.Linkless)
    (removed : before.remove path = .ok after) :
    MadeWay before after (before.spelled path) ∧ after.node? (before.spelled path) = none := by
  obtain ⟨place, node, located, found, notDirectory, _, rfl⟩ := remove_ok removed
  obtain rfl := linkless.locate_trimmed_eq located
  have below : before.spelled path ≠ [] := by
    intro root
    rw [root] at found
    exact notDirectory (Option.some.inj found).symm
  have plain : Node.IsFileOrNothing (before.node? (before.spelled path)) := by
    rw [found]
    cases node with
    | directory => exact notDirectory rfl
    | file content writable => trivial
    | link target => exact linkless _ _ found
  have cleared : Cleared before (before.erase (before.spelled path)) (before.spelled path) := by
    refine ⟨rfl, ?_, fun location away => ?_⟩
    · rw [before.node?_erase below, if_pos rfl]
    · rw [before.node?_erase below, if_neg away]
  exact ⟨⟨cleared.sameWays plain, cleared.wellFormed plain formed, cleared.kept,
    fun _ => cleared.gone⟩, cleared.gone⟩

end Clearing

end Tablewright.FileTree
