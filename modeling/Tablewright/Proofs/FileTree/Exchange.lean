import Tablewright.Proofs.FileTree.Change
import Tablewright.Proofs.FileTree.Leading

namespace Tablewright.FileTree

/-- A path is regular when it leads to a file or to nothing. -/
def Regular (tree : FileTree) (path : FilePath) : Prop :=
  ∀ place, tree.locate false path = .ok place → Node.IsFileOrNothing (tree.node? place)

/-- Two trees have the same ways when they have the same directories and the same links. -/
structure SameWays (tree other : FileTree) : Prop where
  there : tree.GrowsInto other
  back : other.GrowsInto tree

/-- After a removal nothing stands at a place, and all else is as before. -/
structure Cleared (before after : FileTree) (place : Location) : Prop where
  here : after.here = before.here
  gone : after.node? place = none
  kept : ∀ location, location ≠ place → after.node? location = before.node? location

/-- After a move the node of one place stands at another, and all else is as before. -/
structure Moved (before after : FileTree) (source target : Location) : Prop where
  here : after.here = before.here
  moved : after.node? target = before.node? source
  gone : after.node? source = none
  kept : ∀ location, location ≠ source → location ≠ target →
    after.node? location = before.node? location

section Regular

variable {tree : FileTree} {path : FilePath} {place : Location}

theorem Regular.locate_iff (regular : tree.Regular path) {follow : Bool} :
    tree.locate follow path = .ok place ↔ tree.locate false path = .ok place := by
  cases follow with
  | false => exact Iff.rfl
  | true =>
      constructor
      · intro followed
        obtain ⟨near, stopped, rfl | ⟨target, link⟩⟩ := locate_follow followed
        · exact stopped
        · exact absurd link ((regular near stopped).noLink target)
      · intro stopped
        exact locate_stop stopped (regular place stopped).noLink

theorem Regular.leadsToNode_iff (regular : tree.Regular path) :
    tree.leadsToNode path = true ↔ ∃ place content writable,
      tree.locate false path = .ok place ∧ tree.node? place = some (.file content writable) := by
  rw [FileTree.leadsToNode_iff]
  constructor
  · intro leads
    obtain ⟨place, node, followed, found⟩ := leads
    have stopped := regular.locate_iff.mp followed
    have plain := regular place stopped
    rw [found] at plain
    obtain ⟨content, writable, rfl⟩ := plain.file
    exact ⟨place, content, writable, stopped, found⟩
  · intro given
    obtain ⟨place, content, writable, stopped, found⟩ := given
    exact ⟨place, _, regular.locate_iff.mpr stopped, found⟩

/-- A regular path leads to its last name in a directory. -/
theorem Regular.seat (regular : tree.Regular path) (formed : tree.WellFormed)
    (located : tree.locate false path = .ok place) :
    IsProperName path.last ∧ ∃ folder, tree.Seat path folder ∧ place = folder ++ [path.last] := by
  obtain ⟨_, folder, reached, entered⟩ := locate_iff_enter.mp located
  have plain := regular place located
  obtain ⟨directory, ⟨rfl, _⟩ | ⟨rfl, _⟩ | ⟨rfl, proper, _⟩⟩ := of_enter entered
  · exact absurd directory plain.noDirectory
  · exact absurd (formed.directory_dropLast directory) plain.noDirectory
  · exact ⟨proper, folder, ⟨reached, directory⟩, rfl⟩

end Regular

namespace SameWays

variable {tree other : FileTree}

theorem refl (tree : FileTree) : tree.SameWays tree :=
  ⟨.refl tree, .refl tree⟩

theorem locate_iff (same : tree.SameWays other) {follow : Bool} {path : FilePath}
    {place : Location} :
    other.locate follow path = .ok place ↔ tree.locate follow path = .ok place :=
  ⟨same.back.locate, same.there.locate⟩

/-- Trees have the same ways when they differ in files only. -/
theorem of_files (here : other.here = tree.here)
    (files : ∀ location, other.node? location = tree.node? location ∨
      Node.IsFileOrNothing (tree.node? location) ∧
        Node.IsFileOrNothing (other.node? location)) : tree.SameWays other := by
  have same : ∀ location node, ¬ Node.IsFileOrNothing (some node) →
      (other.node? location = some node ↔ tree.node? location = some node) := by
    intro location node way
    obtain equal | ⟨before, after⟩ := files location
    · rw [equal]
    · constructor
      · intro found
        exact absurd (found ▸ after) way
      · intro found
        exact absurd (found ▸ before) way
  refine ⟨⟨here, ?_, ?_⟩, ⟨here.symm, ?_, ?_⟩⟩
  · exact fun place => (same place .directory id).mpr
  · exact fun place target => same place (.link target) id
  · exact fun place => (same place .directory id).mp
  · exact fun place target => (same place (.link target) id).symm

/-- A file that is put where a file or nothing stands changes no way. -/
theorem put_plain {place : Location} {content : ByteArray} {writable : Bool} (below : place ≠ [])
    (plain : Node.IsFileOrNothing (tree.node? place)) :
    tree.SameWays (tree.put place (.file content writable)) := by
  apply of_files (tree.put_here place _)
  intro location
  rw [tree.node?_put below]
  by_cases here : location = place
  · rw [if_pos here, here]
    exact .inr ⟨plain, trivial⟩
  · rw [if_neg here]
    exact .inl rfl

/-- New content of a file changes no way. -/
theorem put_file {place : Location} {content old : ByteArray} {writable before : Bool}
    (found : tree.node? place = some (.file old before)) :
    tree.SameWays (tree.put place (.file content writable)) := by
  apply put_plain (ne_root_of_file found)
  rw [found]
  trivial

theorem trans {later : FileTree} (first : tree.SameWays other) (second : other.SameWays later) :
    tree.SameWays later :=
  ⟨first.there.trans second.there, second.back.trans first.back⟩

theorem symm (same : tree.SameWays other) : other.SameWays tree :=
  ⟨same.back, same.there⟩

end SameWays

section Formed

variable {before after : FileTree} {place source target : Location}

theorem Cleared.sameWays (cleared : Cleared before after place)
    (plain : Node.IsFileOrNothing (before.node? place)) : before.SameWays after := by
  apply SameWays.of_files cleared.here
  intro location
  by_cases here : location = place
  · subst here
    rw [cleared.gone]
    exact .inr ⟨plain, trivial⟩
  · exact .inl (cleared.kept location here)

theorem Cleared.wellFormed (cleared : Cleared before after place)
    (plain : Node.IsFileOrNothing (before.node? place)) (formed : before.WellFormed) :
    after.WellFormed := by
  intro folder name present
  apply (cleared.sameWays plain).there.directories
  apply formed folder name
  rwa [← cleared.kept]
  intro here
  rw [here, cleared.gone] at present
  cases present

theorem Moved.sameWays (moved : Moved before after source target)
    (sourcePlain : Node.IsFileOrNothing (before.node? source))
    (targetPlain : Node.IsFileOrNothing (before.node? target)) : before.SameWays after := by
  apply SameWays.of_files moved.here
  intro location
  by_cases atTarget : location = target
  · subst atTarget
    rw [moved.moved]
    exact .inr ⟨targetPlain, sourcePlain⟩
  · by_cases atSource : location = source
    · subst atSource
      rw [moved.gone]
      exact .inr ⟨sourcePlain, trivial⟩
    · exact .inl (moved.kept location atSource atTarget)

theorem Moved.wellFormed (moved : Moved before after source target)
    (sourcePlain : Node.IsFileOrNothing (before.node? source))
    (targetPlain : Node.IsFileOrNothing (before.node? target)) (formed : before.WellFormed)
    (inFolder : before.node? target.dropLast = some .directory) : after.WellFormed := by
  intro folder name present
  apply (moved.sameWays sourcePlain targetPlain).there.directories
  by_cases atTarget : folder ++ [name] = target
  · rw [← atTarget, List.dropLast_concat] at inFolder
    exact inFolder
  · apply formed folder name
    rwa [← moved.kept _ _ atTarget]
    intro atSource
    rw [atSource, moved.gone] at present
    cases present

/-- A place may be cleared before something is moved there. -/
theorem Cleared.moved {between : FileTree} (cleared : Cleared before between target)
    (moved : Moved between after source target) (different : source ≠ target) :
    Moved before after source target := by
  refine ⟨moved.here.trans cleared.here, ?_, moved.gone, ?_⟩
  · rw [moved.moved, cleared.kept source different]
  · intro location notSource notTarget
    rw [moved.kept location notSource notTarget, cleared.kept location notTarget]

end Formed

section Steps

variable {tree : FileTree} {content : ByteArray} {writable : Bool} {place : Location}
  {path : FilePath}

theorem setWritable_file (located : tree.locate true path = .ok place)
    (found : tree.node? place = some (.file content writable)) (lock : Bool) :
    tree.setWritable path lock = .ok (tree.put place (.file content lock)) := by
  simp [setWritable, located, found, bind, Except.bind]

theorem remove_file (proper : IsProperName path.last)
    (located : tree.locate false path = .ok place)
    (found : tree.node? place = some (.file content writable)) :
    tree.remove path = .ok (tree.erase place) := by
  simp [remove, withoutSlashes_of_last proper.1, located, found, endsWithSlash, proper.1, bind,
    Except.bind]

/-- A file can be renamed to every other name where no directory stands. -/
theorem rename_file {other : FilePath} {goal : Location} (formed : tree.WellFormed)
    (proper : IsProperName path.last) (otherProper : IsProperName other.last)
    (located : tree.locate false path = .ok place)
    (otherLocated : tree.locate false other = .ok goal)
    (found : tree.node? place = some (.file content writable))
    (plain : Node.IsFileOrNothing (tree.node? goal)) (different : place ≠ goal) :
    tree.rename path other = .ok (tree.move place goal) := by
  have notAbove : goal.isPrefixOf place = false := by
    rw [← Bool.not_eq_true, List.isPrefixOf_iff_prefix]
    intro above
    exact plain.noDirectory (formed.directory_above above (by simp [found]) (Ne.symm different))
  have named : hasLastName path = true ∧ hasLastName other = true := by
    simp [hasLastName, withoutSlashes_of_last proper.1, withoutSlashes_of_last otherProper.1,
      proper.1, proper.2.1, proper.2.2, otherProper.1, otherProper.2.1, otherProper.2.2]
  simp only [rename, withoutSlashes_of_last proper.1, withoutSlashes_of_last otherProper.1,
    located, otherLocated, bind, Except.bind, named.1, named.2, Bool.not_true, Bool.or_self,
    Bool.false_eq_true, ↓reduceIte, found, endsWithSlash, proper.1, otherProper.1, decide_false,
    different, notAbove]
  split
  · next directory => exact absurd directory plain.noDirectory
  · rfl

/-- The move of a file changes nothing but the two places. -/
theorem moved_file {goal : Location} (formed : tree.WellFormed)
    (found : tree.node? place = some (.file content writable))
    (plain : Node.IsFileOrNothing (tree.node? goal)) (different : place ≠ goal) :
    Moved tree (tree.move place goal) place goal := by
  have notAbove : ¬ goal <+: place := by
    intro above
    exact plain.noDirectory (formed.directory_above above (by simp [found]) (Ne.symm different))
  have placeBelow := ne_root_of_file found
  have goalBelow : goal ≠ [] := by
    intro equal
    subst equal
    exact plain
  have alone : tree.node? place ≠ some .directory := by simp [found]
  refine ⟨rfl, ?_, tree.node?_move_source placeBelow List.prefix_rfl notAbove, ?_⟩
  · simpa using tree.node?_move_target placeBelow goalBelow [] (by simpa using notAbove)
  · intro location notSource notTarget
    by_cases underTarget : goal <+: location
    · obtain ⟨rest, rfl⟩ := underTarget
      rw [formed.nothing_below (List.prefix_append goal rest) (Ne.symm notTarget)
        plain.noDirectory]
      cases moved : (tree.move place goal).node? (goal ++ rest) with
      | none => rfl
      | some node =>
          have standing := tree.node?_of_move_target placeBelow goalBelow moved
          have more : place ≠ place ++ rest := by
            intro same
            have empty : rest = [] := by simpa using same
            exact notTarget (by simp [empty])
          rw [formed.nothing_below (List.prefix_append place rest) more alone] at standing
          cases standing
    · by_cases underSource : place <+: location
      · rw [tree.node?_move_source placeBelow underSource underTarget,
          formed.nothing_below underSource (Ne.symm notSource) alone]
      · exact tree.node?_move_other underSource underTarget

end Steps

end Tablewright.FileTree
