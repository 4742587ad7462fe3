import Tablewright.Proofs.FileTree.Change
import Tablewright.Proofs.FileTree.Parents

namespace Tablewright.FileTree

/-- A folder above one of some paths may lead to a location. -/
def MayBeAbove (start : FileTree) (paths : List FilePath) (location : Location) : Prop :=
  ∃ path ∈ paths, ∃ folder : FilePath, folder.Above path ∧ start.MayLead folder location

/-- A location is as before, or a missing directory above some paths was made there. -/
def Spares (start : FileTree) (paths : List FilePath) (before after : FileTree)
    (location : Location) : Prop :=
  after.node? location = before.node? location ∨
    before.node? location = none ∧ after.node? location = some .directory ∧
      start.MayBeAbove paths location

/-- A tree is extended when nothing but directories above some paths was made. -/
structure Extended (start : FileTree) (paths : List FilePath) (before after : FileTree) :
    Prop where
  here : after.here = before.here
  formed : after.WellFormed
  spares : ∀ location, Spares start paths before after location

section Spares

variable {start before between after : FileTree} {paths : List FilePath} {location : Location}

theorem Spares.trans (first : Spares start paths before between location)
    (second : Spares start paths between after location) :
    Spares start paths before after location := by
  obtain same | ⟨free, made, above⟩ := first
  · rwa [Spares, same] at second
  · obtain again | ⟨missing, _⟩ := second
    · exact .inr ⟨free, again.trans made, above⟩
    · rw [made] at missing
      cases missing

/-- What stood at a spared location stays. -/
theorem Spares.stays {node : Node} (spares : Spares start paths before after location)
    (found : before.node? location = some node) : after.node? location = some node := by
  obtain same | ⟨free, _⟩ := spares
  · exact same.trans found
  · rw [found] at free
    cases free

/-- Nothing stands at a spared location that was free, or a directory was made there. -/
theorem Spares.free (spares : Spares start paths before after location)
    (free : before.node? location = none) : after.node? location = none ∨
      after.node? location = some .directory ∧ start.MayBeAbove paths location := by
  obtain same | ⟨_, made⟩ := spares
  · exact .inl (same.trans free)
  · exact .inr made

theorem growsInto_of_spares (here : after.here = before.here)
    (spares : ∀ location, Spares start paths before after location) : before.GrowsInto after := by
  refine ⟨here, fun place => (spares place).stays, ?_⟩
  intro place target
  refine ⟨?_, (spares place).stays⟩
  intro link
  obtain same | ⟨_, made, _⟩ := spares place
  · exact same.symm.trans link
  · rw [made] at link
    cases link

end Spares

section Put

variable {tree : FileTree} {place : Location} {node : Node}

/-- A node that is put in a directory where no other directory stands keeps a tree well-formed. -/
theorem WellFormed.put (formed : tree.WellFormed) (below : place ≠ [])
    (inFolder : tree.node? place.dropLast = some .directory)
    (plain : tree.node? place ≠ some .directory) : (tree.put place node).WellFormed := by
  intro folder name present
  rw [tree.node?_put below] at present ⊢
  have directory : tree.node? folder = some .directory := by
    split at present
    · next here => rwa [← here, List.dropLast_concat] at inFolder
    · exact formed folder name present
  rw [if_neg, directory]
  intro here
  exact plain (here ▸ directory)

end Put

section Extended

variable {start before tree after : FileTree} {paths : List FilePath} {folder path : FilePath}

theorem Extended.refl (formed : before.WellFormed) : Extended start paths before before :=
  ⟨rfl, formed, fun _ => .inl rfl⟩

theorem Extended.growsInto (extended : Extended start paths before after) :
    before.GrowsInto after :=
  growsInto_of_spares extended.here extended.spares

/-- A folder above a path that is made extends a tree. -/
theorem Extended.makeDirectory (extended : Extended start paths before tree)
    (grows : start.GrowsInto before) (known : path ∈ paths) (above : folder.Above path)
    (made : tree.makeDirectory folder = .ok after) : Extended start paths before after := by
  obtain ⟨place, located, free, rfl⟩ := makeDirectory_ok made
  obtain ⟨_, middle, _, entered⟩ := locate_iff_enter.mp located
  have plain : tree.node? place ≠ some .directory := by simp [free]
  have inFolder : tree.node? place.dropLast = some .directory := by
    obtain ⟨directory, ⟨rfl, _⟩ | ⟨rfl, _⟩ | ⟨rfl, _⟩⟩ := of_enter entered
    · exact absurd directory plain
    · exact absurd (extended.formed.directory_dropLast directory) plain
    · rwa [List.dropLast_concat]
  have below : place ≠ [] := by
    intro root
    subst root
    cases free
  refine ⟨extended.here, extended.formed.put below inFolder plain, fun location => ?_⟩
  refine (extended.spares location).trans ?_
  rw [Spares, tree.node?_put below]
  by_cases here : location = place
  · subst here
    rw [if_pos rfl]
    exact .inr ⟨free, rfl, path, known, folder, above,
      mayLead_of_locate (grows.trans extended.growsInto) located⟩
  · rw [if_neg here]
    exact .inl rfl

end Extended

end Tablewright.FileTree
