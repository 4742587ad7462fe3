import Mathlib.Data.List.Induction
import Tablewright.Proofs.FileTree.Nodes

namespace Tablewright

/-- A file or nothing stands where neither a directory nor a link stands. -/
def Node.IsFileOrNothing : Option Node → Prop
  | none | some (.file _ _) => True
  | some .directory | some (.link _) => False

instance (node? : Option Node) : Decidable (Node.IsFileOrNothing node?) :=
  match node? with
  | none | some (.file _ _) => isTrue trivial
  | some .directory | some (.link _) => isFalse id

theorem Node.IsFileOrNothing.file {node : Node} (plain : IsFileOrNothing (some node)) :
    ∃ content writable, node = .file content writable := by
  cases node with
  | file content writable => exact ⟨content, writable, rfl⟩
  | directory => exact plain.elim
  | link target => exact plain.elim

theorem Node.IsFileOrNothing.noLink {node? : Option Node} (plain : IsFileOrNothing node?)
    (target : String) : node? ≠ some (.link target) := by
  intro equal
  subst equal
  exact plain

theorem Node.IsFileOrNothing.noDirectory {node? : Option Node}
    (plain : IsFileOrNothing node?) : node? ≠ some .directory := by
  intro equal
  subst equal
  exact plain

namespace FileTree

/-- In a well-formed tree every node stands in a directory. -/
def WellFormed (tree : FileTree) : Prop :=
  ∀ place name, (tree.node? (place ++ [name])).isSome → tree.node? place = some .directory

namespace WellFormed

variable {tree : FileTree}

theorem directory_above (formed : tree.WellFormed) {place location : Location}
    (above : place <+: location) (present : (tree.node? location).isSome)
    (different : place ≠ location) : tree.node? place = some .directory := by
  obtain ⟨rest, rfl⟩ := above
  induction rest using List.reverseRecOn with
  | nil => simp at different
  | append_singleton rest name ih =>
      rw [← List.append_assoc] at present
      have parent := formed _ _ present
      by_cases direct : rest = []
      · simpa [direct] using parent
      · exact ih (by simp [parent]) (by simpa using direct)

theorem directory_dropLast (formed : tree.WellFormed) {place : Location}
    (directory : tree.node? place = some .directory) :
    tree.node? place.dropLast = some .directory := by
  by_cases root : place = []
  · subst root
    rfl
  · apply formed.directory_above (List.dropLast_prefix place) (by simp [directory])
    intro equal
    have shorter := congrArg List.length equal
    have positive := List.length_pos_iff.mpr root
    rw [List.length_dropLast] at shorter
    omega

/-- Nothing stands below a place that is no directory. -/
theorem nothing_below (formed : tree.WellFormed) {place location : Location}
    (above : place <+: location) (different : place ≠ location)
    (plain : tree.node? place ≠ some .directory) : tree.node? location = none := by
  cases found : tree.node? location with
  | none => rfl
  | some node => exact absurd (formed.directory_above above (by simp [found]) different) plain

end WellFormed

/-- A tree is well-formed when a directory is listed above every node of its list. -/
theorem wellFormed_of_nodes {tree : FileTree}
    (above : ∀ entry ∈ tree.nodes, tree.node? entry.1.dropLast = some .directory) :
    tree.WellFormed := by
  intro place name present
  rw [tree.node?_of_ne_root (by simp), List.lookup_isSome_iff] at present
  obtain ⟨entry, inside, same⟩ := present
  rw [beq_iff_eq] at same
  simpa [← same] using above entry inside

/-- A tree grows into another that has all its directories and exactly its links. -/
structure GrowsInto (tree grown : FileTree) : Prop where
  here : grown.here = tree.here
  directories : ∀ place, tree.node? place = some .directory →
    grown.node? place = some .directory
  links : ∀ place target, grown.node? place = some (.link target) ↔
    tree.node? place = some (.link target)

namespace GrowsInto

variable {tree grown later : FileTree}

theorem refl (tree : FileTree) : tree.GrowsInto tree :=
  ⟨rfl, fun _ => id, fun _ _ => Iff.rfl⟩

theorem trans (first : tree.GrowsInto grown) (second : grown.GrowsInto later) :
    tree.GrowsInto later where
  here := second.here.trans first.here
  directories place directory := second.directories place (first.directories place directory)
  links place target := (second.links place target).trans (first.links place target)

end GrowsInto

end FileTree

end Tablewright
