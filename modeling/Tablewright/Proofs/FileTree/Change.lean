import Tablewright.Proofs.Except
import Tablewright.Proofs.FileTree.Locate

namespace Tablewright

namespace FileTree

variable {tree after : FileTree} {path : FilePath}

theorem makeDirectory_ok (made : tree.makeDirectory path = .ok after) :
    ∃ place, tree.locate false (withoutSlashes path) = .ok place ∧ tree.node? place = none ∧
      after = tree.put place .directory := by
  obtain ⟨place, located, ended⟩ := of_bind_ok made
  split at ended
  · cases ended
  · next free => exact ⟨place, located, free, (Except.ok.inj ended).symm⟩

theorem create_ok (created : tree.create path = .ok after) :
    ∃ place writable, tree.locate true path = .ok place ∧
      Node.IsFileOrNothing (tree.node? place) ∧
      after = tree.put place (.file .empty writable) := by
  rw [create] at created
  split at created
  · obtain ⟨_, _, ended⟩ := of_bind_ok created
    cases ended
  · obtain ⟨place, located, ended⟩ := of_bind_ok created
    split at ended
    · next free => exact ⟨place, true, located, by simp [free, Node.IsFileOrNothing],
        (Except.ok.inj ended).symm⟩
    · next writable found => exact ⟨place, writable, located,
        by simp [found, Node.IsFileOrNothing], (Except.ok.inj ended).symm⟩
    · cases ended

theorem write_ok {content : ByteArray} (written : tree.write path content = .ok after) :
    ∃ place before writable, tree.locate true path = .ok place ∧
      tree.node? place = some (.file before writable) ∧
      after = tree.put place (.file content writable) := by
  obtain ⟨place, located, ended⟩ := of_bind_ok written
  split at ended
  · cases ended
  · next before writable found =>
      exact ⟨place, before, writable, located, found, (Except.ok.inj ended).symm⟩
  · cases ended

theorem append_ok {content : ByteArray} (appended : tree.append path content = .ok after) :
    ∃ place total writable, tree.locate true path = .ok place ∧
      Node.IsFileOrNothing (tree.node? place) ∧
      after = tree.put place (.file total writable) := by
  rw [append] at appended
  split at appended
  · obtain ⟨_, _, ended⟩ := of_bind_ok appended
    cases ended
  · obtain ⟨place, located, ended⟩ := of_bind_ok appended
    split at ended
    · next free => exact ⟨place, _, _, located, by simp [free, Node.IsFileOrNothing],
        (Except.ok.inj ended).symm⟩
    · next found => exact ⟨place, _, _, located, by simp [found, Node.IsFileOrNothing],
        (Except.ok.inj ended).symm⟩
    · cases ended

theorem setWritable_ok {writable : Bool} (changed : tree.setWritable path writable = .ok after) :
    after = tree ∨ ∃ place content before, tree.locate true path = .ok place ∧
      tree.node? place = some (.file content before) ∧
      after = tree.put place (.file content writable) := by
  obtain ⟨place, located, ended⟩ := of_bind_ok changed
  split at ended
  · cases ended
  · next content before found =>
      exact .inr ⟨place, content, before, located, found, (Except.ok.inj ended).symm⟩
  · exact .inl (Except.ok.inj ended).symm

theorem remove_ok (removed : tree.remove path = .ok after) :
    ∃ place node, tree.locate false (withoutSlashes path) = .ok place ∧
      tree.node? place = some node ∧ node ≠ .directory ∧ path.last ≠ "" ∧
      after = tree.erase place := by
  obtain ⟨place, located, ended⟩ := of_bind_ok removed
  split at ended
  · cases ended
  · cases ended
  · next node notDirectory found =>
      split at ended
      · cases ended
      · next named =>
          refine ⟨place, node, located, found, ?_, ?_, (Except.ok.inj ended).symm⟩
          · intro equal
            subst equal
            exact notDirectory rfl
          · simpa [endsWithSlash] using named

theorem rename_ok {source target : FilePath} (renamed : tree.rename source target = .ok after) :
    ∃ start goal, tree.locate false (withoutSlashes source) = .ok start ∧
      tree.locate false (withoutSlashes target) = .ok goal ∧ (tree.node? start).isSome ∧
      (after = tree ∧ start = goal ∨
        after = tree.move start goal ∧ start ≠ [] ∧ ¬ goal <+: start) := by
  obtain ⟨start, sourceLocated, rest⟩ := of_bind_ok renamed
  obtain ⟨goal, targetLocated, ended⟩ := of_bind_ok rest
  refine ⟨start, goal, sourceLocated, targetLocated, ?_⟩
  split at ended
  · cases ended
  · split at ended
    · cases ended
    · next found =>
        refine ⟨by simp [found], ?_⟩
        split at ended
        · next same => exact .inl ⟨(Except.ok.inj ended).symm, same⟩
        · split at ended
          · cases ended
          · next outside =>
              split at ended
              · cases ended
              · next notAbove =>
                  have moved : after = tree.move start goal := by
                    split at ended
                    · exact (Except.ok.inj ended).symm
                    · split at ended
                      · exact (Except.ok.inj ended).symm
                      · cases ended
                    · cases ended
                  refine .inr ⟨moved, ?_, by simpa using notAbove⟩
                  intro equal
                  subst equal
                  simp at outside
    · next node notDirectory found =>
        refine ⟨by simp [found], ?_⟩
        split at ended
        · cases ended
        · split at ended
          · next same => exact .inl ⟨(Except.ok.inj ended).symm, same⟩
          · split at ended
            · cases ended
            · next notAbove =>
                have moved : after = tree.move start goal := by
                  split at ended
                  · cases ended
                  · exact (Except.ok.inj ended).symm
                refine .inr ⟨moved, ?_, by simpa using notAbove⟩
                intro equal
                subst equal
                exact notDirectory (by simpa using found.symm)

/-- These are the places where a step may put, move or remove a node. -/
def Touches (tree : FileTree) (place : Location) : FileChange → Prop
  | .makeDirectory path =>
      tree.locate false (withoutSlashes path) = .ok place ∧ tree.node? place = none
  | .create path | .write path _ | .append path _ | .setWritable path _ =>
      tree.locate true path = .ok place
  | .remove path => tree.locate false (withoutSlashes path) = .ok place
  | .rename source target =>
      tree.locate false (withoutSlashes source) = .ok place ∨
        tree.locate false (withoutSlashes target) = .ok place

/-- A step puts a node that is no link at a place, removes a node or moves one, or does
nothing. -/
inductive Alters (tree : FileTree) (change : FileChange) : FileTree → Prop
  | nothing : Alters tree change tree
  | put (place : Location) (node : Node) (touched : tree.Touches place change)
      (below : place ≠ []) (noLink : ∀ target, node ≠ .link target) :
      Alters tree change (tree.put place node)
  | erase (place : Location) (touched : tree.Touches place change) (below : place ≠ []) :
      Alters tree change (tree.erase place)
  | move (source target : Location) (sourceTouched : tree.Touches source change)
      (targetTouched : tree.Touches target change) (sourceBelow : source ≠ [])
      (targetBelow : target ≠ []) : Alters tree change (tree.move source target)

theorem apply_alters {change : FileChange} (applied : tree.apply change = .ok after) :
    tree.Alters change after := by
  have below : ∀ {place}, Node.IsFileOrNothing (tree.node? place) → place ≠ [] := by
    intro place plain equal
    subst equal
    exact plain
  cases change with
  | makeDirectory path =>
      obtain ⟨place, located, free, rfl⟩ := makeDirectory_ok applied
      exact .put place _ ⟨located, free⟩ (below (by simp [free, Node.IsFileOrNothing])) (by simp)
  | create path =>
      obtain ⟨place, writable, located, plain, rfl⟩ := create_ok applied
      exact .put place _ located (below plain) (by simp)
  | write path content =>
      obtain ⟨place, before, writable, located, found, rfl⟩ := write_ok applied
      exact .put place _ located (below (by simp [found, Node.IsFileOrNothing])) (by simp)
  | append path content =>
      obtain ⟨place, total, writable, located, plain, rfl⟩ := append_ok applied
      exact .put place _ located (below plain) (by simp)
  | remove path =>
      obtain ⟨place, node, located, found, notDirectory, _, rfl⟩ := remove_ok applied
      refine .erase place located ?_
      intro equal
      subst equal
      exact notDirectory (by simpa using found.symm)
  | rename source target =>
      obtain ⟨start, goal, sourceLocated, targetLocated, _, ⟨rfl, _⟩ | ⟨rfl, root, outside⟩⟩ :=
        rename_ok applied
      · exact .nothing
      · refine .move start goal (Or.inl sourceLocated) (Or.inr targetLocated) root ?_
        intro equal
        subst equal
        exact outside List.nil_prefix
  | setWritable path writable =>
      obtain rfl | ⟨place, content, before, located, found, rfl⟩ := setWritable_ok applied
      · exact .nothing
      · exact .put place _ located (below (by simp [found, Node.IsFileOrNothing])) (by simp)

theorem apply_here {change : FileChange} (applied : tree.apply change = .ok after) :
    after.here = tree.here := by
  cases apply_alters applied <;> rfl

/-- A step leaves every location alone that is not below a place it touches. -/
theorem apply_frame {change : FileChange} (applied : tree.apply change = .ok after)
    {location : Location} (outside : ∀ place, tree.Touches place change → ¬ place <+: location) :
    after.node? location = tree.node? location := by
  cases apply_alters applied with
  | nothing => rfl
  | put place node touched below _ =>
      rw [node?_put tree below, if_neg]
      intro equal
      subst equal
      exact outside _ touched List.prefix_rfl
  | erase place touched below =>
      rw [node?_erase tree below, if_neg]
      intro equal
      subst equal
      exact outside _ touched List.prefix_rfl
  | move source target sourceTouched targetTouched _ _ =>
      exact tree.node?_move_other (outside _ sourceTouched) (outside _ targetTouched)

/-- A place where a step makes a directory had neither a directory nor a link before. -/
theorem GrowsInto.free {start : FileTree} (grows : start.GrowsInto tree) {place : Location}
    (free : tree.node? place = none) : Node.IsFileOrNothing (start.node? place) := by
  cases found : start.node? place with
  | none => trivial
  | some node =>
      cases node with
      | file content writable => trivial
      | directory => simp [grows.directories place found] at free
      | link target => simp [(grows.links place target).mpr found] at free

/-- Nothing old stands below a place that was no directory, so a step there touches nothing
old. -/
theorem GrowsInto.outside {start : FileTree} (formed : start.WellFormed) {place location : Location}
    (plain : Node.IsFileOrNothing (start.node? place))
    (old : ¬ Node.IsFileOrNothing (start.node? location)) : ¬ place <+: location := by
  intro above
  by_cases same : place = location
  · exact old (same ▸ plain)
  · apply old
    rw [formed.nothing_below above same plain.noDirectory]
    trivial

/-- A tree goes on to grow from an older one when a step touches only places where the older one
has a file or nothing. -/
theorem GrowsInto.apply {start : FileTree} {change : FileChange} (formed : start.WellFormed)
    (grows : start.GrowsInto tree) (applied : tree.apply change = .ok after)
    (plain : ∀ place, tree.Touches place change → Node.IsFileOrNothing (start.node? place)) :
    start.GrowsInto after := by
  have kept : ∀ location, ¬ Node.IsFileOrNothing (start.node? location) →
      after.node? location = tree.node? location := fun location old =>
    apply_frame applied fun place touched => outside formed (plain place touched) old
  have noNewLink : ∀ location target, after.node? location = some (.link target) →
      tree.node? location = some (.link target) := by
    intro location target link
    cases apply_alters applied with
    | nothing => exact link
    | put place node _ below noLink =>
        rw [node?_put tree below] at link
        split at link
        · exact absurd (Option.some.inj link) (noLink target)
        · exact link
    | erase place _ below =>
        rw [node?_erase tree below] at link
        split at link
        · cases link
        · exact link
    | move source goal sourceTouched _ sourceBelow goalBelow =>
        by_cases under : goal <+: location
        · obtain ⟨rest, rfl⟩ := under
          have moved := tree.node?_of_move_target sourceBelow goalBelow link
          have old : ¬ Node.IsFileOrNothing (start.node? (source ++ rest)) := by
            simp [(grows.links _ _).mp moved, Node.IsFileOrNothing]
          exact absurd (List.prefix_append source rest)
            (outside formed (plain source sourceTouched) old)
        · by_cases left : source <+: location
          · rw [tree.node?_move_source sourceBelow left under] at link
            cases link
          · rwa [tree.node?_move_other left under] at link
  refine ⟨(apply_here applied).trans grows.here, ?_, ?_⟩
  · intro location directory
    rw [kept location (by simp [directory, Node.IsFileOrNothing])]
    exact grows.directories location directory
  · intro location target
    constructor
    · intro link
      exact (grows.links _ _).mp (noNewLink location target link)
    · intro linked
      rw [kept location (by simp [linked, Node.IsFileOrNothing])]
      exact (grows.links _ _).mpr linked

end FileTree

end Tablewright
