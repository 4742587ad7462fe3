import Tablewright.Proofs.Build.Running

namespace Tablewright.Rotation

open FileTree (IsProperName Cleared Moved SameWays)

/-- A world has the given files. -/
def HasFiles (tree : FileTree) (world : World) : Prop :=
  world.files = tree

/-- A step that can be applied does not fail. -/
theorem ensures_applied {tree after : FileTree} {change : FileChange}
    (applied : tree.apply change = .ok after) :
    Work.Ensures (HasFiles tree) (Work.perform change) (fun _ => HasFiles after)
      (fun _ _ => False) := by
  apply Work.ensures_perform
  · intro world later equal ended
    subst equal
    exact Except.ok.inj (ended.symm.trans applied)
  · intro world cause equal ended
    subst equal
    cases ended.symm.trans applied

section Single

variable {tree : FileTree} {path output : FilePath} {place copy : Location}
  {content : ByteArray} {writable : Bool}

/-- A file at a regular path is deleted without failure. -/
theorem ensures_delete (formed : tree.WellFormed) (regular : tree.Regular path)
    (located : tree.locate false path = .ok place)
    (found : tree.node? place = some (.file content writable)) :
    Work.Ensures (HasFiles tree) (delete path) (fun _ world => Cleared tree world.files place)
      (fun _ _ => False) := by
  have below := FileTree.ne_root_of_file found
  have unlocked : tree.apply (.setWritable path true) =
      .ok (tree.put place (.file content true)) :=
    FileTree.setWritable_file (regular.locate_iff.mpr located) found true
  have same : tree.SameWays (tree.put place (.file content true)) := .put_file found
  have removed : (tree.put place (.file content true)).apply (.remove path) =
      .ok ((tree.put place (.file content true)).erase place) :=
    FileTree.remove_file (regular.seat formed located).1 (same.locate_iff.mpr located)
      ((tree.node?_put below _ place).trans (if_pos rfl))
  have cleared : Cleared tree ((tree.put place (.file content true)).erase place) place := by
    refine ⟨rfl, ?_, ?_⟩
    · rw [FileTree.node?_erase _ below, if_pos rfl]
    · intro location away
      rw [FileTree.node?_erase _ below, if_neg away, tree.node?_put below, if_neg away]
  have deletes : Work.Ensures (HasFiles tree) (delete path)
      (fun _ => HasFiles ((tree.put place (.file content true)).erase place))
      (fun _ _ => False) :=
    (ensures_applied unlocked).bind fun _ => ensures_applied removed
  refine deletes.weaken (fun _ => id) ?_ (fun _ _ => id)
  intro _ world ended
  rw [HasFiles] at ended
  rw [ended]
  exact cleared

/-- After a regular path was cleared nothing stands there. -/
theorem ensures_clear (formed : tree.WellFormed) (regular : tree.Regular path) :
    Work.Ensures (HasFiles tree) (clear path)
      (fun _ world => (∀ place, tree.locate false path = .ok place →
          Cleared tree world.files place) ∧
        ((∀ place, tree.locate false path ≠ .ok place) → world.files = tree))
      (fun _ _ => False) := by
  refine Work.Ensures.with_files ?_
  intro world equal
  subst equal
  split
  · next leads =>
      obtain ⟨place, content, writable, located, found⟩ := regular.leadsToNode_iff.mp leads
      refine (ensures_delete formed regular located found).weaken ?_ ?_ (fun _ _ => id)
      · intro first equal
        subst equal
        rfl
      · intro _ later cleared
        refine ⟨?_, fun nowhere => absurd located (nowhere place)⟩
        intro other again
        obtain rfl := Except.ok.inj (located.symm.trans again)
        exact cleared
  · next absent =>
      apply Work.ensures_pure
      intro first equal
      subst equal
      refine ⟨?_, fun _ => rfl⟩
      intro place located
      refine ⟨rfl, ?_, fun _ _ => rfl⟩
      cases found : first.files.node? place with
      | none => rfl
      | some node =>
          have plain := regular place located
          rw [found] at plain
          obtain ⟨content, writable, rfl⟩ := plain.file
          exact absurd (regular.leadsToNode_iff.mpr ⟨place, content, writable, located, found⟩)
            absent

/-- The copy of a regular output stands beside it. -/
theorem copy_beside_output (formed : tree.WellFormed) (regular : tree.Regular output)
    (located : tree.locate false output = .ok place)
    (copyLocated : tree.locate false (asidePath output) = .ok copy) :
    place ≠ copy ∧ tree.node? place.dropLast = some .directory ∧
      tree.node? copy.dropLast = some .directory := by
  obtain ⟨_, folder, seat, rfl⟩ := regular.seat formed located
  have copySeat : tree.Seat (asidePath output) folder := FileTree.Seat.withEnding_iff.mpr seat
  obtain ⟨_, _, rfl⟩ := (copySeat.locate_iff (asidePath_proper output)).mp copyLocated
  rw [List.dropLast_concat, List.dropLast_concat]
  exact ⟨place_ne_copy folder output, seat.directory, seat.directory⟩

/-- A file is moved to another regular path without failure. What stood there makes way. -/
theorem ensures_transferred {target : FilePath} {goal : Location} (formed : tree.WellFormed)
    (proper : IsProperName path.last) (targetProper : IsProperName target.last)
    (targetRegular : tree.Regular target) (located : tree.locate false path = .ok place)
    (targetLocated : tree.locate false target = .ok goal)
    (found : tree.node? place = some (.file content writable)) (different : place ≠ goal)
    (event : Event) :
    Work.Ensures (HasFiles tree)
      (clear target >>= fun _ => Work.perform (.rename path target) >>= fun _ => Work.note event)
      (fun _ world => Moved tree world.files place goal) (fun _ _ => False) := by
  have plain := targetRegular goal targetLocated
  have clears := (ensures_clear formed targetRegular).weaken (fun _ => id)
    (fun _ _ both => both.1 goal targetLocated) fun _ _ => id
  refine clears.bind fun _ => Work.Ensures.of_each fun world cleared => ?_
  have same := cleared.sameWays plain
  have standing := (cleared.kept place different).trans found
  have free : Node.IsFileOrNothing (world.files.node? goal) := by
    rw [cleared.gone]
    trivial
  have formedThen := cleared.wellFormed plain formed
  have renamed : world.files.apply (.rename path target) = .ok (world.files.move place goal) :=
    FileTree.rename_file formedThen proper targetProper (same.locate_iff.mpr located)
      (same.locate_iff.mpr targetLocated) standing free different
  have moved := cleared.moved (FileTree.moved_file formedThen standing free different) different
  refine Work.Ensures.bind ((ensures_applied renamed).weaken ?_ (fun _ _ => id) (fun _ _ => id))
    fun _ => Work.ensures_note ?_
  · intro first equal
    subst equal
    rfl
  · intro later ended
    rw [HasFiles] at ended
    rw [ended]
    exact moved

/-- A file that was moved aside stands at the place of its copy. The move fails only if the copy
has no place. -/
theorem ensures_movedAside (formed : tree.WellFormed) (regular : tree.Regular output)
    (copyRegular : tree.Regular (asidePath output))
    (located : tree.locate false output = .ok place)
    (found : tree.node? place = some (.file content writable)) :
    Work.Ensures (HasFiles tree) (moveAside output)
      (fun _ world => ∃ copy, tree.locate false (asidePath output) = .ok copy ∧
        Moved tree world.files place copy)
      (fun _ _ => ∀ copy, tree.locate false (asidePath output) ≠ .ok copy) := by
  have proper := (regular.seat formed located).1
  by_cases reachable : ∃ copy, tree.locate false (asidePath output) = .ok copy
  · obtain ⟨copy, copyLocated⟩ := reachable
    have different := (copy_beside_output formed regular located copyLocated).1
    exact (ensures_transferred formed proper (asidePath_proper output) copyRegular located
      copyLocated found different _).weaken (fun _ => id)
        (fun _ _ moved => ⟨copy, copyLocated, moved⟩) fun _ _ => False.elim
  · have unreachable : ∀ copy, tree.locate false (asidePath output) ≠ .ok copy :=
      fun copy copyLocated => reachable ⟨copy, copyLocated⟩
    have clears : Work.Ensures (HasFiles tree) (clear (asidePath output))
        (fun _ world => world.files = tree)
        (fun _ _ => ∀ copy, tree.locate false (asidePath output) ≠ .ok copy) :=
      (ensures_clear formed copyRegular).weaken (fun _ => id)
        (fun _ _ both => both.2 unreachable) fun _ _ => False.elim
    refine clears.bind fun _ => Work.Ensures.bind (Work.ensures_perform ?_
      fun _ _ _ _ => unreachable) fun _ => Work.ensures_note fun _ => id
    intro world after same applied
    obtain ⟨_, goal, _, goalLocated, _⟩ := FileTree.rename_ok applied
    rw [FileTree.withoutSlashes_of_last (asidePath_proper output).1, same] at goalLocated
    exact absurd goalLocated (unreachable goal)

/-- A file is moved back from the place of its copy without failure. -/
theorem ensures_movedBack (formed : tree.WellFormed) (regular : tree.Regular output)
    (located : tree.locate false output = .ok place)
    (copyLocated : tree.locate false (asidePath output) = .ok copy)
    (found : tree.node? copy = some (.file content writable)) :
    Work.Ensures (HasFiles tree) (moveBack output)
      (fun _ world => Moved tree world.files copy place) (fun _ _ => False) :=
  ensures_transferred formed (asidePath_proper output) (regular.seat formed located).1 regular
    copyLocated located found (copy_beside_output formed regular located copyLocated).1.symm _

end Single

end Tablewright.Rotation
