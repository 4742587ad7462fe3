import Tablewright.Proofs.Build.Completion
import Tablewright.Proofs.Build.Restoring
import Tablewright.Proofs.Build.Returning
import Tablewright.Proofs.FileTree.Edits

namespace Tablewright.Rotation

open Build (Discarded ensures_discarded)
open FileTree (Edited SameWays)

/-- A rotation has ended when each output that stood at its start is as in a given tree and has no
copy, each other output is as it was left beside its old copy, and all else is as at the start. -/
structure Ended (start left given after : FileTree) (outputs : List FilePath) : Prop where
  ways : start.SameWays after
  stood : ∀ output ∈ outputs, start.leadsToNode output = true →
    after.found? output = given.found? output ∧ after.found? (asidePath output) = none
  absent : ∀ output ∈ outputs, start.leadsToNode output = false →
    after.found? output = left.found? output ∧
      after.found? (asidePath output) = start.found? (asidePath output)
  kept : ∀ location,
    (∀ output ∈ outputs, ∀ slot, IsSlot output slot → start.locate false slot ≠ .ok location) →
    after.node? location = start.node? location

section Places

variable {base : FileTree} {outputs : List FilePath} {one other : FilePath}
  {place copy : Location} (formed : base.WellFormed) (among : Outputs base outputs)
include formed among

/-- No output has the place of a copy, not of its own one either. -/
theorem Outputs.place_apart_copy (inside : one ∈ outputs) (otherInside : other ∈ outputs)
    (located : base.locate false one = .ok place) :
    base.locate false (asidePath other) ≠ .ok place := by
  by_cases same : one = other
  · subst same
    intro copyLocated
    exact (copy_beside_output formed (among.regular one inside one (.inl rfl)) located
      copyLocated).1 rfl
  · exact among.notCopy one inside other otherInside same place located

/-- The copy of an output that is there has another place than every other copy, also than that of
an output that is absent. -/
theorem Outputs.copy_apart_copy (inside : one ∈ outputs) (otherInside : other ∈ outputs)
    (different : one ≠ other) (leads : base.leadsToNode one = true)
    (copyLocated : base.locate false (asidePath one) = .ok copy) :
    base.locate false (asidePath other) ≠ .ok copy := by
  intro otherCopyLocated
  have regular := among.regular one inside one (.inl rfl)
  obtain ⟨place, _, _, located, _⟩ := regular.leadsToNode_iff.mp leads
  obtain ⟨proper, folder, seat, rfl⟩ := regular.seat formed located
  have copySeat : base.Seat (asidePath one) folder := FileTree.Seat.withEnding_iff.mpr seat
  obtain ⟨_, short, rfl⟩ := (copySeat.locate_iff (asidePath_proper one)).mp copyLocated
  obtain ⟨otherFolder, otherCopySeat⟩ := FileTree.Seat.of_locate otherCopyLocated
  obtain ⟨accepted, _, same⟩ :=
    (otherCopySeat.locate_iff (asidePath_proper other)).mp otherCopyLocated
  obtain ⟨rfl, names⟩ := List.append_singleton_inj.mp same
  have lasts : one.last = other.last := by simpa [asidePath_last] using names
  have otherSeat : base.Seat other folder := FileTree.Seat.withEnding_iff.mp otherCopySeat
  have otherProper : FileTree.IsProperName other.last := lasts ▸ proper
  have otherAccepted : other.IsAcceptable := by
    have whole := FilePath.text_withEnding other ending
    obtain ⟨_, plain, size⟩ := accepted
    rw [asidePath, whole] at plain size
    rw [String.toList_append, List.contains_eq_any_beq, List.any_append, Bool.or_eq_false_iff]
      at plain
    rw [String.utf8ByteSize_append] at size
    exact ⟨FilePath.text_ne_empty otherProper.1, by rw [List.contains_eq_any_beq, plain.1],
      by omega⟩
  have otherShort : other.last.utf8ByteSize ≤ FileTree.maxNameSize := by
    rw [asidePath_last, String.utf8ByteSize_append] at short
    rw [← lasts]
    omega
  exact among.different one inside other otherInside different _ located
    ((otherSeat.locate_iff otherProper).mpr ⟨otherAccepted, otherShort, by rw [lasts]⟩)

end Places

/-- The start of a rotation succeeds exactly if the copies of all outputs that are there have a
place. -/
theorem start_ok_iff {world : World} {outputs : List FilePath} (formed : world.files.WellFormed)
    (among : Outputs world.files outputs) :
    (∃ rotation moved, start outputs world = (.ok rotation, moved)) ↔
      ∀ output ∈ outputs, world.files.leadsToNode output = true →
        ∃ copy, world.files.locate false (asidePath output) = .ok copy := by
  have starts := ensures_started formed among
  constructor
  · rintro ⟨rotation, moved, started⟩ output inside leads
    obtain ⟨all, stage⟩ := starts.of_ok rfl started
    have goes : output ∈ rotation.moved := all ▸ List.mem_filter.mpr ⟨inside, leads⟩
    exact ⟨_, (stage.movable output (by simpa using goes)).located _ (.inr rfl)⟩
  · intro reachable
    cases ended : (start outputs world).1 with
    | ok rotation => exact ⟨rotation, _, Work.eq_of_ok ended⟩
    | error cause =>
        obtain ⟨output, inside, leads, nowhere⟩ := starts.of_error rfl ended
        obtain ⟨copy, copyLocated⟩ := reachable output inside leads
        exact absurd copyLocated (nowhere copy)

/-- Since a rotation has started, the outputs that were there stand aside, and edits were made at
the outputs. -/
structure Rotated (start opened left : FileTree) (outputs moved : List FilePath) : Prop where
  formed : start.WellFormed
  among : Outputs start outputs
  all : moved = outputs.filter start.leadsToNode
  stage : Stage start moved [] opened
  edited : Edited opened left outputs

section Ending

variable {start opened left given after : FileTree} {outputs moved : List FilePath}
  {output other : FilePath} {place copy : Location}

namespace Rotated

variable (rotated : Rotated start opened left outputs moved)
include rotated

/-- An output goes aside exactly if it is there. -/
theorem moved_iff : output ∈ moved ↔ output ∈ outputs ∧ start.leadsToNode output = true := by
  rw [rotated.all, List.mem_filter]

theorem movable (inside : output ∈ moved) : Movable start output :=
  rotated.stage.movable output (by simpa using inside)

theorem openedWays : start.SameWays opened := by
  apply rotated.stage.sameWays rotated.formed rotated.among
  intro output inside
  rw [List.append_nil] at inside
  exact (rotated.moved_iff.mp inside).1

theorem ways : start.SameWays left :=
  rotated.openedWays.trans rotated.edited.same

/-- An edit changes nothing where no output is. -/
theorem elsewhere (away : ∀ output ∈ outputs, start.locate false output ≠ .ok place) :
    left.node? place = opened.node? place :=
  rotated.edited.kept place fun output inside located =>
    away output inside (rotated.openedWays.locate_iff.mp located)

/-- The copy of an output that went aside is the output as it was. -/
theorem copy_of_moved (inside : output ∈ moved) :
    left.node? (start.placeOf (asidePath output)) = start.node? (start.placeOf output) := by
  rw [rotated.elsewhere, (rotated.stage.movedAside output inside).2]
  intro other otherInside otherLocated
  exact rotated.among.place_apart_copy rotated.formed otherInside
    (rotated.moved_iff.mp inside).1 otherLocated ((rotated.movable inside).located _ (.inr rfl))

/-- A place of no output that went aside, and of no copy of one, is apart from them all. -/
theorem apart_of_absent (inside : output ∈ outputs) (missing : start.leadsToNode output = false)
    {slot : FilePath} (isSlot : IsSlot output slot) (located : start.locate false slot = .ok place) :
    ∀ other ∈ moved, ∀ otherSlot, IsSlot other otherSlot → place ≠ start.placeOf otherSlot := by
  rintro other otherInside otherSlot isOther rfl
  have otherLocated := (rotated.movable otherInside).located otherSlot isOther
  obtain ⟨known, leads⟩ := rotated.moved_iff.mp otherInside
  have different : other ≠ output := by
    rintro rfl
    rw [missing] at leads
    cases leads
  obtain rfl | rfl := isSlot <;> obtain rfl | rfl := isOther
  · exact rotated.among.different _ known _ inside different _ otherLocated located
  · exact rotated.among.place_apart_copy rotated.formed inside known located otherLocated
  · exact rotated.among.place_apart_copy rotated.formed known inside otherLocated located
  · exact rotated.among.copy_apart_copy rotated.formed known inside different leads otherLocated
      located

/-- The old copy of an absent output is still there. -/
theorem copy_of_absent (inside : output ∈ outputs) (missing : start.leadsToNode output = false)
    (located : start.locate false (asidePath output) = .ok copy) :
    left.node? copy = start.node? copy := by
  have apart := rotated.apart_of_absent inside missing (.inr rfl) located
  rw [rotated.elsewhere, rotated.stage.kept copy (by simpa using apart)]
  exact fun other otherInside otherLocated =>
    rotated.among.place_apart_copy rotated.formed otherInside inside otherLocated located

/-- Two outputs that went aside share no place. -/
theorem disjoint (inside : output ∈ moved) (otherInside : other ∈ moved)
    (different : output ≠ other) : Disjoint start output other :=
  rotated.among.disjoint rotated.formed (rotated.moved_iff.mp inside).1
    (rotated.moved_iff.mp otherInside).1 (rotated.movable inside) (rotated.movable otherInside)
    different

theorem nodup : moved.Nodup := by
  rw [rotated.all]
  exact rotated.among.nodup.filter _

/-- A path that leads to a regular slot at the start does so afterwards, too. -/
theorem slot_located (inside : output ∈ outputs) {slot : FilePath} (isSlot : IsSlot output slot) :
    start.locate true slot = .ok place ↔ start.locate false slot = .ok place :=
  (rotated.among.regular output inside slot isSlot).locate_iff

/-- A rotation ends well when the outputs that went aside become what they shall be, their copies
go, and nothing else changes. -/
theorem ended (ways : left.SameWays after) (givenWays : start.SameWays given)
    (outcome : ∀ output ∈ moved,
      after.node? (start.placeOf output) = given.node? (start.placeOf output))
    (gone : ∀ output ∈ moved, after.node? (start.placeOf (asidePath output)) = none)
    (kept : ∀ location, (∀ output ∈ moved, ∀ slot, IsSlot output slot →
      location ≠ start.placeOf slot) → after.node? location = left.node? location) :
    Ended start left given after outputs := by
  have allWays := rotated.ways.trans ways
  refine ⟨allWays, fun output inside leads => ?_, fun output inside missing => ?_, ?_⟩
  · have isMoved := rotated.moved_iff.mpr ⟨inside, leads⟩
    have located := (rotated.movable isMoved).located
    constructor
    · refine (givenWays.symm.trans allWays).found?_congr fun place placeLocated => ?_
      have first := (rotated.slot_located inside (.inl rfl)).mp
        (givenWays.locate_iff.mp placeLocated)
      obtain rfl := Except.ok.inj ((located output (.inl rfl)).symm.trans first)
      exact outcome output isMoved
    · have copyLocated := (rotated.slot_located inside (.inr rfl)).mpr (located _ (.inr rfl))
      rw [FileTree.found?_of_locate (allWays.locate_iff.mpr copyLocated), gone output isMoved]
  · constructor
    · refine ways.found?_congr fun place placeLocated => kept place ?_
      have first := (rotated.slot_located inside (.inl rfl)).mp
        (rotated.ways.locate_iff.mp placeLocated)
      exact rotated.apart_of_absent inside missing (.inl rfl) first
    · refine allWays.found?_congr fun copy copyLocated => ?_
      have first := (rotated.slot_located inside (.inr rfl)).mp copyLocated
      rw [kept copy (rotated.apart_of_absent inside missing (.inr rfl) first),
        rotated.copy_of_absent inside missing first]
  · intro location free
    have apart : ∀ output ∈ moved, ∀ slot, IsSlot output slot →
        location ≠ start.placeOf slot := by
      rintro output inside slot isSlot rfl
      exact free output (rotated.moved_iff.mp inside).1 slot isSlot
        ((rotated.movable inside).located slot isSlot)
    rw [kept location apart, rotated.elsewhere fun output inside => free output inside output
      (.inl rfl), rotated.stage.kept location (by simpa using apart)]

/-- After the edits every output that went aside can return. -/
theorem returnable (inside : output ∈ moved) :
    Returnable left output (start.placeOf output) (start.placeOf (asidePath output)) := by
  have movable := rotated.movable inside
  obtain ⟨content, writable, found⟩ := movable.file
  have located := rotated.ways.locate_iff.mpr (movable.located output (.inl rfl))
  exact ⟨located, rotated.ways.locate_iff.mpr (movable.located _ (.inr rfl)),
    rotated.edited.regular output (rotated.moved_iff.mp inside).1 _ located, content, writable,
    (rotated.copy_of_moved inside).trans found⟩

/-- A restoration puts back what went aside. -/
theorem ensures_restored :
    Work.Ensures (HasFiles left) (restore ⟨moved⟩)
      (fun _ world => Ended start left start world.files outputs) (fun _ _ => False) := by
  have apart : moved.Pairwise fun one other => ∀ place copy otherPlace otherCopy,
      Returnable left one place copy → Returnable left other otherPlace otherCopy →
        ∀ location ∈ [otherPlace, otherCopy], location ≠ place ∧ location ≠ copy := by
    refine rotated.nodup.imp_of_mem fun {one other} inside otherInside different => ?_
    intro place copy otherPlace otherCopy returnable otherReturnable
    obtain ⟨rfl, rfl⟩ := (rotated.returnable inside).unique returnable
    obtain ⟨rfl, rfl⟩ := (rotated.returnable otherInside).unique otherReturnable
    have disjoint := (rotated.disjoint inside otherInside different).symm
    simp only [List.mem_cons, List.not_mem_nil, or_false, forall_eq_or_imp, forall_eq]
    exact ⟨⟨disjoint _ _ (.inl rfl) (.inl rfl), disjoint _ _ (.inl rfl) (.inr rfl)⟩,
      disjoint _ _ (.inr rfl) (.inl rfl), disjoint _ _ (.inr rfl) (.inr rfl)⟩
  refine (ensures_returned moved rotated.edited.formed
    (fun output inside => ⟨_, _, rotated.returnable inside⟩) apart).weaken (fun _ => id) ?_
    (fun _ _ => id)
  intro _ world returned
  refine rotated.ended returned.same (.refl start) ?_ ?_ ?_
  · intro output inside
    rw [returned.back output inside _ _ (rotated.returnable inside),
      rotated.copy_of_moved inside]
  · exact fun output inside => returned.gone output inside _ _ (rotated.returnable inside)
  · refine fun location free => returned.kept location fun output inside place copy found => ?_
    obtain ⟨rfl, rfl⟩ := (rotated.returnable inside).unique found
    exact ⟨free output inside output (.inl rfl), free output inside _ (.inr rfl)⟩

/-- A discard removes the copies of what went aside. -/
theorem ensures_discarded :
    Work.Ensures (HasFiles left) (discard ⟨moved⟩)
      (fun _ world => Ended start left left world.files outputs) (fun _ _ => False) := by
  have located : ∀ output ∈ moved,
      left.locate false (asidePath output) = .ok (start.placeOf (asidePath output)) :=
    fun output inside => (rotated.returnable inside).copyLocated
  refine (Build.ensures_discarded rotated.edited.formed ?_ ?_).weaken (fun _ => id) ?_
    (fun _ _ => id)
  · intro output inside
    obtain ⟨content, writable, found⟩ := (rotated.returnable inside).copied
    exact ⟨_, content, writable, located output inside, found⟩
  · refine rotated.nodup.imp_of_mem fun {one other} inside otherInside different => ?_
    intro place copyLocated otherLocated
    obtain rfl := Except.ok.inj ((located one inside).symm.trans copyLocated)
    exact rotated.disjoint inside otherInside different _ _ (.inr rfl) (.inr rfl)
      (Except.ok.inj (otherLocated.symm.trans (located other otherInside)))
  · intro _ world discarded
    refine rotated.ended discarded.same rotated.ways ?_ ?_ ?_
    · intro output inside
      refine discarded.kept _ fun other otherInside otherLocated => ?_
      rw [rotated.ways.locate_iff] at otherLocated
      exact rotated.among.place_apart_copy rotated.formed (rotated.moved_iff.mp inside).1
        (rotated.moved_iff.mp otherInside).1 ((rotated.movable inside).located output (.inl rfl))
        otherLocated
    · exact fun output inside => discarded.gone output inside _ (located output inside)
    · refine fun location free => discarded.kept location fun output inside otherLocated => ?_
      exact free output inside _ (.inr rfl)
        (Except.ok.inj (otherLocated.symm.trans (located output inside)))

end Rotated

end Ending

/-- The start of a rotation succeeds exactly if the copies of all outputs that are there have a
place. Whatever is then done to the outputs, a restoration succeeds and puts back the outputs that
stood at the start, and a discard succeeds and leaves all outputs as they are. Both remove the
copies of these outputs and change nothing else. -/
theorem rotation_ends (world : World) (outputs : List FilePath)
    (formed : world.files.WellFormed) (among : Outputs world.files outputs) :
    ((∃ rotation opened, start outputs world = (.ok rotation, opened)) ↔
      ∀ output ∈ outputs, world.files.leadsToNode output = true →
        ∃ copy, world.files.locate false (asidePath output) = .ok copy) ∧
    ∀ rotation opened, start outputs world = (.ok rotation, opened) →
      ∀ edits : List FileChange, (∀ change ∈ edits, ∃ output ∈ outputs, change.EditsAt output) →
        ∀ left : World, left.files = opened.files.edit edits →
          (∃ restored, restore rotation left = (.ok (), restored) ∧
            Ended world.files left.files world.files restored.files outputs) ∧
          ∃ discarded, discard rotation left = (.ok (), discarded) ∧
            Ended world.files left.files left.files discarded.files outputs := by
  refine ⟨start_ok_iff formed among, fun rotation opened started edits atOutputs left same => ?_⟩
  obtain ⟨all, stage⟩ := (ensures_started formed among).of_ok rfl started
  have known : ∀ output ∈ rotation.moved ++ [], output ∈ outputs := by
    intro output inside
    rw [List.append_nil, all] at inside
    exact (List.mem_filter.mp inside).1
  have edited : Edited opened.files left.files outputs := by
    rw [same]
    exact FileTree.edited_edit edits (stage.wellFormed formed among known)
      (fun output inside => stage.regular formed among known inside (.inl rfl)) atOutputs
  have rotated : Rotated world.files opened.files left.files outputs rotation.moved :=
    ⟨formed, among, all, stage, edited⟩
  obtain ⟨⟨⟩, restored⟩ := rotated.ensures_restored.succeeds rfl
  obtain ⟨⟨⟩, discarded⟩ := rotated.ensures_discarded.succeeds rfl
  exact ⟨restored, discarded⟩

instance : DecidableEq Node
  | .directory, .directory => isTrue rfl
  | .file content writable, .file other otherWritable =>
      decidable_of_iff (content.data = other.data ∧ writable = otherWritable) (by
        rw [Node.file.injEq, ByteArray.ext_iff])
  | .link target, .link other => decidable_of_iff (target = other) (by rw [Node.link.injEq])
  | .directory, .file .. | .directory, .link _ | .file .., .directory | .file .., .link _
  | .link _, .directory | .link _, .file .. => isFalse nofun

/-- In this tree the first output is locked beside an older copy, and of the second output there is
only such a copy. -/
def halfBuiltTree : FileTree :=
  (((FileTree.empty ["d"]).put ["d", "a.rs"] (.file "old".toUTF8 false)).put
    ["d", "a.rs.prev"] (.file "older".toUTF8 true)).put
    ["d", "b.rs.prev"] (.file "stale".toUTF8 true)

theorem halfBuiltTree_wellFormed : halfBuiltTree.WellFormed := by
  apply FileTree.wellFormed_of_nodes
  intro entry inside
  obtain rfl | rfl | rfl | rfl : entry = (["d", "b.rs.prev"], .file "stale".toUTF8 true) ∨
      entry = (["d", "a.rs.prev"], .file "older".toUTF8 true) ∨
      entry = (["d", "a.rs"], .file "old".toUTF8 false) ∨ entry = (["d"], .directory) := by
    simpa [halfBuiltTree, FileTree.put, FileTree.empty] using inside
  · rfl
  · rfl
  · rfl
  · rfl

/-- The outputs of the rotation of this tree. -/
def halfBuiltOutputs : List FilePath :=
  [.ofText "a.rs", .ofText "b.rs"]

theorem halfBuiltTree_outputs : Outputs halfBuiltTree halfBuiltOutputs := by
  have seat : ∀ name, halfBuiltTree.Seat ⟨[], name⟩ ["d"] := fun _ => ⟨rfl, rfl⟩
  apply outputs_of_folder
  · intro output inside
    obtain rfl | rfl : output = .ofText "a.rs" ∨ output = .ofText "b.rs" := by
      simpa [halfBuiltOutputs] using inside
    · exact seat _
    · exact seat _
  all_goals decide +kernel

/-- Of the two new outputs a restoration replaces the first one by the locked old one and keeps the
second one, and a discard keeps both. -/
theorem rotation_ends_halfBuilt :
    let world : World := { files := halfBuiltTree }
    let opened := start halfBuiltOutputs world
    let edits : List FileChange := [.create (.ofText "a.rs"),
      .write (.ofText "a.rs") "new".toUTF8, .create (.ofText "b.rs"),
      .setWritable (.ofText "b.rs") false]
    let left : World := { files := opened.2.files.edit edits }
    halfBuiltTree.WellFormed ∧ Outputs halfBuiltTree halfBuiltOutputs ∧
      opened.1 = .ok ⟨[.ofText "a.rs"]⟩ ∧
      (∃ restored, restore ⟨[.ofText "a.rs"]⟩ left = (.ok (), restored) ∧
        restored.files.found? (.ofText "a.rs") = some (.file "old".toUTF8 false) ∧
        restored.files.found? (.ofText "b.rs") = some (.file "".toUTF8 false)) ∧
      ∃ discarded, discard ⟨[.ofText "a.rs"]⟩ left = (.ok (), discarded) ∧
        discarded.files.found? (.ofText "a.rs") = some (.file "new".toUTF8 true) ∧
        discarded.files.found? (asidePath (.ofText "a.rs")) = none ∧
        discarded.files.found? (asidePath (.ofText "b.rs")) =
          some (.file "stale".toUTF8 true) := by
  intro world opened edits left
  have started : opened.1 = .ok ⟨[.ofText "a.rs"]⟩ := by decide +kernel
  have ended : start halfBuiltOutputs world = (.ok ⟨[.ofText "a.rs"]⟩, opened.2) :=
    Prod.ext started rfl
  have atOutputs : ∀ change ∈ edits, ∃ output ∈ halfBuiltOutputs, change.EditsAt output := by
    simp [edits, halfBuiltOutputs, FileChange.EditsAt]
  have same : left.files = opened.2.files.edit edits := by simp only [left]
  obtain ⟨⟨restored, restores, back⟩, discarded, discards, kept⟩ :=
    (rotation_ends world halfBuiltOutputs halfBuiltTree_wellFormed halfBuiltTree_outputs).2
      _ _ ended edits atOutputs left same
  have there : FilePath.ofText "a.rs" ∈ halfBuiltOutputs := by decide +kernel
  have missing : FilePath.ofText "b.rs" ∈ halfBuiltOutputs := by decide +kernel
  refine ⟨halfBuiltTree_wellFormed, halfBuiltTree_outputs, started,
    ⟨restored, restores, ?_, ?_⟩, discarded, discards, ?_, ?_, ?_⟩
  · exact (back.stood _ there (by decide +kernel)).1.trans (by decide +kernel)
  · exact (back.absent _ missing (by decide +kernel)).1.trans (by decide +kernel)
  · exact (kept.stood _ there (by decide +kernel)).1.trans (by decide +kernel)
  · exact (kept.stood _ there (by decide +kernel)).2
  · exact (kept.absent _ missing (by decide +kernel)).2.trans (by decide +kernel)

end Tablewright.Rotation
