import Tablewright.Proofs.Build.Replacing

namespace Tablewright.Replacement

open FileTree (Extended Plain Spares MayBeAbove)
open Rotation (HasFiles)
open Work (After)

/-- A work changed nothing but the touched locations, and made missing directories above some
paths. -/
structure Worked (start : FileTree) (paths : List FilePath) (touched : Location → Prop)
    (before after : FileTree) : Prop where
  grows : before.GrowsInto after
  formed : after.WellFormed
  spares : ∀ location, ¬ touched location → Spares start paths before after location
  made : ∀ location, after.node? location = some .directory →
    before.node? location = some .directory ∨ start.MayBeAbove paths location

/-- A location is drafted for a path when its temporary file may lead there. -/
def Drafted (start : FileTree) (path : FilePath) (location : Location) : Prop :=
  ∃ temporary, temporaryPath? path = some temporary ∧ start.MayLead temporary location

section Worked

variable {start before between after : FileTree} {paths : List FilePath}
  {touched also : Location → Prop} {path temporary : FilePath} {content : ByteArray}

theorem Worked.trans (first : Worked start paths touched before between)
    (second : Worked start paths also between after) :
    Worked start paths (fun location => touched location ∨ also location) before after where
  grows := first.grows.trans second.grows
  formed := second.formed
  spares location free := by
    rw [not_or] at free
    exact (first.spares location free.1).trans (second.spares location free.2)
  made location directory :=
    (second.made location directory).elim (first.made location) .inr

theorem Worked.mono (worked : Worked start paths touched before after)
    (more : ∀ location, touched location → also location) :
    Worked start paths also before after :=
  ⟨worked.grows, worked.formed,
    fun location free => worked.spares location fun inside => free (more location inside),
    worked.made⟩

theorem worked_of_extended (isExtended : Extended start paths before after) :
    Worked start paths touched before after where
  grows := isExtended.growsInto
  formed := isExtended.formed
  spares location _ := isExtended.spares location
  made location directory := by
    obtain same | ⟨_, _, above⟩ := isExtended.spares location
    · exact .inl (same.symm.trans directory)
    · exact .inr above

/-- A file may be put at a touched location where a file or nothing stands. -/
theorem Worked.put (worked : Worked start paths touched before between) {place : Location}
    {writable : Bool} (isTouched : touched place) (below : place ≠ [])
    (inFolder : between.node? place.dropLast = some .directory)
    (plain : Node.IsFileOrNothing (between.node? place)) :
    Worked start paths touched before (between.put place (.file content writable)) where
  grows := worked.grows.trans (FileTree.SameWays.put_plain below plain).there
  formed := worked.formed.put below inFolder plain.noDirectory
  spares location free := by
    have away : location ≠ place := fun same => free (same ▸ isTouched)
    rw [Spares, between.node?_put below, if_neg away]
    exact worked.spares location free
  made location directory := by
    rw [between.node?_put below] at directory
    split at directory
    · cases directory
    · exact worked.made location directory

theorem worked_of_replaced (grows : start.GrowsInto before) (plain : start.Plain path)
    (found : temporaryPath? path = some temporary)
    (replaced : Replaced start paths path temporary content before after) :
    Worked start paths (fun location => start.MayLead path location ∨ Drafted start path location)
      before after := by
  obtain ⟨passed, goal, located, reached, ⟨writable, standing⟩, gone, spares⟩ := replaced.placed
  have growsAfter := grows.trans replaced.grows
  have isGoal := plain.unlinked.mayLead growsAfter reached
  have isPassed := FileTree.mayLead_of_proper growsAfter (temporaryPath_last found).1 located
  refine ⟨replaced.grows, replaced.formed, ?_, ?_⟩
  · intro location free
    rw [not_or] at free
    refine spares location ?_ ?_
    · exact fun same => free.2 ⟨temporary, found, same ▸ isPassed⟩
    · exact fun same => free.1 (same ▸ isGoal)
  · intro location directory
    by_cases atGoal : location = goal
    · rw [atGoal, standing] at directory
      cases directory
    · by_cases atPassed : location = passed
      · rw [atPassed, gone] at directory
        cases directory
      · obtain same | ⟨_, _, above⟩ := spares location atPassed atGoal
        · exact .inl (same.symm.trans directory)
        · exact .inr above

/-- A file may be put where a temporary path leads. -/
theorem Worked.draft (worked : Worked start paths (Drafted start path) before between)
    (grows : start.GrowsInto before) (unlinked : start.Unlinked temporary)
    (found : temporaryPath? path = some temporary) {place : Location} {writable : Bool}
    (located : between.locate true temporary = .ok place)
    (free : Node.IsFileOrNothing (between.node? place)) :
    Worked start paths (Drafted start path) before
      (between.put place (.file content writable)) := by
  have growsThen := grows.trans worked.grows
  obtain ⟨_, _, folder, seat, same⟩ :=
    unlinked.located growsThen (temporaryPath_last found).1 located
  refine worked.put ⟨temporary, found, unlinked.mayLead growsThen located⟩ (by simp [same]) ?_ free
  rw [same, List.dropLast_concat]
  exact seat.directory

section Drafts

variable (grows : start.GrowsInto before) (unlinked : start.Unlinked temporary)
  (found : temporaryPath? path = some temporary)
include grows unlinked found

theorem worked_of_created (isCreated : Created start paths temporary before after) :
    Worked start paths (Drafted start path) before after := by
  obtain ⟨extended, isExtended, creates⟩ := isCreated
  obtain ⟨place, writable, located, free, rfl⟩ := FileTree.create_ok creates
  exact (worked_of_extended isExtended).draft grows unlinked found located free

theorem worked_of_filled (isFilled : Filled start paths temporary content before after) :
    Worked start paths (Drafted start path) before after := by
  obtain ⟨created, isCreated, writes⟩ := isFilled
  obtain ⟨place, old, writable, located, standing, rfl⟩ := FileTree.write_ok writes
  exact (worked_of_created grows unlinked found isCreated).draft grows unlinked found located
    (by rw [standing]; trivial)

/-- A device that stops leaves a draft, as every step that fails does. -/
theorem ensures_filled {targets : List FilePath} (content : ByteArray) :
    Work.Ensures (After targets (Extended start paths before))
      (Work.writeFile temporary content)
      (fun _ => After targets (Filled start paths temporary content before))
      (fun _ => After targets (Worked start paths (Drafted start path) before)) := by
  have creates : Work.Ensures (After targets (Extended start paths before))
      (Work.perform (.create temporary))
      (fun _ => After targets (Created start paths temporary before))
      (fun _ => After targets (Extended start paths before)) :=
    Work.ensures_still rfl fun extended _ isExtended creates => ⟨extended, isExtended, creates⟩
  have writes : ∀ part, Work.Ensures (After targets (Created start paths temporary before))
      (Work.perform (.write temporary part))
      (fun _ => After targets (Filled start paths temporary part before))
      (fun _ => After targets (Created start paths temporary before)) := fun part =>
    Work.ensures_still rfl fun created _ isCreated writes => ⟨created, isCreated, writes⟩
  refine (creates.weaken (fun _ => id) (fun _ _ => id) fun _ _ after =>
    after.mono fun _ => worked_of_extended).bind fun _ => Work.ensures_fill ?_ fun count => ?_
  · exact (writes content).weaken (fun _ => id) (fun _ _ => id) fun _ _ after =>
      after.mono fun _ => worked_of_created grows unlinked found
  · refine (writes _).weaken (fun _ => id) (fun _ _ after _ => after.mono fun _ => ?_)
      fun _ _ after => after.mono fun _ => worked_of_created grows unlinked found
    exact worked_of_filled grows unlinked found

end Drafts

/-- A replacement that fails leaves at most a temporary file and directories, unless it has renamed
the temporary file already. -/
theorem ensures_replaced_or_drafted (targets : List FilePath) (content : ByteArray)
    (formed : before.WellFormed) (grows : start.GrowsInto before) (known : path ∈ paths)
    (plain : start.Plain path) (unlinked : ∀ temporary, temporaryPath? path = some temporary →
      start.Unlinked temporary) :
    Work.Ensures (After targets (· = before)) (replace path content)
      (fun _ => After (targets ++ [path]) (IsReplaced start paths path content before))
      (fun _ world => After targets (Worked start paths (Drafted start path) before) world ∨
        After (targets ++ [path]) (IsReplaced start paths path content before) world) := by
  have parents : Work.Ensures (After targets (· = before))
      (Work.mapError BuildError.files (makeParents path))
      (fun _ => After targets (Extended start paths before))
      (fun _ => After targets (Extended start paths before)) := by
    refine (keeps_extended grows known).mapError.weaken ?_ (fun _ _ => id) fun _ _ => id
    intro world after
    refine after.mono fun tree same => ?_
    rw [same]
    exact .refl formed
  refine (parents.weaken (fun _ => id) (fun _ _ => id) fun _ _ after =>
    .inl (after.mono fun _ => worked_of_extended)).bind fun _ => ?_
  split
  · exact Work.ensures_throw fun _ after => .inl (after.mono fun _ => worked_of_extended)
  next temporary found =>
  have free := unlinked temporary found
  have renames : Work.Ensures (After targets (Filled start paths temporary content before))
      (Work.perform (.rename temporary path))
      (fun _ => After (targets ++ [path]) (IsReplaced start paths path content before))
      (fun _ => After targets (Filled start paths temporary content before)) :=
    Work.ensures_rename fun _ _ isFilled renamed =>
      ⟨temporary, found, replaced_of_filled grows plain free found isFilled renamed⟩
  have drafted : ∀ world, After targets (Filled start paths temporary content before) world →
      After targets (Worked start paths (Drafted start path) before) world :=
    fun _ after => after.mono fun _ => worked_of_filled grows free found
  refine Work.ensures_mapError (Work.Ensures.bind ((ensures_filled grows free found content).weaken
    (fun _ => id) (fun _ _ => id) fun _ _ => .inl) fun _ => ?_)
  refine (Work.ensures_flush fun _ world after => .inl (drafted world after)).bind fun _ => ?_
  refine (renames.weaken (fun _ => id) (fun _ _ => id) fun _ world after =>
    .inl (drafted world after)).bind fun _ => ?_
  exact ensures_flushParent fun _ _ => .inr

theorem ensures_replaced (formed : before.WellFormed) (grows : start.GrowsInto before)
    (known : path ∈ paths) (plain : start.Plain path)
    (unlinked : ∀ temporary, temporaryPath? path = some temporary → start.Unlinked temporary) :
    Work.Ensures (HasFiles before) (replace path content)
      (fun _ world => IsReplaced start paths path content before world.files)
      (fun _ _ => True) := by
  refine Work.Ensures.of_each fun world same => ?_
  refine (ensures_replaced_or_drafted world.renamed content formed grows known plain
    unlinked).weaken ?_ (fun _ _ after => after.kind) fun _ _ _ => trivial
  rintro first rfl
  exact ⟨same, rfl⟩

end Worked

end Tablewright.Replacement
