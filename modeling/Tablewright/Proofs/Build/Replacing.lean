import Tablewright.Proofs.Build.Exchange
import Tablewright.Proofs.Build.Renaming
import Tablewright.Proofs.FileTree.Made

namespace Tablewright

namespace FileTree

/-- A new content stands at a goal. It passed another place, and all else is as before. -/
structure Placed (before after : FileTree) (content : ByteArray) (passed goal : Location) :
    Prop where
  here : after.here = before.here
  content : ∃ writable, after.node? goal = some (.file content writable)
  gone : after.node? passed = none
  kept : ∀ location, location ≠ passed → location ≠ goal →
    after.node? location = before.node? location
  passedPlain : Node.IsFileOrNothing (before.node? passed)
  goalPlain : Node.IsFileOrNothing (before.node? goal)

section Placed

variable {before after : FileTree} {content : ByteArray} {passed goal : Location}

theorem Placed.sameWays (placed : Placed before after content passed goal) :
    before.SameWays after := by
  apply SameWays.of_files placed.here
  intro location
  by_cases atPassed : location = passed
  · subst atPassed
    rw [placed.gone]
    exact .inr ⟨placed.passedPlain, trivial⟩
  · by_cases atGoal : location = goal
    · subst atGoal
      obtain ⟨writable, found⟩ := placed.content
      rw [found]
      exact .inr ⟨placed.goalPlain, trivial⟩
    · exact .inl (placed.kept location atPassed atGoal)

theorem Placed.wellFormed (placed : Placed before after content passed goal)
    (formed : before.WellFormed) (inFolder : before.node? goal.dropLast = some .directory) :
    after.WellFormed := by
  intro folder name present
  apply placed.sameWays.there.directories
  by_cases atGoal : folder ++ [name] = goal
  · rwa [← atGoal, List.dropLast_concat] at inFolder
  · apply formed folder name
    rwa [← placed.kept _ ?_ atGoal]
    intro atPassed
    rw [atPassed, placed.gone] at present
    cases present

end Placed

section Steps

variable {start tree after : FileTree} {path source target : FilePath} {place : Location}
  {content : ByteArray} {writable : Bool}

theorem hasLastName_iff (named : path.last ≠ "") :
    hasLastName path = true ↔ IsProperName path.last := by
  simp [hasLastName, withoutSlashes_of_last named, IsProperName, and_assoc]

/-- A file or link that is renamed moves to a place with a proper name where no directory stands, or
stays where it is. -/
theorem rename_leaf_ok (renamed : tree.rename source target = .ok after)
    (located : tree.locate false (withoutSlashes source) = .ok place) {node : Node}
    (found : tree.node? place = some node) (leaf : node ≠ .directory) :
    IsProperName target.last ∧ ∃ goal, tree.locate false target = .ok goal ∧
      (place = goal ∨ tree.node? goal ≠ some .directory ∧ after = tree.move place goal) := by
  obtain ⟨start, sourceLocated, rest⟩ := of_bind_ok renamed
  obtain ⟨goal, goalLocated, ended⟩ := of_bind_ok rest
  obtain rfl := Except.ok.inj (sourceLocated.symm.trans located)
  split at ended
  · cases ended
  · next names =>
      rw [found] at ended
      split at ended
      · next missing => cases missing
      · next directory => exact absurd (Option.some.inj directory) leaf
      split at ended
      · cases ended
      · next slashes =>
          have named : target.last ≠ "" := by
            intro empty
            simp [endsWithSlash, empty] at slashes
          have proper : IsProperName target.last := by
            rw [← hasLastName_iff named]
            simp only [Bool.or_eq_true, Bool.not_eq_true', not_or, Bool.not_eq_false] at names
            exact names.2
          rw [withoutSlashes_of_last named] at goalLocated
          refine ⟨proper, goal, goalLocated, ?_⟩
          split at ended
          · next same => exact .inl same
          · split at ended
            · cases ended
            · split at ended
              · cases ended
              · next noDirectory =>
                  exact .inr ⟨noDirectory, (Except.ok.inj ended).symm⟩

theorem mayLead_of_proper (grows : start.GrowsInto tree) (proper : IsProperName path.last)
    (located : tree.locate false path = .ok place) : start.MayLead path place := by
  apply mayLead_of_locate grows
  rwa [withoutSlashes_of_last proper.1]

/-- An unlinked path that leads to a place leads to its last name in a directory there. No link is
followed. -/
theorem Unlinked.located (unlinked : start.Unlinked path) (grows : start.GrowsInto tree)
    (proper : IsProperName path.last) {follow : Bool}
    (located : tree.locate follow path = .ok place) :
    tree.locate false path = .ok place ∧ (∀ target, tree.node? place ≠ some (.link target)) ∧
      ∃ folder, tree.Seat path folder ∧ place = folder ++ [path.last] := by
  have noLink : ∀ {near}, tree.locate false path = .ok near →
      ∀ target, tree.node? near ≠ some (.link target) := by
    intro near stopped target link
    have leads := mayLead_of_proper grows proper stopped
    exact unlinked near leads target ((grows.links _ _).mp link)
  have stopped : tree.locate false path = .ok place := by
    cases follow with
    | false => exact located
    | true =>
        obtain ⟨near, stopped, rfl | ⟨target, link⟩⟩ := locate_follow located
        · exact stopped
        · exact absurd link (noLink stopped target)
  obtain ⟨folder, seat⟩ := Seat.of_locate stopped
  exact ⟨stopped, noLink stopped, folder, seat, ((seat.locate_iff proper).mp stopped).2.2⟩

end Steps

/-- A new content stands at the place of a path, and all else is as before. -/
structure Stored (before after : FileTree) (path : FilePath) (content : ByteArray)
    (place : Location) : Prop where
  same : before.SameWays after
  formed : after.WellFormed
  free : Node.IsFileOrNothing (before.node? place)
  nodes : ∃ writable, ∀ location, after.node? location =
    if location = place then some (.file content writable) else before.node? location
  located : before.locate false path = .ok place
  last : place.getLast? = some path.last

/-- A content is stored by the creation and the filling of a file. -/
theorem stored_of_steps {start before created after : FileTree} {path : FilePath}
    {content : ByteArray} (formed : before.WellFormed) (grows : start.GrowsInto before)
    (unlinked : start.Unlinked path) (proper : IsProperName path.last)
    (creates : before.create path = .ok created) (writes : created.write path content = .ok after) :
    ∃ place, Stored before after path content place := by
  obtain ⟨place, first, followed, free, rfl⟩ := create_ok creates
  obtain ⟨located, _, folder, seat, last⟩ := unlinked.located grows proper followed
  have below : place ≠ [] := by simp [last]
  have sameCreated : before.SameWays (before.put place (.file .empty first)) :=
    .put_plain below free
  obtain ⟨again, old, writable, reached, standing, rfl⟩ := write_ok writes
  obtain rfl : again = place :=
    Except.ok.inj ((sameCreated.locate_iff.mp reached).symm.trans followed)
  have inFolder : before.node? again.dropLast = some .directory := by
    rw [last, List.dropLast_concat]
    exact seat.directory
  have formedCreated : (before.put again (.file .empty first)).WellFormed :=
    formed.put below inFolder free.noDirectory
  refine ⟨again, sameCreated.trans (.put_file standing), ?_, free, ⟨writable, ?_⟩, located, ?_⟩
  · exact formedCreated.put below (sameCreated.there.directories _ inFolder) (by simp [standing])
  · intro location
    rw [FileTree.node?_put _ below, before.node?_put below]
    by_cases here : location = again
    · simp [here]
    · simp [here]
  · rw [last, List.getLast?_concat]

/-- A content that is written to a temporary file, which is then renamed, is placed at the path. -/
theorem placed_of_steps {start before created written after : FileTree}
    {temporary path : FilePath} {content : ByteArray} (formed : before.WellFormed)
    (grows : start.GrowsInto before) (unlinked : start.Unlinked temporary)
    (plain : start.Plain path) (temporaryProper : IsProperName temporary.last)
    (different : path.fileName? ≠ some temporary.last)
    (creates : before.create temporary = .ok created)
    (writes : created.write temporary content = .ok written)
    (renames : written.rename temporary path = .ok after) :
    IsProperName path.last ∧ after.WellFormed ∧ ∃ passed goal,
      after.locate false temporary = .ok passed ∧ after.locate true path = .ok goal ∧
        Placed before after content passed goal := by
  obtain ⟨passed, same, formedThen, free, ⟨writable, nodes⟩, located, passedLast⟩ :=
    stored_of_steps formed grows unlinked temporaryProper creates writes
  have source : written.locate false (withoutSlashes temporary) = .ok passed := by
    rw [withoutSlashes_of_last temporaryProper.1]
    exact same.locate_iff.mpr located
  have standing := (nodes passed).trans (if_pos rfl)
  obtain ⟨proper, goal, goalLocated, moves⟩ := rename_leaf_ok renames source standing nofun
  obtain ⟨goalStopped, noLink, goalFolder, goalSeat, goalLast⟩ :=
    plain.unlinked.located (grows.trans same.there) proper goalLocated
  have apart : passed ≠ goal := by
    intro equal
    rw [equal, goalLast, List.getLast?_concat] at passedLast
    rw [FilePath.fileName?_proper proper] at different
    exact different passedLast
  obtain ⟨noDirectory, rfl⟩ := moves.resolve_left apart
  have goalPlain : Node.IsFileOrNothing (written.node? goal) := by
    cases found : written.node? goal with
    | none => trivial
    | some node =>
        cases node with
        | file content writable => trivial
        | directory => exact absurd found noDirectory
        | link target => exact absurd found (noLink target)
  have moved := moved_file formedThen standing goalPlain apart
  have placed : Placed before (written.move passed goal) content passed goal := by
    refine ⟨moved.here.trans same.there.here, ⟨writable, ?_⟩, moved.gone, ?_, free, ?_⟩
    · rw [moved.moved, nodes, if_pos rfl]
    · intro location notPassed notGoal
      rw [moved.kept location notPassed notGoal, nodes, if_neg notPassed]
    · rwa [nodes, if_neg apart.symm] at goalPlain
  have goalBefore : before.locate false path = .ok goal := same.locate_iff.mp goalStopped
  refine ⟨proper, ?_, passed, goal, placed.sameWays.locate_iff.mpr located, ?_, placed⟩
  · apply placed.wellFormed formed
    rw [goalLast, List.dropLast_concat]
    exact same.back.directories _ goalSeat.directory
  · apply locate_stop (placed.sameWays.locate_iff.mpr goalBefore)
    obtain ⟨kept, found⟩ := placed.content
    simp [found]

end FileTree

namespace Replacement

open FileTree (Extended IsProperName Placed Plain Spares)
open Work (After)

/-- The content of a path was replaced. The new one stands where the path leads, and nothing where
its temporary file leads. All else is as before, but missing directories above some paths were
made. -/
structure Replaced (start : FileTree) (paths : List FilePath) (path temporary : FilePath)
    (content : ByteArray) (before after : FileTree) : Prop where
  proper : IsProperName path.last
  grows : before.GrowsInto after
  formed : after.WellFormed
  placed : ∃ passed goal, after.locate false temporary = .ok passed ∧
    after.locate true path = .ok goal ∧
      (∃ writable, after.node? goal = some (.file content writable)) ∧
        after.node? passed = none ∧
          ∀ location, location ≠ passed → location ≠ goal →
            Spares start paths before after location

/-- The content of a path was replaced by way of its temporary file. -/
def IsReplaced (start : FileTree) (paths : List FilePath) (path : FilePath) (content : ByteArray)
    (before after : FileTree) : Prop :=
  ∃ temporary, temporaryPath? path = some temporary ∧
    Replaced start paths path temporary content before after

/-- A temporary file was made after missing directories. -/
def Created (start : FileTree) (paths : List FilePath) (temporary : FilePath)
    (before after : FileTree) : Prop :=
  ∃ extended, Extended start paths before extended ∧ extended.create temporary = .ok after

/-- A content was written to a new temporary file. -/
def Filled (start : FileTree) (paths : List FilePath) (temporary : FilePath) (content : ByteArray)
    (before after : FileTree) : Prop :=
  ∃ created, Created start paths temporary before created ∧
    created.write temporary content = .ok after

section Replaced

variable {start before : FileTree} {paths : List FilePath} {path temporary : FilePath}
  {content : ByteArray}

/-- A content whose temporary file is renamed to its path was replaced. -/
theorem replaced_of_filled {filled after : FileTree} (grows : start.GrowsInto before)
    (plain : start.Plain path) (unlinked : start.Unlinked temporary)
    (found : temporaryPath? path = some temporary)
    (isFilled : Filled start paths temporary content before filled)
    (renames : filled.rename temporary path = .ok after) :
    Replaced start paths path temporary content before after := by
  obtain ⟨created, ⟨extended, isExtended, creates⟩, writes⟩ := isFilled
  obtain ⟨temporaryProper, different, _⟩ := temporaryPath_last found
  obtain ⟨proper, formed, passed, goal, located, reached, placed⟩ :=
    FileTree.placed_of_steps isExtended.formed (grows.trans isExtended.growsInto) unlinked
      plain temporaryProper different creates writes renames
  refine ⟨proper, isExtended.growsInto.trans placed.sameWays.there, formed, passed, goal, located,
    reached, placed.content, placed.gone, ?_⟩
  intro location notPassed notGoal
  exact (isExtended.spares location).trans (.inl (placed.kept location notPassed notGoal))

/-- The directories above a path extend a tree. -/
theorem keeps_extended {targets : List FilePath} (grows : start.GrowsInto before)
    (known : path ∈ paths) :
    Work.Keeps (After targets (Extended start paths before)) (makeParents path) := by
  rw [makeParents]
  split
  · next parent direct =>
      refine Work.keeps_makeDirectoriesUpTo (fun folder => folder.Above path)
        (.parent direct) (fun _ _ above up => above.up up) ?_
      intro folder above
      exact Work.ensures_still rfl fun _ _ isExtended made =>
        isExtended.makeDirectory grows known above made
  · exact Work.keeps_pure

/-- Only a path with a proper last name can be replaced. -/
theorem ensures_proper {before : World → Prop} :
    Work.Ensures before (replace path content) (fun _ _ => IsProperName path.last)
      (fun _ _ => True) := by
  refine Work.ensures_trivial.bind fun _ => ?_
  split
  · exact Work.ensures_throw fun _ _ => trivial
  next temporary found =>
  have named := (temporaryPath_last found).1.1
  have writes : Work.Ensures (fun _ => True) (Work.perform (.write temporary content))
      (fun _ world => ∃ place content writable, world.files.locate true temporary = .ok place ∧
        world.files.node? place = some (.file content writable)) (fun _ _ => True) := by
    refine Work.ensures_perform ?_ fun _ _ _ _ => trivial
    intro world after _ applied
    obtain ⟨place, old, writable, located, standing, rfl⟩ := FileTree.write_ok applied
    have same : world.files.SameWays (world.files.put place (.file content writable)) :=
      .put_file standing
    refine ⟨place, content, writable, same.locate_iff.mpr located, ?_⟩
    rw [world.files.node?_put (FileTree.ne_root_of_file standing), if_pos rfl]
  have fills := Work.ensures_fill writes fun _ =>
    Work.ensures_trivial.weaken (fun _ => id) (fun _ _ _ _ => trivial) fun _ _ => id
  refine Work.ensures_mapError (Work.Ensures.bind (Work.ensures_trivial.bind fun _ => fills)
    fun _ => (Work.ensures_flush fun _ _ _ => trivial).bind fun _ => Work.Ensures.bind
      (Work.ensures_perform ?_ fun _ _ _ _ => trivial) fun _ =>
        ensures_flushParent fun _ _ _ => trivial)
  rintro world after ⟨place, content, writable, followed, standing⟩ renames
  obtain ⟨near, located, same⟩ := FileTree.locate_follow followed
  rw [← FileTree.withoutSlashes_of_last named] at located
  -- The temporary file may be a link to the file that was written.
  obtain rfl | ⟨target, link⟩ := same
  · exact (FileTree.rename_leaf_ok renames located standing nofun).1
  · exact (FileTree.rename_leaf_ok renames located link nofun).1

end Replaced

end Replacement

end Tablewright
