import Tablewright.Proofs.Build.Tracking

namespace Tablewright

def FileChange.renamedTo? : FileChange → Option FilePath
  | .rename _ target => some target
  | _ => none

namespace World

/-- These are the paths that something was renamed to, in the order of the renames. -/
def renamed (world : World) : List FilePath :=
  world.trail.filterMap fun step => step.1.renamedTo?

theorem renamed_change (world : World) (change : FileChange) (after : FileTree) :
    renamed { world with files := after, history := world.history ++ [.change change after] } =
      world.renamed ++ change.renamedTo?.toList := by
  obtain ⟨files, history, printed, device⟩ := world
  rw [renamed, trail_change, List.filterMap_append]
  cases change <;> rfl

theorem renamed_event (world : World) (event : Event) :
    renamed { world with history := world.history ++ [.event event] } = world.renamed := by
  rw [renamed, trail_event]
  rfl

end World

namespace Work

/-- The files are of a kind after renames to these paths. -/
structure After (targets : List FilePath) (kind : FileTree → Prop) (world : World) : Prop where
  kind : kind world.files
  renamed : world.renamed = targets

section After

variable {targets : List FilePath} {kind later : FileTree → Prop}

theorem After.mono {world : World} (after : After targets kind world)
    (more : ∀ tree, kind tree → later tree) : After targets later world :=
  ⟨more _ after.kind, after.renamed⟩

theorem ensures_still {change : FileChange} (noRename : change.renamedTo? = none)
    (step : ∀ tree after, kind tree → tree.apply change = .ok after → later after) :
    Ensures (After targets kind) (perform change) (fun _ => After targets later)
      (fun _ => After targets kind) := by
  refine ensures_perform ?_ fun _ _ holds _ => holds
  intro world after holds applied
  refine ⟨step _ _ holds.kind applied, ?_⟩
  rw [World.renamed_change, holds.renamed, noRename]
  exact List.append_nil targets

theorem ensures_rename {source target : FilePath}
    (step : ∀ tree after, kind tree → tree.rename source target = .ok after → later after) :
    Ensures (After targets kind) (perform (.rename source target))
      (fun _ => After (targets ++ [target]) later) (fun _ => After targets kind) := by
  refine ensures_perform ?_ fun _ _ holds _ => holds
  intro world after holds applied
  refine ⟨step _ _ holds.kind applied, ?_⟩
  rw [World.renamed_change, holds.renamed]
  rfl

theorem ensures_noted {ε : Type} {failed : ε → World → Prop} (event : Event) :
    Ensures (After targets kind) (note event) (fun _ => After targets kind) failed := by
  apply ensures_note
  intro world holds
  exact ⟨holds.kind, by rw [World.renamed_event, holds.renamed]⟩

end After

end Work

namespace Rotation

open Work (After)

variable {targets : List FilePath}

theorem keeps_renamed_clear (path : FilePath) :
    Work.Keeps (After targets fun _ => True) (clear path) := by
  refine Work.keeps_files.bind fun tree => ?_
  split
  · exact Work.Keeps.bind (Work.ensures_still rfl fun _ _ _ _ => trivial) fun _ =>
      Work.ensures_still rfl fun _ _ _ _ => trivial
  · exact Work.keeps_pure

/-- A rotation renames the outputs that it moves to their copies and nothing else. -/
theorem ensures_renamed_start (outputs : List FilePath) :
    Work.Ensures (After targets fun _ => True) (start outputs)
      (fun rotation => After (targets ++ rotation.moved.map asidePath) fun _ => True)
      (fun _ _ => True) := by
  induction outputs generalizing targets with
  | nil => exact Work.ensures_pure fun _ after => by simpa using after
  | cons output rest ih =>
      refine Work.Ensures.with_files fun world holds => ?_
      suffices goes : Work.Ensures (After targets fun _ => True) _ _ _ from
        goes.weaken (fun _ same => same ▸ holds) (fun _ _ => id) fun _ _ => id
      split
      · have moves : Work.Ensures (After targets fun _ => True) (moveAside output)
            (fun _ => After (targets ++ [asidePath output]) fun _ => True)
            (fun _ _ => True) := by
          refine Work.Ensures.bind ((keeps_renamed_clear _).weaken (fun _ => id) (fun _ _ => id)
            fun _ _ _ => trivial) fun _ => ?_
          refine Work.Ensures.bind ((Work.ensures_rename fun _ _ _ _ => trivial).weaken
            (fun _ => id) (fun _ _ => id) fun _ _ _ => trivial) fun _ => Work.ensures_noted _
        refine moves.bind fun _ => ih.bind fun rotation => Work.ensures_pure fun _ after => ?_
        simpa using after
      · exact ih

end Rotation

end Tablewright
