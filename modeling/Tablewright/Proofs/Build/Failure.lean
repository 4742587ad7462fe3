import Tablewright.Proofs.Build.Restoring

namespace Tablewright.Build

open Rotation (asidePath HasFiles Outputs Stage)

/-- A build that gives up does what its restoration does, and fails for the given cause. -/
theorem ensures_giveUp_restored {α : Type} {rotation : Rotation} {before after : FileTree → Prop}
    (restores : Work.Ensures (fun world => before world.files) rotation.restore
      (fun _ world => after world.files) (fun _ _ => False)) (event : Event) (error : BuildError) :
    Work.Ensures (fun world => before world.files)
      (giveUp rotation event error : Work BuildError α) (fun _ _ => False)
      (fun cause world => cause = error ∧ after world.files) := by
  have notes : Work.Ensures (fun world => before world.files)
      (Work.note event : Work BuildError Unit) (fun _ world => before world.files)
      (fun cause world => cause = error ∧ after world.files) :=
    Work.ensures_note fun _ => id
  refine notes.bind fun _ => ?_
  refine (Work.ensures_mapError (restores.weaken (fun _ => id) (fun _ _ => id)
    fun _ _ => False.elim)).bind fun _ => ?_
  exact Work.ensures_throw fun _ restored => ⟨rfl, restored⟩

section Failure

variable {tree : FileTree} {device : Device} {directory : FilePath} {settings : Settings}
  (formed : tree.WellFormed)
  (among : Outputs tree [settings.primaryPath directory, settings.secondaryPath directory])
include formed among

/-- The opening of a build moves the outputs aside that are there. -/
theorem stage_of_opening {rotation : Rotation} {world : World}
    (opened : opening directory settings { files := tree, device } = (.ok rotation, world)) :
    rotation.moved = [settings.primaryPath directory, settings.secondaryPath directory].filter
        tree.leadsToNode ∧
      Stage tree rotation.moved [] world.files := by
  have opens : Work.Ensures (HasFiles tree) (opening directory settings)
      (fun rotation world => rotation.moved = [settings.primaryPath directory,
          settings.secondaryPath directory].filter tree.leadsToNode ∧
        Stage tree rotation.moved [] world.files) (fun _ _ => True) := by
    have notes : Work.Ensures (HasFiles tree)
        (Work.note (startedEvent directory) : Work BuildError Unit)
        (fun _ => HasFiles tree) (fun _ _ => True) :=
      Work.ensures_note fun _ => id
    exact notes.bind fun _ => Work.ensures_mapError
      ((Rotation.ensures_started formed among).weaken (fun _ => id) (fun _ _ => id)
        fun _ _ _ => trivial)
  have same : HasFiles tree { files := tree, device } := rfl
  exact opens.of_ok same opened

/-- A build that gives up moves all outputs back and fails for the given cause. -/
theorem ensures_giveUp_back {α : Type} {rotation : Rotation}
    (known : ∀ output ∈ rotation.moved,
      output ∈ [settings.primaryPath directory, settings.secondaryPath directory])
    (nodup : rotation.moved.Nodup) (event : Event) (error : BuildError) :
    Work.Ensures (fun world => Stage tree rotation.moved [] world.files)
      (giveUp rotation event error : Work BuildError α) (fun _ _ => False)
      (fun cause world => cause = error ∧ Stage tree [] rotation.moved world.files) := by
  have rewinds : Work.Ensures (fun world => Stage tree rotation.moved [] world.files)
      rotation.restore (fun _ world => Stage tree [] (rotation.moved.reverse ++ []) world.files)
      (fun _ _ => False) :=
    Rotation.ensures_rewind formed among (by simpa using known) (by simpa using nodup)
  refine ensures_giveUp_restored (rewinds.weaken (fun _ => id) ?_ fun _ _ => id) event error
  intro _ world stage
  exact stage.of_mem (by simp) (by simp)

section Rendering

variable {rotation : Rotation} {world : World} {error : BuildError}
  (opened : opening directory settings { files := tree, device } = (.ok rotation, world))
  (failed : (render directory settings world).1 = .error error)
include opened failed

/-- A build whose rendering fails moves back what its opening moved aside. -/
theorem stage_of_failed_rendering (programs : Programs) : ∃ later,
    run programs directory settings { files := tree, device } = (.error error, later) ∧
      Stage tree [] rotation.moved later.files := by
  obtain ⟨moved, staged⟩ := stage_of_opening formed among opened
  have known : ∀ output ∈ rotation.moved,
      output ∈ [settings.primaryPath directory, settings.secondaryPath directory] := by
    rw [moved]
    exact fun output inside => (List.mem_filter.mp inside).1
  have nodup : rotation.moved.Nodup := by
    rw [moved]
    exact among.nodup.filter _
  have opens : Work.Ensures (fun first => first = { files := tree, device })
      (opening directory settings) (fun found later => found = rotation ∧ later = world)
      (fun cause later => cause = error ∧ Stage tree [] rotation.moved later.files) := by
    refine ⟨?_⟩
    intro first equal
    subst equal
    rw [opened]
    exact ⟨rfl, rfl⟩
  have follows : Work.Ensures (fun first => first = world)
      (following programs directory settings rotation) (fun _ _ => False)
      (fun cause later => cause = error ∧ Stage tree [] rotation.moved later.files) := by
    refine Work.Ensures.bind (Work.Ensures.bind
      (Work.ensures_outcome (ensures_render directory settings)) fun result => ?_) fun _ =>
        Work.ensures_absurd fun _ => id
    cases result with
    | ok rendering =>
        apply Work.ensures_absurd
        intro later given
        obtain ⟨first, rfl, ended, _⟩ := given
        cases failed.symm.trans ended
    | error cause =>
        refine Work.Ensures.of_each ?_
        intro later given
        obtain ⟨first, rfl, ended, sameFiles, _⟩ := given
        obtain rfl := Except.error.inj (failed.symm.trans ended)
        refine (ensures_giveUp_back formed among known nodup _ _).weaken ?_ (fun _ _ => id)
          (fun _ _ => id)
        intro final equal
        subst equal
        rw [sameFiles]
        exact staged
  have runs : Work.Ensures (fun first => first = { files := tree, device })
      (run programs directory settings) (fun _ _ => False)
      (fun cause later => cause = error ∧ Stage tree [] rotation.moved later.files) := by
    rw [run_eq]
    refine opens.bind fun found => ?_
    by_cases same : found = rotation
    · subst same
      exact follows.weaken (fun _ both => both.2) (fun _ _ => id) (fun _ _ => id)
    · exact Work.ensures_absurd fun _ both => same both.1
  obtain ⟨cause, later, ended, rfl, stage⟩ := runs.fails rfl
  exact ⟨later, ended, stage⟩

/-- A build whose rendering fails returns the error of the rendering. It leaves every path as it
was, but the older copy beside an output that was there is gone. -/
theorem failed_rendering_restores (programs : Programs) : ∃ later,
    run programs directory settings { files := tree, device } = (.error error, later) ∧
      later.files.here = tree.here ∧
      (∀ output ∈ [settings.primaryPath directory, settings.secondaryPath directory].filter
        tree.leadsToNode, ∀ place, tree.locate false (asidePath output) = .ok place →
          later.files.node? place = none) ∧
      ∀ location,
        (∀ output ∈ [settings.primaryPath directory, settings.secondaryPath directory].filter
          tree.leadsToNode, tree.locate false (asidePath output) ≠ .ok location) →
        later.files.node? location = tree.node? location := by
  obtain ⟨moved, _⟩ := stage_of_opening formed among opened
  obtain ⟨later, ended, stage⟩ := stage_of_failed_rendering formed among opened failed programs
  rw [← moved]
  refine ⟨later, ended, stage.here, ?_, ?_⟩
  · intro output inside place located
    rw [← FileTree.placeOf_eq located]
    exact (stage.movedBack output inside).2
  · intro location free
    by_cases back : ∃ output ∈ rotation.moved, location = tree.placeOf output
    · obtain ⟨output, inside, rfl⟩ := back
      exact (stage.movedBack output inside).1
    · apply stage.kept
      intro output inside slot either same
      rcases either with rfl | rfl
      · exact back ⟨slot, inside, same⟩
      · have located := (stage.movable output inside).located _ (.inr rfl)
        rw [← same] at located
        exact free output inside located

end Rendering

end Failure

/-- The first output of these settings is no file of a module. -/
def refusedSettings : Settings :=
  { primaryOutput := "table.txt" }

/-- In this tree the first output and an older copy of it are left from earlier builds. -/
def rotatedTree : FileTree :=
  ((FileTree.empty ["d"]).put ["d", "table.txt"] (.file "old".toUTF8 false)).put
    ["d", "table.txt.prev"] (.file "older".toUTF8 true)

theorem rotatedTree_wellFormed : rotatedTree.WellFormed := by
  apply FileTree.wellFormed_of_nodes
  intro entry inside
  obtain rfl | rfl | rfl : entry = (["d", "table.txt.prev"], .file "older".toUTF8 true) ∨
      entry = (["d", "table.txt"], .file "old".toUTF8 false) ∨ entry = (["d"], .directory) := by
    simpa [rotatedTree, FileTree.put, FileTree.empty] using inside
  · rfl
  · rfl
  · rfl

theorem rotatedTree_outputs : Outputs rotatedTree [refusedSettings.primaryPath (.ofText "."),
    refusedSettings.secondaryPath (.ofText ".")] := by
  have seat : ∀ name, rotatedTree.Seat ⟨["."], name⟩ ["d"] := fun _ => ⟨rfl, rfl⟩
  apply Rotation.outputs_of_folder
  · intro output inside
    obtain rfl | rfl : output = refusedSettings.primaryPath (.ofText ".") ∨
        output = refusedSettings.secondaryPath (.ofText ".") := by simpa using inside
    · exact seat _
    · exact seat _
  all_goals decide +kernel

/-- The output is back after the refusal, still locked, and its older copy is gone. -/
theorem failed_rendering_restores_refused :
    let directory := FilePath.ofText "."
    let opened := opening directory refusedSettings { files := rotatedTree }
    let error := BuildError.config (.invalidOutput (.wrongExtension "table.txt"))
    rotatedTree.WellFormed ∧
      Outputs rotatedTree [refusedSettings.primaryPath directory,
        refusedSettings.secondaryPath directory] ∧
      opened.1 = .ok ⟨[refusedSettings.primaryPath directory]⟩ ∧
      (render directory refusedSettings opened.2).1 = .error error ∧
      ∃ later, run Programs.bare directory refusedSettings { files := rotatedTree } =
          (.error error, later) ∧
        later.files.node? ["d", "table.txt"] = some (.file "old".toUTF8 false) ∧
        later.files.node? ["d", "table.txt.prev"] = none := by
  intro directory opened error
  have moved : opened.1 = .ok ⟨[refusedSettings.primaryPath directory]⟩ := by decide +kernel
  have failed : (render directory refusedSettings opened.2).1 = .error error := by decide +kernel
  obtain ⟨later, ended, _, gone, kept⟩ := failed_rendering_restores rotatedTree_wellFormed
    rotatedTree_outputs (Prod.ext moved rfl : opened = (_, opened.2)) failed Programs.bare
  have copyLocated : rotatedTree.locate false (asidePath (refusedSettings.primaryPath directory)) =
      .ok ["d", "table.txt.prev"] := by decide +kernel
  refine ⟨rotatedTree_wellFormed, rotatedTree_outputs, moved, failed, later, ended, ?_, ?_⟩
  · exact kept ["d", "table.txt"] (by decide +kernel)
  · exact gone (refusedSettings.primaryPath directory) (by decide +kernel) _ copyLocated

end Tablewright.Build
