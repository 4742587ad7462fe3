import Tablewright.Proofs.Build.Writing

namespace Tablewright.Build

open Rotation (asidePath Guarded Beside Separate Safe Tracked)

/-- A build opens with the rotation of its outputs. -/
def opening (directory : FilePath) (settings : Settings) : Work BuildError Rotation := do
  Work.note (startedEvent directory)
  Work.mapError .files
    (Rotation.start [settings.primaryPath directory, settings.secondaryPath directory])

/-- This work is all that a build does after its rotation. -/
def following (programs : Programs) (directory : FilePath) (settings : Settings)
    (rotation : Rotation) : Work BuildError BuildReport := do
  let primary := settings.primaryPath directory
  let secondary := settings.secondaryPath directory
  let rendering ← regenerate rotation directory primary secondary settings
  Work.note (writtenEvent primary secondary)
  finishOutput programs settings primary
  finishOutput programs settings secondary
  Work.note (finishedEvent rendering.tables)
  return ⟨rendering.tables, rendering.warnings, primary, secondary⟩

theorem run_eq (programs : Programs) (directory : FilePath) (settings : Settings) :
    run programs directory settings =
      opening directory settings >>= following programs directory settings := by
  simp only [run, opening, bind_assoc]
  rfl

/-- This function is the rendering that a build of a tree comes to. There is none when an earlier
part fails. -/
def renderingOf (directory : FilePath) (settings : Settings) (tree : FileTree)
    (device : Device) : Option Rendering :=
  let opened : Work BuildError Rendering := do
    let _rotation ← opening directory settings
    render directory settings
  (opened { files := tree, device }).1.toOption

theorem renderingOf_of_opening {directory : FilePath} {settings : Settings} {tree : FileTree}
    {device : Device} {rotation : Rotation} {world : World}
    (opened : opening directory settings { files := tree, device } = (.ok rotation, world)) :
    renderingOf directory settings tree device = (render directory settings world).1.toOption := by
  rw [renderingOf, Work.bind_apply, opened]

/-- A rendering keeps every property that events do not change. -/
theorem keeps_render {property : World → Prop} (directory : FilePath) (settings : Settings)
    (notes : ∀ (world : World) (events : Journal), property world →
      property { world with history := world.history ++ events.map .event }) :
    Work.Keeps property (render directory settings) := by
  have keeps : ∀ events, Work.Keeps property (Work.noteAll events : Work BuildError Unit) :=
    fun events => ⟨fun world => notes world events⟩
  rw [render]
  split
  · exact Work.keeps_throw
  · refine Work.Keeps.bind ?_ fun _ => ?_
    · refine Work.keeps_files.bind fun tree => (keeps _).bind fun _ => ?_
      split
      · exact Work.keeps_throw
      · exact (keeps _).bind fun _ => Work.keeps_pure
    · refine (keeps _).bind fun _ => ?_
      split
      · exact Work.keeps_throw
      · exact Work.keeps_pure

/-- A rendering changes neither the files nor the trail. -/
theorem ensures_render {before : World → Prop} (directory : FilePath) (settings : Settings) :
    Work.Ensures before (render directory settings)
      (fun rendering world => ∃ earlier, before earlier ∧
        (render directory settings earlier).1 = .ok rendering ∧
        world.files = earlier.files ∧ world.trail = earlier.trail)
      (fun error world => ∃ earlier, before earlier ∧
        (render directory settings earlier).1 = .error error ∧
        world.files = earlier.files ∧ world.trail = earlier.trail) := by
  refine Work.Ensures.of_each fun world holds => ?_
  have notes : ∀ (later : World) (events : Journal),
      later.files = world.files ∧ later.trail = world.trail →
        later.files = world.files ∧
          World.trail { later with history := later.history ++ events.map .event } =
            world.trail := by
    intro given events facts
    obtain ⟨files, history, printed, device⟩ := given
    obtain ⟨sameFiles, sameTrail⟩ := facts
    exact ⟨sameFiles, by rw [World.trail_events]; exact sameTrail⟩
  have same : Work.Ensures (fun first => first = world) (render directory settings)
      (fun _ later => later.files = world.files ∧ later.trail = world.trail)
      (fun _ later => later.files = world.files ∧ later.trail = world.trail) := by
    refine (keeps_render directory settings notes).weaken ?_ (fun _ _ => id) (fun _ _ => id)
    intro first equal
    subst equal
    exact ⟨rfl, rfl⟩
  refine same.exact.weaken (fun _ => id) ?_ ?_
  · intro rendering later given
    obtain ⟨unchanged, first, rfl, ended⟩ := given
    exact ⟨first, holds, by rw [ended], unchanged⟩
  · intro error later given
    obtain ⟨unchanged, first, rfl, ended⟩ := given
    exact ⟨first, holds, by rw [ended], unchanged⟩

/-- Each of two outputs is to get one of the two texts. -/
inductive Gets (primary secondary : FilePath) :
    FilePath → FilePath → (Artifacts → String) → Prop
  | primary : Gets primary secondary primary secondary Artifacts.primary
  | secondary : Gets primary secondary secondary primary Artifacts.secondary

section Tracked

variable {start : FileTree} {primary secondary output other : FilePath}
  {text : Artifacts → String} {complete : ByteArray → Prop} {needs : List FilePath}
  (gets : Gets primary secondary output other text) (guarded : Guarded start output)
  (separate : Separate start output other) (back : Separate start other output)
include gets guarded separate back

theorem others_beside : ∀ path ∈ [primary, secondary], path ≠ output →
    Beside start output path ∧ Beside start output (asidePath path) := by
  have beside : Beside start output other ∧ Beside start output (asidePath other) :=
    ⟨separate.other_beside back, separate.copy_beside back guarded⟩
  intro path inside different
  cases gets <;>
  · obtain rfl | rfl : path = primary ∨ path = secondary := by simpa using inside
    all_goals first | exact absurd rfl different | exact beside

/-- Each output has its new text when both are written, and keeps its copy when that fails. -/
theorem ensures_write {artifacts : Artifacts} (whole : complete (text artifacts).toUTF8) :
    Work.Ensures (Tracked start output complete [asidePath output])
      (write primary secondary artifacts) (fun _ => Tracked start output complete [output])
      (fun _ => Tracked start output complete [asidePath output]) := by
  have own : Work.Ensures (Tracked start output complete [asidePath output])
      (Replacement.replace output (text artifacts).toUTF8)
      (fun _ => Tracked start output complete [output, asidePath output])
      (fun _ => Tracked start output complete [asidePath output]) :=
    Replacement.ensures_replace guarded (by simp) separate whole
  have foreign : ∀ {needs} content, asidePath output ∈ needs →
      Work.Keeps (Tracked start output complete needs) (Replacement.replace other content) :=
    fun content copied => Replacement.keeps_replace_other guarded copied separate back content
  cases gets with
  | primary =>
      refine own.bind fun _ => (foreign _ (by simp)).weaken (fun _ => id) ?_ ?_
      · exact fun _ _ tracked => tracked.fewer (by simp)
      · exact fun _ _ tracked => tracked.fewer (by simp)
  | secondary =>
      refine Work.Ensures.bind (foreign _ (by simp)) fun _ => own.weaken (fun _ => id) ?_ ?_
      · exact fun _ _ tracked => tracked.fewer (by simp)
      · exact fun _ _ => id

section Rotated

variable {rotation : Rotation} (moved : rotation.moved.Sublist [primary, secondary])
include moved

theorem others_moved : ∀ path ∈ rotation.moved, path ≠ output →
    Beside start output path ∧ Beside start output (asidePath path) :=
  fun path inside => others_beside gets guarded separate back path (moved.subset inside)

theorem moved_nodup : rotation.moved.Nodup := by
  refine moved.nodup ?_
  cases gets with
  | primary => simpa using separate.different
  | secondary => simpa using back.different

/-- A build that gives up leaves a version of an output that had its copy. -/
theorem ensures_giveUp {α : Type} {done : α → World → Prop} (event : Event)
    (error : BuildError) :
    Work.Ensures (Tracked start output complete [asidePath output])
      (giveUp rotation event error : Work BuildError α) done
      (fun _ => Tracked start output complete []) := by
  have restores : Work.Ensures (Tracked start output complete [asidePath output])
      (Work.mapError BuildError.files rotation.restore)
      (fun _ => Tracked start output complete [])
      (fun _ => Tracked start output complete []) :=
    Work.ensures_mapError (Rotation.ensures_restore guarded
      (others_moved gets guarded separate back moved)
      (moved_nodup gets guarded separate back moved))
  refine Work.Ensures.bind (Rotation.ensures_noted event) fun _ => restores.bind fun _ => ?_
  exact Work.ensures_throw fun _ => id

/-- A build leaves a version of each output, old or new, when what it renders is complete. -/
theorem ensures_regenerate (directory : FilePath) (settings : Settings) :
    Work.Ensures
      (fun world => Tracked start output complete [asidePath output] world ∧
        ∀ rendering, (render directory settings world).1 = .ok rendering →
          complete (text rendering.artifacts).toUTF8)
      (regenerate rotation directory primary secondary settings)
      (fun _ => Tracked start output complete [])
      (fun _ => Tracked start output complete []) := by
  have discards : Work.Ensures (Tracked start output complete [output])
      (Work.mapError BuildError.files rotation.discard)
      (fun _ => Tracked start output complete [])
      (fun _ => Tracked start output complete []) :=
    Work.ensures_mapError ((Rotation.keeps_discard guarded
      (others_moved gets guarded separate back moved)).weaken (fun _ => id)
      (fun _ _ tracked => tracked.fewer (by simp)) (fun _ _ tracked => tracked.fewer (by simp)))
  refine Work.Ensures.bind (Work.ensures_outcome (ensures_render directory settings))
    fun result => ?_
  cases result with
  | error error =>
      refine (ensures_giveUp gets guarded separate back moved _ _).weaken ?_ (fun _ _ => id)
        (fun _ _ => id)
      intro world given
      obtain ⟨earlier, ⟨tracked, _⟩, _, sameFiles, sameTrail⟩ := given
      exact ⟨sameFiles ▸ tracked.now, sameTrail ▸ tracked.before⟩
  | ok rendering =>
      by_cases whole : complete (text rendering.artifacts).toUTF8
      · refine Work.Ensures.weaken (Work.Ensures.bind
          (Work.ensures_outcome (ensures_write gets guarded separate back whole)) fun written => ?_)
          ?_ (fun _ _ => id) (fun _ _ => id)
        · cases written with
          | error error => exact ensures_giveUp gets guarded separate back moved _ _
          | ok _ => exact discards.bind fun _ => Work.ensures_pure fun _ => id
        · intro world given
          obtain ⟨earlier, ⟨tracked, _⟩, _, sameFiles, sameTrail⟩ := given
          exact ⟨sameFiles ▸ tracked.now, sameTrail ▸ tracked.before⟩
      · apply Work.ensures_absurd
        intro world given
        obtain ⟨earlier, ⟨_, allWhole⟩, ended, _⟩ := given
        exact whole (allWhole rendering ended)

end Rotated

/-- The end of a build keeps every version. -/
theorem keeps_finishOutput (programs : Programs) {settings : Settings}
    (unformatted : settings.formatter.enabled = false) {path : FilePath}
    (isOutput : path = output ∨ path = other) :
    Work.Keeps (Tracked start output complete needs) (finishOutput programs settings path) := by
  have formats : Work.Keeps (Tracked start output complete needs)
      (settings.formatter.format programs path) := by
    rw [FormatterSettings.format, unformatted]
    exact Work.keeps_pure
  refine formats.bind fun _ => Work.Keeps.mapError ?_
  obtain rfl | rfl := isOutput
  · exact Rotation.keeps_unlock guarded (.inl rfl) false
  · exact (separate.other_beside back).keeps_setWritable guarded false

/-- After the opening of a build an output has its copy, and what is rendered then is the rendering
of the build. -/
theorem ensures_opening {directory : FilePath} {settings : Settings}
    (isPrimary : settings.primaryPath directory = primary)
    (isSecondary : settings.secondaryPath directory = secondary) {tree : FileTree}
    {device : Device}
    (rendered : ∀ rendering, renderingOf directory settings tree device = some rendering →
      complete (text rendering.artifacts).toUTF8)
    (safe : Safe start output complete [] tree) :
    Work.Ensures (fun world => world = { files := tree, device }) (opening directory settings)
      (fun rotation world => (Tracked start output complete [asidePath output] world ∧
        ∀ rendering, (render directory settings world).1 = .ok rendering →
          complete (text rendering.artifacts).toUTF8) ∧
        rotation.moved.Sublist [primary, secondary])
      (fun _ => Tracked start output complete []) := by
  have starts : Work.Ensures (Tracked start output complete [])
      (Rotation.start [primary, secondary])
      (fun _ => Tracked start output complete [asidePath output])
      (fun _ => Tracked start output complete []) := by
    apply Rotation.ensures_start guarded (others_beside gets guarded separate back)
    · cases gets with
      | primary => simpa using separate.different
      | secondary => simpa using back.different
    · cases gets <;> simp
  have moves := (starts.and ((Rotation.moved_of_start [primary, secondary]).weaken
    (fun _ _ => trivial) (fun _ _ => id) (fun _ _ => id))).weaken (fun _ => id) (fun _ _ => id)
    (fun _ _ both => both.1)
  have opens : Work.Ensures (fun world => world = { files := tree, device })
      (opening directory settings)
      (fun rotation world => Tracked start output complete [asidePath output] world ∧
        rotation.moved.Sublist [primary, secondary])
      (fun _ => Tracked start output complete []) := by
    subst isPrimary isSecondary
    refine Work.Ensures.weaken (Work.Ensures.bind (Rotation.ensures_noted _) fun _ =>
      Work.ensures_mapError moves) ?_ (fun _ _ => id) (fun _ _ => id)
    intro world equal
    subst equal
    exact ⟨safe, by simp [World.trail]⟩
  refine opens.exact.weaken (fun _ => id) ?_ (fun _ _ both => both.1)
  intro rotation world given
  obtain ⟨⟨tracked, moved⟩, earlier, rfl, opened⟩ := given
  refine ⟨⟨tracked, ?_⟩, moved⟩
  intro rendering ended
  apply rendered
  rw [renderingOf_of_opening opened, ended]
  rfl

/-- A build without a formatter leaves a version of each output after each of its steps. -/
theorem keeps_run (programs : Programs) {directory : FilePath} {settings : Settings}
    (unformatted : settings.formatter.enabled = false)
    (isPrimary : settings.primaryPath directory = primary)
    (isSecondary : settings.secondaryPath directory = secondary) {tree : FileTree}
    {device : Device}
    (rendered : ∀ rendering, renderingOf directory settings tree device = some rendering →
      complete (text rendering.artifacts).toUTF8)
    (safe : Safe start output complete [] tree) :
    Tracked start output complete []
      (run programs directory settings { files := tree, device }).2 := by
  subst isPrimary isSecondary
  have finishes : ∀ path,
      path = settings.primaryPath directory ∨ path = settings.secondaryPath directory →
      Work.Keeps (Tracked start output complete [])
        (finishOutput programs settings path) := by
    intro path isOutput
    apply keeps_finishOutput gets guarded separate back programs unformatted
    cases gets with
    | primary => exact isOutput
    | secondary => exact isOutput.symm
  have opens := ensures_opening gets guarded separate back rfl rfl rendered safe
  rw [run_eq]
  refine Work.Ensures.last (opens.bind fun rotation => ?_) rfl
  by_cases moved : rotation.moved.Sublist
      [settings.primaryPath directory, settings.secondaryPath directory]
  · refine Work.Ensures.bind ((ensures_regenerate gets guarded separate back moved directory
      settings).weaken (fun _ both => both.1) (fun _ _ => id) (fun _ _ => id)) fun rendering => ?_
    refine Work.Ensures.bind (Rotation.ensures_noted _) fun _ => ?_
    refine Work.Ensures.bind (finishes _ (.inl rfl)) fun _ => ?_
    refine Work.Ensures.bind (finishes _ (.inr rfl)) fun _ => ?_
    exact (Rotation.ensures_noted _).bind fun _ => Work.ensures_pure fun _ => id
  · exact Work.ensures_absurd fun _ both => moved both.2

end Tracked

end Tablewright.Build
