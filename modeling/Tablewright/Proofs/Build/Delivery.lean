import Tablewright.Proofs.Build.Completion
import Tablewright.Proofs.Build.Failure
import Tablewright.Proofs.Build.History

namespace Tablewright.Build

open FileTree (IsProperName Spares MayBeAbove)
open Replacement (temporaryPath?)
open Rotation (asidePath HasFiles IsSlot Outputs Stage)

/-- A successful build leaves both texts locked. The copy of an old output is gone, and the copy of
a new one is as before. No temporary file is left, and all else is as before. Missing directories
above the outputs were made, and such a directory may stand where a temporary file or the copy of a
new output leads. -/
structure Delivered (tree : FileTree) (primary secondary : FilePath) (artifacts : Artifacts)
    (after : FileTree) : Prop where
  texts : after.nodeAt primary = .ok (.file artifacts.primary.toUTF8 false) ∧
    after.nodeAt secondary = .ok (.file artifacts.secondary.toUTF8 false)
  gone : ∀ output ∈ [primary, secondary], tree.leadsToNode output = true → ∀ place,
    after.locate false (asidePath output) = .ok place → after.node? place = none
  older : ∀ output ∈ [primary, secondary], tree.leadsToNode output = false → ∀ place,
    after.locate false (asidePath output) = .ok place →
      Spares tree [primary, secondary] tree after place
  temporaries : ∀ output ∈ [primary, secondary], ∀ temporary,
    temporaryPath? output = some temporary → ∀ place,
      after.locate false temporary = .ok place → after.node? place = none ∨
        after.node? place = some .directory ∧ tree.MayBeAbove [primary, secondary] place
  kept : ∀ location,
    (∀ output ∈ [primary, secondary], ∀ path, WorksAt output path →
      after.locate false path ≠ .ok location) →
    Spares tree [primary, secondary] tree after location

section Delivered

variable {tree opened written discarded after : FileTree} {primary secondary : FilePath}
  {artifacts : Artifacts} {moved : List FilePath}

/-- A place where nothing of a rotation stood is spared until both outputs are written. -/
theorem spares_of_written (stage : Stage tree moved [] opened)
    (writes : Written tree primary secondary artifacts opened written) {location : Location}
    (untouched : ∀ output ∈ moved, ∀ slot, IsSlot output slot →
      tree.locate false slot ≠ .ok location)
    (free : ∀ output ∈ [primary, secondary], written.locate false output ≠ .ok location ∧
      ∀ temporary, temporaryPath? output = some temporary →
        written.locate false temporary ≠ .ok location) :
    Spares tree [primary, secondary] tree written location := by
  have first : opened.node? location = tree.node? location := by
    apply stage.kept
    intro output inside slot isSlot same
    have located := (stage.movable output inside).located slot isSlot
    rw [← same] at located
    rw [List.append_nil] at inside
    exact untouched output inside slot isSlot located
  exact Spares.trans (.inl first) (writes.kept location free)

variable (buildable : Buildable tree primary secondary)
  (among : Outputs tree [primary, secondary])
  (allMoved : moved = [primary, secondary].filter tree.leadsToNode)
  (stage : Stage tree moved [] opened)
include buildable among allMoved stage

theorem growsInto_of_stage : tree.GrowsInto opened := by
  refine (stage.sameWays buildable.formed among ?_).there
  rw [List.append_nil]
  exact fun output inside => List.mem_of_mem_filter (allMoved ▸ inside)

variable (writes : Written tree primary secondary artifacts opened written)
include writes

/-- The copies of the old outputs still stand when both outputs are written. -/
theorem copies_of_written : ∀ output ∈ moved, ∃ place content writable,
    written.locate false (asidePath output) = .ok place ∧
      written.node? place = some (.file content writable) := by
  intro output inside
  have opens := growsInto_of_stage buildable among allMoved stage
  have movable := stage.movable output (List.mem_append_left [] inside)
  have located := writes.grows.locate (opens.locate (movable.located _ (.inr rfl)))
  obtain ⟨content, writable, found⟩ := movable.file
  refine ⟨_, content, writable, located, (writes.kept _ ?_).stays ?_⟩
  · exact buildable.copy_elsewhere (opens.trans writes.grows) located
  · rw [(stage.movedAside output inside).2, found]

variable (discards : Discarded written discarded moved)
  (locks : Locked primary secondary artifacts discarded after)
include discards locks

theorem delivered_of_parts : Delivered tree primary secondary artifacts after := by
  have opens := growsInto_of_stage buildable among allMoved stage
  have grows := opens.trans writes.grows
  have known : ∀ output ∈ moved, output ∈ [primary, secondary] :=
    fun output inside => List.mem_of_mem_filter (allMoved ▸ inside)
  have located_iff : ∀ {path place},
      after.locate false path = .ok place ↔ written.locate false path = .ok place := by
    intro path place
    rw [locks.same.locate_iff, discards.same.locate_iff]
  have unlocked : ∀ {location}, lastLetter location ≠ some 's' →
      after.node? location = discarded.node? location := by
    intro location letter
    apply locks.kept
    intro output isOutput located
    rw [discards.same.locate_iff] at located
    exact letter (buildable.located grows isOutput located).2.2
  have undiscarded : ∀ {location}, lastLetter location ≠ some 'v' →
      discarded.node? location = written.node? location := by
    intro location letter
    apply discards.kept
    exact fun output _ located => letter (lastLetter_copy located)
  refine ⟨⟨locks.texts .primary, locks.texts .secondary⟩, ?_, ?_, ?_, ?_⟩
  · intro output isOutput stands place located
    have letter := lastLetter_copy located
    rw [unlocked (by simp [letter])]
    exact discards.gone output (allMoved ▸ List.mem_filter.mpr ⟨isOutput, stands⟩) place
      (located_iff.mp located)
  · intro output isOutput absent place located
    have letter := lastLetter_copy located
    rw [located_iff] at located
    have notMoved : ∀ other ∈ moved, output ≠ other := by
      intro other inside equal
      subst equal
      rw [allMoved, List.mem_filter, absent] at inside
      cases inside.2
    have otherCopies : ∀ other ∈ moved, written.locate false (asidePath other) ≠ .ok place :=
      fun other inside =>
        buildable.copies_differ grows isOutput (known other inside) (notMoved other inside) located
    have elsewhere := buildable.copy_elsewhere grows located
    have before : Spares tree [primary, secondary] tree written place := by
      apply spares_of_written stage writes ?_ elsewhere
      intro other inside slot isSlot reached
      have reached := grows.locate reached
      obtain rfl | rfl := isSlot
      · exact (elsewhere slot (known slot inside)).1 reached
      · exact otherCopies other inside reached
    refine before.trans (.inl ?_)
    rw [unlocked (by simp [letter]), discards.kept place otherCopies]
  · intro output isOutput temporary found place located
    have letter := lastLetter_temporary found located
    rw [located_iff] at located
    rw [unlocked (by simp [letter]), undiscarded (by simp [letter])]
    obtain ⟨passed, reached, ended⟩ := writes.temporaries output isOutput temporary found
    obtain rfl := Except.ok.inj (located.symm.trans reached)
    exact ended
  · intro location free
    have away : ∀ output ∈ [primary, secondary], ∀ path, WorksAt output path →
        written.locate false path ≠ .ok location :=
      fun output isOutput path works reached =>
        free output isOutput path works (located_iff.mpr reached)
    have before : Spares tree [primary, secondary] tree written location := by
      apply spares_of_written stage writes
      · exact fun output inside slot isSlot reached =>
          away output (known output inside) slot (.inl isSlot) (grows.locate reached)
      · exact fun output isOutput => ⟨away output isOutput output (.inl (.inl rfl)),
          fun temporary found => away output isOutput temporary (.inr found)⟩
    refine before.trans (.inl ?_)
    rw [locks.kept, discards.kept]
    · exact fun output inside => away output (known output inside) _ (.inl (.inr rfl))
    · intro output isOutput reached
      rw [discards.same.locate_iff] at reached
      exact away output isOutput output (.inl (.inl rfl))
        (buildable.located grows isOutput reached).1

end Delivered

section Success

variable {directory : FilePath} {settings : Settings} {tree : FileTree} {device : Device}
  {rotation : Rotation} {opened : World} {report : BuildReport} {later : World}

theorem ensures_giveUp_fails {α : Type} {before : World → Prop} (rotation : Rotation)
    (event : Event) (error : BuildError) :
    Work.Ensures before (giveUp rotation event error : Work BuildError α) (fun _ _ => False)
      (fun _ _ => True) :=
  Work.ensures_trivial.bind fun _ => Work.ensures_trivial.bind fun _ =>
    Work.ensures_throw fun _ _ => trivial

/-- A build that succeeds was opened and rendered, and its outputs have proper names. -/
theorem of_run_ok {programs : Programs}
    (ran : run programs directory settings { files := tree, device } = (.ok report, later)) :
    ∃ rotation opened rendering,
      opening directory settings { files := tree, device } = (.ok rotation, opened) ∧
        (render directory settings opened).1 = .ok rendering ∧
          ∀ output ∈ [settings.primaryPath directory, settings.secondaryPath directory],
            IsProperName output.last := by
  rw [run_eq, Work.bind_apply] at ran
  generalize opens : opening directory settings { files := tree, device } = ended at ran
  obtain ⟨cause | rotation, opened⟩ := ended
  · cases ran
  have writes : ∀ {before : World → Prop} artifacts, Work.Ensures before
      (write (settings.primaryPath directory) (settings.secondaryPath directory) artifacts)
      (fun _ _ => ∀ output ∈ [settings.primaryPath directory, settings.secondaryPath directory],
        IsProperName output.last) (fun _ _ => True) := by
    intro before artifacts
    refine Replacement.ensures_proper.bind fun _ => Work.Ensures.of_each fun world primary => ?_
    refine Replacement.ensures_proper.weaken (fun _ => id) ?_ (fun _ _ => id)
    intro _ _ secondary output known
    rw [List.mem_pair] at known
    obtain rfl | rfl := known
    · exact primary
    · exact secondary
  have regenerates : Work.Ensures (fun first => first = opened)
      (regenerate rotation directory (settings.primaryPath directory)
        (settings.secondaryPath directory) settings)
      (fun _ _ => ∃ rendering, (render directory settings opened).1 = .ok rendering ∧
        ∀ output ∈ [settings.primaryPath directory, settings.secondaryPath directory],
          IsProperName output.last) (fun _ _ => True) := by
    refine Work.Ensures.bind (Work.ensures_outcome (ensures_render directory settings))
      fun result => ?_
    cases result with
    | error cause =>
        exact (ensures_giveUp_fails _ _ _).weaken (fun _ _ => trivial) (fun _ _ => False.elim)
          fun _ _ => id
    | ok rendering =>
        refine Work.Ensures.of_each ?_
        rintro world ⟨first, rfl, rendered, _⟩
        refine Work.Ensures.bind (Work.ensures_outcome (writes _)) fun written => ?_
        cases written with
        | error cause =>
            exact (ensures_giveUp_fails _ _ _).weaken (fun _ _ => trivial)
              (fun _ _ => False.elim) fun _ _ => id
        | ok _ =>
            refine Work.Ensures.of_each fun world proper => ?_
            exact Work.ensures_trivial.bind fun _ =>
              Work.ensures_pure fun _ _ => ⟨rendering, rendered, proper⟩
  have follows : Work.Ensures (fun first => first = opened)
      (following programs directory settings rotation)
      (fun _ _ => ∃ rendering, (render directory settings opened).1 = .ok rendering ∧
        ∀ output ∈ [settings.primaryPath directory, settings.secondaryPath directory],
          IsProperName output.last) (fun _ _ => True) := by
    refine regenerates.bind fun _ => Work.Ensures.of_each fun world known => ?_
    exact Work.ensures_trivial.weaken (fun _ _ => trivial) (fun _ _ _ => known) fun _ _ => id
  obtain ⟨rendering, rendered, proper⟩ := follows.of_ok rfl ran
  exact ⟨rotation, opened, rendering, rfl, rendered, proper⟩

section Parts

variable {rendering : Rendering}
  (buildable : Buildable tree (settings.primaryPath directory) (settings.secondaryPath directory))
  (among : Outputs tree [settings.primaryPath directory, settings.secondaryPath directory])
  (allMoved : rotation.moved =
    [settings.primaryPath directory, settings.secondaryPath directory].filter tree.leadsToNode)
  (stage : Stage tree rotation.moved [] opened.files)
  (rendered : (render directory settings opened).1 = .ok rendering)
include buildable among allMoved stage rendered

/-- After its rendering a build writes both outputs and discards the copies of the old ones. -/
theorem ensures_regenerated :
    Work.Ensures (fun first => first = opened)
      (regenerate rotation directory (settings.primaryPath directory)
        (settings.secondaryPath directory) settings)
      (fun result world => result = rendering ∧ ∃ written,
        Written tree (settings.primaryPath directory) (settings.secondaryPath directory)
            rendering.artifacts opened.files written ∧
          Discarded written world.files rotation.moved) (fun _ _ => True) := by
  have opens := growsInto_of_stage buildable among allMoved stage
  have formed : opened.files.WellFormed := by
    refine stage.wellFormed buildable.formed among ?_
    rw [List.append_nil]
    exact fun output inside => List.mem_of_mem_filter (allMoved ▸ inside)
  refine Work.Ensures.bind (Work.ensures_outcome (ensures_render directory settings))
    fun result => ?_
  cases result with
  | error cause =>
      exact (ensures_giveUp_fails _ _ _).weaken (fun _ _ => trivial) (fun _ _ => False.elim)
        fun _ _ => id
  | ok found =>
      refine Work.Ensures.of_each ?_
      rintro world ⟨first, rfl, ended, sameFiles, _⟩
      obtain rfl := Except.ok.inj (rendered.symm.trans ended)
      have writes : Work.Ensures (fun first => first = world)
          (write (settings.primaryPath directory) (settings.secondaryPath directory)
            rendering.artifacts) _ _ :=
        (ensures_written buildable opens formed).weaken
          (fun _ same => (congrArg World.files same).trans sameFiles) (fun _ _ => id)
          fun _ _ => id
      refine Work.Ensures.bind (Work.ensures_outcome writes) fun result => ?_
      cases result with
      | error cause =>
          exact (ensures_giveUp_fails _ _ _).weaken (fun _ _ => trivial)
            (fun _ _ => False.elim) fun _ _ => id
      | ok _ =>
          refine Work.Ensures.of_each fun between written => ?_
          have apart : rotation.moved.Pairwise fun one other => ∀ place,
              between.files.locate false (asidePath one) = .ok place →
                between.files.locate false (asidePath other) ≠ .ok place := by
            rw [allMoved]
            refine (among.nodup.filter _).imp_of_mem ?_
            intro one other inside otherInside different place
            exact buildable.copies_differ (opens.trans written.grows)
              (List.mem_of_mem_filter inside) (List.mem_of_mem_filter otherInside) different
          have discards := ensures_discarded written.formed
            (copies_of_written buildable among allMoved stage written) apart
          refine Work.Ensures.bind (Work.ensures_mapError (discards.weaken
            (fun _ same => congrArg World.files same) (fun _ _ => id) fun _ _ => False.elim))
            fun _ => Work.ensures_pure ?_
          exact fun world discarded => ⟨rfl, between.files, written, discarded⟩

/-- A build that succeeds delivers what it rendered and reports its counts. -/
theorem ensures_delivered (programs : Programs)
    (unformatted : settings.formatter.enabled = false) :
    Work.Ensures (fun first => first = opened) (following programs directory settings rotation)
      (fun result world => result = ⟨rendering.tables, rendering.warnings,
          settings.primaryPath directory, settings.secondaryPath directory⟩ ∧
        Delivered tree (settings.primaryPath directory) (settings.secondaryPath directory)
          rendering.artifacts world.files) (fun _ _ => True) := by
  have regrouped : following programs directory settings rotation =
      regenerate rotation directory (settings.primaryPath directory)
          (settings.secondaryPath directory) settings >>= fun rendering => do
        Work.note (writtenEvent (settings.primaryPath directory)
          (settings.secondaryPath directory))
        (do
          finishOutput programs settings (settings.primaryPath directory)
          finishOutput programs settings (settings.secondaryPath directory))
        Work.note (finishedEvent rendering.tables)
        return ⟨rendering.tables, rendering.warnings, settings.primaryPath directory,
          settings.secondaryPath directory⟩ := by
    simp only [following, bind_assoc]
  have opens := growsInto_of_stage buildable among allMoved stage
  rw [regrouped]
  refine (ensures_regenerated buildable among allMoved stage rendered).bind fun result =>
    Work.Ensures.of_each ?_
  rintro world ⟨rfl, written, writes, discards⟩
  have grows := (opens.trans writes.grows).trans discards.same.there
  have texts : ∀ {output other text}, Gets (settings.primaryPath directory)
      (settings.secondaryPath directory) output other text → ∃ place writable,
        world.files.locate true output = .ok place ∧
          world.files.node? place = some (.file (text result.artifacts).toUTF8 writable) := by
    intro output other text gets
    obtain ⟨place, writable, located, found⟩ := writes.texts gets
    refine ⟨place, writable, discards.same.locate_iff.mpr located, ?_⟩
    rw [discards.kept, found]
    intro moved _ copied
    have known : output ∈ [settings.primaryPath directory, settings.secondaryPath directory] := by
      cases gets <;> simp
    have opensThen := opens.trans writes.grows
    exact (buildable.copy_elsewhere opensThen copied output known).1
      (buildable.located opensThen known located).1
  have different : ∀ place, world.files.locate true (settings.primaryPath directory) = .ok place →
      world.files.locate true (settings.secondaryPath directory) ≠ .ok place := by
    intro place located otherLocated
    exact buildable.apart place (buildable.located grows (by simp) located).2.1
      (buildable.located grows (by simp) otherLocated).2.1
  have locks := ensures_locked programs unformatted texts different
  have delivers : Work.Ensures
      (fun last => Locked (settings.primaryPath directory) (settings.secondaryPath directory)
        result.artifacts world.files last.files)
      (Work.note (finishedEvent result.tables) : Work BuildError Unit)
      (fun _ last => Delivered tree (settings.primaryPath directory)
        (settings.secondaryPath directory) result.artifacts last.files) (fun _ _ => True) :=
    Work.ensures_note fun _ locked =>
      delivered_of_parts buildable among allMoved stage writes discards locked
  refine Work.Ensures.bind (Work.ensures_note fun _ same => congrArg World.files same) fun _ =>
    locks.bind fun _ => delivers.bind fun _ => Work.ensures_pure ?_
  exact fun _ delivered => ⟨rfl, delivered⟩

end Parts

/-- A build without a formatter that succeeds emits the tables that it finds after its opening. It
reports how many these are and how many warnings there are, and leaves both texts behind. -/
theorem successful_build_delivers {programs : Programs} (formed : tree.WellFormed)
    (unformatted : settings.formatter.enabled = false)
    (different : settings.primaryPath directory ≠ settings.secondaryPath directory)
    (apart : tree.Apart (settings.primaryPath directory) (settings.secondaryPath directory))
    (plain : ∀ output ∈ [settings.primaryPath directory, settings.secondaryPath directory],
      ∀ path, WorksAt output path → tree.Plain path)
    (ran : run programs directory settings { files := tree, device } = (.ok report, later)) :
    ∃ rotation opened options tables context artifacts,
      opening directory settings { files := tree, device } = (.ok rotation, opened) ∧
        settings.emitOptions = .ok options ∧
          (inspect directory settings opened).1 = .ok (tables, context) ∧
            Emission.emit options context.diagnostics tables = .ok artifacts ∧
              report = ⟨tables.length, context.diagnostics.warnings.length,
                settings.primaryPath directory, settings.secondaryPath directory⟩ ∧
                Delivered tree (settings.primaryPath directory) (settings.secondaryPath directory)
                  artifacts later.files := by
  obtain ⟨rotation, opened, rendering, opens, rendered, proper⟩ := of_run_ok ran
  have described := rendered
  rw [render_result] at described
  obtain ⟨options, tables, artifacts, accepted, found, emitted, rfl⟩ := renderingFrom_ok described
  have buildable : Buildable tree (settings.primaryPath directory)
      (settings.secondaryPath directory) :=
    ⟨formed, different, apart, plain, proper,
      fun output known => last_of_accepted accepted known (proper output known)⟩
  have slotProper : ∀ output ∈ [settings.primaryPath directory, settings.secondaryPath directory],
      ∀ slot, IsSlot output slot → IsProperName slot.last := by
    rintro output known slot (rfl | rfl)
    · exact proper slot known
    · exact Rotation.asidePath_proper output
  have among : Outputs tree
      [settings.primaryPath directory, settings.secondaryPath directory] := by
    refine outputs_of_accepted formed accepted (by simpa using different) ?_ ?_
    · intro output known slot isSlot place located
      exact plain output known slot (.inl isSlot) place
        (FileTree.mayLead_of_proper (.refl tree) (slotProper output known slot isSlot) located)
    · intro place located otherLocated
      exact apart place (FileTree.mayLead_of_proper (.refl tree) (proper _ (by simp)) located)
        (FileTree.mayLead_of_proper (.refl tree) (proper _ (by simp)) otherLocated)
  obtain ⟨allMoved, stage⟩ := stage_of_opening formed among opens
  rw [run_eq, Work.bind_apply, opens] at ran
  obtain ⟨reports, delivered⟩ :=
    (ensures_delivered buildable among allMoved stage rendered programs unformatted).of_ok rfl ran
  refine ⟨rotation, opened, options, tables, _, artifacts, opens, accepted, ?_, emitted, reports,
    delivered⟩
  rw [inspect_result]
  dsimp only
  rw [found]
  rfl

end Success

/-- In this tree an old output, its older copy and a temporary file are left from earlier builds,
and a copy without its output. -/
def leftoverTree : FileTree :=
  ((staleTree.put ["d", "table.rs.prev"] (.file "older".toUTF8 true)).put
    ["d", "table.rs.tmp"] (.file "half".toUTF8 true)).put
      ["d", "table_after_load.rs.prev"] (.file "orphan".toUTF8 true)

theorem leftoverTree_wellFormed : leftoverTree.WellFormed := by
  apply FileTree.wellFormed_of_nodes
  intro entry inside
  obtain rfl | rfl | rfl | rfl | rfl :
      entry = (["d", "table_after_load.rs.prev"], .file "orphan".toUTF8 true) ∨
        entry = (["d", "table.rs.tmp"], .file "half".toUTF8 true) ∨
        entry = (["d", "table.rs.prev"], .file "older".toUTF8 true) ∨
        entry = (["d", "table.rs"], .file "old".toUTF8 false) ∨
        entry = (["d"], .directory) := by
    simpa [leftoverTree, staleTree, FileTree.put, FileTree.empty] using inside
  all_goals rfl

/-- The build is delivered over all that was left. -/
theorem successful_build_delivers_over_leftovers :
    let primary := plainSettings.primaryPath (.ofText ".")
    let secondary := plainSettings.secondaryPath (.ofText ".")
    leftoverTree.WellFormed ∧ primary ≠ secondary ∧ leftoverTree.Apart primary secondary ∧
      (∀ output ∈ [primary, secondary], ∀ path, WorksAt output path → leftoverTree.Plain path) ∧
      ∃ later artifacts, run Programs.bare (.ofText ".") plainSettings { files := leftoverTree } =
          (.ok ⟨0, 0, primary, secondary⟩, later) ∧
        Delivered leftoverTree primary secondary artifacts later.files := by
  intro primary secondary
  have seat : ∀ name, leftoverTree.Seat ⟨["."], name⟩ ["d"] := fun _ => ⟨rfl, rfl⟩
  have separate : Rotation.Separate leftoverTree primary secondary := by
    apply Rotation.separate_of_seats (seat _) (seat _) <;> decide +kernel
  have back : Rotation.Separate leftoverTree secondary primary := by
    apply Rotation.separate_of_seats (seat _) (seat _) <;> decide +kernel
  have plain : ∀ output ∈ [primary, secondary], ∀ path, WorksAt output path →
      leftoverTree.Plain path := by
    intro output known path works
    rw [List.mem_pair] at known
    obtain rfl | rfl := known
    · exact works.elim (separate.plain path) (separate.temporaryPlain path)
    · exact works.elim (back.plain path) (back.temporaryPlain path)
  have succeeded : (run Programs.bare (.ofText ".") plainSettings { files := leftoverTree }).1 =
      .ok ⟨0, 0, plainSettings.primaryPath (.ofText "."),
        plainSettings.secondaryPath (.ofText ".")⟩ := by decide +kernel
  obtain ⟨later, ran⟩ : ∃ later, run Programs.bare (.ofText ".") plainSettings
      { files := leftoverTree } = (.ok ⟨0, 0, primary, secondary⟩, later) :=
    ⟨_, Work.eq_of_ok succeeded⟩
  obtain ⟨_, _, _, _, _, artifacts, _, _, _, _, _, delivered⟩ := successful_build_delivers
    leftoverTree_wellFormed rfl separate.different separate.apart plain ran
  exact ⟨leftoverTree_wellFormed, separate.different, separate.apart, plain, later, artifacts, ran,
    delivered⟩

/-- These settings have one output in a folder that has the name of the temporary file of the
other. -/
def nestedTemporarySettings : Settings :=
  { plainSettings with secondaryOutput := "table.rs.tmp/x.rs" }

/-- This function is the end of a build with these settings in an empty directory. -/
def nestedTemporaryEnd : Except BuildError BuildReport × World :=
  run Programs.bare (.ofText ".") nestedTemporarySettings { files := .empty ["d"] }

/-- At the start nothing stands where the build works, and the outputs are different. But a
directory is left where the temporary file of the first output was. -/
theorem folder_left_at_temporary :
    let outputs := [nestedTemporarySettings.primaryPath (.ofText "."),
      nestedTemporarySettings.secondaryPath (.ofText ".")]
    (∀ output ∈ outputs, ∀ path ∈ [output, asidePath output] ++ (temporaryPath? output).toList,
        (FileTree.empty ["d"]).leadsToNode path = false) ∧
      (outputs.map nestedTemporaryEnd.2.files.placeOf).Nodup ∧
      nestedTemporaryEnd.1.toBool = true ∧
      ∃ output ∈ outputs, ∃ temporary ∈ temporaryPath? output,
        nestedTemporaryEnd.2.files.leadsToDirectory temporary = true := by
  intro outputs
  refine ⟨?_, ?_, ?_, ?_⟩
  all_goals decide +kernel

end Tablewright.Build
