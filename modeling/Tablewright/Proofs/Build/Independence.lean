import Tablewright.Proofs.Build.History
import Tablewright.Proofs.Build.Failure
import Tablewright.Proofs.Build.Rendering
import Tablewright.Proofs.Introspection.Sameness

namespace Tablewright

open FileTree (Genuine SameWays SameDeclared)

namespace Rotation

/-- This function lists the places of some outputs and of their copies. -/
def slotPlaces (tree : FileTree) (outputs : List FilePath) : List Location :=
  (outputs ++ outputs.map asidePath).map tree.placeOf

/-- This function is the tree in which some outputs and their copies are deleted. -/
def without (tree : FileTree) (outputs : List FilePath) : FileTree :=
  { tree with
    nodes := tree.nodes.filter fun entry => decide (entry.1 ∉ slotPlaces tree outputs) }

/-- One of some outputs or of their copies leads to a location. -/
def Takes (tree : FileTree) (outputs : List FilePath) (location : Location) : Prop :=
  ∃ output ∈ outputs, ∃ slot, IsSlot output slot ∧ tree.locate false slot = .ok location

/-- The copy of one of some outputs leads to a location. -/
def TakesCopy (tree : FileTree) (outputs : List FilePath) (location : Location) : Prop :=
  ∃ output ∈ outputs, tree.locate false (asidePath output) = .ok location

/-- Two trees agree beside some outputs when they differ at most in files that stand where the
outputs and their copies lead. -/
structure AgreeBeside (outputs : List FilePath) (tree other : FileTree) : Prop where
  here : other.here = tree.here
  nodes : ∀ location, other.node? location = tree.node? location ∨
    Takes tree outputs location ∧ Node.IsFileOrNothing (other.node? location)

section Without

variable {tree : FileTree} {outputs : List FilePath} {location : Location}

theorem node?_without_kept (free : ¬ Takes tree outputs location) :
    (without tree outputs).node? location = tree.node? location := by
  by_cases root : location = []
  · subst root
    rfl
  · rw [FileTree.node?_of_ne_root _ root, FileTree.node?_of_ne_root _ root, without,
      lookup_filter_key tree.nodes fun key => decide (key ∉ slotPlaces tree outputs)]
    have outside : location ∉ slotPlaces tree outputs := by
      intro inside
      obtain ⟨slot, isSlot, same⟩ := List.mem_map.mp inside
      -- A path that leads nowhere has the root as its place.
      cases located : tree.locate false slot with
      | error cause =>
          rw [FileTree.placeOf, located] at same
          exact root same.symm
      | ok place =>
          rw [FileTree.placeOf_eq located] at same
          subst same
          rw [List.mem_append, List.mem_map] at isSlot
          obtain known | ⟨output, known, rfl⟩ := isSlot
          · exact free ⟨slot, known, slot, .inl rfl, located⟩
          · exact free ⟨output, known, _, .inr rfl, located⟩
    simp [outside]

theorem node?_without_taken (taken : Takes tree outputs location) (below : location ≠ []) :
    (without tree outputs).node? location = none := by
  obtain ⟨output, known, slot, isSlot, located⟩ := taken
  rw [FileTree.node?_of_ne_root _ below, without,
    lookup_filter_key tree.nodes fun key => decide (key ∉ slotPlaces tree outputs)]
  have inside : location ∈ slotPlaces tree outputs := by
    refine List.mem_map.mpr ⟨slot, ?_, FileTree.placeOf_eq located⟩
    obtain rfl | rfl := isSlot
    · exact List.mem_append_left _ known
    · exact List.mem_append_right _ (List.mem_map_of_mem known)
  simp [inside]

section Regular

variable (regular : ∀ output ∈ outputs, ∀ slot, IsSlot output slot → tree.Regular slot)
include regular

theorem Takes.plain (taken : Takes tree outputs location) :
    Node.IsFileOrNothing (tree.node? location) := by
  obtain ⟨output, known, slot, isSlot, located⟩ := taken
  exact regular output known slot isSlot location located

theorem Takes.gone (taken : Takes tree outputs location) :
    (without tree outputs).node? location = none := by
  refine node?_without_taken taken ?_
  intro root
  have plain := taken.plain regular
  rw [root] at plain
  exact plain

theorem AgreeBeside.sameWays {other : FileTree} (agree : AgreeBeside outputs tree other) :
    tree.SameWays other :=
  SameWays.of_files agree.here fun location =>
    (agree.nodes location).imp_right fun both => ⟨both.1.plain regular, both.2⟩

theorem agreeBeside_without : AgreeBeside outputs tree (without tree outputs) := by
  refine ⟨rfl, fun location => ?_⟩
  by_cases taken : Takes tree outputs location
  · rw [taken.gone regular]
    exact .inr ⟨taken, trivial⟩
  · exact .inl (node?_without_kept taken)

/-- A genuine tree stays genuine without its outputs, for they are no directories. -/
theorem genuine_without (genuine : tree.Genuine) : (without tree outputs).Genuine := by
  have standing : ∀ place, ((without tree outputs).node? place).isSome →
      (tree.node? place).isSome := by
    intro place present
    by_cases taken : Takes tree outputs place
    · rw [taken.gone regular] at present
      cases present
    · rwa [← node?_without_kept taken]
  refine ⟨?_, genuine.distinct.filter _, ?_⟩
  · intro place name present
    exact ((agreeBeside_without regular).sameWays regular).there.directories place
      (genuine.formed place name (standing _ present))
  · exact fun place name present => genuine.named place name (standing _ present)

section Agreement

variable {other : FileTree} (agree : AgreeBeside outputs tree other)
include agree

theorem AgreeBeside.takes_iff : Takes other outputs location ↔ Takes tree outputs location := by
  unfold Takes
  simp only [(agree.sameWays regular).locate_iff]

theorem AgreeBeside.regular_slot {output slot : FilePath} (known : output ∈ outputs)
    (isSlot : IsSlot output slot) : other.Regular slot := by
  intro place located
  rw [(agree.sameWays regular).locate_iff] at located
  obtain same | ⟨_, plain⟩ := agree.nodes place
  · rw [same]
    exact regular output known slot isSlot place located
  · exact plain

/-- Trees that agree beside some outputs are the same without them. -/
theorem AgreeBeside.node?_without :
    (without other outputs).node? location = (without tree outputs).node? location := by
  by_cases taken : Takes tree outputs location
  · rw [taken.gone regular, ((agree.takes_iff regular).mpr taken).gone]
    exact fun output known slot isSlot => agree.regular_slot regular known isSlot
  · have free : ¬ Takes other outputs location := fun other =>
      taken ((agree.takes_iff regular).mp other)
    rw [node?_without_kept taken, node?_without_kept free]
    exact (agree.nodes location).resolve_right fun both => taken both.1

end Agreement

end Regular

/-- While outputs are moved aside only a file where a copy leads tells a tree from the tree without
the outputs. -/
theorem Stage.node?_without {files : FileTree} {moved : List FilePath}
    (among : Outputs tree outputs) (formed : tree.WellFormed)
    (allMoved : moved = outputs.filter tree.leadsToNode) (stage : Stage tree moved [] files)
    (location : Location) : files.node? location = (without tree outputs).node? location ∨
      TakesCopy tree outputs location ∧ Node.IsFileOrNothing (files.node? location) := by
  have known : ∀ output ∈ moved ++ [], output ∈ outputs := by
    rw [List.append_nil, allMoved]
    exact fun output inside => (List.mem_filter.mp inside).1
  have located := fun output inside => (stage.movable output inside).located
  by_cases copy : TakesCopy tree outputs location
  · right
    refine ⟨copy, ?_⟩
    by_cases touched : ∃ output ∈ moved ++ [], ∃ slot, IsSlot output slot ∧
        location = tree.placeOf slot
    · obtain ⟨output, inside, slot, isSlot, rfl⟩ := touched
      exact stage.slot formed among inside (known output inside) isSlot
    · rw [stage.kept location fun output inside slot isSlot same =>
        touched ⟨output, inside, slot, isSlot, same⟩]
      obtain ⟨output, inside, reaches⟩ := copy
      exact among.regular output inside _ (.inr rfl) location reaches
  · left
    by_cases taken : Takes tree outputs location
    · rw [taken.gone among.regular]
      obtain ⟨output, inside, slot, rfl | rfl, reaches⟩ := taken
      · by_cases stands : tree.leadsToNode slot
        · rw [← FileTree.placeOf_eq reaches]
          exact (stage.movedAside slot (allMoved ▸ List.mem_filter.mpr ⟨inside, stands⟩)).1
        · -- The output is absent, and no other output was moved to or from its place.
          have absent : tree.node? location = none := by
            cases found : tree.node? location with
            | none => rfl
            | some node =>
                have plain := among.regular slot inside slot (.inl rfl) location reaches
                rw [found] at plain
                obtain ⟨content, writable, rfl⟩ := plain.file
                exact absurd ((among.regular slot inside slot (.inl rfl)).leadsToNode_iff.mpr
                  ⟨location, content, writable, reaches, found⟩) stands
          rw [stage.kept, absent]
          intro other otherInside otherSlot isOther same
          have reached := located other otherInside otherSlot isOther
          rw [← same] at reached
          have different : slot ≠ other := by
            intro equal
            subst equal
            rw [List.append_nil, allMoved] at otherInside
            exact stands (List.mem_filter.mp otherInside).2
          obtain rfl | rfl := isOther
          · exact among.different slot inside otherSlot (known otherSlot otherInside) different
              location reaches reached
          · exact among.notCopy slot inside other (known other otherInside) different location
              reaches reached
      · exact absurd ⟨output, inside, reaches⟩ copy
    · rw [node?_without_kept taken, stage.kept]
      intro output inside slot isSlot same
      refine taken ⟨output, known output inside, slot, isSlot, ?_⟩
      rw [same]
      exact located output inside slot isSlot

/-- A tree with outputs moved aside declares the same as the tree without them, for no copy has the
name of a declaration file. -/
theorem Stage.sameDeclared {files : FileTree} {moved : List FilePath}
    (among : Outputs tree outputs) (formed : tree.WellFormed)
    (allMoved : moved = outputs.filter tree.leadsToNode) (stage : Stage tree moved [] files)
    (lead : String) : (without tree outputs).SameDeclared lead files := by
  refine ⟨stage.here, fun location => ?_⟩
  refine (stage.node?_without among formed allMoved location).imp_right ?_
  rintro ⟨⟨output, inside, reaches⟩, plain⟩
  refine ⟨?_, plain, ?_⟩
  · rw [Takes.gone among.regular ⟨output, inside, _, .inr rfl, reaches⟩]
    trivial
  · intro place name same
    obtain ⟨_, folder, _, equal⟩ :=
      (among.regular output inside _ (.inr rfl)).seat formed reaches
    rw [(List.append_singleton_inj.mp (same.symm.trans equal)).2, asidePath_last]
    exact Discovery.isDeclarationName_aside lead output.last

/-- No step of a rotation lists a location twice. -/
theorem keeps_distinct_start (outputs : List FilePath) :
    Work.Keeps (fun world => world.files.Distinct) (start outputs) := by
  have performs : ∀ change, Work.Keeps (fun world => world.files.Distinct)
      (Work.perform change) := fun change =>
    Work.ensures_perform (fun _ _ distinct applied => distinct.apply applied)
      fun _ _ distinct _ => distinct
  have deletes : ∀ path, Work.Keeps (fun world => world.files.Distinct) (delete path) :=
    fun path => (performs _).bind fun _ => performs _
  have moves : ∀ output, Work.Keeps (fun world => world.files.Distinct) (moveAside output) := by
    intro output
    refine Work.Keeps.bind (Work.keeps_files.bind fun files => ?_) fun _ =>
      (performs _).bind fun _ => Work.ensures_note fun _ => id
    split
    · exact deletes _
    · exact Work.keeps_pure
  induction outputs with
  | nil => exact Work.keeps_pure
  | cons output rest hypothesis =>
      rw [start]
      refine Work.keeps_files.bind fun files => ?_
      split
      · exact (moves output).bind fun _ => hypothesis.bind fun _ => Work.keeps_pure
      · exact hypothesis

end Without

end Rotation

namespace Build

open Rotation (asidePath IsSlot Outputs Stage AgreeBeside TakesCopy without)

section Independence

variable {tree : FileTree} {directory : FilePath} {settings : Settings} {outputs : List FilePath}

/-- Trees that agree beside their outputs and on the way to a directory are introspected alike
without the outputs. -/
theorem introspection_without_congr {other : FileTree} {options : IntrospectionOptions}
    (regular : ∀ output ∈ outputs, ∀ slot, IsSlot output slot → tree.Regular slot)
    (genuine : tree.Genuine) (otherGenuine : other.Genuine)
    (agree : AgreeBeside outputs tree other) :
    introspection (without other outputs) directory options =
      introspection (without tree outputs) directory options := by
  have nodes : ∀ location, (without other outputs).node? location =
      (without tree outputs).node? location := fun _ => agree.node?_without regular
  have same : (without tree outputs).SameDeclared options.lead (without other outputs) :=
    ⟨agree.here, fun location => .inl (nodes location)⟩
  exact same.introspection (Rotation.genuine_without regular genuine)
    (otherGenuine.distinct.filter _) fun location _ => nodes location

section Opened

variable (genuine : tree.Genuine)
  (among : Outputs tree [settings.primaryPath directory, settings.secondaryPath directory])
  (offWay : ∀ output ∈ [settings.primaryPath directory, settings.secondaryPath directory],
    ∀ place, tree.locate false (asidePath output) = .ok place → place ∉ tree.wayOf directory)
  {device : Device} {rotation : Rotation} {world : World}
  (opened : opening directory settings { files := tree, device } = (.ok rotation, world))
include genuine among offWay opened

/-- After its opening a build finds the declarations that are there without the outputs. -/
theorem introspection_of_opening (options : IntrospectionOptions) :
    introspection world.files directory options = introspection
      (without tree [settings.primaryPath directory, settings.secondaryPath directory]) directory
      options := by
  obtain ⟨allMoved, stage⟩ := stage_of_opening genuine.formed among opened
  have distinct : world.files.Distinct := by
    have opens : Work.Keeps (fun world => world.files.Distinct) (opening directory settings) :=
      Work.Keeps.bind (Work.ensures_note fun _ => id) fun _ =>
        (Rotation.keeps_distinct_start _).mapError
    have kept : (opening directory settings { files := tree, device }).2.files.Distinct :=
      opens.last genuine.distinct
    rwa [opened] at kept
  have same := stage.sameDeclared among genuine.formed allMoved options.lead
  refine same.introspection (Rotation.genuine_without among.regular genuine) distinct ?_
  intro location onWay
  rw [((Rotation.agreeBeside_without among.regular).sameWays among.regular).wayOf] at onWay
  refine (stage.node?_without among genuine.formed allMoved location).resolve_right ?_
  rintro ⟨⟨output, inside, reaches⟩, _⟩
  exact offWay output inside location reaches onWay

theorem render_of_opening : (render directory settings world).1 = (render directory settings
    { files := without tree
        [settings.primaryPath directory, settings.secondaryPath directory] }).1 := by
  rw [render_result, render_result, introspection_of_opening genuine among offWay opened]

end Opened

end Independence

/-- This error is not about the emission of tables. -/
def IsLater (error : BuildError) : Prop :=
  ∀ cause, error ≠ .emission cause

section Later

variable {α ε : Type} {before : World → Prop}

theorem ensures_noted {ε : Type} {failed : ε → World → Prop} (event : Event) :
    Work.Ensures before (Work.note event) (fun _ _ => True) failed :=
  Work.ensures_note fun _ _ => trivial

theorem ensures_later_mapError {work : Work ε α} {cause : ε → BuildError}
    (later : ∀ reason, IsLater (cause reason)) :
    Work.Ensures before (Work.mapError cause work) (fun _ _ => True)
      (fun error _ => IsLater error) :=
  Work.ensures_mapError (Work.ensures_trivial.weaken (fun _ => id) (fun _ _ => id)
    fun reason _ _ => later reason)

theorem ensures_later_write (primary secondary : FilePath) (artifacts : Artifacts) :
    Work.Ensures before (write primary secondary artifacts) (fun _ _ => True)
      (fun error _ => IsLater error) := by
  have replaces : ∀ {before : World → Prop} path content, Work.Ensures before
      (Replacement.replace path content) (fun _ _ => True) (fun error _ => IsLater error) := by
    intro before path content
    refine (ensures_later_mapError nofun).bind fun _ => ?_
    split
    · exact Work.ensures_throw fun _ _ => nofun
    · exact ensures_later_mapError nofun
  exact (replaces _ _).bind fun _ => replaces _ _

theorem ensures_later_finishOutput (programs : Programs) (settings : Settings) (path : FilePath) :
    Work.Ensures before (finishOutput programs settings path) (fun _ _ => True)
      (fun error _ => IsLater error) := by
  have formats : Work.Ensures before (settings.formatter.format programs path) (fun _ _ => True)
      (fun error _ => IsLater error) := by
    rw [FormatterSettings.format]
    split
    · refine (ensures_later_mapError fun _ _ same => by cases same).bind fun ended => ?_
      split
      · exact ensures_noted _
      · exact (ensures_noted _).bind fun _ => Work.ensures_throw fun _ _ _ same => by cases same
    · exact Work.ensures_pure fun _ _ => trivial
  exact formats.bind fun _ => ensures_later_mapError fun _ _ same => by cases same

end Later

section Aborted

variable {tree : FileTree} {directory : FilePath} {settings : Settings} {device : Device}
  {rotation : Rotation} {world : World}

/-- A build whose rendering succeeds does not fail for the emission. -/
theorem later_of_rendered {rendering : Rendering}
    (opened : opening directory settings { files := tree, device } = (.ok rotation, world))
    (rendered : (render directory settings world).1 = .ok rendering) (programs : Programs)
    {error : BuildError}
    (failed : (run programs directory settings { files := tree, device }).1 = .error error) :
    IsLater error := by
  have regenerates : Work.Ensures (fun first => first = world)
      (regenerate rotation directory (settings.primaryPath directory)
        (settings.secondaryPath directory) settings) (fun _ _ => True)
      (fun error _ => IsLater error) := by
    refine Work.Ensures.bind (Work.ensures_outcome (ensures_render directory settings))
      fun result => ?_
    cases result with
    | error cause =>
        apply Work.ensures_absurd
        rintro later ⟨first, rfl, ended, _⟩
        cases rendered.symm.trans ended
    | ok found =>
        refine Work.Ensures.bind (Work.ensures_outcome (ensures_later_write _ _ _))
          fun written => ?_
        cases written with
        | error cause =>
            refine Work.Ensures.of_each fun later isLater => ?_
            refine (ensures_noted _).bind fun _ => (ensures_later_mapError nofun).bind fun _ => ?_
            exact Work.ensures_throw fun _ _ => isLater
        | ok _ =>
            exact (ensures_later_mapError nofun).bind fun _ =>
              Work.ensures_pure fun _ _ => trivial
  have follows : Work.Ensures (fun first => first = world)
      (following programs directory settings rotation) (fun _ _ => True)
      (fun error _ => IsLater error) := by
    refine regenerates.bind fun _ => (ensures_noted _).bind fun _ => ?_
    refine (ensures_later_finishOutput _ _ _).bind fun _ => ?_
    refine (ensures_later_finishOutput _ _ _).bind fun _ => ?_
    exact (ensures_noted _).bind fun _ => Work.ensures_pure fun _ => id
  rw [run_eq, Work.bind_apply, opened] at failed
  exact follows.of_error rfl failed

/-- A build is aborted if and only if an inspection without the outputs finds errors. -/
theorem aborted_iff_inspect {options : EmitOptions} (genuine : tree.Genuine)
    (accepted : settings.emitOptions = .ok options)
    (among : Outputs tree [settings.primaryPath directory, settings.secondaryPath directory])
    (offWay : ∀ output ∈ [settings.primaryPath directory, settings.secondaryPath directory],
      ∀ place, tree.locate false (asidePath output) = .ok place → place ∉ tree.wayOf directory)
    (opened : opening directory settings { files := tree, device } = (.ok rotation, world))
    (programs : Programs) (count : Nat) :
    let outputs := [settings.primaryPath directory, settings.secondaryPath directory]
    (run programs directory settings { files := tree, device }).1 = .error (.emission (.aborted count)) ↔
      ∃ tables context,
        (inspect directory settings { files := without tree outputs }).1 =
            .ok (tables, context) ∧
          context.diagnostics.errors.length = count ∧ 0 < count := by
  dsimp only
  have rendered := render_of_opening genuine among offWay opened
  have aborts : (run programs directory settings { files := tree, device }).1 =
        .error (.emission (.aborted count)) ↔
      (render directory settings world).1 = .error (.emission (.aborted count)) := by
    cases ended : (render directory settings world).1 with
    | error cause =>
        obtain ⟨later, failed, _⟩ :=
          stage_of_failed_rendering genuine.formed among opened ended programs
        rw [failed]
        simp
    | ok rendering =>
        constructor
        · intro failed
          exact absurd rfl (later_of_rendered opened ended programs failed _)
        · exact fun aborted => by cases aborted
  rw [aborts, rendered, render_result, renderingFrom_aborted_iff accepted, inspect_result]
  dsimp only
  constructor
  · rintro ⟨tables, found, counted⟩
    rw [found]
    exact ⟨tables, _, rfl, counted⟩
  · rintro ⟨tables, context, inspected, counted⟩
    generalize introspection _ directory settings.introspectionOptions = found at inspected ⊢
    obtain ⟨outcome, described⟩ := found
    cases outcome with
    | error cause => cases inspected
    | ok listed =>
        obtain ⟨rfl, rfl⟩ := Prod.mk.inj (Except.ok.inj inspected)
        exact ⟨listed, rfl, counted⟩

end Aborted

/-- After the opening of a build its rendering is the one without the outputs of earlier builds and
without their copies. So it is the same for all trees that agree beside them, and the build is
aborted if and only if an inspection without them finds errors. -/
theorem rendering_ignores_outputs {tree : FileTree} {directory : FilePath} {settings : Settings}
    {options : EmitOptions} (genuine : tree.Genuine)
    (accepted : settings.emitOptions = .ok options)
    (nodup : [settings.primaryPath directory, settings.secondaryPath directory].Nodup)
    (regular : ∀ output ∈ [settings.primaryPath directory, settings.secondaryPath directory],
      ∀ slot, IsSlot output slot → tree.Regular slot)
    (different : ∀ place, tree.locate false (settings.primaryPath directory) = .ok place →
      tree.locate false (settings.secondaryPath directory) ≠ .ok place)
    (offWay : ∀ output ∈ [settings.primaryPath directory, settings.secondaryPath directory],
      ∀ place, tree.locate false (asidePath output) = .ok place → place ∉ tree.wayOf directory)
    {device : Device} {rotation : Rotation} {world : World}
    (opened : opening directory settings { files := tree, device } = (.ok rotation, world)) :
    let outputs := [settings.primaryPath directory, settings.secondaryPath directory]
    (render directory settings world).1 =
        (render directory settings { files := without tree outputs }).1 ∧
      (∀ other, other.Genuine → AgreeBeside outputs tree other →
        ∀ otherDevice otherRotation otherWorld,
          opening directory settings { files := other, device := otherDevice } =
              (.ok otherRotation, otherWorld) →
            (render directory settings otherWorld).1 = (render directory settings world).1) ∧
      ∀ programs count, (run programs directory settings { files := tree, device }).1 =
          .error (.emission (.aborted count)) ↔
        ∃ tables context,
          (inspect directory settings { files := without tree outputs }).1 =
              .ok (tables, context) ∧
            context.diagnostics.errors.length = count ∧ 0 < count := by
  intro outputs
  have among := outputs_of_accepted genuine.formed accepted nodup regular different
  refine ⟨render_of_opening genuine among offWay opened, ?_,
    aborted_iff_inspect genuine accepted among offWay opened⟩
  intro other otherGenuine agree otherDevice otherRotation otherWorld otherOpened
  have same := agree.sameWays regular
  have otherAmong : Outputs other outputs := by
    refine outputs_of_accepted otherGenuine.formed accepted nodup
      (fun output known slot isSlot => agree.regular_slot regular known isSlot) ?_
    intro place
    rw [same.locate_iff, Ne, same.locate_iff]
    exact different place
  have otherOffWay : ∀ output ∈ outputs, ∀ place,
      other.locate false (asidePath output) = .ok place → place ∉ other.wayOf directory := by
    intro output known place
    rw [same.locate_iff, same.wayOf]
    exact offWay output known place
  rw [render_of_opening genuine among offWay opened,
    render_of_opening otherGenuine otherAmong otherOffWay otherOpened, render_result,
    render_result, introspection_without_congr regular genuine otherGenuine agree]

/-- Every file of a module has the lead of these settings. -/
def leadlessSettings : Settings :=
  { plainSettings with lead := "" }

theorem staleTree_genuine : staleTree.Genuine := by
  apply FileTree.genuine_of_nodes staleTree_wellFormed <;> decide +kernel

/-- The outputs in the folder of the old one are as a rotation needs them. -/
theorem staleTree_outputs {settings : Settings} {directory : FilePath}
    (primary : settings.primaryPath directory = ⟨["."], "table.rs"⟩)
    (secondary : settings.secondaryPath directory = ⟨["."], "table_after_load.rs"⟩) :
    Outputs staleTree [settings.primaryPath directory, settings.secondaryPath directory] := by
  rw [primary, secondary]
  apply Rotation.outputs_of_folder
  · intro output inside
    obtain rfl | rfl : output = ⟨["."], "table.rs"⟩ ∨
        output = ⟨["."], "table_after_load.rs"⟩ := by simpa using inside
    · exact staleTree_seat _
    · exact staleTree_seat _
  all_goals decide +kernel

/-- The old output has the name of a declaration file, but the rendering is the same as for a tree
without outputs. -/
theorem rendering_ignores_outputs_stale :
    let directory := FilePath.ofText "."
    let settings := leadlessSettings
    let outputs := [settings.primaryPath directory, settings.secondaryPath directory]
    staleTree.Genuine ∧ settings.emitOptions.toBool = true ∧ Outputs staleTree outputs ∧
      (∀ output ∈ outputs, ∀ place, staleTree.locate false (asidePath output) = .ok place →
        place ∉ staleTree.wayOf directory) ∧
      Discovery.isDeclarationName settings.lead "table.rs" = true ∧
      ∃ world fresh, opening directory settings { files := staleTree } =
          (.ok ⟨[settings.primaryPath directory]⟩, world) ∧
        opening directory settings { files := without staleTree outputs } = (.ok ⟨[]⟩, fresh) ∧
        (render directory settings world).1 =
          (render directory settings { files := without staleTree outputs }).1 ∧
        (render directory settings fresh).1 = (render directory settings world).1 := by
  intro directory settings outputs
  have isAccepted : settings.emitOptions.toBool = true := by decide +kernel
  obtain ⟨options, accepted⟩ : ∃ options, settings.emitOptions = .ok options := by
    cases ended : settings.emitOptions with
    | error cause =>
        rw [ended] at isAccepted
        cases isAccepted
    | ok options => exact ⟨options, rfl⟩
  have among : Outputs staleTree outputs :=
    staleTree_outputs (by decide +kernel) (by decide +kernel)
  have away : ∀ output ∈ outputs,
      staleTree.placeOf (asidePath output) ∉ staleTree.wayOf directory := by decide +kernel
  have offWay : ∀ output ∈ outputs, ∀ place,
      staleTree.locate false (asidePath output) = .ok place →
        place ∉ staleTree.wayOf directory := by
    intro output inside place located
    rw [← FileTree.placeOf_eq located]
    exact away output inside
  have moved : (opening directory settings { files := staleTree }).1 =
      .ok ⟨[settings.primaryPath directory]⟩ := by decide +kernel
  have nothing : (opening directory settings { files := without staleTree outputs }).1 =
      .ok ⟨[]⟩ := by decide +kernel
  obtain ⟨world, opened⟩ : ∃ world, opening directory settings { files := staleTree } =
      (.ok ⟨[settings.primaryPath directory]⟩, world) := ⟨_, Work.eq_of_ok moved⟩
  obtain ⟨fresh, freshOpened⟩ : ∃ fresh,
      opening directory settings { files := without staleTree outputs } = (.ok ⟨[]⟩, fresh) :=
    ⟨_, Work.eq_of_ok nothing⟩
  obtain ⟨same, alike, _⟩ := rendering_ignores_outputs staleTree_genuine accepted among.nodup
    among.regular (among.different _ (by decide +kernel) _ (by decide +kernel) (by decide +kernel))
    offWay opened
  exact ⟨staleTree_genuine, isAccepted, among, offWay, by decide +kernel, world, fresh, opened,
    freshOpened, same, alike _ (Rotation.genuine_without among.regular staleTree_genuine)
      (Rotation.agreeBeside_without among.regular) _ _ _ freshOpened⟩

/-- The outputs of these settings stand in the folder where all paths start. -/
def outerSettings : Settings :=
  { plainSettings with outputDirectory := some (.ofText ".") }

/-- An output is moved to the place of the declaration directory. The directory cannot be read then,
for another cause than without the outputs. -/
theorem rendering_reads_copy :
    let directory := FilePath.ofText "table.rs.prev"
    let settings := outerSettings
    let outputs := [settings.primaryPath directory, settings.secondaryPath directory]
    let opened := opening directory settings { files := staleTree }
    staleTree.Genuine ∧ settings.emitOptions.toBool = true ∧ Outputs staleTree outputs ∧
      opened.1 = .ok ⟨[settings.primaryPath directory]⟩ ∧
      (render directory settings opened.2).1 =
        .error (.introspection (.unreadableDirectory directory .notADirectory)) ∧
      (render directory settings { files := without staleTree outputs }).1 =
        .error (.introspection (.unreadableDirectory directory .notFound)) := by
  intro directory settings outputs opened
  have among : Outputs staleTree outputs :=
    staleTree_outputs (by decide +kernel) (by decide +kernel)
  refine ⟨staleTree_genuine, ?_, among, ?_, ?_, ?_⟩
  all_goals decide +kernel

end Build

end Tablewright
