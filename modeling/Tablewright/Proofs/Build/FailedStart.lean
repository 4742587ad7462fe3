import Tablewright.Proofs.Build.Exchange
import Tablewright.Proofs.FileTree.Linkless

namespace Tablewright.Rotation

open FileTree (MadeWay)

/-- An output went aside when its place is free and nothing else changed than what is below the
place of its copy. -/
structure WentAside (before after : FileTree) (output : FilePath) : Prop where
  formed : after.WellFormed
  linkless : after.Linkless
  here : after.here = before.here
  stood : (before.node? (before.spelled output)).isSome
  gone : after.node? (before.spelled output) = none
  vacant : before.node? (before.spelled (asidePath output)) ≠ some .directory
  beside : ¬ before.spelled (asidePath output) <+: before.spelled output
  kept : ∀ location, ¬ before.spelled output <+: location →
    ¬ before.spelled (asidePath output) <+: location →
    after.node? location = before.node? location

/-- A place is lost when on the way to it the place of an output is free, and only directories are
above that one. -/
structure Lost (outputs : List FilePath) (place : Location) (tree : FileTree) : Prop where
  formed : tree.WellFormed
  linkless : tree.Linkless
  missing : ∃ output ∈ outputs, tree.spelled output <+: place ∧
    tree.node? (tree.spelled output) = none ∧
    ∀ higher, higher <+: tree.spelled output → higher ≠ tree.spelled output →
      tree.node? higher = some .directory

section Lost

variable {before after : FileTree} {outputs : List FilePath} {output : FilePath}
  {place copy : Location}

/-- Nothing stands at a lost place. -/
theorem Lost.free (lost : Lost outputs place before) : before.node? place = none := by
  obtain ⟨output, _, above, free, _⟩ := lost.missing
  by_cases same : before.spelled output = place
  · rw [← same, free]
  · exact lost.formed.nothing_below above same (by simp [free])

theorem Lost.madeWay (lost : Lost outputs place before) (way : MadeWay before after copy) :
    Lost outputs place after := by
  obtain ⟨output, inside, above, free, higherStand⟩ := lost.missing
  refine ⟨way.formed, way.linkless lost.linkless, output, inside, ?_⟩
  rw [way.spelled]
  refine ⟨above, ?_, fun higher leads different =>
    way.ways.there.directories higher (higherStand higher leads different)⟩
  by_cases there : before.spelled output = copy
  · rw [there] at free ⊢
    exact way.free free
  · rw [way.kept _ there, free]

/-- The place of an output that went aside is lost, and so are those below it. -/
theorem WentAside.lost (went : WentAside before after output) (formed : before.WellFormed)
    (inside : output ∈ outputs) (above : before.spelled output <+: place) :
    Lost outputs place after := by
  refine ⟨went.formed, went.linkless, output, inside, ?_⟩
  rw [FileTree.spelled_of_here went.here]
  refine ⟨above, went.gone, fun higher leads different => ?_⟩
  rw [went.kept higher, formed.directory_above leads went.stood different]
  · intro under
    exact different (leads.eq_of_length_le under.length_le)
  · intro under
    exact went.beside (under.trans leads)

/-- A lost place stays lost when another output goes aside, for no copy has the place of an
output. -/
theorem Lost.wentAside (lost : Lost outputs place before) (went : WentAside before after output)
    (inside : output ∈ outputs)
    (apart : ∀ one ∈ outputs, before.spelled one ≠ before.spelled (asidePath output)) :
    Lost outputs place after := by
  obtain ⟨top, topInside, above, free, higherStand⟩ := lost.missing
  by_cases under : before.spelled output <+: before.spelled top
  · exact went.lost lost.formed inside (under.trans above)
  · have notCopy : ¬ before.spelled (asidePath output) <+: before.spelled top := by
      intro leads
      exact went.vacant (higherStand _ leads (Ne.symm (apart top topInside)))
    refine ⟨went.formed, went.linkless, top, topInside, ?_⟩
    rw [FileTree.spelled_of_here went.here]
    refine ⟨above, by rw [went.kept _ under notCopy, free], fun higher leads different => ?_⟩
    rw [went.kept higher (fun below => under (below.trans leads))
      (fun below => notCopy (below.trans leads)), higherStand higher leads different]

end Lost

section Single

variable {tree : FileTree} {path output : FilePath} (formed : tree.WellFormed)
  (linkless : tree.Linkless)
include formed linkless

/-- A deletion frees a place, or at most unlocks its file. -/
theorem ensures_deleteWay :
    Work.Ensures (HasFiles tree) (delete path)
      (fun _ world => MadeWay tree world.files (tree.spelled path) ∧
        world.files.node? (tree.spelled path) = none)
      (fun _ world => MadeWay tree world.files (tree.spelled path)) := by
  have unlocks : Work.Ensures (HasFiles tree) (Work.perform (.setWritable path true))
      (fun _ world => MadeWay tree world.files (tree.spelled path))
      (fun _ world => MadeWay tree world.files (tree.spelled path)) := by
    apply Work.ensures_perform
    · intro world after same applied
      subst same
      exact FileTree.madeWay_of_setWritable formed linkless applied
    · intro world cause same _
      subst same
      exact .refl formed
  refine unlocks.bind fun _ => Work.ensures_perform ?_ fun world _ way _ => way
  intro world after way applied
  obtain ⟨removed, gone⟩ :=
    FileTree.madeWay_of_remove way.formed (way.linkless linkless) applied
  rw [way.spelled] at removed gone
  exact ⟨way.trans removed, gone⟩

/-- After a path was cleared nothing stands at its place. -/
theorem ensures_clearWay :
    Work.Ensures (HasFiles tree) (clear path)
      (fun _ world => MadeWay tree world.files (tree.spelled path) ∧
        ∀ place, world.files.locate false path = .ok place → world.files.node? place = none)
      (fun _ world => MadeWay tree world.files (tree.spelled path)) := by
  refine Work.Ensures.with_files fun world same => ?_
  subst same
  split
  · refine (ensures_deleteWay formed linkless).weaken (fun _ => congrArg World.files) ?_
      (fun _ _ => id)
    intro _ later given
    obtain ⟨way, gone⟩ := given
    refine ⟨way, fun place located => ?_⟩
    rw [(way.linkless linkless).locate_eq located, way.spelled, gone]
  · next absent =>
      apply Work.ensures_pure
      intro first same
      subst same
      refine ⟨.refl formed, fun place located => ?_⟩
      have followed := FileTree.locate_stop located (linkless place)
      cases found : first.files.node? place with
      | none => rfl
      | some node =>
          exact absurd (FileTree.leadsToNode_iff.mpr ⟨place, node, followed, found⟩) absent

/-- An output goes aside, or at most an older copy made way for it. -/
theorem ensures_wentAside :
    Work.Ensures (HasFiles tree) (moveAside output)
      (fun _ world => WentAside tree world.files output)
      (fun _ world => MadeWay tree world.files (tree.spelled (asidePath output))) := by
  refine (ensures_clearWay formed linkless).bind fun _ => Work.Ensures.bind
    (?_ : Work.Ensures _ _ (fun _ world => WentAside tree world.files output) _)
    fun _ => Work.ensures_note fun _ => id
  refine Work.ensures_perform ?_ fun _ _ given _ => given.1
  intro world after given applied
  obtain ⟨way, cleared⟩ := given
  have named := FileTree.withoutSlashes_of_last (asidePath_proper output).1
  obtain ⟨start, goal, startLocated, goalLocated, stood, effect⟩ := FileTree.rename_ok applied
  have free := cleared goal (named ▸ goalLocated)
  have different : start ≠ goal := by
    intro same
    rw [same, free] at stood
    cases stood
  obtain ⟨_, same⟩ | ⟨rfl, below, notAbove⟩ := effect
  · exact absurd same different
  have outside := FileTree.rename_outside way.formed applied startLocated goalLocated different
  have inFolder : world.files.node? goal.dropLast = some .directory := by
    obtain standing | parent := way.formed.directory_of_locate goalLocated
    · rw [free] at standing
      cases standing
    · exact parent
  have goalBelow : goal ≠ [] := by
    intro root
    rw [root] at free
    cases free
  have stillLinkless := way.linkless linkless
  have laterLinkless := stillLinkless.apply applied
  have startPlace := stillLinkless.locate_trimmed_eq startLocated
  have goalPlace := stillLinkless.locate_trimmed_eq goalLocated
  rw [way.spelled] at startPlace goalPlace
  rw [startPlace] at stood different outside notAbove below
  rw [goalPlace] at free different outside notAbove goalBelow inFolder
  rw [startPlace, goalPlace] at laterLinkless ⊢
  refine ⟨way.formed.move below goalBelow outside notAbove inFolder, laterLinkless,
    way.ways.there.here, ?_, ?_, ?_, notAbove, ?_⟩
  · rwa [← way.kept _ different]
  · exact world.files.node?_move_source below List.prefix_rfl notAbove
  · intro directory
    rw [way.ways.there.directories _ directory] at free
    cases free
  · intro location notSource notTarget
    rw [world.files.node?_move_other notSource notTarget, way.kept]
    rintro rfl
    exact notTarget List.prefix_rfl

end Single

section Outputs

variable {outputs rest : List FilePath} {first : FilePath} {place here : Location}

/-- The start of a rotation asks for one output at first. -/
theorem start_cons (output : FilePath) (rest : List FilePath) (world : World) :
    start (output :: rest) world =
      if world.files.leadsToNode output = true then
        (do
          moveAside output
          return ⟨output :: (← start rest).moved⟩ : Work FileError Rotation) world
      else start rest world := by
  rw [start, Work.bind_apply]
  change (if _ then _ else _ : Work FileError Rotation) world = _
  split <;> rfl

/-- The start of a rotation passes over outputs that do not exist. -/
theorem start_append {absent : List FilePath} {world : World}
    (none : ∀ output ∈ absent, world.files.leadsToNode output = false) :
    start (absent ++ rest) world = start rest world := by
  induction absent with
  | nil => rfl
  | cons output others hypothesis =>
      rw [List.forall_mem_cons] at none
      rw [List.cons_append, start_cons, if_neg (by simp [none.1]), hypothesis none.2]

/-- The start of a rotation finds no lost output again. -/
theorem keeps_lost (known : ∀ output ∈ rest, output ∈ outputs)
    (apart : ∀ tree : FileTree, tree.here = here → ∀ one ∈ outputs, ∀ other ∈ outputs,
      tree.spelled one ≠ tree.spelled (asidePath other)) :
    Work.Keeps (fun world => world.files.here = here ∧ Lost outputs place world.files)
      (start rest) := by
  induction rest with
  | nil => exact Work.keeps_pure
  | cons output others hypothesis =>
      rw [List.forall_mem_cons] at known
      have later := hypothesis known.2
      have moves : Work.Keeps
          (fun world => world.files.here = here ∧ Lost outputs place world.files)
          (moveAside output) := by
        refine .of_each fun world given => ?_
        obtain ⟨same, lost⟩ := given
        refine (ensures_wentAside lost.formed lost.linkless).weaken (fun _ => congrArg World.files)
          ?_ ?_
        · intro _ after went
          exact ⟨went.here.trans same, lost.wentAside went known.1 fun one inside =>
            apart world.files same one inside output known.1⟩
        · intro _ after way
          exact ⟨way.ways.there.here.trans same, lost.madeWay way⟩
      rw [start]
      refine Work.keeps_files.bind fun tree => ?_
      split
      · exact moves.bind fun _ => later.bind fun _ => Work.keeps_pure
      · exact later

/-- An output that went aside is missing when the start fails at a later one. -/
theorem missing_of_failed_rest {world later after : World} {cause : FileError}
    (formed : world.files.WellFormed) (linkless : world.files.Linkless)
    (known : ∀ output ∈ first :: rest, output ∈ outputs)
    (apart : ∀ tree : FileTree, tree.here = world.files.here → ∀ one ∈ outputs,
      ∀ other ∈ outputs, tree.spelled one ≠ tree.spelled (asidePath other))
    (moved : moveAside first world = (.ok (), later))
    (failed : (do return ⟨first :: (← start rest).moved⟩ : Work FileError Rotation) later =
      (.error cause, after)) :
    after.files.leadsToNode first = false := by
  rw [List.forall_mem_cons] at known
  have went := (ensures_wentAside formed linkless).of_ok rfl moved
  have lost : Lost outputs (world.files.spelled first) later.files :=
    went.lost formed known.1 List.prefix_rfl
  have keeps : Work.Keeps (fun later => later.files.here = world.files.here ∧
      Lost outputs (world.files.spelled first) later.files)
      (do return ⟨first :: (← start rest).moved⟩ : Work FileError Rotation) :=
    (keeps_lost known.2 apart).bind fun _ => Work.keeps_pure
  have ended := keeps.of_error ⟨went.here, lost⟩ (congrArg Prod.fst failed)
  rw [failed] at ended
  rw [Bool.eq_false_iff]
  intro leads
  obtain ⟨place, node, located, there⟩ := FileTree.leadsToNode_iff.mp leads
  rw [ended.2.linkless.locate_eq located, FileTree.spelled_of_here ended.1, ended.2.free] at there
  cases there

/-- When the start of a rotation has failed, the outputs that existed stand as before exactly if
the first of them could not be moved aside. Nothing else then changed than the place of its older
copy. -/
theorem failed_start_intact_iff {world after : World} {cause : FileError}
    (formed : world.files.WellFormed) (linkless : world.files.Linkless)
    (apart : ∀ one ∈ outputs, ∀ other ∈ outputs, one ≠ other →
      world.files.spelled one ≠ world.files.spelled (asidePath other))
    (failed : start outputs world = (.error cause, after)) :
    ((∀ output ∈ outputs, world.files.leadsToNode output = true →
        after.files.nodeAt output = world.files.nodeAt output) ↔
      ∃ first, outputs.find? world.files.leadsToNode = some first ∧
        moveAside first world = (.error cause, after)) ∧
    ∀ first, outputs.find? world.files.leadsToNode = some first →
      moveAside first world = (.error cause, after) →
      ∀ location, location ≠ world.files.spelled (asidePath first) →
        after.files.node? location = world.files.node? location := by
  have apartAll : ∀ tree : FileTree, tree.here = world.files.here → ∀ one ∈ outputs,
      ∀ other ∈ outputs, tree.spelled one ≠ tree.spelled (asidePath other) := by
    intro tree same one inside other otherInside
    rw [FileTree.spelled_of_here same, FileTree.spelled_of_here same]
    by_cases equal : one = other
    · rw [equal]
      exact FileTree.spelled_withEnding_ne (asidePath_proper other) (by decide)
    · exact apart one inside other otherInside equal
  have way : ∀ first, moveAside first world = (.error cause, after) →
      MadeWay world.files after.files (world.files.spelled (asidePath first)) := by
    intro first refused
    have ended := (ensures_wentAside formed linkless).of_error rfl (congrArg Prod.fst refused)
    rwa [refused] at ended
  refine ⟨⟨fun intact => ?_, ?_⟩, fun first _ refused => (way first refused).kept⟩
  · cases found : outputs.find? world.files.leadsToNode with
    | none =>
        have absent : ∀ output ∈ outputs, world.files.leadsToNode output = false := by
          simpa using found
        rw [← List.append_nil outputs, start_append absent] at failed
        cases failed
    | some first =>
        obtain ⟨leads, absent, rest, rfl, before⟩ := List.find?_eq_some_iff_append.mp found
        rw [start_append (by simpa using before), start_cons, if_pos leads,
          Work.bind_apply] at failed
        refine ⟨first, rfl, ?_⟩
        split at failed
        · next later moved =>
            have missing := missing_of_failed_rest formed linkless
              (fun output inside => List.mem_append_right absent inside) apartAll moved failed
            rw [FileTree.leadsToNode, intact first (by simp) leads] at missing
            cases leads.symm.trans missing
        · next refused =>
            obtain ⟨same, rfl⟩ := Prod.mk.inj failed
            rw [refused, Except.error.inj same]
  · rintro ⟨first, found, refused⟩ output inside leads
    obtain ⟨place, node, located, standing⟩ := FileTree.leadsToNode_iff.mp leads
    have away : place ≠ world.files.spelled (asidePath first) := by
      rw [linkless.locate_eq located]
      exact apartAll _ rfl output inside first (List.mem_of_find?_eq_some found)
    rw [FileTree.nodeAt_iff.mpr ⟨place, located, standing⟩]
    exact FileTree.nodeAt_iff.mpr ⟨place, (way first refused).ways.locate_iff.mpr located,
      ((way first refused).kept place away).trans standing⟩

end Outputs

/-- In this tree a directory stands where the copy of the second file goes. -/
def blockedTree : FileTree :=
  (((FileTree.empty ["d"]).put ["d", "a.rs"] (.file "one".toUTF8 true)).put
    ["d", "b.rs"] (.file "two".toUTF8 true)).put ["d", "b.rs.prev"] .directory

theorem blockedTree_nodes {entry : Location × Node} (inside : entry ∈ blockedTree.nodes) :
    entry = (["d", "b.rs.prev"], .directory) ∨
      entry = (["d", "b.rs"], .file "two".toUTF8 true) ∨
      entry = (["d", "a.rs"], .file "one".toUTF8 true) ∨ entry = (["d"], .directory) := by
  simpa [blockedTree, FileTree.put, FileTree.empty] using inside

theorem blockedTree_wellFormed : blockedTree.WellFormed := by
  apply FileTree.wellFormed_of_nodes
  intro entry inside
  obtain rfl | rfl | rfl | rfl := blockedTree_nodes inside <;> rfl

theorem blockedTree_linkless : blockedTree.Linkless := by
  apply FileTree.linkless_of_nodes
  intro entry inside
  obtain rfl | rfl | rfl | rfl := blockedTree_nodes inside <;> simp

/-- The start fails at the second output, and the first one is missing at its path. -/
theorem failed_start_loses_output :
    let outputs := [FilePath.ofText "a.rs", .ofText "b.rs"]
    let ended := start outputs { files := blockedTree }
    blockedTree.WellFormed ∧ blockedTree.Linkless ∧
      (∀ one ∈ outputs, ∀ other ∈ outputs,
        blockedTree.spelled one ≠ blockedTree.spelled (asidePath other) ∧
          (one ≠ other → blockedTree.spelled one ≠ blockedTree.spelled other)) ∧
      ended.1 = .error .isADirectory ∧
      blockedTree.leadsToFile (.ofText "a.rs") = true ∧
      ended.2.files.leadsToNode (.ofText "a.rs") = false := by
  refine ⟨blockedTree_wellFormed, blockedTree_linkless, ?_, ?_, ?_, ?_⟩ <;> decide +kernel

/-- In the other order the start fails at the first output, and both stand as before. -/
theorem failed_start_intact_iff_blocked :
    let outputs := [FilePath.ofText "b.rs", .ofText "a.rs"]
    let ended := start outputs { files := blockedTree }
    ended.1 = .error .isADirectory ∧ ∀ output ∈ outputs,
      blockedTree.leadsToNode output = true →
        ended.2.files.nodeAt output = blockedTree.nodeAt output := by
  intro outputs ended
  have failed : ended.1 = .error .isADirectory := by decide +kernel
  have apart : ∀ one ∈ outputs, ∀ other ∈ outputs, one ≠ other →
      blockedTree.spelled one ≠ blockedTree.spelled (asidePath other) := by decide +kernel
  refine ⟨failed, ((failed_start_intact_iff blockedTree_wellFormed blockedTree_linkless apart
    (Prod.ext failed rfl : _ = (_, ended.2))).1.mpr ⟨.ofText "b.rs", ?_, ?_⟩)⟩
  · decide +kernel
  · rfl

end Tablewright.Rotation
