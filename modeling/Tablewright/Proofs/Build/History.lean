import Tablewright.Proofs.Build.Running

namespace Tablewright.Build

open Rotation (asidePath IsSlot Guarded Separate Safe)

/-- In a history builds with the same outputs follow each other. Each may succeed, fail or be cut
off, and the next one starts from what it left. In between anything may change but the versions of
the outputs, as long as no directory goes and links neither come nor go. -/
inductive History (primary secondary : FilePath) (start : FileTree) :
    List Rendering → FileTree → Prop
  | nothing : History primary secondary start [] start
  | build {renderings : List Rendering} {tree left : FileTree}
      (earlier : History primary secondary start renderings tree) (device : Device)
      (programs : Programs) (directory : FilePath) (settings : Settings)
      (unformatted : settings.formatter.enabled = false)
      (isPrimary : settings.primaryPath directory = primary)
      (isSecondary : settings.secondaryPath directory = secondary)
      (leaves : Leaves (run programs directory settings) tree device left) :
      History primary secondary start
        ((renderingOf directory settings tree device).toList ++ renderings) left
  | edit {renderings : List Rendering} {tree edited : FileTree}
      (earlier : History primary secondary start renderings tree)
      (grows : tree.GrowsInto edited)
      (spares : ∀ output slot place, output = primary ∨ output = secondary →
        IsSlot output slot → tree.MayLead slot place → edited.node? place = tree.node? place) :
      History primary secondary start renderings edited

/-- A content is complete when it is an old version of an output or the full text of one of some
renderings. -/
def Complete (start : FileTree) (output : FilePath) (text : Artifacts → String)
    (renderings : List Rendering) (content : ByteArray) : Prop :=
  (∃ slot, IsSlot output slot ∧ start.bytesAt slot = .ok content) ∨
    ∃ rendering ∈ renderings, content = (text rendering.artifacts).toUTF8

section History

variable {start tree : FileTree} {primary secondary output other : FilePath}
  {text : Artifacts → String} {renderings : List Rendering}

theorem Complete.more {content : ByteArray} {others : List Rendering}
    (complete : Complete start output text renderings content)
    (among : ∀ rendering ∈ renderings, rendering ∈ others) :
    Complete start output text others content := by
  obtain old | ⟨rendering, inside, same⟩ := complete
  · exact .inl old
  · exact .inr ⟨rendering, among rendering inside, same⟩

/-- An output that stands, itself or as a copy, is guarded. -/
theorem guarded_of_held (formed : start.WellFormed) (separate : Separate start output other)
    (held : start.leadsToNode output ∨ start.leadsToNode (asidePath output)) :
    Guarded start output := by
  have located : ∀ {path}, start.leadsToNode path = true → ∃ folder, start.Seat path folder := by
    intro path leads
    obtain ⟨place, node, reached, _⟩ := FileTree.leadsToNode_iff.mp leads
    exact FileTree.Seat.of_locate reached
  refine separate.guarded formed ?_
  obtain here | copied := held
  · exact located here
  · obtain ⟨folder, seat⟩ := located copied
    exact ⟨folder, FileTree.Seat.withEnding_iff.mp seat⟩

/-- The tree that a history starts from is safe. -/
theorem safe_start (guarded : Guarded start output)
    (held : start.leadsToNode output ∨ start.leadsToNode (asidePath output)) :
    Safe start output (Complete start output text renderings) [] start := by
  have grows := FileTree.GrowsInto.refl start
  refine ⟨grows, ?_, ?_, by simp⟩
  · intro slot place node isSlot located found
    have plain := guarded.plain_at isSlot located
    rw [found] at plain
    obtain ⟨content, writable, rfl⟩ := plain.file
    refine ⟨content, writable, rfl, .inl ⟨slot, isSlot, ?_⟩⟩
    have reached : start.nodeAt slot = .ok (.file content writable) :=
      FileTree.nodeAt_iff.mpr ⟨place, (guarded.locate_grown isSlot grows).mpr located, found⟩
    simp [FileTree.bytesAt, reached, bind, Except.bind]
  · obtain here | copied := held
    · exact ⟨output, .inl rfl, (guarded.leadsToNode_iff (.inl rfl) grows).mp here⟩
    · exact ⟨asidePath output, .inr rfl, (guarded.leadsToNode_iff (.inr rfl) grows).mp copied⟩

/-- Every tree of a history is safe for both outputs. -/
theorem safe_of_history (gets : Gets primary secondary output other text)
    (guarded : Guarded start output) (separate : Separate start output other)
    (back : Separate start other output)
    (held : start.leadsToNode output ∨ start.leadsToNode (asidePath output))
    (history : History primary secondary start renderings tree) :
    Safe start output (Complete start output text renderings) [] tree := by
  induction history with
  | nothing => exact safe_start guarded held
  | @build renderings tree left earlier device programs directory settings unformatted
      isPrimary isSecondary leaves safe =>
      have before : Safe start output (Complete start output text
          ((renderingOf directory settings tree device).toList ++ renderings)) [] tree :=
        safe.mono fun content complete =>
          complete.more fun _ inside => List.mem_append_right _ inside
      have rendered : ∀ rendering, renderingOf directory settings tree device = some rendering →
          Complete start output text
            ((renderingOf directory settings tree device).toList ++ renderings)
            (text rendering.artifacts).toUTF8 := by
        intro rendering same
        exact .inr ⟨rendering, by simp [same], rfl⟩
      have tracked := keeps_run gets guarded separate back programs unformatted isPrimary
        isSecondary rendered before
      cases leaves with
      | untouched => exact before
      | finished => exact tracked.now
      | cut step shown => exact tracked.before _ step _ shown
  | @edit renderings tree edited earlier grows spares safe =>
      have same : ∀ {slot place}, IsSlot output slot → start.locate false slot = .ok place →
          edited.node? place = tree.node? place := by
        intro slot place isSlot located
        have isOutput : output = primary ∨ output = secondary := by
          cases gets <;> simp
        apply spares output slot place isOutput isSlot
        apply FileTree.mayLead_of_locate (.refl tree)
        rw [FileTree.withoutSlashes_of_last (guarded.proper_of_locate isSlot located).1]
        exact (guarded.locate_grown isSlot safe.grows).mpr located
      refine ⟨safe.grows.trans grows, ?_, ?_, by simp⟩
      · intro slot place node isSlot located found
        rw [same isSlot located] at found
        exact safe.whole slot place node isSlot located found
      · obtain ⟨slot, isSlot, place, located, present⟩ := safe.kept
        exact ⟨slot, isSlot, place, located, by rwa [same isSlot located]⟩

/-- After every history of builds, and wherever the last one was cut off, an output and its copy
are complete files as far as they are present, and one of them is. -/
theorem history_keeps_version (gets : Gets primary secondary output other text)
    (formed : start.WellFormed) (separate : Separate start output other)
    (back : Separate start other output)
    (held : start.leadsToNode output ∨ start.leadsToNode (asidePath output))
    (history : History primary secondary start renderings tree) :
    (∀ slot node, IsSlot output slot → tree.nodeAt slot = .ok node →
      ∃ content writable, node = .file content writable ∧
        Complete start output text renderings content) ∧
    (tree.leadsToNode output ∨ tree.leadsToNode (asidePath output)) := by
  have guarded := guarded_of_held formed separate held
  have safe : Safe start output (Complete start output text renderings) [] tree :=
    safe_of_history gets guarded separate back held history
  refine ⟨fun slot node isSlot found => safe.nodeAt_whole guarded isSlot found, ?_⟩
  obtain ⟨slot, isSlot, holds⟩ := safe.kept
  have leads := (guarded.leadsToNode_iff isSlot safe.grows).mpr holds
  obtain rfl | rfl := isSlot
  · exact .inl leads
  · exact .inr leads

end History

/-- These settings have no formatter. -/
def plainSettings : Settings :=
  { formatter := { enabled := false } }

/-- In this tree the first output of the settings is left from an earlier build. -/
def staleTree : FileTree :=
  (FileTree.empty ["d"]).put ["d", "table.rs"] (.file "old".toUTF8 false)

theorem staleTree_wellFormed : staleTree.WellFormed := by
  apply FileTree.wellFormed_of_nodes
  intro entry inside
  obtain rfl | rfl : entry = (["d", "table.rs"], .file "old".toUTF8 false) ∨
      entry = (["d"], .directory) := by
    simpa [staleTree, FileTree.put, FileTree.empty] using inside
  · rfl
  · rfl

theorem staleTree_seat (name : String) : staleTree.Seat ⟨["."], name⟩ ["d"] :=
  ⟨rfl, rfl⟩

/-- A second build that is cut off after its first step leaves a version of the output that the
first build replaced. -/
theorem history_keeps_version_stale :
    let primary := plainSettings.primaryPath (.ofText ".")
    let secondary := plainSettings.secondaryPath (.ofText ".")
    staleTree.WellFormed ∧ Separate staleTree primary secondary ∧
      Separate staleTree secondary primary ∧ staleTree.leadsToNode primary = true ∧
      ∃ renderings left, renderings ≠ [] ∧ History primary secondary staleTree renderings left ∧
        (∀ slot node, IsSlot primary slot → left.nodeAt slot = .ok node →
          ∃ content writable, node = .file content writable ∧
            Complete staleTree primary Artifacts.primary renderings content) ∧
        (left.leadsToNode primary ∨ left.leadsToNode (asidePath primary)) := by
  intro primary secondary
  have formed := staleTree_wellFormed
  have separate : Separate staleTree primary secondary := by
    apply Rotation.separate_of_seats (staleTree_seat _) (staleTree_seat _) <;> decide +kernel
  have back : Separate staleTree secondary primary := by
    apply Rotation.separate_of_seats (staleTree_seat _) (staleTree_seat _) <;> decide +kernel
  have held : staleTree.leadsToNode primary = true := by decide +kernel
  let first := run Programs.bare (.ofText ".") plainSettings { files := staleTree }
  let second := run Programs.bare (.ofText ".") plainSettings { files := first.2.files }
  have steps : 0 < second.2.trail.length := by decide +kernel
  have start : History primary secondary staleTree [] staleTree := .nothing
  have history := History.build
    (.build start {} Programs.bare (.ofText ".") plainSettings rfl rfl rfl .finished)
    {} Programs.bare (.ofText ".") plainSettings rfl rfl rfl
    (.cut (List.getElem_mem steps) (.whole _ _))
  refine ⟨formed, separate, back, held, _, _, ?_, history,
    history_keeps_version .primary formed separate back (.inl held) history⟩
  have rendered : (renderingOf (.ofText ".") plainSettings staleTree {}).isSome = true := by
    decide +kernel
  obtain ⟨rendering, same⟩ := Option.isSome_iff_exists.mp rendered
  simp [same]

/-- These settings have one output in a folder that is the other output. -/
def nestedSettings : Settings :=
  { plainSettings with primaryOutput := "table.rs/x.rs", secondaryOutput := "table.rs" }

/-- Two builds lose an output that stands where the folder of the other one is made. The settings
are accepted, and at the start the output is a file and no other path of a build leads anywhere. -/
theorem nested_output_lost :
    let primary := nestedSettings.primaryPath (.ofText ".")
    let secondary := nestedSettings.secondaryPath (.ofText ".")
    let others := [primary, asidePath primary, asidePath secondary] ++
      (Replacement.temporaryPath? primary).toList ++
      (Replacement.temporaryPath? secondary).toList
    nestedSettings.emitOptions.toBool = true ∧ staleTree.WellFormed ∧
      staleTree.leadsToFile secondary = true ∧ (secondary :: others).Nodup ∧
      (∀ path ∈ others, staleTree.leadsToNode path = false) ∧
      ∃ renderings left, History primary secondary staleTree renderings left ∧
        left.leadsToFile secondary = false ∧ left.leadsToFile (asidePath secondary) = false := by
  intro primary secondary others
  have start : History primary secondary staleTree [] staleTree := .nothing
  have history := History.build (.build start {} Programs.bare (.ofText ".") nestedSettings rfl rfl
    rfl .finished) {} Programs.bare (.ofText ".") nestedSettings rfl rfl rfl .finished
  refine ⟨?_, staleTree_wellFormed, ?_, ?_, ?_, _, _, history, ?_, ?_⟩
  all_goals decide +kernel

end Tablewright.Build
