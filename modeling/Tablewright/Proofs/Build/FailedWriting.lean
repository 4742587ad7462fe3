import Tablewright.Proofs.Build.Completion
import Tablewright.Proofs.Build.Failure
import Tablewright.Proofs.Build.History
import Tablewright.Proofs.Build.Returning
import Tablewright.Proofs.Build.Working
import Tablewright.Proofs.FileTree.Linkless

namespace Tablewright.Build

open FileTree (IsProperName Spares MayBeAbove)
open Replacement (temporaryPath? IsReplaced Worked Drafted)
open Rotation (asidePath HasFiles IsSlot Outputs Stage Detached Returnable Returned)
open Work (After)

/-- Two outputs are paired when each is detached from the other and no temporary file is a link. A
directory may stand where a temporary file is to be made. -/
structure Paired (start : FileTree) (primary secondary : FilePath) : Prop where
  formed : start.WellFormed
  detached : Detached start primary secondary
  back : Detached start secondary primary
  unlinked : ∀ output ∈ [primary, secondary], ∀ temporary,
    temporaryPath? output = some temporary → start.Unlinked temporary

section Paired

variable {start tree : FileTree} {primary secondary output other temporary : FilePath}
  {place : Location} {touched : Location → Prop} (paired : Paired start primary secondary)
include paired

theorem Paired.of_mem (known : output ∈ [primary, secondary])
    (otherKnown : other ∈ [primary, secondary]) (different : output ≠ other) :
    Detached start output other := by
  rw [List.mem_pair] at known otherKnown
  obtain rfl | rfl := known <;> obtain rfl | rfl := otherKnown
  · exact absurd rfl different
  · exact paired.detached
  · exact paired.back
  · exact absurd rfl different

/-- Every output is detached from some other one. -/
theorem Paired.exists_detached (known : output ∈ [primary, secondary]) :
    ∃ other, Detached start output other := by
  rw [List.mem_pair] at known
  obtain rfl | rfl := known
  · exact ⟨_, paired.detached⟩
  · exact ⟨_, paired.back⟩

/-- No folder above the outputs may lead to one. -/
theorem Paired.notAbove (known : output ∈ [primary, secondary])
    (leads : start.MayLead output place) :
    ¬ start.MayBeAbove [primary, secondary] place := by
  rintro ⟨path, inside, folder, above, folderLeads⟩
  rw [List.mem_pair] at known inside
  obtain rfl | rfl := known <;> obtain rfl | rfl := inside
  · exact paired.detached.notAbove folder (.inl above) place folderLeads leads
  · exact paired.detached.notAbove folder (.inr above) place folderLeads leads
  · exact paired.back.notAbove folder (.inr above) place folderLeads leads
  · exact paired.back.notAbove folder (.inl above) place folderLeads leads

/-- No directory and no link comes to stand where an output may lead. -/
theorem Paired.file_or_nothing (worked : Worked start [primary, secondary] touched start tree)
    (known : output ∈ [primary, secondary]) (leads : start.MayLead output place) :
    Node.IsFileOrNothing (tree.node? place) := by
  obtain ⟨_, detached⟩ := paired.exists_detached known
  have plain := detached.plain output (.inl rfl) place leads
  cases found : tree.node? place with
  | none => trivial
  | some node =>
      cases node with
      | file content writable => trivial
      | link target => exact absurd ((worked.grows.links _ _).mp found) (plain.noLink target)
      | directory =>
          obtain before | above := worked.made place found
          · exact absurd before plain.noDirectory
          · exact absurd above (paired.notAbove known leads)

/-- An output that leads to a node has a proper name, and its node is a file. -/
theorem Paired.file_of_leads (worked : Worked start [primary, secondary] touched start tree)
    (known : output ∈ [primary, secondary]) {node : Node}
    (located : tree.locate true output = .ok place) (found : tree.node? place = some node) :
    IsProperName output.last ∧ tree.locate false output = .ok place ∧
      start.MayLead output place ∧ ∃ content writable, node = .file content writable := by
  obtain ⟨_, detached⟩ := paired.exists_detached known
  have plain := detached.plain output (.inl rfl)
  have leads := plain.unlinked.mayLead worked.grows located
  have isFile := paired.file_or_nothing worked known leads
  rw [found] at isFile
  obtain ⟨content, writable, rfl⟩ := isFile.file
  obtain ⟨near, stopped, same⟩ := FileTree.locate_follow located
  have notDirectory : tree.node? near ≠ some .directory := by
    intro directory
    obtain rfl | ⟨target, link⟩ := same
    · rw [found] at directory
      cases directory
    · rw [directory] at link
      cases link
  have proper : IsProperName output.last := by
    obtain ⟨_, folder, _, entered⟩ := FileTree.locate_iff_enter.mp stopped
    obtain ⟨directory, ⟨rfl, _⟩ | ⟨rfl, _⟩ | ⟨_, proper, _⟩⟩ := FileTree.of_enter entered
    · exact absurd directory notDirectory
    · exact absurd (worked.formed.directory_dropLast directory) notDirectory
    · exact proper
  exact ⟨proper, (plain.unlinked.located worked.grows proper located).1, leads, content, writable, rfl⟩

end Paired

section Names

variable {start : FileTree} {primary secondary output other temporary : FilePath}
  {place : Location}

/-- A temporary file does not stand where its own output does. -/
theorem apart_own_temporary (proper : IsProperName output.last)
    (found : temporaryPath? output = some temporary) : start.Apart output temporary := by
  intro place leads temporaryLeads
  obtain ⟨named, different, _⟩ := Replacement.temporaryPath_last found
  obtain ⟨_, _, _, _, _, rfl⟩ := leads.seat proper
  obtain ⟨_, _, _, _, _, same⟩ := temporaryLeads.seat named
  rw [FilePath.fileName?_proper proper] at different
  exact different (congrArg some (List.append_singleton_inj.mp same).2)

theorem apart_own_copy (proper : IsProperName output.last) :
    start.Apart output (asidePath output) := by
  intro place leads copyLeads
  obtain ⟨_, folder, _, _, _, rfl⟩ := leads.seat proper
  obtain ⟨_, again, _, _, _, same⟩ := copyLeads.seat (Rotation.asidePath_proper output)
  obtain ⟨rfl, names⟩ := List.append_singleton_inj.mp same
  exact Rotation.place_ne_copy folder output (by rw [names])

/-- The copy of an output leads to no place of a temporary file. -/
theorem undrafted_copy (leads : start.MayLead (asidePath output) place) :
    ¬ Drafted start other place := by
  rintro ⟨temporary, found, temporaryLeads⟩
  exact Rotation.temporary_apart_copy found place temporaryLeads leads

variable (paired : Paired start primary secondary)
include paired

/-- An output with a proper name leads to no place of a temporary file. -/
theorem Paired.undrafted (known : output ∈ [primary, secondary])
    (otherKnown : other ∈ [primary, secondary]) (proper : IsProperName output.last)
    (leads : start.MayLead output place) : ¬ Drafted start other place := by
  rintro ⟨temporary, found, temporaryLeads⟩
  by_cases same : output = other
  · subst same
    exact apart_own_temporary proper found place leads temporaryLeads
  · exact (paired.of_mem known otherKnown same).notTemporary temporary found place leads
      temporaryLeads

/-- An output with a proper name leads to no place of a copy. -/
theorem Paired.apart_copy (known : output ∈ [primary, secondary])
    (otherKnown : other ∈ [primary, secondary]) (proper : IsProperName output.last) :
    start.Apart output (asidePath other) := by
  by_cases same : output = other
  · subst same
    exact apart_own_copy proper
  · exact (paired.of_mem known otherKnown same).notCopy

end Names

/-- Some outputs were attempted, and some of them are placed. Nothing was touched but where those
may lead and where temporary files of the attempted ones may. -/
structure Attempted (start : FileTree) (paths attempted placed : List FilePath)
    (before after : FileTree) : Prop where
  worked : Worked start paths (fun location =>
    (∃ output ∈ placed, start.MayLead output location) ∨
      ∃ output ∈ attempted, Drafted start output location) before after
  among : placed ⊆ attempted
  standing : ∀ output ∈ placed, IsProperName output.last ∧ ∃ place content writable,
    after.locate true output = .ok place ∧ after.node? place = some (.file content writable)

/-- The renames of a world since some targets are those to the outputs that are placed. -/
def Attempts (start : FileTree) (paths attempted targets : List FilePath) (before : FileTree)
    (world : World) : Prop :=
  ∃ placed, After (targets ++ placed) (Attempted start paths attempted placed before) world

section Write

variable {start before between after : FileTree} {primary secondary output : FilePath}
  {content : ByteArray} {paths attempted placed : List FilePath}

theorem Attempted.more {others : List FilePath}
    (tried : Attempted start paths attempted placed before after) (among : attempted ⊆ others) :
    Attempted start paths others placed before after := by
  refine ⟨tried.worked.mono ?_, List.Subset.trans tried.among among, tried.standing⟩
  rintro location (placed | ⟨output, inside, drafted⟩)
  · exact .inl placed
  · exact .inr ⟨output, among inside, drafted⟩

theorem attempted_of_drafted (worked : Worked start paths (Drafted start output) before after) :
    Attempted start paths [output] [] before after :=
  ⟨worked.mono fun _ drafted => .inr ⟨output, by simp, drafted⟩, by simp, by simp⟩

theorem attempted_of_replaced (grows : start.GrowsInto before) (plain : start.Plain output)
    (replaced : IsReplaced start paths output content before after) :
    Attempted start paths [output] [output] before after := by
  obtain ⟨temporary, found, replaced⟩ := replaced
  obtain ⟨_, place, _, located, ⟨writable, standing⟩, _⟩ := replaced.placed
  refine ⟨(Replacement.worked_of_replaced grows plain found replaced).mono ?_, by simp, ?_⟩
  · rintro location (leads | drafted)
    · exact .inl ⟨output, by simp, leads⟩
    · exact .inr ⟨output, by simp, drafted⟩
  · intro other inside
    obtain rfl := List.mem_singleton.mp inside
    exact ⟨replaced.proper, place, content, writable, located, standing⟩

/-- However a replacement ends, its renames tell whether the output is placed. -/
theorem ensures_attempted (targets : List FilePath) (content : ByteArray)
    (formed : before.WellFormed) (grows : start.GrowsInto before) (known : output ∈ paths)
    (plain : start.Plain output) (unlinked : ∀ temporary, temporaryPath? output = some temporary →
      start.Unlinked temporary) :
    Work.Ensures (After targets (· = before)) (Replacement.replace output content)
      (fun _ => Attempts start paths [output] targets before)
      (fun _ => Attempts start paths [output] targets before) := by
  have placed : ∀ world, After (targets ++ [output]) (IsReplaced start paths output content before)
      world → Attempts start paths [output] targets before world :=
    fun _ after => ⟨[output], after.mono fun _ => attempted_of_replaced grows plain⟩
  refine (Replacement.ensures_replaced_or_drafted targets content formed grows known plain
    unlinked).weaken (fun _ => id) (fun _ => placed) ?_
  rintro cause world (after | after)
  · refine ⟨[], ?_⟩
    rw [List.append_nil]
    exact after.mono fun _ => attempted_of_drafted
  · exact placed world after

variable (paired : Paired start primary secondary)
include paired

/-- The attempt at the second output leaves the first one standing. -/
theorem Paired.attempted_both {more : List FilePath} (grows : start.GrowsInto before)
    (first : Attempted start [primary, secondary] [primary] placed before between)
    (second : Attempted start [primary, secondary] [secondary] more between after) :
    Attempted start [primary, secondary] [primary, secondary] (placed ++ more) before after := by
  refine ⟨(first.worked.trans second.worked).mono ?_, ?_, ?_⟩
  · rintro location ((⟨output, inside, leads⟩ | ⟨output, inside, drafted⟩) |
      ⟨output, inside, leads⟩ | ⟨output, inside, drafted⟩)
    · exact .inl ⟨output, List.mem_append_left _ inside, leads⟩
    · exact .inr ⟨output, List.mem_append_left [secondary] inside, drafted⟩
    · exact .inl ⟨output, List.mem_append_right _ inside, leads⟩
    · exact .inr ⟨output, List.mem_append_right [primary] inside, drafted⟩
  · exact List.append_subset.mpr ⟨List.subset_append_of_subset_left [secondary] first.among,
      List.subset_append_of_subset_right [primary] second.among⟩
  · intro output inside
    obtain isFirst | isSecond := List.mem_append.mp inside
    · obtain ⟨proper, place, content, writable, located, standing⟩ := first.standing output isFirst
      obtain rfl := List.mem_singleton.mp (first.among isFirst)
      have leads := (paired.detached.plain output (.inl rfl)).unlinked.mayLead
        (grows.trans first.worked.grows) located
      have away : ¬ ((∃ other ∈ more, start.MayLead other place) ∨
          ∃ other ∈ [secondary], Drafted start other place) := by
        rintro (⟨other, placed, otherLeads⟩ | ⟨other, known, drafted⟩)
        · obtain rfl := List.mem_singleton.mp (second.among placed)
          exact paired.detached.apart place leads otherLeads
        · exact paired.undrafted (by simp) (List.mem_cons_of_mem _ known) proper leads drafted
      exact ⟨proper, place, content, writable, second.worked.grows.locate located,
        (second.worked.spares place away).stays standing⟩
    · exact second.standing output isSecond

/-- However a write ends, its renames tell which outputs are placed. -/
theorem Paired.ensures_write (targets : List FilePath) (artifacts : Artifacts)
    (formed : before.WellFormed) (grows : start.GrowsInto before) :
    Work.Ensures (After targets (· = before)) (write primary secondary artifacts)
      (fun _ => Attempts start [primary, secondary] [primary, secondary] targets before)
      (fun _ => Attempts start [primary, secondary] [primary, secondary] targets before) := by
  have first := ensures_attempted targets artifacts.primary.toUTF8 formed grows
    (List.mem_cons_self : primary ∈ [primary, secondary])
    (paired.detached.plain primary (.inl rfl)) (paired.unlinked primary (by simp))
  refine Work.Ensures.bind (first.weaken (fun _ => id) (fun _ _ => id) ?_) fun _ =>
    Work.Ensures.of_each ?_
  · rintro cause world ⟨placed, after⟩
    exact ⟨placed, after.mono fun _ tried => tried.more (by simp)⟩
  · rintro between ⟨placed, after⟩
    have tried := after.kind
    have second := ensures_attempted (targets ++ placed) artifacts.secondary.toUTF8
      tried.worked.formed (grows.trans tried.worked.grows)
      (List.mem_cons_of_mem primary List.mem_cons_self : secondary ∈ [primary, secondary])
      (paired.back.plain secondary (.inl rfl)) (paired.unlinked secondary (by simp))
    have both : ∀ world, Attempts start [primary, secondary] [secondary] (targets ++ placed)
        between.files world →
          Attempts start [primary, secondary] [primary, secondary] targets before world := by
      rintro world ⟨more, later⟩
      refine ⟨placed ++ more, ?_⟩
      rw [← List.append_assoc]
      exact later.mono fun _ triedToo => paired.attempted_both grows tried triedToo
    refine second.weaken ?_ (fun _ => both) (fun _ => both)
    rintro world rfl
    exact ⟨rfl, after.renamed⟩

end Write

section Restoration

variable {start opened tree later : FileTree} {primary secondary output other : FilePath}
  {moved placed : List FilePath}

theorem regular_of_plain {path : FilePath} (formed : start.WellFormed) (plain : start.Plain path) :
    start.Regular path := by
  intro place located
  cases found : start.node? place with
  | none => trivial
  | some node =>
      cases node with
      | file content writable => trivial
      | directory =>
          have followed := FileTree.locate_stop located (by simp [found])
          exact (plain place (plain.unlinked.mayLead (.refl start) followed)).noDirectory found
      | link target =>
          obtain ⟨_, folder, _, entered⟩ := FileTree.locate_iff_enter.mp located
          have notDirectory : start.node? place ≠ some .directory := by simp [found]
          obtain ⟨directory, ⟨rfl, _⟩ | ⟨rfl, _⟩ | ⟨_, proper, _⟩⟩ := FileTree.of_enter entered
          · exact notDirectory directory
          · exact notDirectory (formed.directory_dropLast directory)
          · exact (plain place (FileTree.mayLead_of_proper (.refl start) proper located)).noLink
              target found

/-- The copy of a moved output may lead to its place. -/
theorem copy_leads (stage : Stage start moved [] opened) (inside : output ∈ moved) :
    start.MayLead (asidePath output) (start.placeOf (asidePath output)) :=
  FileTree.mayLead_of_proper (.refl start) (Rotation.asidePath_proper output)
    ((stage.movable output (by simpa using inside)).located _ (.inr rfl))

variable (paired : Paired start primary secondary)
include paired

/-- Paired outputs are as a rotation needs them. -/
theorem Paired.outputs : Outputs start [primary, secondary] := by
  have regular : ∀ output ∈ [primary, secondary], ∀ slot, IsSlot output slot →
      start.Regular slot := by
    intro output known slot isSlot
    obtain ⟨_, detached⟩ := paired.exists_detached known
    exact regular_of_plain paired.formed (detached.plain slot isSlot)
  have leads : ∀ output ∈ [primary, secondary], ∀ {place},
      start.locate false output = .ok place → start.MayLead output place := by
    intro output known place located
    have proper := ((regular output known output (.inl rfl)).seat paired.formed located).1
    exact FileTree.mayLead_of_proper (.refl start) proper located
  refine ⟨by simpa using paired.detached.different, regular, ?_, ?_⟩
  · intro one oneKnown two twoKnown different place located twoLocated
    exact (paired.of_mem oneKnown twoKnown different).apart place (leads one oneKnown located)
      (leads two twoKnown twoLocated)
  · intro one oneKnown two twoKnown different place located copyLocated
    exact (paired.of_mem oneKnown twoKnown different).notCopy place (leads one oneKnown located)
      (FileTree.mayLead_of_proper (.refl start) (Rotation.asidePath_proper two) copyLocated)

variable (allMoved : moved = [primary, secondary].filter start.leadsToNode)
  (stage : Stage start moved [] opened)
include allMoved stage

/-- A rotation touched the outputs that it moved and their copies. -/
theorem Paired.worked_of_stage : Worked start [primary, secondary]
    (fun location => ∃ output ∈ moved, ∃ slot, IsSlot output slot ∧
      location = start.placeOf slot) start opened := by
  have known : ∀ output ∈ moved ++ [], output ∈ [primary, secondary] := by
    rw [List.append_nil]
    exact fun output inside => List.mem_of_mem_filter (allMoved ▸ inside)
  have same := stage.sameWays paired.formed paired.outputs known
  refine ⟨same.there, stage.wellFormed paired.formed paired.outputs known, ?_, ?_⟩
  · intro location free
    refine .inl (stage.kept location fun output inside slot isSlot equal => ?_)
    exact free ⟨output, by simpa using inside, slot, isSlot, equal⟩
  · exact fun location directory => .inl (same.back.directories location directory)

/-- A moved output has a proper name, and may lead to its place. -/
theorem Paired.of_moved (inside : output ∈ moved) :
    output ∈ [primary, secondary] ∧ IsProperName output.last ∧
      start.MayLead output (start.placeOf output) := by
  have known : output ∈ [primary, secondary] := List.mem_of_mem_filter (allMoved ▸ inside)
  have located := (stage.movable output (by simpa using inside)).located output (.inl rfl)
  have proper := ((paired.outputs.regular output known output (.inl rfl)).seat paired.formed
    located).1
  exact ⟨known, proper, FileTree.mayLead_of_proper (.refl start) proper located⟩

/-- An output that was not moved leads elsewhere than the versions of those that were. -/
theorem Paired.elsewhere {place : Location} {slot : FilePath}
    (known : output ∈ [primary, secondary]) (notMoved : output ∉ moved)
    (proper : IsProperName output.last) (leads : start.MayLead output place)
    (inside : other ∈ moved) (isSlot : IsSlot other slot) :
    place ≠ start.placeOf slot := by
  rintro rfl
  obtain ⟨otherKnown, _, otherLeads⟩ := paired.of_moved allMoved stage inside
  have different : output ≠ other := fun same => notMoved (same ▸ inside)
  obtain rfl | rfl := isSlot
  · exact (paired.of_mem known otherKnown different).apart _ leads otherLeads
  · exact paired.apart_copy known otherKnown proper _ leads (copy_leads stage inside)

variable (attempted : Attempted start [primary, secondary] [primary, secondary] placed opened tree)
include attempted

/-- After the write the copies of the moved outputs stand as the rotation left them. -/
theorem Paired.copy_kept (inside : output ∈ moved) :
    tree.node? (start.placeOf (asidePath output)) = start.node? (start.placeOf output) := by
  obtain ⟨known, _, _⟩ := paired.of_moved allMoved stage inside
  have copyLeads := copy_leads stage inside
  obtain ⟨content, writable, found⟩ := (stage.movable output (by simpa using inside)).file
  rw [found]
  refine (attempted.worked.spares _ ?_).stays ((stage.movedAside output inside).2.trans found)
  rintro (⟨other, isPlaced, leads⟩ | ⟨other, _, isDrafted⟩)
  · exact paired.apart_copy (attempted.among isPlaced) known (attempted.standing other isPlaced).1
      _ leads copyLeads
  · exact undrafted_copy copyLeads isDrafted

/-- After the write every moved output can return. -/
theorem Paired.returnable (inside : output ∈ moved) :
    Returnable tree output (start.placeOf output) (start.placeOf (asidePath output)) := by
  have worked := (paired.worked_of_stage allMoved stage).trans attempted.worked
  obtain ⟨known, _, leads⟩ := paired.of_moved allMoved stage inside
  have movable := stage.movable output (by simpa using inside)
  obtain ⟨content, writable, found⟩ := movable.file
  exact ⟨worked.grows.locate (movable.located output (.inl rfl)),
    worked.grows.locate (movable.located _ (.inr rfl)), paired.file_or_nothing worked known leads,
    content, writable, (paired.copy_kept allMoved stage attempted inside).trans found⟩

/-- Moved outputs return to different places from different copies. -/
theorem Paired.returns_apart : moved.Pairwise fun one other => ∀ place copy otherPlace otherCopy,
    Returnable tree one place copy → Returnable tree other otherPlace otherCopy →
      ∀ location ∈ [otherPlace, otherCopy], location ≠ place ∧ location ≠ copy := by
  have nodup : moved.Nodup := allMoved ▸ paired.outputs.nodup.filter _
  refine nodup.imp_of_mem fun {one two} oneInside twoInside different => ?_
  intro place copy otherPlace otherCopy returnable otherReturnable
  obtain ⟨rfl, rfl⟩ :=
    (paired.returnable allMoved stage attempted oneInside).unique returnable
  obtain ⟨rfl, rfl⟩ :=
    (paired.returnable allMoved stage attempted twoInside).unique otherReturnable
  obtain ⟨known, proper, leads⟩ := paired.of_moved allMoved stage oneInside
  obtain ⟨otherKnown, otherProper, otherLeads⟩ := paired.of_moved allMoved stage twoInside
  have copyLeads := copy_leads stage oneInside
  have otherCopyLeads := copy_leads stage twoInside
  have apart := (paired.of_mem known otherKnown different).apart
  have apartCopies := copies_apart apart proper otherProper
  simp only [List.mem_cons, List.not_mem_nil, or_false, forall_eq_or_imp, forall_eq]
  refine ⟨⟨fun same => ?_, fun same => ?_⟩, fun same => ?_, fun same => ?_⟩
  · exact apart _ leads (same ▸ otherLeads)
  · exact paired.apart_copy otherKnown known otherProper _ otherLeads
      (same ▸ copyLeads)
  · exact paired.apart_copy known otherKnown proper _ leads (same ▸ otherCopyLeads)
  · exact apartCopies _ copyLeads (same ▸ otherCopyLeads)

variable (returned : Returned tree later moved)
include returned

/-- A moved output stands as before. -/
theorem Paired.moved_intact (inside : output ∈ moved) :
    later.nodeAt output = start.nodeAt output := by
  have returnable := paired.returnable allMoved stage attempted inside
  have movable := stage.movable output (by simpa using inside)
  obtain ⟨known, _, _⟩ := paired.of_moved allMoved stage inside
  obtain ⟨content, writable, found⟩ := movable.file
  have standing : later.node? (start.placeOf output) = some (.file content writable) := by
    rw [returned.back output inside _ _ returnable,
      paired.copy_kept allMoved stage attempted inside, found]
  have regular := paired.outputs.regular output known output (.inl rfl)
  rw [FileTree.nodeAt_iff.mpr
    ⟨_, regular.locate_iff.mpr (movable.located output (.inl rfl)), found⟩]
  exact FileTree.nodeAt_iff.mpr ⟨_, FileTree.locate_stop
    (returned.same.locate_iff.mpr returnable.located) (by simp [standing]), standing⟩

/-- An output that was absent exists afterwards exactly if it is placed. -/
theorem Paired.absent_iff (known : output ∈ [primary, secondary])
    (missing : start.leadsToNode output = false)
    (absent : ∀ place, start.MayLead output place → start.node? place = none) :
    later.leadsToNode output = true ↔ output ∈ placed := by
  have worked := (paired.worked_of_stage allMoved stage).trans attempted.worked
  have notMoved : output ∉ moved := by
    rw [allMoved, List.mem_filter, missing]
    simp
  have kept : ∀ {place}, IsProperName output.last → start.MayLead output place →
      later.node? place = tree.node? place := by
    intro place proper leads
    refine returned.kept place fun other inside otherPlace otherCopy returnable => ?_
    obtain ⟨rfl, rfl⟩ :=
      (paired.returnable allMoved stage attempted inside).unique returnable
    exact ⟨paired.elsewhere allMoved stage known notMoved proper leads inside (.inl rfl),
      paired.elsewhere allMoved stage known notMoved proper leads inside (.inr rfl)⟩
  constructor
  · intro leads
    obtain ⟨place, node, located, found⟩ := FileTree.leadsToNode_iff.mp leads
    have ended : Worked start [primary, secondary] (fun _ => True) tree later :=
      ⟨returned.same.there, returned.formed, fun _ free => absurd trivial free,
        fun there directory => .inl (returned.same.back.directories there directory)⟩
    obtain ⟨proper, _, placeLeads, content, writable, rfl⟩ :=
      paired.file_of_leads (worked.trans ended) known located found
    rw [kept proper placeLeads] at found
    by_contra other
    have free := worked.spares place ?_
    · obtain none | ⟨directory, _⟩ := free.free (absent place placeLeads)
      · rw [found] at none
        cases none
      · rw [found] at directory
        cases directory
    rintro (⟨moves, inside, slot, isSlot, same⟩ | ⟨one, isPlaced, oneLeads⟩ |
      ⟨one, oneKnown, isDrafted⟩)
    · exact paired.elsewhere allMoved stage known notMoved proper placeLeads inside isSlot same
    · have different : output ≠ one := fun same => other (same ▸ isPlaced)
      exact (paired.of_mem known (attempted.among isPlaced) different).apart place placeLeads
        oneLeads
    · exact paired.undrafted known oneKnown proper placeLeads isDrafted
  · intro isPlaced
    obtain ⟨proper, place, content, writable, located, standing⟩ :=
      attempted.standing output isPlaced
    obtain ⟨_, _, placeLeads, _⟩ := paired.file_of_leads worked known located standing
    exact FileTree.leadsToNode_iff.mpr ⟨place, _, returned.same.locate_iff.mpr located,
      (kept proper placeLeads).trans standing⟩

end Restoration

section Build

variable {directory : FilePath} {settings : Settings} {start : FileTree} {device : Device}
  {rotation : Rotation} {opened written : World} {rendering : Rendering} {error : BuildError}

/-- A build whose write fails gives up with what the write left. -/
theorem run_of_failed_write {later : World} (programs : Programs)
    (opens : opening directory settings { files := start, device } = (.ok rotation, opened))
    (rendered : (render directory settings opened).1 = .ok rendering)
    (failed : write (settings.primaryPath directory) (settings.secondaryPath directory)
      rendering.artifacts (render directory settings opened).2 = (.error error, written))
    (ended : (giveUp rotation (writeFailedEvent error) error : Work BuildError Rendering) written =
      (.error error, later)) :
    run programs directory settings { files := start, device } = (.error error, later) := by
  have regenerates : regenerate rotation directory (settings.primaryPath directory)
      (settings.secondaryPath directory) settings opened = (.error error, later) := by
    have first : (Work.outcome (render directory settings) : Work BuildError _) opened =
        (.ok (.ok rendering), (render directory settings opened).2) :=
      Prod.ext (congrArg Except.ok rendered) rfl
    have second : (Work.outcome (write (settings.primaryPath directory)
        (settings.secondaryPath directory) rendering.artifacts) : Work BuildError _)
          (render directory settings opened).2 = (.ok (.error error), written) := by
      simp only [Work.outcome, failed]
    rw [regenerate, Work.bind_apply, first]
    dsimp only
    rw [Work.bind_apply, second]
    exact ended
  rw [run_eq, Work.bind_apply, opens]
  dsimp only
  rw [following, Work.bind_apply, regenerates]

/-- The opening of a build renames the outputs that it moves to their copies and nothing else. -/
theorem renamed_of_opening
    (opens : opening directory settings { files := start, device } = (.ok rotation, opened)) :
    opened.renamed = rotation.moved.map asidePath := by
  have starts : Work.Ensures (After [] fun _ => True) (opening directory settings)
      (fun rotation => After (rotation.moved.map asidePath) fun _ => True) (fun _ _ => True) :=
    Work.Ensures.bind (Work.ensures_noted _) fun _ =>
      Work.ensures_mapError (Rotation.ensures_renamed_start _)
  have begun : After [] (fun _ => True) { files := start, device } := ⟨trivial, rfl⟩
  exact (starts.of_ok begun opens).renamed

/-- A build that fails while it writes leaves both outputs as they were, except that an output that
did not exist stays when its new content was renamed to it before the failure. -/
theorem failed_write_leaves (paired : Paired start (settings.primaryPath directory)
      (settings.secondaryPath directory))
    (absent : ∀ output ∈ [settings.primaryPath directory, settings.secondaryPath directory],
      start.leadsToNode output = false → ∀ place, start.MayLead output place →
        start.node? place = none)
    (opens : opening directory settings { files := start, device } = (.ok rotation, opened))
    (rendered : (render directory settings opened).1 = .ok rendering)
    (failed : write (settings.primaryPath directory) (settings.secondaryPath directory)
      rendering.artifacts (render directory settings opened).2 = (.error error, written))
    (programs : Programs) : ∃ later,
    run programs directory settings { files := start, device } = (.error error, later) ∧
      (∀ output ∈ [settings.primaryPath directory, settings.secondaryPath directory],
        start.leadsToNode output = true →
          later.files.nodeAt output = start.nodeAt output) ∧
      ∀ output ∈ [settings.primaryPath directory, settings.secondaryPath directory],
        start.leadsToNode output = false →
          (later.files.leadsToNode output = true ↔ output ∈ written.renamed) := by
  obtain ⟨allMoved, stage⟩ := stage_of_opening paired.formed paired.outputs opens
  have opensFiles := paired.worked_of_stage allMoved stage
  obtain ⟨sameFiles, sameTrail⟩ : (render directory settings opened).2.files = opened.files ∧
      (render directory settings opened).2.trail = opened.trail := by
    have renders : Work.Ensures (fun first => first = opened) (render directory settings) _ _ :=
      ensures_render directory settings
    obtain ⟨first, rfl, _, same⟩ := renders.of_ok rfl (Work.eq_of_ok rendered)
    exact same
  have begun : After (rotation.moved.map asidePath) (· = opened.files)
      (render directory settings opened).2 := by
    refine ⟨sameFiles, ?_⟩
    rw [← renamed_of_opening opens, World.renamed, sameTrail]
    rfl
  obtain ⟨placed, attempted, renamed⟩ :=
    (paired.ensures_write _ rendering.artifacts opensFiles.formed opensFiles.grows).of_error begun
      (congrArg Prod.fst failed)
  rw [failed] at attempted renamed
  have worked := opensFiles.trans attempted.worked
  have restores := Rotation.ensures_returned rotation.moved worked.formed
    (fun output inside => ⟨_, _, paired.returnable allMoved stage attempted inside⟩)
    (paired.returns_apart allMoved stage attempted)
  have gives := @ensures_giveUp_restored Rendering rotation (· = written.files)
    (fun files => Returned written.files files rotation.moved) restores (writeFailedEvent error)
    error
  obtain ⟨cause, later, ended, rfl, returned⟩ := gives.fails rfl
  refine ⟨later, run_of_failed_write programs opens rendered failed ended, ?_, ?_⟩
  · intro output known leads
    exact paired.moved_intact allMoved stage attempted returned
      (allMoved ▸ List.mem_filter.mpr ⟨known, leads⟩)
  · intro output known missing
    have noCopy : output ∉ rotation.moved.map asidePath := by
      intro copied
      obtain ⟨other, inside, rfl⟩ := List.mem_map.mp copied
      have otherKnown := (paired.of_moved allMoved stage inside).1
      have leads := copy_leads stage inside
      have apart := paired.of_mem known otherKnown (Rotation.asidePath_ne other)
      exact apart.notCopy _ leads leads
    rw [paired.absent_iff allMoved stage attempted returned known missing
      (absent output known missing), renamed, List.mem_append]
    exact ⟨.inr, fun either => either.resolve_left noCopy⟩

end Build

/-- The second output of these settings stands in a folder of its own. -/
def folderSettings : Settings :=
  { plainSettings with secondaryOutput := "sub/after.rs" }

/-- In this tree a file has the name of that folder. -/
def fileForFolderTree : FileTree :=
  (FileTree.empty ["d"]).put ["d", "sub"] (.file .empty true)

theorem fileForFolderTree_wellFormed : fileForFolderTree.WellFormed := by
  apply FileTree.wellFormed_of_nodes
  intro entry inside
  obtain rfl | rfl : entry = (["d", "sub"], .file .empty true) ∨ entry = (["d"], .directory) := by
    simpa [fileForFolderTree, FileTree.put, FileTree.empty] using inside
  · rfl
  · rfl

/-- Neither output exists when the build starts. Its rotation and its rendering succeed, and its
write fails. But the first output exists in the end. -/
theorem failed_write_leaves_output :
    let primary := folderSettings.primaryPath (.ofText ".")
    let secondary := folderSettings.secondaryPath (.ofText ".")
    let opened := opening (.ofText ".") folderSettings { files := fileForFolderTree }
    let ended := run Programs.bare (.ofText ".") folderSettings { files := fileForFolderTree }
    fileForFolderTree.WellFormed ∧ primary ≠ secondary ∧
      (∀ output ∈ [primary, secondary], fileForFolderTree.leadsToNode output = false) ∧
      opened.1 = .ok ⟨[]⟩ ∧ (render (.ofText ".") folderSettings opened.2).1.toBool = true ∧
      ((render (.ofText ".") folderSettings >>= fun rendering =>
        write primary secondary rendering.artifacts) opened.2).1 =
          .error (.files .alreadyExists) ∧
      ended.1 = .error (.files .alreadyExists) ∧
      ended.2.files.leadsToNode primary = true := by
  refine ⟨fileForFolderTree_wellFormed, ?_, ?_, ?_, ?_, ?_, ?_, ?_⟩ <;> decide +kernel

/-- In this tree both outputs are left from an earlier build, and a directory has the name of the
second temporary file. -/
def temporaryFolderTree : FileTree :=
  ((staleTree.put ["d", "table_after_load.rs"] (.file "older".toUTF8 true)).put
    ["d", "table_after_load.rs.tmp"] .directory)

theorem temporaryFolderTree_wellFormed : temporaryFolderTree.WellFormed := by
  have both : (staleTree.put ["d", "table_after_load.rs"]
      (.file "older".toUTF8 true)).WellFormed :=
    staleTree_wellFormed.put (by simp) rfl (Node.IsFileOrNothing.noDirectory (by decide +kernel))
  exact both.put (by simp) rfl (Node.IsFileOrNothing.noDirectory (by decide +kernel))

theorem temporaryFolderTree_linkless : temporaryFolderTree.Linkless := by
  apply FileTree.linkless_of_nodes
  intro entry inside
  obtain rfl | rfl | rfl | rfl : entry = (["d", "table_after_load.rs.tmp"], .directory) ∨
      entry = (["d", "table_after_load.rs"], .file "older".toUTF8 true) ∨
        entry = (["d", "table.rs"], .file "old".toUTF8 false) ∨ entry = (["d"], .directory) := by
    simpa [temporaryFolderTree, staleTree, FileTree.put, FileTree.empty] using inside
  all_goals simp

/-- Both old outputs stand as before when the second new one cannot be written. -/
theorem failed_write_leaves_stale :
    let primary := plainSettings.primaryPath (.ofText ".")
    let secondary := plainSettings.secondaryPath (.ofText ".")
    Paired temporaryFolderTree primary secondary ∧
      (∀ output ∈ [primary, secondary], temporaryFolderTree.leadsToNode output = true) ∧
      ∃ later, run Programs.bare (.ofText ".") plainSettings { files := temporaryFolderTree } =
          (.error (.files .isADirectory), later) ∧
        ∀ output ∈ [primary, secondary],
          later.files.nodeAt output = temporaryFolderTree.nodeAt output := by
  intro primary secondary
  have seat : ∀ name, temporaryFolderTree.Seat ⟨["."], name⟩ ["d"] := fun _ => ⟨rfl, rfl⟩
  have detached : Detached temporaryFolderTree primary secondary := by
    apply Rotation.detached_of_seats (seat _) (seat _) <;> decide +kernel
  have back : Detached temporaryFolderTree secondary primary := by
    apply Rotation.detached_of_seats (seat _) (seat _) <;> decide +kernel
  have paired : Paired temporaryFolderTree primary secondary :=
    ⟨temporaryFolderTree_wellFormed, detached, back,
      fun _ _ _ _ place _ => temporaryFolderTree_linkless place⟩
  have stand : ∀ output ∈ [primary, secondary],
      temporaryFolderTree.leadsToNode output = true := by decide +kernel
  let opened := opening (.ofText ".") plainSettings { files := temporaryFolderTree }
  have opens : opened.1 = .ok ⟨[primary, secondary]⟩ := by decide +kernel
  have refuses : ((render (.ofText ".") plainSettings >>= fun rendering =>
      write primary secondary rendering.artifacts) opened.2).1 = .error (.files .isADirectory) := by
    decide +kernel
  have renders : (render (.ofText ".") plainSettings opened.2).1.toBool = true := by
    decide +kernel
  obtain ⟨rendering, rendered⟩ : ∃ rendering,
      (render (.ofText ".") plainSettings opened.2).1 = .ok rendering := by
    cases ended : (render (.ofText ".") plainSettings opened.2).1 with
    | error cause =>
        rw [ended] at renders
        cases renders
    | ok rendering => exact ⟨rendering, rfl⟩
  rw [Work.bind_apply, Work.eq_of_ok rendered] at refuses
  obtain ⟨later, ended, intact, _⟩ := failed_write_leaves paired
    (fun output known missing => absurd (stand output known) (by simp [missing]))
    (Prod.ext opens rfl : opened = (_, opened.2)) rendered (Prod.ext refuses rfl) Programs.bare
  exact ⟨paired, stand, later, ended, fun output known => intact output known (stand output known)⟩

end Tablewright.Build
