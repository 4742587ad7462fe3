import Tablewright.Build
import Tablewright.Proofs.Build.Separation
import Tablewright.Proofs.Work

namespace Tablewright

/-- A step leaves the files after it. A write that is cut off leaves a part of the content. -/
inductive Shows : FileChange × FileTree → FileTree → Prop
  | whole (change : FileChange) (after : FileTree) : Shows (change, after) after
  | torn {path : FilePath} {content : ByteArray} {after left : FileTree} (count : Nat)
      (cut : after.write path (content.extract 0 count) = .ok left) :
      Shows (.write path content, after) left

/-- These are the trees that a work on a device may leave when it ends or is cut off. -/
inductive Leaves {ε α : Type} (work : Work ε α) (tree : FileTree) (device : Device) :
    FileTree → Prop
  | untouched : Leaves work tree device tree
  | finished : Leaves work tree device (work { files := tree, device }).2.files
  | cut {entry : FileChange × FileTree} {left : FileTree}
      (step : entry ∈ (work { files := tree, device }).2.trail) (shown : Shows entry left) :
      Leaves work tree device left

namespace World

variable (files after : FileTree) (history : List Happening) (output : String) (device : Device)

@[simp] theorem trail_event (event : Event) :
    trail ⟨files, history ++ [.event event], output, device⟩ =
      trail ⟨files, history, output, device⟩ := by
  simp [trail]

@[simp] theorem trail_events (events : Journal) :
    trail ⟨files, history ++ events.map .event, output, device⟩ =
      trail ⟨files, history, output, device⟩ := by
  simp [trail, List.filterMap_map]

@[simp] theorem trail_change (change : FileChange) :
    trail ⟨files, history ++ [.change change after], output, device⟩ =
      trail ⟨files, history, output, device⟩ ++ [(change, after)] := by
  simp [trail]

end World

namespace Rotation

open FileTree (withoutSlashes)

/-- A world is tracked when its files are safe, and all that its trail shows is safe too. -/
structure Tracked (start : FileTree) (output : FilePath) (complete : ByteArray → Prop)
    (needs : List FilePath) (world : World) : Prop where
  now : Safe start output complete needs world.files
  before : ∀ entry ∈ world.trail, ∀ left, Shows entry left → Safe start output complete [] left

section Tracked

variable {start : FileTree} {output other : FilePath} {complete : ByteArray → Prop}
  {needs later : List FilePath}

theorem Tracked.fewer {world : World} (tracked : Tracked start output complete needs world)
    (among : ∀ path ∈ later, path ∈ needs) : Tracked start output complete later world :=
  ⟨tracked.now.fewer among, tracked.before⟩

/-- What is needed may be forgotten where a work fails. -/
theorem ensures_forget {ε α : Type} {before : World → Prop} {work : Work ε α}
    {done : α → World → Prop}
    (ensures : Work.Ensures before work done fun _ => Tracked start output complete needs) :
    Work.Ensures before work done fun _ => Tracked start output complete [] :=
  ensures.weaken (fun _ => id) (fun _ _ => id) fun _ _ tracked => tracked.fewer (by simp)

theorem ensures_noted {ε : Type} {failed : ε → World → Prop} (event : Event) :
    Work.Ensures (Tracked start output complete needs) (Work.note event)
      (fun _ => Tracked start output complete needs) failed := by
  apply Work.ensures_note
  intro given tracked
  obtain ⟨files, history, printed, device⟩ := given
  exact ⟨tracked.now, by simpa using tracked.before⟩

/-- A step keeps a world tracked when it keeps the files safe, also when it is cut off. More may
be known about the files before it. -/
theorem ensures_known_step {change : FileChange} {known : FileTree → Prop}
    (step : ∀ tree after, Safe start output complete needs tree → known tree →
      tree.apply change = .ok after → Safe start output complete later after)
    (torn : ∀ after left, Safe start output complete later after → Shows (change, after) left →
      Safe start output complete [] left) :
    Work.Ensures
      (fun world => Tracked start output complete needs world ∧ known world.files)
      (Work.perform change) (fun _ => Tracked start output complete later)
      (fun _ => Tracked start output complete needs) := by
  apply Work.ensures_perform
  · intro given after facts applied
    obtain ⟨files, history, printed, device⟩ := given
    obtain ⟨tracked, knows⟩ := facts
    have safe := step files after tracked.now knows applied
    refine ⟨safe, ?_⟩
    intro entry inside left shown
    rw [World.trail_change] at inside
    obtain before | now := List.mem_append.mp inside
    · exact tracked.before entry before left shown
    · obtain rfl := List.mem_singleton.mp now
      exact torn after left safe shown
  · exact fun _ _ both _ => both.1

theorem ensures_step {change : FileChange}
    (step : ∀ tree after, Safe start output complete needs tree →
      tree.apply change = .ok after → Safe start output complete later after)
    (torn : ∀ after left, Safe start output complete later after → Shows (change, after) left →
      Safe start output complete [] left) :
    Work.Ensures (Tracked start output complete needs) (Work.perform change)
      (fun _ => Tracked start output complete later)
      (fun _ => Tracked start output complete needs) :=
  (ensures_known_step (fun tree after safe (_ : True) => step tree after safe) torn).weaken
    (fun _ tracked => ⟨tracked, trivial⟩) (fun _ _ => id) (fun _ _ => id)

/-- A step that writes nothing shows no more than its end. -/
theorem safe_of_shows {change : FileChange} (noWrite : ∀ path content, change ≠ .write path content)
    (after left : FileTree) (safe : Safe start output complete later after)
    (shown : Shows (change, after) left) : Safe start output complete [] left := by
  cases shown with
  | whole => exact safe.fewer (by simp)
  | torn count cut => exact absurd rfl (noWrite _ _)

variable (guarded : Guarded start output)
include guarded

theorem keeps_spared {change : FileChange}
    (spares : ∀ tree, Safe start output complete needs tree →
      ∀ place, tree.Touches place change → Spared start output place)
    (noWrite : ∀ path content, change ≠ .write path content) :
    Work.Keeps (Tracked start output complete needs) (Work.perform change) :=
  ensures_step (fun _ _ safe applied => safe.spare guarded applied (spares _ safe))
    (safe_of_shows noWrite)

section Beside

variable {path : FilePath} (beside : Beside start output path)
include beside

theorem Beside.keeps_setWritable (writable : Bool) :
    Work.Keeps (Tracked start output complete needs)
      (Work.perform (.setWritable path writable)) :=
  keeps_spared guarded
    (fun _ safe _ touched => beside.spared guarded safe.grows (.inr touched)) (by simp)

theorem Beside.keeps_delete :
    Work.Keeps (Tracked start output complete needs) (delete path) := by
  refine (beside.keeps_setWritable guarded true).bind fun _ => ?_
  exact keeps_spared guarded
    (fun _ safe _ touched => beside.spared guarded safe.grows (.inl touched)) (by simp)

theorem Beside.keeps_clear :
    Work.Keeps (Tracked start output complete needs) (clear path) := by
  refine Work.keeps_files.bind fun tree => ?_
  split
  · exact beside.keeps_delete guarded
  · exact Work.keeps_pure

theorem Beside.keeps_rename {target : FilePath} (besideTarget : Beside start output target) :
    Work.Keeps (Tracked start output complete needs) (Work.perform (.rename path target)) := by
  apply keeps_spared guarded _ (by simp)
  intro tree safe place either
  rcases either with touched | touched
  · exact beside.spared guarded safe.grows (.inl touched)
  · exact besideTarget.spared guarded safe.grows (.inl touched)

/-- Also a write that is cut off touches spared places only. -/
theorem Beside.keeps_write (content : ByteArray) :
    Work.Keeps (Tracked start output complete needs) (Work.perform (.write path content)) := by
  have spares : ∀ tree content, Safe start output complete needs tree →
      ∀ place, tree.Touches place (.write path content) → Spared start output place :=
    fun _ _ safe _ touched => beside.spared guarded safe.grows (.inr touched)
  apply ensures_step
  · intro tree after safe applied
    exact safe.spare guarded applied (spares _ _ safe)
  · intro after left safe shown
    cases shown with
    | whole => exact safe.fewer (by simp)
    | torn count cut =>
        have applied : after.apply (.write path _) = .ok left := cut
        exact (safe.spare guarded applied (spares _ _ safe)).fewer (by simp)

theorem Beside.keeps_writeFile (content : ByteArray) :
    Work.Keeps (Tracked start output complete needs) (Work.writeFile path content) := by
  refine Work.Keeps.bind ?_ fun _ => Work.keeps_fill (beside.keeps_write guarded)
  exact keeps_spared guarded
    (fun _ safe _ touched => beside.spared guarded safe.grows (.inr touched)) (by simp)

end Beside

section Other

variable (besideOutput : Beside start output other)
  (besideCopy : Beside start output (asidePath other))
include besideOutput besideCopy

theorem keeps_moveAside :
    Work.Keeps (Tracked start output complete needs) (moveAside other) := by
  refine (besideCopy.keeps_clear guarded).bind fun _ => ?_
  exact (besideOutput.keeps_rename guarded besideCopy).bind fun _ => ensures_noted _

theorem keeps_moveBack :
    Work.Keeps (Tracked start output complete needs) (moveBack other) := by
  refine (besideOutput.keeps_clear guarded).bind fun _ => ?_
  exact (besideCopy.keeps_rename guarded besideOutput).bind fun _ => ensures_noted _

end Other

/-- The lock of a version may change at any time. -/
theorem keeps_unlock {slot : FilePath} (isSlot : IsSlot output slot) (writable : Bool) :
    Work.Keeps (Tracked start output complete needs)
      (Work.perform (.setWritable slot writable)) :=
  ensures_step (fun _ _ safe applied => safe.setWritable guarded isSlot applied)
    (safe_of_shows (by simp))

/-- A version may be deleted while the other slot is needed. -/
theorem keeps_delete {slot : FilePath} (isSlot : IsSlot output slot)
    (other : ∀ need ∈ needs, need ≠ slot) (some : needs ≠ []) :
    Work.Keeps (Tracked start output complete needs) (delete slot) := by
  refine (keeps_unlock guarded isSlot true).bind fun _ => ?_
  exact ensures_step (fun _ _ safe applied => safe.remove guarded isSlot other some applied)
    (safe_of_shows (by simp))

theorem keeps_clear {slot : FilePath} (isSlot : IsSlot output slot)
    (other : ∀ need ∈ needs, need ≠ slot) (some : needs ≠ []) :
    Work.Keeps (Tracked start output complete needs) (clear slot) := by
  refine Work.keeps_files.bind fun tree => ?_
  split
  · exact keeps_delete guarded isSlot other some
  · exact Work.keeps_pure

/-- A version moves from one slot to the other. -/
theorem ensures_exchange {source target : FilePath} (isSource : IsSlot output source)
    (isTarget : IsSlot output target) :
    Work.Ensures (Tracked start output complete [source])
      (Work.perform (.rename source target))
      (fun _ => Tracked start output complete [target])
      (fun _ => Tracked start output complete [source]) := by
  apply ensures_step
  · intro tree after safe applied
    apply ((safe.fewer (by simp)).rename guarded isTarget _ _ (by simp) applied)
    · intro place located
      exact guarded.plain_at isSource (guarded.locate_stripped isSource safe.grows located)
    · intro place node located found
      exact safe.whole source place node isSource
        (guarded.locate_stripped isSource safe.grows located) found
  · exact safe_of_shows (by simp)

/-- An output that was moved aside has its copy. -/
theorem ensures_moveAside :
    Work.Ensures (Tracked start output complete [output]) (moveAside output)
      (fun _ => Tracked start output complete [asidePath output])
      (fun _ => Tracked start output complete [output]) := by
  refine Work.Ensures.bind (keeps_clear guarded (.inr rfl) ?_ (by simp)) fun _ => ?_
  · simpa using (asidePath_ne output).symm
  · exact (ensures_exchange guarded (.inl rfl) (.inr rfl)).bind fun _ => ensures_noted _

/-- An output that was moved back is at its place. -/
theorem ensures_moveBack :
    Work.Ensures (Tracked start output complete [asidePath output]) (moveBack output)
      (fun _ => Tracked start output complete [output])
      (fun _ => Tracked start output complete [asidePath output]) := by
  refine Work.Ensures.bind (keeps_clear guarded (.inl rfl) ?_ (by simp)) fun _ => ?_
  · simpa using asidePath_ne output
  · exact (ensures_exchange guarded (.inr rfl) (.inl rfl)).bind fun _ => ensures_noted _

omit guarded in
/-- A rotation moves some of its outputs in their order. -/
theorem moved_of_start (outputs : List FilePath) :
    Work.Ensures (fun _ => True) (Rotation.start outputs)
      (fun rotation _ => rotation.moved.Sublist outputs) (fun _ _ => True) := by
  have always : ∀ {ε α : Type} (work : Work ε α),
      Work.Keeps (fun _ => True) work := by
    intro ε α work
    refine ⟨fun world _ => ?_⟩
    split <;> trivial
  induction outputs with
  | nil => exact Work.ensures_pure fun _ _ => .slnil
  | cons output rest ih =>
      refine Work.Ensures.bind (always Work.files) fun tree => ?_
      split
      · refine Work.Ensures.bind (always (moveAside output)) fun _ => ih.bind fun rotation => ?_
        exact Work.ensures_pure fun _ among => among.cons_cons output
      · exact ih.weaken (fun _ => id) (fun _ _ among => among.cons output) (fun _ _ => id)

/-- Either the output is there or its copy is. -/
theorem ensures_either {ε α : Type} {present absent : Work ε α} {done : α → World → Prop}
    {failed : ε → World → Prop}
    (ifPresent : Work.Ensures (Tracked start output complete [output]) present done failed)
    (ifAbsent : Work.Ensures (Tracked start output complete [asidePath output]) absent done
      failed) :
    Work.Ensures (Tracked start output complete [])
      (Work.files >>= fun tree => if tree.leadsToNode output then present else absent) done
      failed := by
  refine Work.Ensures.with_files fun world tracked => ?_
  split
  · next leads =>
      refine ifPresent.weaken ?_ (fun _ _ => id) (fun _ _ => id)
      intro first equal
      subst equal
      have holds := (guarded.leadsToNode_iff (.inl rfl) tracked.now.grows).mp leads
      exact ⟨{ tracked.now with needed := by simpa using ⟨.inl rfl, holds⟩ }, tracked.before⟩
  · next leads =>
      refine ifAbsent.weaken ?_ (fun _ _ => id) (fun _ _ => id)
      intro first equal
      subst equal
      refine ⟨tracked.now.copy_of_absent ?_, tracked.before⟩
      rwa [← guarded.leadsToNode_iff (.inl rfl) tracked.now.grows]

section Outputs

variable {outputs : List FilePath}
  (others : ∀ other ∈ outputs, other ≠ output →
    Beside start output other ∧ Beside start output (asidePath other))
include others

theorem keeps_start (absent : output ∉ outputs) :
    Work.Keeps (Tracked start output complete needs) (Rotation.start outputs) := by
  induction outputs with
  | nil => exact Work.keeps_pure
  | cons other rest ih =>
      have goes := ih (fun each inside => others each (List.mem_cons_of_mem _ inside))
        fun inside => absent (List.mem_cons_of_mem _ inside)
      obtain ⟨besideOutput, besideCopy⟩ := others other List.mem_cons_self
        fun same => absent (same ▸ List.mem_cons_self)
      refine Work.keeps_files.bind fun tree => ?_
      split
      · refine (keeps_moveAside guarded besideOutput besideCopy).bind fun _ => ?_
        exact goes.bind fun _ => Work.keeps_pure
      · exact goes

/-- After the start of a rotation every output of it has its version aside. -/
theorem ensures_start (nodup : outputs.Nodup) (present : output ∈ outputs) :
    Work.Ensures (Tracked start output complete []) (Rotation.start outputs)
      (fun _ => Tracked start output complete [asidePath output])
      (fun _ => Tracked start output complete []) := by
  induction outputs with
  | nil => simp at present
  | cons other rest ih =>
      have restOthers := fun each inside => others each (List.mem_cons_of_mem _ inside)
      rw [List.nodup_cons] at nodup
      by_cases same : other = output
      · subst same
        have goes : Work.Ensures (Tracked start other complete [asidePath other])
            (Rotation.start rest) (fun _ => Tracked start other complete [asidePath other])
            (fun _ => Tracked start other complete []) :=
          ensures_forget (keeps_start guarded restOthers nodup.1)
        have moves : Work.Ensures (Tracked start other complete [other]) (moveAside other)
            (fun _ => Tracked start other complete [asidePath other])
            (fun _ => Tracked start other complete []) :=
          ensures_forget (ensures_moveAside guarded)
        refine ensures_either guarded (moves.bind fun _ => ?_) goes
        exact goes.bind fun _ => Work.ensures_pure fun _ => id
      · obtain ⟨besideOutput, besideCopy⟩ := others other List.mem_cons_self same
        have goes := ih restOthers nodup.2 (List.mem_of_ne_of_mem (Ne.symm same) present)
        refine Work.Ensures.bind Work.keeps_files fun tree => ?_
        split
        · refine Work.Ensures.bind (keeps_moveAside guarded besideOutput besideCopy) fun _ => ?_
          exact goes.bind fun _ => Work.ensures_pure fun _ => id
        · exact goes

/-- A restoration that starts with all versions aside keeps one of each. -/
theorem ensures_restore (nodup : outputs.Nodup) :
    Work.Ensures (Tracked start output complete [asidePath output]) (restore ⟨outputs⟩)
      (fun _ => Tracked start output complete [])
      (fun _ => Tracked start output complete []) := by
  have foreign : ∀ {needs}, ∀ other ∈ outputs, other ≠ output →
      Work.Keeps (Tracked start output complete needs) (moveBack other) := by
    intro needs other inside different
    obtain ⟨besideOutput, besideCopy⟩ := others other inside different
    exact keeps_moveBack guarded besideOutput besideCopy
  rw [restore]
  clear others
  induction outputs with
  | nil => exact Work.ensures_pure fun _ tracked => tracked.fewer (by simp)
  | cons other rest ih =>
      have restForeign : ∀ {needs}, ∀ each ∈ rest, each ≠ output →
          Work.Keeps (Tracked start output complete needs) (moveBack each) :=
        fun each inside => foreign each (List.mem_cons_of_mem _ inside)
      rw [List.nodup_cons] at nodup
      by_cases same : other = output
      · subst same
        have moves : Work.Ensures (Tracked start other complete [asidePath other])
            (moveBack other) (fun _ => Tracked start other complete [])
            (fun _ => Tracked start other complete []) :=
          (ensures_moveBack guarded).weaken (fun _ => id)
            (fun _ _ tracked => tracked.fewer (by simp))
            (fun _ _ tracked => tracked.fewer (by simp))
        refine moves.bind fun _ => Work.keeps_forM ?_
        intro each inside
        exact restForeign each inside fun equal => nodup.1 (equal ▸ inside)
      · have keeps : Work.Ensures (Tracked start output complete [asidePath output])
            (moveBack other) (fun _ => Tracked start output complete [asidePath output])
            (fun _ => Tracked start output complete []) :=
          ensures_forget (foreign other List.mem_cons_self same)
        exact keeps.bind fun _ => ih nodup.2 restForeign

/-- The copies may be deleted once the output is there. -/
theorem keeps_discard :
    Work.Keeps (Tracked start output complete [output]) (discard ⟨outputs⟩) := by
  apply Work.keeps_forM
  intro other inside
  by_cases same : other = output
  · subst same
    exact keeps_delete guarded (.inr rfl) (by simpa using (asidePath_ne other).symm) (by simp)
  · exact (others other inside same).2.keeps_delete guarded

end Outputs

end Tracked

end Rotation

end Tablewright
