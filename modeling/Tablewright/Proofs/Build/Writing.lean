import Tablewright.Proofs.Build.Tracking
import Tablewright.Proofs.FileTree.Exchange

namespace Tablewright.Replacement

open FileTree (withoutSlashes)
open Rotation (asidePath IsSlot Guarded Beside Separate Safe Spared Tracked)

/-- In every tree that grows, a path leads to a file with one content or to nothing. -/
def LeadsToContent (start : FileTree) (path : FilePath) (content : ByteArray) (tree : FileTree) :
    Prop :=
  start.GrowsInto tree → ∀ place node, tree.locate false (withoutSlashes path) = .ok place →
    tree.node? place = some node → ∃ writable, node = .file content writable

/-- A plain path that was written leads to the new content. -/
theorem leadsToContent_of_write {start tree after : FileTree} {path : FilePath}
    {content : ByteArray} (plain : start.Plain path) (named : path.last ≠ "")
    (written : tree.write path content = .ok after) :
    LeadsToContent start path content after := by
  intro grows place node located found
  obtain ⟨target, old, writable, reached, standing, rfl⟩ := FileTree.write_ok written
  have below := FileTree.ne_root_of_file standing
  have stays : tree.SameWays (tree.put target (.file content writable)) := .put_file standing
  obtain ⟨near, stopped, same⟩ := FileTree.locate_follow (stays.there.locate reached)
  have noLink := (plain place (FileTree.mayLead_of_locate grows located)).noLink
  rw [FileTree.withoutSlashes_of_last named, stopped] at located
  obtain rfl := Except.ok.inj located
  obtain rfl | ⟨link, linked⟩ := same
  · rw [tree.node?_put below, if_pos rfl] at found
    exact ⟨writable, (Option.some.inj found).symm⟩
  · exact absurd ((grows.links _ _).mp linked) (noLink link)

/-- Whether the directory becomes durable or not, the world stays. -/
theorem ensures_flushParent {path : FilePath} {property : World → Prop} {failed : FileError → World → Prop}
    (fails : ∀ cause world, property world → failed cause world) :
    Work.Ensures property (flushParent path) (fun _ => property) failed := by
  rw [flushParent]
  split
  · exact Work.ensures_pure fun _ => id
  · split
    · refine Work.Ensures.with_files fun world holds => ?_
      refine Work.Ensures.bind (Work.ensures_ofExcept fun cause _ same => ?_) fun _ => ?_
      · exact same ▸ fails cause world holds
      · refine (Work.ensures_flush fails).weaken ?_ (fun _ _ => id) fun _ _ => id
        exact fun _ same => same ▸ holds
    · exact Work.ensures_pure fun _ => id

section Tracked

variable {start : FileTree} {output other : FilePath} {complete : ByteArray → Prop}
  {needs : List FilePath} (guarded : Guarded start output) (copied : asidePath output ∈ needs)
include guarded copied

/-- No directory is made where an output or its copy stands. -/
theorem keeps_makeParents {path : FilePath}
    (notAbove : ∀ folder : FilePath, folder.Above path → start.Apart folder output) :
    Work.Keeps (Tracked start output complete needs) (makeParents path) := by
  rw [makeParents]
  split
  · next parent direct =>
      refine Work.keeps_makeDirectoriesUpTo (fun folder => folder.Above path)
        (.parent direct) (fun _ _ above up => above.up up) ?_
      intro folder above
      apply Rotation.keeps_spared guarded _ (by simp)
      intro tree safe place given
      obtain ⟨located, free⟩ := given
      have leads := FileTree.mayLead_of_locate safe.grows located
      refine ⟨safe.grows.free free, ?_⟩
      intro slot isSlot slotLocated
      obtain rfl | rfl := isSlot
      · exact notAbove folder above place leads (guarded.mayLead (.inl rfl) slotLocated)
      · obtain ⟨_, there, copyLocated, present⟩ := safe.needed _ copied
        rw [slotLocated] at copyLocated
        obtain rfl := Except.ok.inj copyLocated
        simp [free] at present
  · exact Work.keeps_pure

variable (separate : Separate start output other)
include separate

/-- New content of the other output leaves an output alone. -/
theorem keeps_replace_other (back : Separate start other output) (content : ByteArray) :
    Work.Keeps (Tracked start output complete needs) (replace other content) := by
  have parents : Work.Keeps (Tracked start output complete needs) (makeParents other) :=
    keeps_makeParents guarded copied fun folder above => separate.notAbove folder (.inr above)
  refine parents.mapError.bind fun _ => ?_
  split
  · exact Work.keeps_throw
  · next temporary found =>
      have beside := separate.temporary_beside back found
      refine (Work.Keeps.bind (beside.keeps_writeFile guarded content) fun _ => ?_).mapError
      refine Work.keeps_flush.bind fun _ => Work.Keeps.bind ?_ fun _ =>
        ensures_flushParent fun _ _ => id
      exact beside.keeps_rename guarded (separate.other_beside back)

/-- An output that was replaced is there. -/
theorem ensures_replace {content : ByteArray} (whole : complete content) :
    Work.Ensures (Tracked start output complete needs) (replace output content)
      (fun _ => Tracked start output complete (output :: needs))
      (fun _ => Tracked start output complete needs) := by
  have parents : Work.Keeps (Tracked start output complete needs) (makeParents output) :=
    keeps_makeParents guarded copied fun folder above => separate.notAbove folder (.inl above)
  refine Work.Ensures.bind parents.mapError fun _ => ?_
  split
  · exact Work.ensures_throw fun _ => id
  next temporary found =>
  have beside := separate.own_temporary_beside guarded found
  have named := (temporaryPath_last found).1.1
  have opened : Work.Keeps (Tracked start output complete needs)
      (Work.perform (.create temporary)) :=
    Rotation.keeps_spared guarded
      (fun _ safe _ touched => beside.spared guarded safe.grows (.inr touched)) (by simp)
  have written : Work.Ensures (Tracked start output complete needs)
      (Work.perform (.write temporary content))
      (fun _ world => Tracked start output complete needs world ∧
        LeadsToContent start temporary content world.files)
      (fun _ => Tracked start output complete needs) := by
    have leads : Work.Ensures (Tracked start output complete needs)
        (Work.perform (.write temporary content))
        (fun _ world => LeadsToContent start temporary content world.files) (fun _ _ => True) :=
      Work.ensures_perform
        (fun _ _ _ applied => leadsToContent_of_write beside.plain named applied)
        (fun _ _ _ _ => trivial)
    exact ((beside.keeps_write guarded content).and leads).weaken (fun _ => id) (fun _ _ => id)
      fun _ _ both => both.1
  have filled := Work.Ensures.bind opened fun _ => Work.ensures_fill written fun _ =>
    (beside.keeps_write guarded _).weaken (fun _ => id) (fun _ _ tracked _ => tracked)
      fun _ _ => id
  refine Work.ensures_mapError (filled.bind fun _ =>
    (Work.ensures_flush fun _ _ both => both.1).bind fun _ => Work.Ensures.bind
      (Rotation.ensures_known_step ?_ (Rotation.safe_of_shows (by simp))) fun _ =>
        ensures_flushParent fun _ _ tracked => tracked.fewer fun _ => List.mem_cons_of_mem _)
  intro tree after safe known applied
  have spared : ∀ place, tree.locate false (withoutSlashes temporary) = .ok place →
      Spared start output place :=
    fun place located => beside.spared guarded safe.grows (.inl located)
  refine safe.rename guarded (.inl rfl) ?_ ?_ ?_ applied
  · exact fun place located => (spared place located).plain
  · intro place node located standing
    obtain ⟨writable, rfl⟩ := known safe.grows place node located standing
    exact ⟨content, writable, rfl, whole⟩
  · intro need inside place located
    exact (spared place located).free need (safe.needed need inside).1

end Tracked

end Tablewright.Replacement
