import Tablewright.Proofs.Build.Paths
import Tablewright.Proofs.FileTree.Change

namespace Tablewright.Rotation

open FileTree (Seat IsProperName withoutSlashes)

/-- A version of an output stands at its path or at the path of its copy. -/
def IsSlot (output path : FilePath) : Prop :=
  path = output ∨ path = asidePath output

/-- An output is guarded when it has a seat in a well-formed tree, and neither it nor its copy may
lead to a directory or a link. -/
structure Guarded (start : FileTree) (output : FilePath) : Prop where
  formed : start.WellFormed
  plain : ∀ slot, IsSlot output slot → start.Plain slot
  seated : ∃ folder, start.Seat output folder

/-- A path holds a node in a later tree at the place where it led at the start. -/
def Holds (start tree : FileTree) (path : FilePath) : Prop :=
  ∃ place, start.locate false path = .ok place ∧ (tree.node? place).isSome

/-- A tree is safe for an output when it has a complete version and no other one. Some slots may
be needed to hold a version. -/
structure Safe (start : FileTree) (output : FilePath) (complete : ByteArray → Prop)
    (needs : List FilePath) (tree : FileTree) : Prop where
  grows : start.GrowsInto tree
  whole : ∀ slot place node, IsSlot output slot → start.locate false slot = .ok place →
    tree.node? place = some node →
      ∃ content writable, node = .file content writable ∧ complete content
  kept : ∃ slot, IsSlot output slot ∧ Holds start tree slot
  needed : ∀ slot ∈ needs, IsSlot output slot ∧ Holds start tree slot

/-- A place is spared when the tree had a file or nothing there and no version stands there. -/
structure Spared (start : FileTree) (output : FilePath) (place : Location) : Prop where
  plain : Node.IsFileOrNothing (start.node? place)
  free : ∀ slot, IsSlot output slot → start.locate false slot ≠ .ok place

section Guarded

variable {start tree : FileTree} {output slot : FilePath} {place : Location}

theorem Guarded.seat (guarded : Guarded start output) (isSlot : IsSlot output slot) :
    ∃ folder, start.Seat slot folder := by
  obtain ⟨folder, seat⟩ := guarded.seated
  obtain rfl | rfl := isSlot
  · exact ⟨folder, seat⟩
  · exact ⟨folder, Seat.withEnding_iff.mpr seat⟩

theorem Guarded.proper (guarded : Guarded start output) (isSlot : IsSlot output slot)
    (some : slot.text ≠ "") : IsProperName slot.last := by
  obtain ⟨folder, seat⟩ := guarded.seat isSlot
  exact seat.proper guarded.formed (.refl start) (guarded.plain slot isSlot) seat.directory some

theorem Guarded.proper_of_locate (guarded : Guarded start output) (isSlot : IsSlot output slot)
    (located : start.locate false slot = .ok place) : IsProperName slot.last :=
  guarded.proper isSlot (FileTree.locate_iff.mp located).1.1

/-- A slot leads where it led at the start. -/
theorem Guarded.locate_grown (guarded : Guarded start output) (isSlot : IsSlot output slot)
    (grows : start.GrowsInto tree) {follow : Bool} :
    tree.locate follow slot = .ok place ↔ start.locate false slot = .ok place := by
  obtain ⟨folder, seat⟩ := guarded.seat isSlot
  exact seat.locate_grown guarded.formed (guarded.plain slot isSlot) grows

theorem Guarded.locate_stripped (guarded : Guarded start output) (isSlot : IsSlot output slot)
    (grows : start.GrowsInto tree) :
    tree.locate false (withoutSlashes slot) = .ok place → start.locate false slot = .ok place := by
  intro located
  by_cases some : slot.text = ""
  · obtain ⟨folders, last⟩ := slot
    obtain ⟨rfl, rfl⟩ : folders = [] ∧ last = "" := (FilePath.text_eq_empty_iff _).mp some
    cases located
  · rw [FileTree.withoutSlashes_of_last (guarded.proper isSlot some).1] at located
    exact (guarded.locate_grown isSlot grows).mp located

theorem Guarded.mayLead (guarded : Guarded start output) (isSlot : IsSlot output slot)
    (located : start.locate false slot = .ok place) : start.MayLead slot place := by
  apply FileTree.mayLead_of_locate (.refl start)
  rw [FileTree.withoutSlashes_of_last (guarded.proper_of_locate isSlot located).1]
  exact located

theorem Guarded.plain_at (guarded : Guarded start output) (isSlot : IsSlot output slot)
    (located : start.locate false slot = .ok place) :
    Node.IsFileOrNothing (start.node? place) :=
  guarded.plain slot isSlot place (guarded.mayLead isSlot located)

/-- Only directories stand above a slot. -/
theorem Guarded.eq_of_above (guarded : Guarded start output) (isSlot : IsSlot output slot)
    (located : start.locate false slot = .ok place) {above : Location}
    (prefixed : above <+: place) (plain : Node.IsFileOrNothing (start.node? above)) :
    above = place := by
  obtain ⟨folder, seat⟩ := guarded.seat isSlot
  have proper := guarded.proper_of_locate isSlot located
  obtain ⟨_, _, rfl⟩ := (seat.locate_iff proper).mp located
  obtain same | inFolder := List.prefix_concat_iff.mp prefixed
  · exact same
  · by_cases folderItself : above = folder
    · subst folderItself
      exact absurd seat.directory plain.noDirectory
    · have directory := guarded.formed.directory_above inFolder (by simp [seat.directory])
        folderItself
      exact absurd directory plain.noDirectory

/-- An output and its copy stand at different places. -/
theorem Guarded.slots_differ (guarded : Guarded start output) {first second : FilePath}
    (isFirst : IsSlot output first) (isSecond : IsSlot output second)
    (firstLocated : start.locate false first = .ok place)
    (secondLocated : start.locate false second = .ok place) : first = second := by
  have different : ∀ {place}, start.locate false output = .ok place →
      start.locate false (asidePath output) ≠ .ok place := by
    intro place here aside
    obtain ⟨folder, seat⟩ := guarded.seated
    obtain ⟨_, _, one⟩ := (seat.locate_iff (guarded.proper_of_locate (.inl rfl) here)).mp here
    obtain ⟨_, _, other⟩ :=
      ((Seat.withEnding_iff.mpr seat).locate_iff (asidePath_proper output)).mp aside
    exact place_ne_copy folder output (one.symm.trans other)
  obtain rfl | rfl := isFirst
  · obtain rfl | rfl := isSecond
    · rfl
    · exact absurd secondLocated (different firstLocated)
  · obtain rfl | rfl := isSecond
    · exact absurd firstLocated (different secondLocated)
    · rfl

/-- A slot leads to a node exactly if it holds one. -/
theorem Guarded.leadsToNode_iff (guarded : Guarded start output) (isSlot : IsSlot output slot)
    (grows : start.GrowsInto tree) :
    tree.leadsToNode slot = true ↔ Holds start tree slot := by
  rw [FileTree.leadsToNode_iff]
  constructor
  · intro leads
    obtain ⟨place, node, located, found⟩ := leads
    refine ⟨place, (guarded.locate_grown isSlot grows).mp located, ?_⟩
    rw [found]
    rfl
  · intro given
    obtain ⟨place, located, present⟩ := given
    obtain ⟨node, found⟩ := Option.isSome_iff_exists.mp present
    exact ⟨place, node, (guarded.locate_grown isSlot grows).mpr located, found⟩

end Guarded

namespace Safe

variable {start tree after : FileTree} {output slot : FilePath} {complete : ByteArray → Prop}
  {needs : List FilePath}

theorem fewer (safe : Safe start output complete needs tree) {others : List FilePath}
    (among : ∀ path ∈ others, path ∈ needs) : Safe start output complete others tree :=
  { safe with needed := fun path inside => safe.needed path (among path inside) }

theorem mono (safe : Safe start output complete needs tree) {more : ByteArray → Prop}
    (includes : ∀ content, complete content → more content) :
    Safe start output more needs tree :=
  { safe with
    whole := by
      intro slot place node isSlot located found
      obtain ⟨content, writable, same, whole⟩ := safe.whole slot place node isSlot located found
      exact ⟨content, writable, same, includes content whole⟩ }

/-- What a slot leads to is a complete file. -/
theorem nodeAt_whole (guarded : Guarded start output)
    (safe : Safe start output complete needs tree) (isSlot : IsSlot output slot) {node : Node}
    (found : tree.nodeAt slot = .ok node) :
    ∃ content writable, node = .file content writable ∧ complete content := by
  obtain ⟨place, located, present⟩ := FileTree.nodeAt_iff.mp found
  exact safe.whole slot place node isSlot ((guarded.locate_grown isSlot safe.grows).mp located)
    present

/-- One of the two slots that does not hold a node leaves the other to hold one. -/
theorem copy_of_absent (safe : Safe start output complete needs tree)
    (absent : ¬ Holds start tree output) : Safe start output complete [asidePath output] tree := by
  obtain ⟨slot, isSlot, holds⟩ := safe.kept
  obtain rfl | rfl := isSlot
  · exact absurd holds absent
  · exact { safe with needed := by simpa using ⟨.inr rfl, holds⟩ }

/-- A step that touches spared places only keeps a tree safe. -/
theorem spare (guarded : Guarded start output) (safe : Safe start output complete needs tree)
    {change : FileChange} (applied : tree.apply change = .ok after)
    (spares : ∀ place, tree.Touches place change → Spared start output place) :
    Safe start output complete needs after := by
  have same : ∀ {slot place}, IsSlot output slot → start.locate false slot = .ok place →
      after.node? place = tree.node? place := by
    intro slot place isSlot located
    apply FileTree.apply_frame applied
    intro touched touches above
    have spared := spares touched touches
    obtain rfl := guarded.eq_of_above isSlot located above spared.plain
    exact spared.free slot isSlot located
  have holds : ∀ {slot}, IsSlot output slot → Holds start tree slot → Holds start after slot := by
    intro slot isSlot given
    obtain ⟨place, located, present⟩ := given
    exact ⟨place, located, by rwa [same isSlot located]⟩
  refine ⟨safe.grows.apply guarded.formed applied fun place touches => (spares place touches).plain,
    ?_, ?_, ?_⟩
  · intro slot place node isSlot located found
    rw [same isSlot located] at found
    exact safe.whole slot place node isSlot located found
  · obtain ⟨slot, isSlot, present⟩ := safe.kept
    exact ⟨slot, isSlot, holds isSlot present⟩
  · intro slot need
    obtain ⟨isSlot, present⟩ := safe.needed slot need
    exact ⟨isSlot, holds isSlot present⟩

/-- A slot that gets a complete file holds it, whatever else is needed. -/
theorem put (guarded : Guarded start output) (safe : Safe start output complete needs tree)
    (isSlot : IsSlot output slot) {place : Location} (located : start.locate false slot = .ok place)
    {content : ByteArray} {writable : Bool} (whole : complete content)
    (grows : start.GrowsInto (tree.put place (.file content writable))) :
    Safe start output complete (slot :: needs) (tree.put place (.file content writable)) := by
  have below : place ≠ [] := by
    intro equal
    subst equal
    exact guarded.plain_at isSlot located
  have holds : ∀ {other}, Holds start tree other →
      Holds start (tree.put place (.file content writable)) other := by
    intro other given
    obtain ⟨there, otherLocated, present⟩ := given
    refine ⟨there, otherLocated, ?_⟩
    rw [tree.node?_put below]
    split
    · rfl
    · exact present
  refine ⟨grows, ?_, ?_, ?_⟩
  · intro other there node isOther otherLocated found
    rw [tree.node?_put below] at found
    split at found
    · exact ⟨content, writable, (Option.some.inj found).symm, whole⟩
    · exact safe.whole other there node isOther otherLocated found
  · obtain ⟨other, isOther, present⟩ := safe.kept
    exact ⟨other, isOther, holds present⟩
  · intro other need
    obtain rfl | before := List.mem_cons.mp need
    · refine ⟨isSlot, place, located, ?_⟩
      rw [tree.node?_put below, if_pos rfl]
      rfl
    · exact ⟨(safe.needed other before).1, holds (safe.needed other before).2⟩

/-- The lock of a version may change. -/
theorem setWritable (guarded : Guarded start output)
    (safe : Safe start output complete needs tree) (isSlot : IsSlot output slot) {writable : Bool}
    (applied : tree.apply (.setWritable slot writable) = .ok after) :
    Safe start output complete needs after := by
  have grows : start.GrowsInto after := by
    apply safe.grows.apply guarded.formed applied
    intro place touched
    exact guarded.plain_at isSlot ((guarded.locate_grown isSlot safe.grows).mp touched)
  obtain rfl | ⟨place, content, before, located, found, rfl⟩ :=
    FileTree.setWritable_ok applied
  · exact safe
  · have old := (guarded.locate_grown isSlot safe.grows).mp located
    obtain ⟨_, _, same, whole⟩ := safe.whole slot place _ isSlot old found
    obtain ⟨rfl, rfl⟩ := Node.file.inj same
    exact (safe.put guarded isSlot old whole grows).fewer fun _ => List.mem_cons_of_mem _

/-- A version may be removed while the other slot holds one. -/
theorem remove (guarded : Guarded start output) (safe : Safe start output complete needs tree)
    (isSlot : IsSlot output slot) (other : ∀ need ∈ needs, need ≠ slot) (some : needs ≠ [])
    (applied : tree.apply (.remove slot) = .ok after) :
    Safe start output complete needs after := by
  obtain ⟨place, _, located, _, _, _, rfl⟩ := FileTree.remove_ok applied
  have old := guarded.locate_stripped isSlot safe.grows located
  have below : place ≠ [] := by
    intro equal
    subst equal
    exact guarded.plain_at isSlot old
  have grows : start.GrowsInto (tree.erase place) := by
    apply safe.grows.apply guarded.formed applied
    intro touched touches
    exact guarded.plain_at isSlot (guarded.locate_stripped isSlot safe.grows touches)
  have stays : ∀ need ∈ needs, IsSlot output need ∧ Holds start (tree.erase place) need := by
    intro need inside
    obtain ⟨isNeed, there, needLocated, present⟩ := safe.needed need inside
    refine ⟨isNeed, there, needLocated, ?_⟩
    rw [tree.node?_erase below, if_neg]
    · exact present
    · intro equal
      subst equal
      exact other need inside (guarded.slots_differ isNeed isSlot needLocated old)
  refine ⟨grows, ?_, ?_, stays⟩
  · intro first there node isFirst firstLocated found
    rw [tree.node?_erase below] at found
    split at found
    · cases found
    · exact safe.whole first there node isFirst firstLocated found
  · obtain ⟨need, inside⟩ := List.exists_mem_of_ne_nil _ some
    exact ⟨need, stays need inside⟩

/-- A complete file may be renamed to a slot from a plain path. The slot it stood at before
holds nothing afterwards. -/
theorem rename (guarded : Guarded start output) (safe : Safe start output complete needs tree)
    (isSlot : IsSlot output slot) {source : FilePath}
    (sourcePlain : ∀ place, tree.locate false (withoutSlashes source) = .ok place →
      Node.IsFileOrNothing (start.node? place))
    (sourceWhole : ∀ place node, tree.locate false (withoutSlashes source) = .ok place →
      tree.node? place = some node →
        ∃ content writable, node = .file content writable ∧ complete content)
    (others : ∀ need ∈ needs, ∀ place, tree.locate false (withoutSlashes source) = .ok place →
      start.locate false need ≠ .ok place)
    (applied : tree.apply (.rename source slot) = .ok after) :
    Safe start output complete (slot :: needs) after := by
  obtain ⟨origin, goal, sourceLocated, slotLocated, present, effect⟩ := FileTree.rename_ok applied
  have old := guarded.locate_stripped isSlot safe.grows slotLocated
  have goalPlain := guarded.plain_at isSlot old
  have grows : start.GrowsInto after := by
    apply safe.grows.apply guarded.formed applied
    intro place either
    rcases either with touched | touched
    · exact sourcePlain place touched
    · exact guarded.plain_at isSlot (guarded.locate_stripped isSlot safe.grows touched)
  obtain ⟨rfl, rfl⟩ | ⟨rfl, root, outside⟩ := effect
  · refine { safe with needed := ?_ }
    intro need inside
    obtain rfl | before := List.mem_cons.mp inside
    · exact ⟨isSlot, origin, old, present⟩
    · exact safe.needed need before
  have below : goal ≠ [] := by
    intro equal
    subst equal
    exact goalPlain
  have moved : (tree.move origin goal).node? goal = tree.node? origin := by
    simpa using tree.node?_move_target root below [] (by simpa using outside)
  have notBelow : ∀ {other there}, IsSlot output other → start.locate false other = .ok there →
      there ≠ goal → ¬ goal <+: there := by
    intro other there isOther otherLocated different above
    exact different (guarded.eq_of_above isOther otherLocated above goalPlain).symm
  have holds : IsSlot output slot ∧ Holds start (tree.move origin goal) slot :=
    ⟨isSlot, goal, old, by rwa [moved]⟩
  refine ⟨grows, ?_, ⟨slot, holds⟩, ?_⟩
  · intro other there node isOther otherLocated found
    by_cases here : there = goal
    · subst here
      rw [moved] at found
      exact sourceWhole origin node sourceLocated found
    · by_cases left : origin <+: there
      · rw [tree.node?_move_source root left (notBelow isOther otherLocated here)] at found
        cases found
      · rw [tree.node?_move_other left (notBelow isOther otherLocated here)] at found
        exact safe.whole other there node isOther otherLocated found
  · intro need inside
    obtain rfl | before := List.mem_cons.mp inside
    · exact holds
    obtain ⟨isNeed, there, needLocated, standing⟩ := safe.needed need before
    refine ⟨isNeed, there, needLocated, ?_⟩
    by_cases here : there = goal
    · subst here
      rwa [moved]
    · have left : ¬ origin <+: there := by
        intro above
        have same := guarded.eq_of_above isNeed needLocated above (sourcePlain origin sourceLocated)
        exact others need before origin sourceLocated (same ▸ needLocated)
      rwa [tree.node?_move_other left (notBelow isNeed needLocated here)]

end Safe

end Tablewright.Rotation
