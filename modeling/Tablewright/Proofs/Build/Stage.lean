import Mathlib.Data.List.Nodup
import Tablewright.Proofs.Build.Exchange

namespace Tablewright

/-- This function is the place that a path leads to. -/
def FileTree.placeOf (tree : FileTree) (path : FilePath) : Location :=
  (tree.locate false path).toOption.getD []

theorem FileTree.placeOf_eq {tree : FileTree} {path : FilePath} {place : Location}
    (located : tree.locate false path = .ok place) : tree.placeOf path = place := by
  rw [placeOf, located]
  rfl

namespace Rotation

open FileTree (SameWays Moved)

/-- Outputs are different files, and none is the copy of another. They and their copies are files
or absent. -/
structure Outputs (base : FileTree) (outputs : List FilePath) : Prop where
  nodup : outputs.Nodup
  regular : ∀ output ∈ outputs, ∀ slot, IsSlot output slot → base.Regular slot
  different : ∀ one ∈ outputs, ∀ other ∈ outputs, one ≠ other → ∀ place,
    base.locate false one = .ok place → base.locate false other ≠ .ok place
  notCopy : ∀ one ∈ outputs, ∀ other ∈ outputs, one ≠ other → ∀ place,
    base.locate false one = .ok place → base.locate false (asidePath other) ≠ .ok place

/-- Outputs in one folder are as a rotation needs them when their names differ, none is the name of
another copy, and files or nothing stand there. -/
theorem outputs_of_folder {base : FileTree} {outputs : List FilePath} {folder : Location}
    (seats : ∀ output ∈ outputs, base.Seat output folder)
    (proper : ∀ output ∈ outputs, FileTree.IsProperName output.last)
    (names : (outputs.map FilePath.last).Nodup)
    (notCopy : ∀ one ∈ outputs, ∀ other ∈ outputs, one.last ≠ (asidePath other).last)
    (free : ∀ output ∈ outputs, ∀ added ∈ ["", ending],
      Node.IsFileOrNothing (base.node? (folder ++ [output.last ++ added]))) :
    Outputs base outputs := by
  have place : ∀ output ∈ outputs, ∀ {there}, base.locate false output = .ok there →
      there = folder ++ [output.last] := fun output inside _ located =>
    (((seats output inside).locate_iff (proper output inside)).mp located).2.2
  have copyPlace : ∀ output ∈ outputs, ∀ {there},
      base.locate false (asidePath output) = .ok there →
        there = folder ++ [(asidePath output).last] := by
    intro output inside there located
    have seat : base.Seat (asidePath output) folder :=
      FileTree.Seat.withEnding_iff.mpr (seats output inside)
    exact ((seat.locate_iff (asidePath_proper output)).mp located).2.2
  refine ⟨List.Nodup.of_map FilePath.last names, ?_, ?_, ?_⟩
  · intro output inside slot either there located
    rcases either with rfl | rfl
    · rw [place slot inside located]
      simpa using free slot inside "" (by simp)
    · rw [copyPlace output inside located]
      exact free output inside ending (by simp)
  · intro one oneInside other otherInside different there located otherLocated
    have same := (place one oneInside located).symm.trans (place other otherInside otherLocated)
    exact different (List.inj_on_of_nodup_map names oneInside otherInside
      (List.append_singleton_inj.mp same).2)
  · intro one oneInside other otherInside _ there located otherLocated
    have same := (place one oneInside located).symm.trans
      (copyPlace other otherInside otherLocated)
    exact notCopy one oneInside other otherInside (List.append_singleton_inj.mp same).2

/-- An output is movable when it is a file and its copy has a place. -/
structure Movable (base : FileTree) (output : FilePath) : Prop where
  located : ∀ slot, IsSlot output slot → base.locate false slot = .ok (base.placeOf slot)
  file : ∃ content writable, base.node? (base.placeOf output) = some (.file content writable)

/-- Some outputs stand aside, others were moved back from there, and all else is as before. -/
structure Stage (base : FileTree) (aside back : List FilePath) (tree : FileTree) : Prop where
  movable : ∀ output ∈ aside ++ back, Movable base output
  here : tree.here = base.here
  movedAside : ∀ output ∈ aside, tree.node? (base.placeOf output) = none ∧
    tree.node? (base.placeOf (asidePath output)) = base.node? (base.placeOf output)
  movedBack : ∀ output ∈ back, tree.node? (base.placeOf output) = base.node? (base.placeOf output) ∧
    tree.node? (base.placeOf (asidePath output)) = none
  kept : ∀ location, (∀ output ∈ aside ++ back, ∀ slot, IsSlot output slot →
    location ≠ base.placeOf slot) → tree.node? location = base.node? location

/-- Two outputs share no place. -/
def Disjoint (base : FileTree) (one other : FilePath) : Prop :=
  ∀ slot otherSlot, IsSlot one slot → IsSlot other otherSlot →
    base.placeOf slot ≠ base.placeOf otherSlot

theorem Disjoint.symm {base : FileTree} {one other : FilePath}
    (disjoint : Disjoint base one other) : Disjoint base other one :=
  fun slot otherSlot isSlot isOther => (disjoint otherSlot slot isOther isSlot).symm

section Steps

variable {base tree after : FileTree} {aside back : List FilePath} {output : FilePath}

/-- The tree before a rotation is the first stage. -/
theorem Stage.first (base : FileTree) : Stage base [] [] base :=
  ⟨by simp, rfl, by simp, by simp, fun _ _ => rfl⟩

/-- The order of the outputs does not matter to a stage. -/
theorem Stage.of_mem (stage : Stage base aside back tree) {others rest : List FilePath}
    (sameAside : ∀ output, output ∈ others ↔ output ∈ aside)
    (sameBack : ∀ output, output ∈ rest ↔ output ∈ back) : Stage base others rest tree := by
  have same : ∀ output, output ∈ others ++ rest ↔ output ∈ aside ++ back := by
    intro output
    rw [List.mem_append, List.mem_append, sameAside, sameBack]
  refine ⟨?_, stage.here, ?_, ?_, ?_⟩
  · exact fun output inside => stage.movable output ((same output).mp inside)
  · exact fun output inside => stage.movedAside output ((sameAside output).mp inside)
  · exact fun output inside => stage.movedBack output ((sameBack output).mp inside)
  · exact fun location free =>
      stage.kept location fun output inside => free output ((same output).mpr inside)

/-- An output that shares no place with those of a stage is as before. -/
theorem Stage.kept_slot (stage : Stage base aside back tree)
    (apart : ∀ other ∈ aside ++ back, Disjoint base output other) {slot : FilePath}
    (isSlot : IsSlot output slot) :
    tree.node? (base.placeOf slot) = base.node? (base.placeOf slot) :=
  stage.kept _ fun other inside otherSlot isOther =>
    apart other inside slot otherSlot isSlot isOther

/-- One more output is moved aside. -/
theorem Stage.goAside (stage : Stage base aside back tree) (movable : Movable base output)
    (apart : ∀ other ∈ aside ++ back, Disjoint base output other)
    (moved : Moved tree after (base.placeOf output) (base.placeOf (asidePath output))) :
    Stage base (output :: aside) back after := by
  have elsewhere : ∀ other ∈ aside ++ back, ∀ slot, IsSlot other slot →
      after.node? (base.placeOf slot) = tree.node? (base.placeOf slot) := by
    intro other inside slot isSlot
    apply moved.kept
    · exact (apart other inside _ slot (.inl rfl) isSlot).symm
    · exact (apart other inside _ slot (.inr rfl) isSlot).symm
  refine ⟨?_, moved.here.trans stage.here, ?_, ?_, ?_⟩
  · intro other inside
    obtain rfl | before := List.mem_cons.mp inside
    · exact movable
    · exact stage.movable other before
  · intro other inside
    obtain rfl | before := List.mem_cons.mp inside
    · refine ⟨moved.gone, ?_⟩
      rw [moved.moved, stage.kept_slot apart (.inl rfl)]
    · have there := List.mem_append_left back before
      rw [elsewhere other there other (.inl rfl), elsewhere other there _ (.inr rfl)]
      exact stage.movedAside other before
  · intro other before
    have there := List.mem_append_right aside before
    rw [elsewhere other there other (.inl rfl), elsewhere other there _ (.inr rfl)]
    exact stage.movedBack other before
  · intro location free
    rw [moved.kept location (free output List.mem_cons_self output (.inl rfl))
      (free output List.mem_cons_self _ (.inr rfl))]
    exact stage.kept location fun other inside =>
      free other (List.mem_cons_of_mem output inside)

/-- The last output that was moved aside is moved back. -/
theorem Stage.goBack (stage : Stage base (output :: aside) back tree)
    (apart : ∀ other ∈ aside ++ back, Disjoint base output other)
    (moved : Moved tree after (base.placeOf (asidePath output)) (base.placeOf output)) :
    Stage base aside (output :: back) after := by
  have elsewhere : ∀ other ∈ aside ++ back, ∀ slot, IsSlot other slot →
      after.node? (base.placeOf slot) = tree.node? (base.placeOf slot) := by
    intro other inside slot isSlot
    apply moved.kept
    · exact (apart other inside _ slot (.inr rfl) isSlot).symm
    · exact (apart other inside _ slot (.inl rfl) isSlot).symm
  have same : ∀ other, other ∈ aside ++ output :: back ↔ other ∈ output :: aside ++ back := by
    intro other
    simp only [List.mem_append, List.mem_cons]
    rw [or_left_comm, or_assoc]
  refine ⟨?_, moved.here.trans stage.here, ?_, ?_, ?_⟩
  · exact fun other inside => stage.movable other ((same other).mp inside)
  · intro other before
    have there := List.mem_append_left back before
    rw [elsewhere other there other (.inl rfl), elsewhere other there _ (.inr rfl)]
    exact stage.movedAside other (List.mem_cons_of_mem output before)
  · intro other inside
    obtain rfl | before := List.mem_cons.mp inside
    · refine ⟨?_, moved.gone⟩
      rw [moved.moved]
      exact (stage.movedAside other List.mem_cons_self).2
    · have there := List.mem_append_right aside before
      rw [elsewhere other there other (.inl rfl), elsewhere other there _ (.inr rfl)]
      exact stage.movedBack other before
  · intro location free
    have own := free output (List.mem_append_right aside List.mem_cons_self)
    rw [moved.kept location (own _ (.inr rfl)) (own output (.inl rfl))]
    exact stage.kept location fun other inside => free other ((same other).mpr inside)

end Steps

section Outputs

variable {base tree : FileTree} {outputs aside back : List FilePath}
  {output other : FilePath} (formed : base.WellFormed) (among : Outputs base outputs)

include formed among

/-- Movable outputs that are different share no place. -/
theorem Outputs.disjoint (inside : output ∈ outputs) (otherInside : other ∈ outputs)
    (movable : Movable base output) (otherMovable : Movable base other)
    (different : output ≠ other) : Disjoint base output other := by
  have apart : ∀ {one two}, one ∈ outputs → two ∈ outputs → one ≠ two → Movable base one →
      Movable base two → base.placeOf one ≠ base.placeOf two ∧
        base.placeOf one ≠ base.placeOf (asidePath two) := by
    intro one two oneInside twoInside unequal movesOne movesTwo
    have located := movesOne.located one (.inl rfl)
    constructor
    · intro same
      exact among.different one oneInside two twoInside unequal _ located
        (same ▸ movesTwo.located two (.inl rfl))
    · intro same
      exact among.notCopy one oneInside two twoInside unequal _ located
        (same ▸ movesTwo.located _ (.inr rfl))
  have straight := apart inside otherInside different movable otherMovable
  have crossed := apart otherInside inside different.symm otherMovable movable
  intro slot otherSlot either choice
  rcases either with rfl | rfl <;> rcases choice with rfl | rfl
  · exact straight.1
  · exact straight.2
  · exact crossed.2.symm
  · intro same
    have regular := among.regular output inside output (.inl rfl)
    have otherRegular := among.regular other otherInside other (.inl rfl)
    obtain ⟨_, folder, seat, place⟩ := regular.seat formed (movable.located output (.inl rfl))
    obtain ⟨_, otherFolder, otherSeat, otherPlace⟩ :=
      otherRegular.seat formed (otherMovable.located other (.inl rfl))
    have copySeat : base.Seat (asidePath output) folder := FileTree.Seat.withEnding_iff.mpr seat
    have otherCopySeat : base.Seat (asidePath other) otherFolder :=
      FileTree.Seat.withEnding_iff.mpr otherSeat
    obtain ⟨_, _, copy⟩ := (copySeat.locate_iff (asidePath_proper output)).mp
      (movable.located _ (.inr rfl))
    obtain ⟨_, _, otherCopy⟩ := (otherCopySeat.locate_iff (asidePath_proper other)).mp
      (otherMovable.located _ (.inr rfl))
    rw [copy, otherCopy] at same
    obtain ⟨rfl, names⟩ := List.append_singleton_inj.mp same
    have lasts : output.last = other.last := by simpa [asidePath_last] using names
    exact straight.1 (place.trans (lasts ▸ otherPlace.symm))

/-- A version is a file or nothing, and it stands in a directory. -/
theorem Outputs.slot (inside : output ∈ outputs) (movable : Movable base output)
    {slot : FilePath} (isSlot : IsSlot output slot) :
    Node.IsFileOrNothing (base.node? (base.placeOf slot)) ∧
      base.node? (base.placeOf slot).dropLast = some .directory := by
  refine ⟨among.regular output inside slot isSlot _ (movable.located slot isSlot), ?_⟩
  obtain ⟨_, inFolder, copyInFolder⟩ := copy_beside_output formed
    (among.regular output inside output (.inl rfl)) (movable.located output (.inl rfl))
    (movable.located _ (.inr rfl))
  obtain rfl | rfl := isSlot
  · exact inFolder
  · exact copyInFolder

/-- A version of an output of a stage is a file or nothing. -/
theorem Stage.slot (stage : Stage base aside back tree) (inside : output ∈ aside ++ back)
    (known : output ∈ outputs) {slot : FilePath} (isSlot : IsSlot output slot) :
    Node.IsFileOrNothing (tree.node? (base.placeOf slot)) := by
  have plain := (among.slot formed known (stage.movable output inside) (.inl rfl)).1
  obtain isAside | isBack := List.mem_append.mp inside
  · obtain ⟨gone, copied⟩ := stage.movedAside output isAside
    obtain rfl | rfl := isSlot
    · rw [gone]
      trivial
    · rw [copied]
      exact plain
  · obtain ⟨standing, gone⟩ := stage.movedBack output isBack
    obtain rfl | rfl := isSlot
    · rw [standing]
      exact plain
    · rw [gone]
      trivial

theorem Stage.sameWays (stage : Stage base aside back tree)
    (known : ∀ output ∈ aside ++ back, output ∈ outputs) : base.SameWays tree := by
  apply SameWays.of_files stage.here
  intro location
  by_cases taken : ∃ output ∈ aside ++ back, ∃ slot, IsSlot output slot ∧
      location = base.placeOf slot
  · obtain ⟨output, inside, slot, isSlot, rfl⟩ := taken
    have movable := stage.movable output inside
    exact .inr ⟨(among.slot formed (known output inside) movable isSlot).1,
      stage.slot formed among inside (known output inside) isSlot⟩
  · refine .inl (stage.kept location ?_)
    intro output inside slot isSlot same
    exact taken ⟨output, inside, slot, isSlot, same⟩

theorem Stage.wellFormed (stage : Stage base aside back tree)
    (known : ∀ output ∈ aside ++ back, output ∈ outputs) : tree.WellFormed := by
  intro folder name present
  apply (stage.sameWays formed among known).there.directories
  by_cases taken : ∃ output ∈ aside ++ back, ∃ slot, IsSlot output slot ∧
      folder ++ [name] = base.placeOf slot
  · obtain ⟨output, inside, slot, isSlot, same⟩ := taken
    have inFolder :=
      (among.slot formed (known output inside) (stage.movable output inside) isSlot).2
    rwa [← same, List.dropLast_concat] at inFolder
  · apply formed folder name
    rwa [← stage.kept]
    intro output inside slot isSlot same
    exact taken ⟨output, inside, slot, isSlot, same⟩

end Outputs

end Rotation

end Tablewright
