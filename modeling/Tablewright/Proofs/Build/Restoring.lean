import Tablewright.Proofs.Build.Stage

namespace Tablewright.Rotation

open FileTree (SameWays Moved)

variable {base : FileTree} {outputs aside back : List FilePath} {output : FilePath}
  (formed : base.WellFormed) (among : Outputs base outputs)
include formed among

/-- In a stage all outputs and copies are files or nothing. -/
theorem Stage.regular {tree : FileTree} (stage : Stage base aside back tree)
    (known : ∀ other ∈ aside ++ back, other ∈ outputs) (inside : output ∈ outputs)
    {slot : FilePath} (isSlot : IsSlot output slot) : tree.Regular slot := by
  intro place located
  have same := stage.sameWays formed among known
  by_cases taken : ∃ other ∈ aside ++ back, ∃ otherSlot, IsSlot other otherSlot ∧
      place = base.placeOf otherSlot
  · obtain ⟨other, otherInside, otherSlot, isOther, rfl⟩ := taken
    exact stage.slot formed among otherInside (known other otherInside) isOther
  · rw [stage.kept place]
    · exact among.regular output inside slot isSlot place (same.locate_iff.mp located)
    · intro other otherInside otherSlot isOther equal
      exact taken ⟨other, otherInside, otherSlot, isOther, equal⟩

/-- In a stage an output that was not moved leads to a node exactly if it did before. -/
theorem Stage.leadsToNode_iff {tree : FileTree} (stage : Stage base aside back tree)
    (known : ∀ other ∈ aside ++ back, other ∈ outputs) (inside : output ∈ outputs)
    (fresh : output ∉ aside ++ back) :
    tree.leadsToNode output = true ↔ base.leadsToNode output = true := by
  have same := stage.sameWays formed among known
  have kept : ∀ place, base.locate false output = .ok place →
      tree.node? place = base.node? place := by
    intro place located
    apply stage.kept
    intro other otherInside slot isSlot equal
    have different : output ≠ other := by
      intro equality
      subst equality
      exact fresh otherInside
    have there := (stage.movable other otherInside).located slot isSlot
    rw [← equal] at there
    obtain rfl | rfl := isSlot
    · exact among.different output inside slot (known slot otherInside) different place located
        there
    · exact among.notCopy output inside other (known other otherInside) different place located
        there
  rw [(stage.regular formed among known inside (.inl rfl)).leadsToNode_iff,
    (among.regular output inside output (.inl rfl)).leadsToNode_iff]
  constructor
  · intro given
    obtain ⟨place, content, writable, located, found⟩ := given
    have before := same.locate_iff.mp located
    exact ⟨place, content, writable, before, (kept place before).symm.trans found⟩
  · intro given
    obtain ⟨place, content, writable, located, found⟩ := given
    exact ⟨place, content, writable, same.locate_iff.mpr located, (kept place located).trans found⟩

/-- One output that is there is moved aside, unless its copy has no place. -/
theorem ensures_goAside {tree : FileTree} (stage : Stage base aside back tree)
    (known : ∀ other ∈ aside ++ back, other ∈ outputs) (inside : output ∈ outputs)
    (fresh : output ∉ aside ++ back) (leads : tree.leadsToNode output = true) :
    Work.Ensures (HasFiles tree) (moveAside output)
      (fun _ world => Stage base (output :: aside) back world.files)
      (fun _ _ => base.leadsToNode output = true ∧
        ∀ copy, base.locate false (asidePath output) ≠ .ok copy) := by
  have same := stage.sameWays formed among known
  have regular := stage.regular formed among known inside (.inl rfl)
  obtain ⟨place, content, writable, located, found⟩ := regular.leadsToNode_iff.mp leads
  have before := (stage.leadsToNode_iff formed among known inside fresh).mp leads
  obtain ⟨first, old, lock, firstLocated, standing⟩ :=
    (among.regular output inside output (.inl rfl)).leadsToNode_iff.mp before
  obtain rfl := Except.ok.inj (firstLocated.symm.trans (same.locate_iff.mp located))
  refine (ensures_movedAside (stage.wellFormed formed among known) regular
    (stage.regular formed among known inside (.inr rfl)) located found).weaken (fun _ => id) ?_
    (fun _ _ nowhere => ⟨before, fun copy copyLocated =>
      nowhere copy (same.locate_iff.mpr copyLocated)⟩)
  intro _ world given
  obtain ⟨copy, copyLocated, moved⟩ := given
  have copyBefore := same.locate_iff.mp copyLocated
  have atPlace := FileTree.placeOf_eq firstLocated
  have atCopy := FileTree.placeOf_eq copyBefore
  have movable : Movable base output := by
    refine ⟨?_, old, lock, by rw [atPlace]; exact standing⟩
    intro slot either
    rcases either with rfl | rfl
    · rw [atPlace]
      exact firstLocated
    · rw [atCopy]
      exact copyBefore
  refine stage.goAside movable ?_ (by rw [atPlace, atCopy]; exact moved)
  intro other otherInside
  refine among.disjoint formed inside (known other otherInside) movable
    (stage.movable other otherInside) ?_
  intro equal
  subst equal
  exact fresh otherInside

/-- An output that stands aside is moved back without failure. -/
theorem ensures_goBack {tree : FileTree} (stage : Stage base (output :: aside) back tree)
    (known : ∀ other ∈ output :: aside ++ back, other ∈ outputs)
    (fresh : output ∉ aside ++ back) :
    Work.Ensures (HasFiles tree) (moveBack output)
      (fun _ world => Stage base aside (output :: back) world.files) (fun _ _ => False) := by
  have same := stage.sameWays formed among known
  have inside := known output (by simp)
  have movable := stage.movable output (by simp)
  obtain ⟨content, writable, found⟩ := movable.file
  have copied := (stage.movedAside output List.mem_cons_self).2.trans found
  refine (ensures_movedBack (stage.wellFormed formed among known)
    (stage.regular formed among known inside (.inl rfl))
    (same.locate_iff.mpr (movable.located output (.inl rfl)))
    (same.locate_iff.mpr (movable.located _ (.inr rfl))) copied).weaken (fun _ => id) ?_
    (fun _ _ => id)
  refine fun _ world moved => stage.goBack (fun other otherInside => ?_) moved
  refine among.disjoint formed inside (known other (List.mem_cons_of_mem _ otherInside)) movable
    (stage.movable other (List.mem_cons_of_mem _ otherInside)) ?_
  intro equal
  subst equal
  exact fresh otherInside

/-- The start of a rotation moves exactly the outputs aside that are there. It fails only if the
copy of one of them has no place. -/
theorem ensures_stage {rest : List FilePath} (known : ∀ other ∈ aside ++ rest, other ∈ outputs)
    (nodup : (aside ++ rest).Nodup) :
    Work.Ensures (fun world => Stage base aside [] world.files) (Rotation.start rest)
      (fun rotation world => rotation.moved = rest.filter base.leadsToNode ∧
        Stage base (rotation.moved.reverse ++ aside) [] world.files)
      (fun _ _ => ∃ output ∈ rest, base.leadsToNode output = true ∧
        ∀ copy, base.locate false (asidePath output) ≠ .ok copy) := by
  induction rest generalizing aside with
  | nil => exact Work.ensures_pure fun _ stage => ⟨rfl, stage⟩
  | cons output rest ih =>
      have inside : output ∈ outputs := known output (by simp)
      have fresh : output ∉ aside ++ [] := by
        rw [List.append_nil]
        exact fun there => (List.nodup_append.mp nodup).2.2 output there output
          List.mem_cons_self rfl
      have knownAside : ∀ other ∈ aside ++ [], other ∈ outputs := fun other there =>
        known other (List.mem_append_left _ (by simpa using there))
      refine Work.Ensures.with_files fun world stage => ?_
      have shown := stage.leadsToNode_iff formed among knownAside inside fresh
      split
      · next leads =>
          have moves : Work.Ensures (fun first => first = world) (moveAside output)
              (fun _ later => Stage base (output :: aside) [] later.files)
              (fun _ _ => ∃ other ∈ output :: rest, base.leadsToNode other = true ∧
                ∀ copy, base.locate false (asidePath other) ≠ .ok copy) := by
            refine (ensures_goAside formed among stage knownAside inside fresh leads).weaken ?_
              (fun _ _ => id) (fun _ _ nowhere => ⟨output, List.mem_cons_self, nowhere⟩)
            intro first equal
            subst equal
            rfl
          have shuffled : (aside ++ output :: rest).Perm (output :: aside ++ rest) :=
            List.perm_middle
          have goes := ih (fun other there => known other (shuffled.mem_iff.mpr there))
            (shuffled.nodup_iff.mp nodup)
          refine moves.bind fun _ => Work.Ensures.bind (goes.weaken (fun _ => id) (fun _ _ => id)
            fun _ _ refused => ?_) fun rotation => Work.ensures_pure ?_
          · obtain ⟨other, later, nowhere⟩ := refused
            exact ⟨other, List.mem_cons_of_mem output later, nowhere⟩
          intro later given
          obtain ⟨same, staged⟩ := given
          refine ⟨?_, by simpa using staged⟩
          rw [List.filter_cons_of_pos (shown.mp leads), same]
      · next absent =>
          have fewer : (aside ++ rest).Sublist (aside ++ output :: rest) :=
            (List.sublist_cons_self output rest).append_left aside
          have goes := ih (fun other there => known other (fewer.subset there))
            (nodup.sublist fewer)
          refine goes.weaken ?_ ?_ ?_
          · intro first equal
            subst equal
            exact stage
          · intro rotation later given
            obtain ⟨same, staged⟩ := given
            refine ⟨?_, staged⟩
            rw [List.filter_cons_of_neg (by rwa [← shown]), same]
          · intro _ _ refused
            obtain ⟨other, later, nowhere⟩ := refused
            exact ⟨other, List.mem_cons_of_mem output later, nowhere⟩

/-- The start of a rotation comes to the stage at which all outputs that were there stand aside. -/
theorem ensures_started :
    Work.Ensures (HasFiles base) (Rotation.start outputs)
      (fun rotation world => rotation.moved = outputs.filter base.leadsToNode ∧
        Stage base rotation.moved [] world.files)
      (fun _ _ => ∃ output ∈ outputs, base.leadsToNode output = true ∧
        ∀ copy, base.locate false (asidePath output) ≠ .ok copy) := by
  have starts : Work.Ensures (fun world => Stage base [] [] world.files) (Rotation.start outputs)
      (fun rotation world => rotation.moved = outputs.filter base.leadsToNode ∧
        Stage base (rotation.moved.reverse ++ []) [] world.files)
      (fun _ _ => ∃ output ∈ outputs, base.leadsToNode output = true ∧
        ∀ copy, base.locate false (asidePath output) ≠ .ok copy) :=
    ensures_stage formed among (fun _ inside => inside) among.nodup
  refine starts.weaken ?_ ?_ (fun _ _ => id)
  · rintro world rfl
    exact Stage.first world.files
  · rintro rotation world ⟨moved, stage⟩
    exact ⟨moved, stage.of_mem (by simp) (by simp)⟩

/-- A restoration moves all outputs back without failure. -/
theorem ensures_rewind (known : ∀ other ∈ aside ++ back, other ∈ outputs)
    (nodup : (aside ++ back).Nodup) :
    Work.Ensures (fun world => Stage base aside back world.files) (restore ⟨aside⟩)
      (fun _ world => Stage base [] (aside.reverse ++ back) world.files)
      (fun _ _ => False) := by
  rw [restore]
  induction aside generalizing back with
  | nil => exact Work.ensures_pure fun _ stage => stage
  | cons output rest ih =>
      have shuffled : (rest ++ output :: back).Perm (output :: rest ++ back) := List.perm_middle
      have fresh := (List.nodup_cons.mp nodup).1
      refine Work.Ensures.of_each fun world stage => ?_
      have moves : Work.Ensures (fun first => first = world) (moveBack output)
          (fun _ later => Stage base rest (output :: back) later.files) (fun _ _ => False) := by
        refine (ensures_goBack formed among stage known fresh).weaken ?_ (fun _ _ => id)
          (fun _ _ => id)
        intro first equal
        subst equal
        rfl
      have goes := ih (fun other there => known other (shuffled.mem_iff.mp there))
        (shuffled.nodup_iff.mpr nodup)
      refine moves.bind fun _ => goes.weaken (fun _ => id) ?_ (fun _ _ => id)
      intro _ later staged
      simpa using staged

end Tablewright.Rotation
