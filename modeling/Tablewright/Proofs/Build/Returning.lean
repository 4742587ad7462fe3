import Tablewright.Proofs.Build.Exchange

namespace Tablewright.Rotation

open FileTree (Moved SameWays)

/-- An output can return from its copy to a place where a file or nothing stands. -/
structure Returnable (tree : FileTree) (output : FilePath) (place copy : Location) : Prop where
  located : tree.locate false output = .ok place
  copyLocated : tree.locate false (asidePath output) = .ok copy
  plain : Node.IsFileOrNothing (tree.node? place)
  copied : ∃ content writable, tree.node? copy = some (.file content writable)

/-- The files of some copies returned to the places of their outputs, and all else is as before. -/
structure Returned (before after : FileTree) (outputs : List FilePath) : Prop where
  same : before.SameWays after
  formed : after.WellFormed
  back : ∀ output ∈ outputs, ∀ place copy, Returnable before output place copy →
    after.node? place = before.node? copy
  gone : ∀ output ∈ outputs, ∀ place copy, Returnable before output place copy →
    after.node? copy = none
  kept : ∀ location,
    (∀ output ∈ outputs, ∀ place copy, Returnable before output place copy →
      location ≠ place ∧ location ≠ copy) → after.node? location = before.node? location

section Returning

variable {before after : FileTree} {output other : FilePath}
  {place copy otherPlace otherCopy : Location}

theorem Returnable.unique (returnable : Returnable before output place copy)
    (again : Returnable before output otherPlace otherCopy) :
    otherPlace = place ∧ otherCopy = copy := by
  have places := returnable.located.symm.trans again.located
  have copies := returnable.copyLocated.symm.trans again.copyLocated
  exact ⟨(Except.ok.inj places).symm, (Except.ok.inj copies).symm⟩

/-- An output stays returnable when another one returns elsewhere. -/
theorem Returnable.elsewhere (returnable : Returnable before output place copy)
    (same : before.SameWays after) (moved : Moved before after otherCopy otherPlace)
    (apart : ∀ location ∈ [place, copy], location ≠ otherPlace ∧ location ≠ otherCopy) :
    Returnable after output place copy := by
  have placeApart := apart place (by simp)
  have copyApart := apart copy (by simp)
  refine ⟨same.locate_iff.mpr returnable.located,
    same.locate_iff.mpr returnable.copyLocated, ?_, ?_⟩
  · rw [moved.kept place placeApart.2 placeApart.1]
    exact returnable.plain
  · rw [moved.kept copy copyApart.2 copyApart.1]
    exact returnable.copied

theorem ensures_returned (outputs : List FilePath) (formed : before.WellFormed)
    (ready : ∀ output ∈ outputs, ∃ place copy, Returnable before output place copy)
    (apart : outputs.Pairwise fun one other => ∀ place copy otherPlace otherCopy,
      Returnable before one place copy → Returnable before other otherPlace otherCopy →
        ∀ location ∈ [otherPlace, otherCopy], location ≠ place ∧ location ≠ copy) :
    Work.Ensures (HasFiles before) (restore ⟨outputs⟩)
      (fun _ world => Returned before world.files outputs) (fun _ _ => False) := by
  rw [restore]
  induction outputs generalizing before with
  | nil =>
      refine Work.ensures_pure ?_
      intro world same
      rw [same]
      exact ⟨.refl before, formed, by simp, by simp, fun _ _ => rfl⟩
  | cons output rest hypothesis =>
      rw [List.forall_mem_cons] at ready
      obtain ⟨⟨place, copy, returnable⟩, others⟩ := ready
      obtain ⟨first, further⟩ := List.pairwise_cons.mp apart
      obtain ⟨content, writable, found⟩ := returnable.copied
      have regular : before.Regular output := by
        intro there again
        obtain rfl := Except.ok.inj (returnable.located.symm.trans again)
        exact returnable.plain
      have inFolder := (copy_beside_output formed regular returnable.located
        returnable.copyLocated).2.1
      refine (ensures_movedBack formed regular returnable.located returnable.copyLocated found).bind
        fun _ => Work.Ensures.of_each fun world moved => ?_
      have same := moved.sameWays (by rw [found]; trivial) returnable.plain
      have goes : ∀ other ∈ rest, ∀ {otherPlace otherCopy},
          Returnable before other otherPlace otherCopy →
            Returnable world.files other otherPlace otherCopy := by
        intro other inside otherPlace otherCopy otherReturnable
        exact otherReturnable.elsewhere same moved
          (first other inside _ _ _ _ returnable otherReturnable)
      have comes : ∀ other ∈ rest, ∀ {otherPlace otherCopy},
          Returnable world.files other otherPlace otherCopy →
            Returnable before other otherPlace otherCopy := by
        intro other inside otherPlace otherCopy otherReturnable
        obtain ⟨thatPlace, thatCopy, before⟩ := others other inside
        obtain ⟨rfl, rfl⟩ := (goes other inside before).unique otherReturnable
        exact before
      have later := hypothesis
        (moved.wellFormed (by rw [found]; trivial) returnable.plain formed inFolder)
        (fun other inside => by
          obtain ⟨otherPlace, otherCopy, otherReturnable⟩ := others other inside
          exact ⟨otherPlace, otherCopy, goes other inside otherReturnable⟩)
        (further.imp_of_mem fun oneInside twoInside away place copy otherPlace otherCopy one two =>
          away place copy otherPlace otherCopy (comes _ oneInside one) (comes _ twoInside two))
      refine later.weaken (fun _ equal => equal ▸ rfl) ?_ (fun _ _ => id)
      intro _ final returned
      -- What the others change later is neither the place of this output nor its copy.
      have stays : ∀ location ∈ [place, copy],
          final.files.node? location = world.files.node? location := by
        intro location own
        refine returned.kept location fun other inside otherPlace otherCopy otherReturnable => ?_
        have away := first other inside _ _ _ _ returnable (comes other inside otherReturnable)
        have placeAway := away otherPlace (by simp)
        have copyAway := away otherCopy (by simp)
        obtain rfl | rfl : location = place ∨ location = copy := by simpa using own
        · exact ⟨placeAway.1.symm, copyAway.1.symm⟩
        · exact ⟨placeAway.2.symm, copyAway.2.symm⟩
      refine ⟨same.trans returned.same, returned.formed, ?_, ?_, ?_⟩
      · rw [List.forall_mem_cons]
        constructor
        · intro there copied again
          obtain ⟨rfl, rfl⟩ := returnable.unique again
          rw [stays there (by simp), moved.moved]
        · intro other inside otherPlace otherCopy otherReturnable
          have away := first other inside _ _ _ _ returnable otherReturnable otherCopy (by simp)
          rw [returned.back other inside otherPlace otherCopy (goes other inside otherReturnable),
            moved.kept otherCopy away.2 away.1]
      · rw [List.forall_mem_cons]
        constructor
        · intro there copied again
          obtain ⟨rfl, rfl⟩ := returnable.unique again
          rw [stays copied (by simp), moved.gone]
        · exact fun other inside otherPlace otherCopy otherReturnable =>
            returned.gone other inside otherPlace otherCopy (goes other inside otherReturnable)
      · intro location free
        rw [List.forall_mem_cons] at free
        have own := free.1 place copy returnable
        rw [returned.kept, moved.kept location own.2 own.1]
        exact fun other inside otherPlace otherCopy otherReturnable =>
          free.2 other inside otherPlace otherCopy (comes other inside otherReturnable)

end Returning

end Tablewright.Rotation
