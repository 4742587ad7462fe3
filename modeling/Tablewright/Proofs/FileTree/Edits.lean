import Tablewright.Proofs.FileTree.Exchange

namespace Tablewright

/-- An edit at a path makes its file, gives it content, lets it be written or not, or removes it. -/
def FileChange.EditsAt (path : FilePath) : FileChange → Prop
  | .create target | .write target _ | .append target _ | .remove target
  | .setWritable target _ => target = path
  | .makeDirectory _ | .rename _ _ => False

namespace FileTree

/-- This function is the node that a path leads to, if there is one. -/
def found? (tree : FileTree) (path : FilePath) : Option Node :=
  (tree.nodeAt path).toOption

/-- This function makes edits one after the other. An edit that fails changes nothing. -/
def edit (tree : FileTree) (edits : List FileChange) : FileTree :=
  edits.foldl (fun reached change => (reached.apply change).toOption.getD reached) tree

/-- Files at some paths were made, changed or removed, and all else is as before. -/
structure Edited (before after : FileTree) (paths : List FilePath) : Prop where
  same : before.SameWays after
  formed : after.WellFormed
  regular : ∀ path ∈ paths, after.Regular path
  kept : ∀ location, (∀ path ∈ paths, before.locate false path ≠ .ok location) →
    after.node? location = before.node? location

section Found

variable {before after : FileTree} {path : FilePath} {place : Location}

theorem found?_of_locate (located : before.locate true path = .ok place) :
    before.found? path = before.node? place := by
  rw [found?, nodeAt, located]
  cases found : before.node? place <;> simp [bind, Except.bind, found, Except.toOption]

theorem found?_eq_none (nowhere : ∀ place, before.locate true path ≠ .ok place) :
    before.found? path = none := by
  rw [found?, nodeAt]
  cases located : before.locate true path with
  | ok place => exact absurd located (nowhere place)
  | error cause => rfl

/-- A path finds the same in trees with the same ways, if it finds the same where it leads to. -/
theorem SameWays.found?_congr (same : before.SameWays after)
    (equal : ∀ place, before.locate true path = .ok place →
      after.node? place = before.node? place) : after.found? path = before.found? path := by
  by_cases leads : ∃ place, before.locate true path = .ok place
  · obtain ⟨place, located⟩ := leads
    rw [found?_of_locate located, found?_of_locate (same.locate_iff.mpr located),
      equal place located]
  · have nowhere : ∀ place, before.locate true path ≠ .ok place :=
      fun place located => leads ⟨place, located⟩
    rw [found?_eq_none nowhere, found?_eq_none fun place located =>
      nowhere place (same.locate_iff.mp located)]

end Found

section Edits

variable {before after later : FileTree} {paths : List FilePath} {path : FilePath}
  {place : Location}

namespace Edited

theorem refl (formed : before.WellFormed) (regular : ∀ path ∈ paths, before.Regular path) :
    Edited before before paths :=
  ⟨.refl before, formed, regular, fun _ _ => rfl⟩

theorem trans (first : Edited before after paths) (second : Edited after later paths) :
    Edited before later paths := by
  refine ⟨first.same.trans second.same, second.formed, second.regular, fun location free => ?_⟩
  rw [second.kept, first.kept location free]
  exact fun path inside located => free path inside (first.same.locate_iff.mp located)

end Edited

section Single

variable (formed : before.WellFormed) (regular : ∀ path ∈ paths, before.Regular path)
  (inside : path ∈ paths)
include formed regular inside

/-- A tree is edited when nothing but the file at one of the paths has changed. -/
theorem edited_of_place (located : before.locate false path = .ok place)
    (here : after.here = before.here) (plain : Node.IsFileOrNothing (after.node? place))
    (kept : ∀ location, location ≠ place → after.node? location = before.node? location) :
    Edited before after paths := by
  obtain ⟨_, folder, seat, rfl⟩ := (regular path inside).seat formed located
  have same : before.SameWays after := by
    refine .of_files here fun location => ?_
    by_cases there : location = folder ++ [path.last]
    · subst there
      exact .inr ⟨regular path inside _ located, plain⟩
    · exact .inl (kept location there)
  refine ⟨same, ?_, ?_, ?_⟩
  · intro above name present
    apply same.there.directories
    by_cases there : above ++ [name] = folder ++ [path.last]
    · obtain ⟨rfl, _⟩ := List.append_singleton_inj.mp there
      exact seat.directory
    · exact formed above name (by rwa [← kept _ there])
  · intro other among otherPlace otherLocated
    by_cases there : otherPlace = folder ++ [path.last]
    · rwa [there]
    · rw [kept otherPlace there]
      exact regular other among otherPlace (same.locate_iff.mp otherLocated)
  · intro location free
    refine kept location fun there => free path inside ?_
    rwa [there]

theorem edited_of_put {content : ByteArray} {writable : Bool}
    (located : before.locate true path = .ok place) :
    Edited before (before.put place (.file content writable)) paths := by
  have stopped := (regular path inside).locate_iff.mp located
  have below : place ≠ [] := by
    rintro rfl
    exact regular path inside _ stopped
  refine edited_of_place formed regular inside stopped rfl ?_ fun location away => ?_
  · rw [before.node?_put below, if_pos rfl]
    trivial
  · rw [before.node?_put below, if_neg away]

theorem edited_of_apply {change : FileChange} (edits : change.EditsAt path)
    (applied : before.apply change = .ok after) : Edited before after paths := by
  cases change with
  | create target =>
      obtain rfl : target = path := edits
      obtain ⟨place, writable, located, _, rfl⟩ := create_ok applied
      exact edited_of_put formed regular inside located
  | write target content =>
      obtain rfl : target = path := edits
      obtain ⟨place, old, writable, located, _, rfl⟩ := write_ok applied
      exact edited_of_put formed regular inside located
  | append target content =>
      obtain rfl : target = path := edits
      obtain ⟨place, total, writable, located, _, rfl⟩ := append_ok applied
      exact edited_of_put formed regular inside located
  | setWritable target writable =>
      obtain rfl : target = path := edits
      obtain rfl | ⟨place, content, old, located, _, rfl⟩ := setWritable_ok applied
      · exact .refl formed regular
      · exact edited_of_put formed regular inside located
  | remove target =>
      obtain rfl : target = path := edits
      obtain ⟨place, node, located, found, notDirectory, named, rfl⟩ := remove_ok applied
      rw [withoutSlashes_of_last named] at located
      have below : place ≠ [] := by
        rintro rfl
        exact regular target inside _ located
      refine edited_of_place formed regular inside located rfl ?_ fun location away => ?_
      · rw [before.node?_erase below, if_pos rfl]
        trivial
      · rw [before.node?_erase below, if_neg away]
  | makeDirectory target => exact edits.elim
  | rename source target => exact edits.elim

end Single

/-- Edits at some paths change nothing but the files there. -/
theorem edited_edit (edits : List FileChange) (formed : before.WellFormed)
    (regular : ∀ path ∈ paths, before.Regular path)
    (atPaths : ∀ change ∈ edits, ∃ path ∈ paths, change.EditsAt path) :
    Edited before (before.edit edits) paths := by
  unfold edit
  induction edits generalizing before with
  | nil => exact .refl formed regular
  | cons change rest hypothesis =>
      rw [List.forall_mem_cons] at atPaths
      obtain ⟨⟨path, inside, edits⟩, others⟩ := atPaths
      have first : Edited before ((before.apply change).toOption.getD before) paths := by
        cases applied : before.apply change with
        | ok after => exact edited_of_apply formed regular inside edits applied
        | error cause => exact .refl formed regular
      exact first.trans (hypothesis first.formed first.regular others)

end Edits

end FileTree

end Tablewright
