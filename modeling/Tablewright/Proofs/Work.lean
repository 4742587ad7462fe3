import Tablewright.World

namespace Tablewright.Work

variable {ε δ α β : Type}

/-- From worlds of one kind a work ends in worlds of another, which may depend on its value or
on the cause of its failure. -/
structure Ensures (before : World → Prop) (work : Work ε α) (done : α → World → Prop)
    (failed : ε → World → Prop) : Prop where
  ends : ∀ world, before world →
    match work world with
    | (.ok value, next) => done value next
    | (.error cause, next) => failed cause next

/-- A work keeps a property of worlds however it ends. -/
def Keeps (property : World → Prop) (work : Work ε α) : Prop :=
  Ensures property work (fun _ => property) (fun _ => property)

section Ensures

variable {before : World → Prop} {done : α → World → Prop} {failed : ε → World → Prop}

theorem Ensures.weaken {work : Work ε α} {earlier : World → Prop} {later : α → World → Prop}
    {lost : ε → World → Prop} (ensures : Ensures before work done failed)
    (starts : ∀ world, earlier world → before world)
    (ends : ∀ value world, done value world → later value world)
    (fails : ∀ cause world, failed cause world → lost cause world) :
    Ensures earlier work later lost := by
  refine ⟨fun world holds => ?_⟩
  have ended := ensures.ends world (starts world holds)
  split at ended
  · exact ends _ _ ended
  · exact fails _ _ ended

theorem Ensures.and {work : Work ε α} {also : α → World → Prop} {lost : ε → World → Prop}
    (one : Ensures before work done failed) (other : Ensures before work also lost) :
    Ensures before work (fun value world => done value world ∧ also value world)
      (fun cause world => failed cause world ∧ lost cause world) := by
  refine ⟨fun world holds => ?_⟩
  have first := one.ends world holds
  have second := other.ends world holds
  split at first
  · next ended => exact ⟨first, by simpa [ended] using second⟩
  · next ended => exact ⟨first, by simpa [ended] using second⟩

/-- What a work ensures from each world of a kind it ensures from that kind. -/
theorem Ensures.of_each {work : Work ε α}
    (each : ∀ world, before world → Ensures (fun first => first = world) work done failed) :
    Ensures before work done failed :=
  ⟨fun world holds => (each world holds).ends world rfl⟩

theorem ensures_trivial {work : Work ε α} :
    Ensures before work (fun _ _ => True) (fun _ _ => True) := by
  refine ⟨fun world _ => ?_⟩
  split <;> trivial

theorem ensures_absurd {work : Work ε α} (never : ∀ world, ¬ before world) :
    Ensures before work done failed :=
  .of_each fun world holds => absurd holds (never world)

theorem ensures_pure {value : α} (holds : ∀ world, before world → done value world) :
    Ensures before (pure value : Work ε α) done failed :=
  ⟨holds⟩

theorem ensures_throw {cause : ε} (holds : ∀ world, before world → failed cause world) :
    Ensures before (throw cause : Work ε α) done failed :=
  ⟨holds⟩

theorem bind_apply (first : Work ε α) (next : α → Work ε β) (world : World) :
    (first >>= next) world =
      match first world with
      | (.ok value, later) => next value later
      | (.error cause, later) => (.error cause, later) := by
  change (ExceptT.bind first next) world = _
  simp only [ExceptT.bind, ExceptT.mk, ExceptT.bindCont, bind, StateT.bind]
  generalize first world = ended
  obtain ⟨result, later⟩ := ended
  cases result <;> rfl

theorem Ensures.bind {first : Work ε α} {next : α → Work ε β} {finished : β → World → Prop}
    (starts : Ensures before first done failed)
    (goes : ∀ value, Ensures (done value) (next value) finished failed) :
    Ensures before (first >>= next) finished failed := by
  refine ⟨fun world holds => ?_⟩
  rw [bind_apply]
  have ended := starts.ends world holds
  generalize first world = result at ended
  obtain ⟨value | value, later⟩ := result
  · exact ended
  · exact (goes value).ends later ended

theorem Ensures.of_ok {work : Work ε α} {world later : World} {value : α}
    (ensures : Ensures before work done failed) (holds : before world)
    (ended : work world = (.ok value, later)) : done value later := by
  have known := ensures.ends world holds
  rwa [ended] at known

theorem Ensures.of_error {work : Work ε α} {world : World} {cause : ε}
    (ensures : Ensures before work done failed) (holds : before world)
    (ended : (work world).1 = .error cause) : failed cause (work world).2 := by
  have known := ensures.ends world holds
  have same : work world = (.error cause, (work world).2) := Prod.ext ended rfl
  rwa [same] at known

/-- A work that succeeds comes to its value and its last world. -/
theorem eq_of_ok {work : Work ε α} {world : World} {value : α}
    (ended : (work world).1 = .ok value) : work world = (.ok value, (work world).2) :=
  Prod.ext ended rfl

/-- What a work ensures in both cases holds of its last world. -/
theorem Ensures.last {work : Work ε α} {after : World → Prop} {world : World}
    (ensures : Ensures before work (fun _ => after) (fun _ => after)) (holds : before world) :
    after (work world).2 := by
  have ended := ensures.ends world holds
  split at ended
  · next same => rw [same]; exact ended
  · next same => rw [same]; exact ended

/-- A work that cannot succeed fails. -/
theorem Ensures.fails {work : Work ε α} {world : World}
    (ensures : Ensures before work (fun _ _ => False) failed) (holds : before world) :
    ∃ cause later, work world = (.error cause, later) ∧ failed cause later := by
  have ended := ensures.ends world holds
  split at ended
  · exact ended.elim
  · next same => exact ⟨_, _, same, ended⟩

/-- A work that cannot fail succeeds. -/
theorem Ensures.succeeds {work : Work ε α} {world : World}
    (ensures : Ensures before work done (fun _ _ => False)) (holds : before world) :
    ∃ value later, work world = (.ok value, later) ∧ done value later := by
  have ended := ensures.ends world holds
  split at ended
  · next same => exact ⟨_, _, same, ended⟩
  · exact ended.elim

/-- A work ends as it ends in the world that it starts from. -/
theorem Ensures.exact {work : Work ε α} (ensures : Ensures before work done failed) :
    Ensures before work
      (fun value world =>
        done value world ∧ ∃ earlier, before earlier ∧ work earlier = (.ok value, world))
      (fun cause world =>
        failed cause world ∧ ∃ earlier, before earlier ∧ work earlier = (.error cause, world)) := by
  refine ⟨fun world holds => ?_⟩
  have ended := ensures.ends world holds
  split at ended
  · next same => exact ⟨ended, world, holds, same⟩
  · next same => exact ⟨ended, world, holds, same⟩

theorem ensures_note {event : Event} {holds : World → Prop}
    (ends : ∀ world, before world →
      holds { world with history := world.history ++ [.event event] }) :
    Ensures before (note event : Work ε Unit) (fun _ => holds) failed :=
  ⟨ends⟩

/-- A work that reads the files goes on with those of the world. -/
theorem Ensures.with_files {next : FileTree → Work ε α}
    (goes : ∀ world, before world →
      Ensures (fun first => first = world) (next world.files) done failed) :
    Ensures before (files >>= next) done failed := by
  refine ⟨fun world holds => ?_⟩
  rw [bind_apply]
  exact (goes world holds).ends world rfl

theorem Ensures.with_world {next : World → Work ε α}
    (goes : ∀ world, before world →
      Ensures (fun first => first = world) (next world) done failed) :
    Ensures before (get >>= next) done failed := by
  refine ⟨fun world holds => ?_⟩
  rw [bind_apply]
  exact (goes world holds).ends world rfl

/-- A step that fails changes nothing, and one that succeeds changes the files and is
recorded. -/
theorem ensures_perform {change : FileChange} {holds : World → Prop}
    {failed : FileError → World → Prop}
    (ends : ∀ world after, before world → world.files.apply change = .ok after →
      holds { world with files := after, history := world.history ++ [.change change after] })
    (fails : ∀ world cause, before world → world.files.apply change = .error cause →
      failed cause world) :
    Ensures before (perform change) (fun _ => holds) failed := by
  refine ⟨fun world start => ?_⟩
  rw [perform]
  cases applied : world.files.apply change with
  | ok after => exact ends world after start applied
  | error cause => exact fails world cause start applied

/-- A file gets its content as a whole, or the device stops after a part of it. -/
theorem ensures_fill {path : FilePath} {content : ByteArray} {holds : World → Prop}
    {failed : FileError → World → Prop}
    (whole : Ensures before (perform (.write path content)) (fun _ => holds) failed)
    (part : ∀ count, Ensures before (perform (.write path (content.extract 0 count)))
      (fun _ world => ∀ cause, failed cause world) failed) :
    Ensures before (fill path content) (fun _ => holds) failed := by
  refine Ensures.with_world fun world start => ?_
  split
  · exact whole.weaken (fun _ same => same ▸ start) (fun _ _ => id) fun _ _ => id
  · refine Ensures.bind ((part _).weaken (fun _ same => same ▸ start) (fun _ _ => id)
      fun _ _ => id) fun _ => ?_
    exact ensures_throw fun _ ended => ended _

/-- Whether the device makes a path durable or not, the world stays. -/
theorem ensures_flush {path : FilePath} {failed : FileError → World → Prop}
    (fails : ∀ cause world, before world → failed cause world) :
    Ensures before (flush path) (fun _ => before) failed := by
  refine Ensures.with_world fun world start => ?_
  split
  · exact ensures_pure fun _ same => same ▸ start
  · exact ensures_throw fun _ same => same ▸ fails _ world start

theorem ensures_ofExcept {result : Except ε α}
    (fails : ∀ cause world, before world → failed cause world) :
    Ensures before (ofExcept result) (fun _ => before) failed := by
  refine ⟨fun world start => ?_⟩
  cases result with
  | ok value => exact start
  | error cause => exact fails cause world start

theorem ensures_outcome {work : Work ε α} {failed' : δ → World → Prop}
    (ensures : Ensures before work done failed) :
    Ensures before (outcome work)
      (fun result world =>
        match result with
        | .ok value => done value world
        | .error cause => failed cause world) failed' := by
  refine ⟨fun world holds => ?_⟩
  have ended := ensures.ends world holds
  simp only [outcome]
  generalize work world = result at ended
  obtain ⟨value | value, later⟩ := result <;> exact ended

theorem ensures_mapError {work : Work ε α} {cause : ε → δ} {lost : δ → World → Prop}
    (ensures : Ensures before work done fun reason => lost (cause reason)) :
    Ensures before (mapError cause work) done lost := by
  refine ⟨fun world holds => ?_⟩
  have ended := ensures.ends world holds
  simp only [mapError]
  generalize work world = result at ended
  obtain ⟨value | value, later⟩ := result <;> exact ended

end Ensures

section Keeps

variable {property : World → Prop}

theorem keeps_pure {value : α} : Keeps property (pure value : Work ε α) :=
  ⟨fun _ holds => holds⟩

theorem keeps_throw {cause : ε} : Keeps property (throw cause : Work ε α) :=
  ⟨fun _ holds => holds⟩

theorem keeps_files : Keeps property (files : Work ε FileTree) :=
  ⟨fun _ holds => holds⟩

theorem Keeps.bind {first : Work ε α} {next : α → Work ε β} (starts : Keeps property first)
    (goes : ∀ value, Keeps property (next value)) : Keeps property (first >>= next) :=
  Ensures.bind starts goes

theorem keeps_fill {path : FilePath} {content : ByteArray}
    (writes : ∀ content, Keeps property (perform (.write path content))) :
    Keeps property (fill path content) :=
  ensures_fill (writes content) fun _ =>
    (writes _).weaken (fun _ => id) (fun _ _ holds _ => holds) fun _ _ => id

theorem keeps_flush {path : FilePath} : Keeps property (flush path) :=
  ensures_flush fun _ _ => id

theorem Keeps.outcome {work : Work ε α} (keeps : Keeps property work) :
    Keeps property (Work.outcome work : Work δ (Except ε α)) := by
  refine (ensures_outcome keeps).weaken (fun _ => id) ?_ (fun _ _ => id)
  intro result world ended
  split at ended <;> exact ended

theorem Keeps.mapError {work : Work ε α} {cause : ε → δ} (keeps : Keeps property work) :
    Keeps property (Work.mapError cause work) :=
  ensures_mapError keeps

theorem keeps_forM {Item : Type} {items : List Item} {work : Item → Work ε PUnit}
    (each : ∀ item ∈ items, Keeps property (work item)) : Keeps property (items.forM work) := by
  induction items with
  | nil => exact keeps_pure
  | cons item rest ih =>
      refine (each item List.mem_cons_self).bind fun _ => ih ?_
      intro other inside
      exact each other (List.mem_cons_of_mem _ inside)

/-- Directories are made for a path and for the paths above it only. -/
theorem keeps_makeDirectoriesUpTo {depth : Nat} {path : FilePath} (allowed : FilePath → Prop)
    (starts : allowed path)
    (up : ∀ path parent, allowed path → path.parent? = some parent → allowed parent)
    (makes : ∀ path, allowed path → Keeps property (perform (.makeDirectory path))) :
    Keeps property (makeDirectoriesUpTo depth path) := by
  induction depth generalizing path with
  | zero => exact keeps_pure
  | succ depth ih =>
      have accepts : ∀ cause : FileError, Keeps property
          (files >>= fun tree => if !tree.leadsToDirectory path then throw cause else pure () :
            Work FileError Unit) := by
        intro cause
        refine keeps_files.bind fun tree => ?_
        split
        · exact keeps_throw
        · exact keeps_pure
      rw [makeDirectoriesUpTo]
      split
      · exact keeps_pure
      · refine (makes path starts).outcome.bind fun result => ?_
        split
        · exact keeps_pure
        · split
          · exact keeps_throw
          · next parent direct =>
              refine (ih (up path parent starts direct)).bind fun _ => ?_
              refine (makes path starts).outcome.bind fun again => ?_
              split
              · exact keeps_pure
              · exact accepts _
        · exact accepts _

end Keeps

end Tablewright.Work
