import Tablewright.Proofs.Build.Rendering
import Tablewright.Proofs.Build.Working

namespace Tablewright.Build

open FileTree (IsProperName Spares SameWays MayBeAbove)
open Replacement (temporaryPath? Replaced)
open Rotation (asidePath HasFiles IsSlot)

/-- This function is the last letter of the name at a location. -/
def lastLetter (location : Location) : Option Char :=
  location.getLast?.bind fun name => name.toList.getLast?

section Letters

variable {tree : FileTree} {path temporary : FilePath} {place : Location} {follow : Bool}

theorem lastLetter_of_locate (located : tree.locate false path = .ok place) {stem ending : String}
    (last : path.last = stem ++ ending) (long : 2 < ending.length) :
    lastLetter place = ending.toList.getLast? := by
  have proper : IsProperName path.last := by
    refine .of_long ?_
    rw [last, String.length_append]
    omega
  have some : ending.toList ≠ [] := by
    intro empty
    rw [← String.length_toList, empty] at long
    exact absurd long (by decide)
  obtain ⟨folder, seat⟩ := FileTree.Seat.of_locate located
  obtain ⟨_, _, rfl⟩ := (seat.locate_iff proper).mp located
  rw [lastLetter, List.getLast?_concat, last, Option.bind_some, String.toList_append,
    List.getLast?_append_of_ne_nil _ some]

theorem lastLetter_copy (located : tree.locate false (asidePath path) = .ok place) :
    lastLetter place = some 'v' :=
  lastLetter_of_locate located (Rotation.asidePath_last path) (by decide)

theorem lastLetter_temporary (found : temporaryPath? path = some temporary)
    (located : tree.locate false temporary = .ok place) : lastLetter place = some 'p' := by
  obtain ⟨stem, last, _⟩ := Replacement.temporaryPath_ending found
  exact lastLetter_of_locate located last (by decide)

theorem lastLetter_output {stem : String} (last : path.last = stem ++ ".rs")
    (located : tree.locate false path = .ok place) : lastLetter place = some 's' :=
  lastLetter_of_locate located last (by decide)

/-- Copies stand apart when their outputs do. -/
theorem copies_apart {other : FilePath} (apart : tree.Apart path other)
    (proper : IsProperName path.last) (otherProper : IsProperName other.last) :
    tree.Apart (asidePath path) (asidePath other) := by
  intro place leads otherLeads
  have fits : ∀ {output : FilePath}, (asidePath output).last.utf8ByteSize ≤ FileTree.maxNameSize →
      output.last.utf8ByteSize ≤ FileTree.maxNameSize := by
    intro output short
    rw [Rotation.asidePath_last, String.utf8ByteSize_append] at short
    omega
  obtain ⟨grown, folder, grows, seat, short, rfl⟩ := leads.seat (Rotation.asidePath_proper path)
  obtain ⟨later, again, laterGrows, otherSeat, otherShort, equal⟩ :=
    otherLeads.seat (Rotation.asidePath_proper other)
  obtain ⟨rfl, names⟩ := List.append_singleton_inj.mp equal
  have lasts : path.last = other.last := by
    simpa [Rotation.asidePath_last] using names
  have there := (FileTree.Seat.withEnding_iff.mp seat).mayLead grows proper (fits short)
  have otherThere := (FileTree.Seat.withEnding_iff.mp otherSeat).mayLead laterGrows otherProper
    (fits otherShort)
  rw [lasts] at there
  exact apart _ there otherThere

end Letters

/-- A build works at an output, at its copy and at its temporary file. -/
def WorksAt (output path : FilePath) : Prop :=
  IsSlot output path ∨ temporaryPath? output = some path

/-- Two outputs can be built when they may lead to different places with the names of modules, and
a file or nothing stands wherever a build may work at them. -/
structure Buildable (tree : FileTree) (primary secondary : FilePath) : Prop where
  formed : tree.WellFormed
  different : primary ≠ secondary
  apart : tree.Apart primary secondary
  plain : ∀ output ∈ [primary, secondary], ∀ path, WorksAt output path → tree.Plain path
  proper : ∀ output ∈ [primary, secondary], IsProperName output.last
  named : ∀ output ∈ [primary, secondary], ∃ stem, output.last = stem ++ ".rs"

section Parts

variable {start tree : FileTree} {primary secondary output other : FilePath} {place : Location}
  (buildable : Buildable start primary secondary)
include buildable

/-- An output that leads to a place leads there without following a link. -/
theorem Buildable.located (grows : start.GrowsInto tree) (known : output ∈ [primary, secondary])
    {follow : Bool} (located : tree.locate follow output = .ok place) :
    tree.locate false output = .ok place ∧ start.MayLead output place ∧
      lastLetter place = some 's' := by
  have proper := buildable.proper output known
  obtain ⟨stem, named⟩ := buildable.named output known
  have stopped :=
    ((buildable.plain output known output (.inl (.inl rfl))).unlinked.located grows proper located).1
  exact ⟨stopped, FileTree.mayLead_of_proper grows proper stopped, lastLetter_output named stopped⟩

theorem Buildable.apart_of_mem (known : output ∈ [primary, secondary])
    (otherKnown : other ∈ [primary, secondary]) (different : output ≠ other) :
    start.Apart output other := by
  rw [List.mem_pair] at known otherKnown
  obtain rfl | rfl := known <;> obtain rfl | rfl := otherKnown
  · exact absurd rfl different
  · exact buildable.apart
  · exact fun place leads otherLeads => buildable.apart place otherLeads leads
  · exact absurd rfl different

/-- The copies of two outputs lead to different places. -/
theorem Buildable.copies_differ (grows : start.GrowsInto tree)
    (known : output ∈ [primary, secondary]) (otherKnown : other ∈ [primary, secondary])
    (different : output ≠ other) (located : tree.locate false (asidePath output) = .ok place) :
    tree.locate false (asidePath other) ≠ .ok place := by
  intro otherLocated
  have apart := copies_apart (buildable.apart_of_mem known otherKnown different)
    (buildable.proper output known) (buildable.proper other otherKnown)
  exact apart place
    (FileTree.mayLead_of_proper grows (Rotation.asidePath_proper output) located)
    (FileTree.mayLead_of_proper grows (Rotation.asidePath_proper other) otherLocated)

/-- A copy leads elsewhere than every output and every temporary file. -/
theorem Buildable.copy_elsewhere (grows : start.GrowsInto tree) {copied : FilePath}
    (located : tree.locate false (asidePath copied) = .ok place) :
    ∀ output ∈ [primary, secondary], tree.locate false output ≠ .ok place ∧
      ∀ temporary, temporaryPath? output = some temporary →
        tree.locate false temporary ≠ .ok place := by
  have letter := lastLetter_copy located
  refine fun output known => ⟨fun reached => ?_, fun temporary found reached => ?_⟩
  · rw [(buildable.located grows known reached).2.2] at letter
    cases letter
  · rw [lastLetter_temporary found reached] at letter
    cases letter

end Parts

/-- Both outputs were written. Their temporary files are gone, and all else is as before, but
missing directories above the outputs were made. -/
structure Written (start : FileTree) (primary secondary : FilePath) (artifacts : Artifacts)
    (before after : FileTree) : Prop where
  grows : before.GrowsInto after
  formed : after.WellFormed
  texts : ∀ {output other text}, Gets primary secondary output other text → ∃ place writable,
    after.locate true output = .ok place ∧
      after.node? place = some (.file (text artifacts).toUTF8 writable)
  temporaries : ∀ output ∈ [primary, secondary], ∀ temporary,
    temporaryPath? output = some temporary → ∃ place, after.locate false temporary = .ok place ∧
      (after.node? place = none ∨ after.node? place = some .directory ∧
        start.MayBeAbove [primary, secondary] place)
  kept : ∀ location,
    (∀ output ∈ [primary, secondary], after.locate false output ≠ .ok location ∧
      ∀ temporary, temporaryPath? output = some temporary →
        after.locate false temporary ≠ .ok location) →
    Spares start [primary, secondary] before after location

section Written

variable {start before : FileTree} {primary secondary : FilePath} {artifacts : Artifacts}
  (buildable : Buildable start primary secondary) (grows : start.GrowsInto before)
include buildable grows

/-- One replacement after the other writes both outputs, for they work at different places. -/
theorem written_of_replaced {between after : FileTree} {first second : FilePath}
    (isFirst : temporaryPath? primary = some first)
    (isSecond : temporaryPath? secondary = some second)
    (one : Replaced start [primary, secondary] primary first artifacts.primary.toUTF8 before
      between)
    (two : Replaced start [primary, secondary] secondary second artifacts.secondary.toUTF8 between
      after) : Written start primary secondary artifacts before after := by
  obtain ⟨passed, goal, passedLocated, goalLocated, ⟨locked, content⟩, gone, kept⟩ := one.placed
  obtain ⟨nextPassed, nextGoal, nextPassedLocated, nextGoalLocated, ⟨nextLocked, nextContent⟩,
    nextGone, nextKept⟩ := two.placed
  have growsBetween := grows.trans one.grows
  have growsAfter := growsBetween.trans two.grows
  obtain ⟨goalStopped, goalLeads, goalLetter⟩ :=
    buildable.located growsBetween (by simp) goalLocated
  obtain ⟨nextStopped, nextLeads, nextLetter⟩ :=
    buildable.located growsAfter (by simp) nextGoalLocated
  have passedLetter := lastLetter_temporary isFirst passedLocated
  have nextPassedLetter := lastLetter_temporary isSecond nextPassedLocated
  have goals : goal ≠ nextGoal := by
    intro equal
    exact buildable.apart goal goalLeads (equal ▸ nextLeads)
  have apart : ∀ {one two : Location}, lastLetter one = some 's' → lastLetter two = some 'p' →
      one ≠ two := by
    intro one two isGoal isPassed equal
    rw [equal, isPassed] at isGoal
    cases isGoal
  refine ⟨one.grows.trans two.grows, two.formed, ?_, ?_, ?_⟩
  · intro output other text gets
    cases gets with
    | primary =>
        exact ⟨goal, locked, two.grows.locate goalLocated,
          (nextKept goal (apart goalLetter nextPassedLetter) goals).stays content⟩
    | secondary => exact ⟨nextGoal, nextLocked, nextGoalLocated, nextContent⟩
  · intro output known temporary found
    rw [List.mem_pair] at known
    obtain rfl | rfl := known
    · obtain rfl := Option.some.inj (isFirst.symm.trans found)
      refine ⟨passed, two.grows.locate passedLocated, ?_⟩
      by_cases same : passed = nextPassed
      · exact .inl (same ▸ nextGone)
      · exact (nextKept passed same (apart nextLetter passedLetter).symm).free gone
    · obtain rfl := Option.some.inj (isSecond.symm.trans found)
      exact ⟨nextPassed, nextPassedLocated, .inl nextGone⟩
  · intro location free
    obtain ⟨notGoal, notPassed⟩ := free primary (by simp)
    obtain ⟨notNextGoal, notNextPassed⟩ := free secondary (by simp)
    refine (kept location ?_ ?_).trans (nextKept location ?_ ?_)
    · exact fun same => notPassed first isFirst (same ▸ two.grows.locate passedLocated)
    · exact fun same => notGoal (same ▸ two.grows.locate goalStopped)
    · exact fun same => notNextPassed second isSecond (same ▸ nextPassedLocated)
    · exact fun same => notNextGoal (same ▸ nextStopped)

theorem ensures_written (formed : before.WellFormed) :
    Work.Ensures (HasFiles before) (write primary secondary artifacts)
      (fun _ world => Written start primary secondary artifacts before world.files)
      (fun _ _ => True) := by
  have plain := fun output known => buildable.plain output known output (.inl (.inl rfl))
  have unlinked := fun output known temporary found =>
    (buildable.plain output known temporary (.inr found)).unlinked
  have replaces : ∀ {tree output content}, tree.WellFormed → start.GrowsInto tree →
      output ∈ [primary, secondary] →
        Work.Ensures (HasFiles tree) (Replacement.replace output content)
          (fun _ world =>
            Replacement.IsReplaced start [primary, secondary] output content tree world.files)
          (fun _ _ => True) := fun formed grows known =>
    Replacement.ensures_replaced formed grows known (plain _ known) (unlinked _ known)
  refine (replaces formed grows (by simp)).bind fun _ => Work.Ensures.of_each ?_
  rintro world ⟨one, isFirst, replaced⟩
  have known : secondary ∈ [primary, secondary] := by simp
  refine (replaces replaced.formed (grows.trans replaced.grows) known).weaken ?_ ?_ (fun _ _ => id)
  · intro same equal
    rw [equal]
    rfl
  · rintro _ later ⟨two, isSecond, replacedToo⟩
    exact written_of_replaced buildable grows isFirst isSecond replaced replacedToo

end Written

/-- The copies of some outputs were removed, and all else is as before. -/
structure Discarded (before after : FileTree) (outputs : List FilePath) : Prop where
  same : before.SameWays after
  formed : after.WellFormed
  gone : ∀ output ∈ outputs, ∀ place, before.locate false (asidePath output) = .ok place →
    after.node? place = none
  kept : ∀ location,
    (∀ output ∈ outputs, before.locate false (asidePath output) ≠ .ok location) →
    after.node? location = before.node? location

theorem ensures_discarded {outputs : List FilePath} {before : FileTree}
    (formed : before.WellFormed)
    (standing : ∀ output ∈ outputs, ∃ place content writable,
      before.locate false (asidePath output) = .ok place ∧
        before.node? place = some (.file content writable))
    (apart : outputs.Pairwise fun one other => ∀ place,
      before.locate false (asidePath one) = .ok place →
        before.locate false (asidePath other) ≠ .ok place) :
    Work.Ensures (HasFiles before) (Rotation.discard ⟨outputs⟩)
      (fun _ world => Discarded before world.files outputs) (fun _ _ => False) := by
  induction outputs generalizing before with
  | nil =>
      refine Work.ensures_pure ?_
      intro world same
      rw [same]
      exact ⟨.refl before, formed, by simp, fun _ _ => rfl⟩
  | cons output rest hypothesis =>
      rw [List.forall_mem_cons] at standing
      obtain ⟨⟨place, content, writable, located, found⟩, others⟩ := standing
      obtain ⟨first, further⟩ := List.pairwise_cons.mp apart
      have regular : before.Regular (asidePath output) := by
        intro there again
        obtain rfl := Except.ok.inj (located.symm.trans again)
        rw [found]
        trivial
      have plain := regular place located
      refine (Rotation.ensures_delete formed regular located found).bind fun _ =>
        Work.Ensures.of_each fun world cleared => ?_
      have same := cleared.sameWays plain
      have later := hypothesis (cleared.wellFormed plain formed) ?_ ?_
      · refine later.weaken (fun _ equal => equal ▸ rfl) ?_ (fun _ _ => id)
        intro _ final discarded
        refine ⟨same.trans discarded.same, discarded.formed, ?_, ?_⟩
        · rw [List.forall_mem_cons]
          constructor
          · intro there again
            obtain rfl := Except.ok.inj (located.symm.trans again)
            rw [discarded.kept, cleared.gone]
            intro other inside
            rw [Ne, same.locate_iff]
            exact first other inside place located
          · intro other inside there otherLocated
            exact discarded.gone other inside there (same.locate_iff.mpr otherLocated)
        · intro location free
          rw [List.forall_mem_cons] at free
          rw [discarded.kept, cleared.kept]
          · exact fun equal => free.1 (equal ▸ located)
          · intro other inside
            rw [Ne, same.locate_iff]
            exact free.2 other inside
      · intro other inside
        obtain ⟨otherPlace, content, writable, otherLocated, otherFound⟩ := others other inside
        refine ⟨otherPlace, content, writable, same.locate_iff.mpr otherLocated, ?_⟩
        rw [cleared.kept, otherFound]
        exact fun equal => first other inside place located (equal ▸ otherLocated)
      · refine further.imp ?_
        intro one two different there
        rw [Ne, same.locate_iff, same.locate_iff]
        exact different there

/-- Both outputs were locked, and all else is as before. -/
structure Locked (primary secondary : FilePath) (artifacts : Artifacts) (before after : FileTree) :
    Prop where
  same : before.SameWays after
  texts : ∀ {output other text}, Gets primary secondary output other text →
    after.nodeAt output = .ok (.file (text artifacts).toUTF8 false)
  kept : ∀ location,
    (∀ output ∈ [primary, secondary], before.locate true output ≠ .ok location) →
    after.node? location = before.node? location

/-- Without a formatter an output is locked as it is. -/
theorem ensures_finishOutput (programs : Programs) {settings : Settings}
    (unformatted : settings.formatter.enabled = false) {before : FileTree} {path : FilePath}
    {place : Location} {content : ByteArray} {writable : Bool}
    (located : before.locate true path = .ok place)
    (found : before.node? place = some (.file content writable)) :
    Work.Ensures (HasFiles before) (finishOutput programs settings path)
      (fun _ => HasFiles (before.put place (.file content false))) (fun _ _ => True) := by
  have formats : Work.Ensures (HasFiles before) (settings.formatter.format programs path)
      (fun _ => HasFiles before) (fun _ _ => True) := by
    rw [FormatterSettings.format, unformatted]
    exact Work.ensures_pure fun _ => id
  have applied : before.apply (.setWritable path false) =
      .ok (before.put place (.file content false)) :=
    FileTree.setWritable_file located found false
  refine formats.bind fun _ => Work.ensures_mapError ?_
  exact (Rotation.ensures_applied applied).weaken (fun _ => id) (fun _ _ => id)
    fun _ _ _ => trivial

theorem ensures_locked (programs : Programs) {settings : Settings}
    (unformatted : settings.formatter.enabled = false) {before : FileTree}
    {primary secondary : FilePath} {artifacts : Artifacts}
    (texts : ∀ {output other text}, Gets primary secondary output other text → ∃ place writable,
      before.locate true output = .ok place ∧
        before.node? place = some (.file (text artifacts).toUTF8 writable))
    (different : ∀ place, before.locate true primary = .ok place →
      before.locate true secondary ≠ .ok place) :
    Work.Ensures (HasFiles before)
      (do finishOutput programs settings primary; finishOutput programs settings secondary)
      (fun _ world => Locked primary secondary artifacts before world.files)
      (fun _ _ => True) := by
  obtain ⟨place, writable, located, found⟩ := texts .primary
  obtain ⟨other, otherWritable, otherLocated, otherFound⟩ := texts .secondary
  have apart : place ≠ other := fun equal => different place located (equal ▸ otherLocated)
  have below := FileTree.ne_root_of_file found
  have otherBelow := FileTree.ne_root_of_file otherFound
  let between := before.put place (.file artifacts.primary.toUTF8 false)
  have first : before.SameWays between := .put_file found
  have standing : between.node? other = some (.file artifacts.secondary.toUTF8 otherWritable) := by
    rw [before.node?_put below, if_neg apart.symm, otherFound]
  have same : before.SameWays (between.put other (.file artifacts.secondary.toUTF8 false)) :=
    first.trans (.put_file standing)
  have locks := (ensures_finishOutput programs unformatted located found).bind fun _ =>
    ensures_finishOutput programs unformatted (first.locate_iff.mpr otherLocated) standing
  refine locks.weaken (fun _ => id) ?_ (fun _ _ => id)
  intro _ world equal
  rw [HasFiles] at equal
  rw [equal]
  refine ⟨same, ?_, ?_⟩
  · intro output another text gets
    rw [FileTree.nodeAt_iff]
    cases gets with
    | primary =>
        refine ⟨place, same.locate_iff.mpr located, ?_⟩
        rw [between.node?_put otherBelow, if_neg apart, before.node?_put below, if_pos rfl]
    | secondary =>
        refine ⟨other, same.locate_iff.mpr otherLocated, ?_⟩
        rw [between.node?_put otherBelow, if_pos rfl]
  · intro location free
    rw [between.node?_put otherBelow, if_neg, before.node?_put below, if_neg]
    · exact fun equal => free primary (by simp) (equal ▸ located)
    · exact fun equal => free secondary (by simp) (equal ▸ otherLocated)

end Tablewright.Build
