import Tablewright.Proofs.Build.Versions

namespace Tablewright.Rotation

open FileTree (IsProperName withoutSlashes Seat)
open Replacement (temporaryPath?)

/-- An output is detached from another one when it leads elsewhere than the other, its copy and its
temporary file, and no folder of either leads to it. It is a file or nothing, and so is its copy.
All this is asked for every place that a path may lead to. -/
structure Detached (start : FileTree) (output other : FilePath) : Prop where
  different : output ≠ other
  plain : ∀ slot, IsSlot output slot → start.Plain slot
  apart : start.Apart output other
  notCopy : start.Apart output (asidePath other)
  notTemporary : ∀ temporary, temporaryPath? other = some temporary →
    start.Apart output temporary
  notAbove : ∀ folder : FilePath, folder.Above output ∨ folder.Above other →
    start.Apart folder output

/-- A detached output is separate when its temporary file is a file or nothing, too. -/
structure Separate (start : FileTree) (output other : FilePath) : Prop
    extends Detached start output other where
  temporaryPlain : ∀ temporary, temporaryPath? output = some temporary → start.Plain temporary

/-- A path is beside an output when it is plain and leads neither to the output nor to its copy. -/
structure Beside (start : FileTree) (output path : FilePath) : Prop where
  plain : start.Plain path
  apart : ∀ slot, IsSlot output slot → start.Apart path slot

section Beside

variable {start tree : FileTree} {output other : FilePath} {place : Location}

/-- A path beside an output leads to spared places only. -/
theorem Beside.spared {path : FilePath} (beside : Beside start output path)
    (guarded : Guarded start output) (grows : start.GrowsInto tree)
    (located : tree.locate false (withoutSlashes path) = .ok place ∨
      tree.locate true path = .ok place) : Spared start output place := by
  have leads : start.MayLead path place := by
    obtain stopped | followed := located
    · exact FileTree.mayLead_of_locate grows stopped
    · exact beside.plain.unlinked.mayLead grows followed
  refine ⟨beside.plain place leads, ?_⟩
  intro slot isSlot slotLocated
  exact beside.apart slot isSlot place leads (guarded.mayLead isSlot slotLocated)

theorem Separate.guarded (separate : Separate start output other) (formed : start.WellFormed)
    (seated : ∃ folder, start.Seat output folder) : Guarded start output :=
  ⟨formed, separate.plain, seated⟩

theorem Separate.other_beside (separate : Separate start output other)
    (back : Separate start other output) : Beside start output other where
  plain := back.plain other (.inl rfl)
  apart slot isSlot place leads slotLeads := by
    obtain rfl | rfl := isSlot
    · exact separate.apart place slotLeads leads
    · exact back.notCopy place leads slotLeads

/-- The copies of two outputs stand at different places, because the outputs do. -/
theorem Separate.copies_apart (separate : Separate start output other)
    (back : Separate start other output) (guarded : Guarded start output) :
    start.Apart (asidePath other) (asidePath output) := by
  intro place otherLeads leads
  obtain ⟨folder, seat⟩ := guarded.seated
  obtain ⟨grown, near, grows, otherSeat, short, rfl⟩ :=
    otherLeads.seat (asidePath_proper other)
  obtain ⟨later, same, laterGrows, laterSeat, _, equal⟩ := leads.seat (asidePath_proper output)
  obtain ⟨rfl, names⟩ : near = same ∧ (asidePath other).last = (asidePath output).last := by
    simpa using equal
  obtain rfl := (Seat.grow (Seat.withEnding_iff.mpr seat) laterGrows).unique laterSeat
  have lasts : other.last = output.last := by
    simpa [asidePath_last] using names
  by_cases empty : other.text = ""
  · obtain ⟨folders, last⟩ := other
    obtain ⟨rfl, rfl⟩ : folders = [] ∧ last = "" := (FilePath.text_eq_empty_iff _).mp empty
    by_cases alone : output.text = ""
    · obtain ⟨noFolders, noLast⟩ := (FilePath.text_eq_empty_iff _).mp alone
      obtain ⟨folders, last⟩ := output
      obtain rfl : folders = [] := noFolders
      obtain rfl : last = "" := noLast
      exact separate.different rfl
    · exact (guarded.proper (.inl rfl) alone).1 lasts.symm
  · have properOther := (Seat.withEnding_iff.mp otherSeat).proper guarded.formed grows
      (back.plain other (.inl rfl)) seat.directory empty
    have fits : other.last.utf8ByteSize ≤ FileTree.maxNameSize := by
      rw [asidePath_last, String.utf8ByteSize_append] at short
      omega
    have otherThere := (Seat.withEnding_iff.mp otherSeat).mayLead grows properOther fits
    have outputThere := seat.mayLead (.refl start) (lasts ▸ properOther) (lasts ▸ fits)
    rw [lasts] at otherThere
    exact separate.apart _ outputThere otherThere

theorem Separate.copy_beside (separate : Separate start output other)
    (back : Separate start other output) (guarded : Guarded start output) :
    Beside start output (asidePath other) where
  plain := back.plain _ (.inr rfl)
  apart slot isSlot place leads slotLeads := by
    obtain rfl | rfl := isSlot
    · exact separate.notCopy place slotLeads leads
    · exact separate.copies_apart back guarded place leads slotLeads

/-- A temporary file stands apart from every copy by its name. -/
theorem temporary_apart_copy {path temporary : FilePath}
    (found : temporaryPath? path = some temporary) :
    start.Apart temporary (asidePath output) := by
  intro place leads copyLeads
  obtain ⟨proper, _, noCopy⟩ := Replacement.temporaryPath_last found
  obtain ⟨_, _, _, _, _, rfl⟩ := leads.seat proper
  obtain ⟨_, _, _, _, _, equal⟩ := copyLeads.seat (asidePath_proper output)
  exact noCopy output (List.append_singleton_inj.mp equal).2

theorem Separate.temporary_beside (separate : Separate start output other)
    (back : Separate start other output) {temporary : FilePath}
    (found : temporaryPath? other = some temporary) : Beside start output temporary where
  plain := back.temporaryPlain temporary found
  apart slot isSlot place leads slotLeads := by
    obtain rfl | rfl := isSlot
    · exact separate.notTemporary temporary found place slotLeads leads
    · exact temporary_apart_copy found place leads slotLeads

theorem Separate.own_temporary_beside (separate : Separate start output other)
    (guarded : Guarded start output) {temporary : FilePath}
    (found : temporaryPath? output = some temporary) : Beside start output temporary where
  plain := separate.temporaryPlain temporary found
  apart slot isSlot place leads slotLeads := by
    obtain rfl | rfl := isSlot
    · obtain ⟨proper, noName, _⟩ := Replacement.temporaryPath_last found
      have slotProper := guarded.proper (.inl rfl) slotLeads.text_ne_empty
      obtain ⟨_, _, _, _, _, rfl⟩ := leads.seat proper
      obtain ⟨_, _, _, _, _, equal⟩ := slotLeads.seat slotProper
      rw [FilePath.fileName?_proper slotProper] at noName
      exact noName (congrArg some (List.append_singleton_inj.mp equal).2.symm)
    · exact temporary_apart_copy found place leads slotLeads

end Beside

theorem seat_temporary {start : FileTree} {path temporary : FilePath} {folder : Location}
    (seat : start.Seat path folder) (proper : IsProperName path.last)
    (single : '/' ∉ path.last.toList) (found : temporaryPath? path = some temporary) :
    start.Seat temporary folder ∧ temporary.last = path.last ++ Replacement.ending := by
  rw [Replacement.temporaryPath?_proper proper single] at found
  obtain rfl := Option.some.inj found
  exact ⟨seat.trimmed _, rfl⟩

section Seats

variable {start : FileTree} {output other : FilePath} {folder otherFolder : Location}
  (seat : start.Seat output folder) (otherSeat : start.Seat other otherFolder)
  (proper : IsProperName output.last) (otherProper : IsProperName other.last)
include seat otherSeat proper otherProper

/-- Where the folders of both outputs exist, an output is detached from the other when there is a
file or nothing at its place and at its copy, and the names of the other output, of its copy and of
its temporary file lead elsewhere. -/
theorem detached_of_seats (otherSingle : '/' ∉ other.last.toList)
    (free : ∀ added ∈ ["", ending],
      Node.IsFileOrNothing (start.node? (folder ++ [output.last ++ added])))
    (apart : ∀ added ∈ ["", ending, Replacement.ending],
      folder ++ [output.last] ≠ otherFolder ++ [other.last ++ added]) :
    Detached start output other := by
  have plain : start.Plain output := by
    apply seat.plain proper
    simpa using free "" (by simp)
  have elsewhere : ∀ {path added}, start.Seat path otherFolder →
      IsProperName path.last → added ∈ ["", ending, Replacement.ending] →
        path.last = other.last ++ added → start.Apart output path := by
    intro path added pathSeat pathProper inside named place leads pathLeads
    apply apart added inside
    rw [← seat.eq_of_mayLead proper leads, ← named, ← pathSeat.eq_of_mayLead pathProper pathLeads]
  refine ⟨?_, ?_, ?_, ?_, ?_, ?_⟩
  · intro equal
    subst equal
    apply apart "" (by simp)
    rw [seat.unique otherSeat, String.append_empty]
  · intro slot either
    rcases either with rfl | rfl
    · exact plain
    · exact (Seat.withEnding_iff.mpr seat).plain (asidePath_proper output)
        (free ending (by simp))
  · exact elsewhere otherSeat otherProper (by simp) (String.append_empty).symm
  · exact elsewhere (Seat.withEnding_iff.mpr otherSeat) (asidePath_proper other)
      (List.mem_cons_of_mem _ List.mem_cons_self) rfl
  · intro temporary found
    obtain ⟨temporarySeated, named⟩ := seat_temporary otherSeat otherProper otherSingle found
    exact elsewhere temporarySeated (Replacement.temporaryPath_last found).1 (by simp) named
  · intro higher either
    rcases either with above | above
    · obtain ⟨place, walked, directory⟩ := seat.above proper above
      exact FileTree.apart_of_directory walked directory plain
    · obtain ⟨place, walked, directory⟩ := otherSeat.above otherProper above
      exact FileTree.apart_of_directory walked directory plain

/-- Such an output is separate when there is a file or nothing at its temporary file, too. -/
theorem separate_of_seats (single : '/' ∉ output.last.toList)
    (otherSingle : '/' ∉ other.last.toList)
    (free : ∀ added ∈ ["", ending, Replacement.ending],
      Node.IsFileOrNothing (start.node? (folder ++ [output.last ++ added])))
    (apart : ∀ added ∈ ["", ending, Replacement.ending],
      folder ++ [output.last] ≠ otherFolder ++ [other.last ++ added]) :
    Separate start output other := by
  refine ⟨detached_of_seats seat otherSeat proper otherProper otherSingle
    (fun added inside => free added (by grind)) apart, fun temporary found => ?_⟩
  obtain ⟨temporarySeated, named⟩ := seat_temporary seat proper single found
  apply temporarySeated.plain (Replacement.temporaryPath_last found).1
  rw [named]
  exact free Replacement.ending (by simp)

end Seats

end Tablewright.Rotation
