import Tablewright.Proofs.FileTree.Locate

namespace Tablewright.FileTree

/-- A path may lead to a place when it does so in a tree that this one grows into. A slash at
its end counts for nothing. -/
def MayLead (tree : FileTree) (path : FilePath) (place : Location) : Prop :=
  (withoutSlashes path).text ≠ "" ∧ ∃ grown, tree.GrowsInto grown ∧
    grown.walk false maxLinks (grown.origin (withoutSlashes path)) (withoutSlashes path).parts =
      .ok place

/-- Two paths are apart when there is no place that both may lead to. -/
def Apart (tree : FileTree) (left right : FilePath) : Prop :=
  ∀ place, tree.MayLead left place → ¬ tree.MayLead right place

/-- A path is plain when only a file or nothing stands where it may lead to. -/
def Plain (tree : FileTree) (path : FilePath) : Prop :=
  ∀ place, tree.MayLead path place → Node.IsFileOrNothing (tree.node? place)

/-- A path is unlinked when no link stands where it may lead to. -/
def Unlinked (tree : FileTree) (path : FilePath) : Prop :=
  ∀ place, tree.MayLead path place → ∀ target, tree.node? place ≠ some (.link target)

/-- A path has its seat in the directory that its folders lead to. -/
structure Seat (tree : FileTree) (path : FilePath) (folder : Location) : Prop where
  reached : tree.walk true maxLinks (tree.origin path) path.folders = .ok folder
  directory : tree.node? folder = some .directory

section MayLead

variable {tree grown : FileTree} {path : FilePath} {place : Location}

theorem mayLead_of_locate (grows : tree.GrowsInto grown)
    (located : grown.locate false (withoutSlashes path) = .ok place) :
    tree.MayLead path place := by
  rw [locate_iff] at located
  exact ⟨located.1.1, grown, grows, located.2⟩

theorem MayLead.text_ne_empty (leads : tree.MayLead path place) : path.text ≠ "" := by
  intro empty
  obtain ⟨folders, last⟩ := path
  obtain ⟨rfl, rfl⟩ : folders = [] ∧ last = "" := (FilePath.text_eq_empty_iff _).mp empty
  exact leads.1 rfl

/-- A walk along a whole path ends where the path without its slashes leads, unless a link is
there. -/
theorem walk_withoutSlashes (some : path.text ≠ "")
    (walked : tree.walk true maxLinks (tree.origin path) path.parts = .ok place) :
    (withoutSlashes path).text ≠ "" ∧ ∃ near,
      tree.walk false maxLinks (tree.origin (withoutSlashes path)) (withoutSlashes path).parts =
        .ok near ∧ (place = near ∨ ∃ target, tree.node? near = .some (.link target)) := by
  obtain same | ⟨folders, last, named, kept, same⟩ := withoutSlashes_cases path
  · rw [same]
    exact ⟨some, tree.walk_follow _ _ _ _ walked⟩
  · have shorter : tree.walk true maxLinks (tree.origin path) (stripped path.parts) =
        .ok place := by
      refine walk_dropped ?_ walked
      intro part drops
      have empty : part = "" := by simpa using drops
      simp [FilePath.isStep, empty]
    rw [same, origin_stripped tree named kept, FilePath.parts, ← kept]
    exact ⟨FilePath.text_ne_empty named, tree.walk_follow _ _ _ _ shorter⟩

/-- A walk along a whole path ends where the path may lead, unless a link is there. -/
theorem mayLead_of_walk (some : path.text ≠ "") (grows : tree.GrowsInto grown)
    (walked : grown.walk true maxLinks (grown.origin path) path.parts = .ok place) :
    ∃ near, tree.MayLead path near ∧
      (place = near ∨ ∃ target, tree.node? near = .some (.link target)) := by
  obtain ⟨named, near, stopped, same⟩ := walk_withoutSlashes some walked
  refine ⟨near, ⟨named, grown, grows, stopped⟩, ?_⟩
  obtain same | ⟨target, link⟩ := same
  · exact .inl same
  · exact .inr ⟨target, (grows.links _ _).mp link⟩

theorem Plain.unlinked (plain : tree.Plain path) : tree.Unlinked path :=
  fun place leads => (plain place leads).noLink

/-- No link stands where an unlinked path may lead, so following it makes no difference. -/
theorem Unlinked.mayLead (unlinked : tree.Unlinked path) (grows : tree.GrowsInto grown)
    (located : grown.locate true path = .ok place) : tree.MayLead path place := by
  obtain ⟨accepted, walked⟩ := FileTree.locate_iff.mp located
  obtain ⟨near, leads, rfl | ⟨target, link⟩⟩ := mayLead_of_walk accepted.1 grows walked
  · exact leads
  · exact absurd link (unlinked near leads target)

/-- A path with a proper last name may lead to that name in a directory only. -/
theorem MayLead.seat (leads : tree.MayLead path place) (proper : IsProperName path.last) :
    ∃ grown folder, tree.GrowsInto grown ∧ grown.Seat path folder ∧
      path.last.utf8ByteSize ≤ maxNameSize ∧ place = folder ++ [path.last] := by
  obtain ⟨_, grown, grows, walked⟩ := leads
  rw [withoutSlashes_of_last proper.1, FilePath.parts, walk_concat] at walked
  obtain ⟨folder, reached, entered⟩ := of_bind_ok walked
  obtain ⟨directory, ⟨_, empty | dot⟩ | ⟨_, dots⟩ | ⟨below, _, short⟩⟩ := of_enter entered
  · exact absurd empty proper.1
  · exact absurd dot proper.2.1
  · exact absurd dots proper.2.2
  · exact ⟨grown, folder, grows, ⟨reached, directory⟩, short, below⟩

/-- A path that leads to a place in the tree may lead nowhere else. -/
theorem mayLead_unique
    (walked : tree.walk false maxLinks (tree.origin (withoutSlashes path))
      (withoutSlashes path).parts = .ok place)
    {other : Location} (leads : tree.MayLead path other) : other = place := by
  obtain ⟨_, grown, grows, again⟩ := leads
  rw [grows.origin, grows.walk _ _ _ _ _ walked] at again
  exact (Except.ok.inj again).symm

/-- A path to a directory is apart from every plain path. -/
theorem apart_of_directory (walked : tree.walk true maxLinks (tree.origin path) path.parts =
      .ok place) (directory : tree.node? place = some .directory) {other : FilePath}
    (plain : tree.Plain other) : tree.Apart path other := by
  intro there leads otherLeads
  obtain ⟨_, near, stopped, rfl | ⟨target, link⟩⟩ :=
    walk_withoutSlashes leads.text_ne_empty walked
  · obtain rfl := mayLead_unique stopped leads
    exact (plain there otherLeads).noDirectory directory
  · obtain rfl := mayLead_unique stopped leads
    exact (plain there otherLeads).noLink target link

end MayLead

namespace Seat

variable {tree grown : FileTree} {path : FilePath} {folder place : Location}

/-- Every path that leads somewhere has a seat. -/
theorem of_locate {follow : Bool} (located : tree.locate follow path = .ok place) :
    ∃ folder, tree.Seat path folder := by
  have near : ∃ near, tree.locate false path = .ok near := by
    cases follow with
    | false => exact ⟨place, located⟩
    | true =>
        obtain ⟨near, stopped, _⟩ := locate_follow located
        exact ⟨near, stopped⟩
  obtain ⟨near, stopped⟩ := near
  obtain ⟨_, folder, reached, entered⟩ := locate_iff_enter.mp stopped
  exact ⟨folder, reached, (of_enter entered).1⟩

theorem grow (seat : tree.Seat path folder) (grows : tree.GrowsInto grown) :
    grown.Seat path folder where
  reached := by
    rw [grows.origin]
    exact grows.walk _ _ _ _ _ seat.reached
  directory := grows.directories folder seat.directory

theorem unique (seat : tree.Seat path folder) {other : Location}
    (again : tree.Seat path other) : other = folder := by
  have reached := again.reached
  rw [seat.reached] at reached
  exact (Except.ok.inj reached).symm

/-- A path with a seat may lead to its last name there and nowhere else. -/
theorem eq_of_mayLead (seat : tree.Seat path folder) (proper : IsProperName path.last)
    (leads : tree.MayLead path place) : place = folder ++ [path.last] := by
  obtain ⟨grown, near, grows, again, _, rfl⟩ := leads.seat proper
  rw [(seat.grow grows).unique again]

theorem plain (seat : tree.Seat path folder) (proper : IsProperName path.last)
    (free : Node.IsFileOrNothing (tree.node? (folder ++ [path.last]))) : tree.Plain path := by
  intro place leads
  rw [seat.eq_of_mayLead proper leads]
  exact free

/-- An ending on its last name does not move the seat of a path. -/
theorem withEnding_iff {ending : String} :
    tree.Seat (path.withEnding ending) folder ↔ tree.Seat path folder :=
  ⟨fun seat => ⟨seat.reached, seat.directory⟩, fun seat => ⟨seat.reached, seat.directory⟩⟩

theorem locate_iff (seat : tree.Seat path folder) (proper : IsProperName path.last) :
    tree.locate false path = .ok place ↔
      path.IsAcceptable ∧ path.last.utf8ByteSize ≤ maxNameSize ∧
        place = folder ++ [path.last] := by
  rw [locate_iff_enter]
  apply and_congr_right
  intro _
  constructor
  · intro given
    obtain ⟨found, reached, entered⟩ := given
    rw [seat.reached] at reached
    obtain rfl := Except.ok.inj reached
    obtain ⟨_, ⟨_, empty | dot⟩ | ⟨_, dots⟩ | ⟨below, _, short⟩⟩ := of_enter entered
    · exact absurd empty proper.1
    · exact absurd dot proper.2.1
    · exact absurd dots proper.2.2
    · exact ⟨short, below⟩
  · intro given
    obtain ⟨short, rfl⟩ := given
    exact ⟨folder, seat.reached, enter_proper seat.directory proper short⟩

theorem mayLead (grows : tree.GrowsInto grown) (seat : grown.Seat path folder)
    (proper : IsProperName path.last) (short : path.last.utf8ByteSize ≤ maxNameSize) :
    tree.MayLead path (folder ++ [path.last]) := by
  rw [MayLead, withoutSlashes_of_last proper.1]
  refine ⟨FilePath.text_ne_empty proper.1, grown, grows, ?_⟩
  rw [FilePath.parts, walk_concat, seat.reached]
  exact enter_proper seat.directory proper short

/-- A plain path with a seat in an old directory ends with a proper name. -/
theorem proper (formed : tree.WellFormed) (grows : tree.GrowsInto grown)
    (plain : tree.Plain path) (seat : grown.Seat path folder)
    (old : tree.node? folder = some .directory) (some : path.text ≠ "") :
    IsProperName path.last := by
  have stays : ∀ near, grown.enter folder path.last = .ok near →
      tree.node? near ≠ .some .directory := by
    intro near entered directory
    have walked : grown.walk true maxLinks (grown.origin path) path.parts = .ok near := by
      apply grown.walk_stop
      · rw [FilePath.parts, walk_concat, seat.reached]
        exact entered
      · simp [grows.directories near directory]
    obtain ⟨stop, leads, rfl | ⟨target, link⟩⟩ := mayLead_of_walk some grows walked
    · exact (plain near leads).noDirectory directory
    · exact (plain stop leads).noLink target link
  refine ⟨?_, ?_, ?_⟩
  · intro empty
    exact stays folder (by simp [enter, walk, walkParts, seat.directory, empty]) old
  · intro dot
    exact stays folder (by simp [enter, walk, walkParts, seat.directory, dot]) old
  · intro dots
    exact stays folder.dropLast (by simp [enter, walk, walkParts, seat.directory, dots])
      (formed.directory_dropLast old)

/-- A plain path with a seat leads to the same place in every tree that grows, and no link
stands there. -/
theorem locate_grown (formed : tree.WellFormed) (plain : tree.Plain path)
    (seat : tree.Seat path folder) (grows : tree.GrowsInto grown) {follow : Bool} :
    grown.locate follow path = .ok place ↔ tree.locate false path = .ok place := by
  constructor
  · intro located
    have near : ∃ near, grown.locate false path = .ok near ∧
        (place = near ∨ ∃ target, grown.node? near = some (.link target)) := by
      cases follow with
      | false => exact ⟨place, located, .inl rfl⟩
      | true => exact locate_follow located
    obtain ⟨near, stopped, same⟩ := near
    have accepted := (FileTree.locate_iff.mp stopped).1
    have proper := seat.proper formed (.refl tree) plain seat.directory accepted.1
    have old : tree.locate false path = .ok near :=
      (seat.locate_iff proper).mpr (((seat.grow grows).locate_iff proper).mp stopped)
    obtain rfl | ⟨target, link⟩ := same
    · exact old
    · have leads := mayLead_of_locate (.refl tree) (withoutSlashes_of_last proper.1 ▸ old)
      exact absurd ((grows.links _ _).mp link) ((plain near leads).noLink target)
  · intro old
    have accepted := (FileTree.locate_iff.mp old).1
    have proper := seat.proper formed (.refl tree) plain seat.directory accepted.1
    have located := grows.locate old
    cases follow with
    | false => exact located
    | true =>
        apply locate_stop located
        intro target link
        have leads : tree.MayLead path place := by
          apply mayLead_of_locate (.refl tree)
          rw [withoutSlashes_of_last proper.1]
          exact old
        exact (plain place leads).noLink target ((grows.links _ _).mp link)

end Seat

end Tablewright.FileTree
