import Tablewright.Build
import Tablewright.Proofs.Build.Paths
import Tablewright.Proofs.FileTree.Children
import Tablewright.Proofs.FileTree.Steps
import Tablewright.Proofs.FileTree.Ways
import Tablewright.Proofs.Sorting

namespace Tablewright

namespace Discovery

/-- Names in another order are sorted to the same list. -/
theorem names_congr {lead : String} {first second : List DirectoryEntry}
    (same : (first.filterMap (declarationName? lead)).Perm
      (second.filterMap (declarationName? lead))) : names lead first = names lead second := by
  have sorted : ∀ entries, (names lead entries).Pairwise (· ≤ ·) :=
    fun entries => pairwise_sorted id _
  refine List.Perm.eq_of_pairwise (fun left right _ _ => le_antisymm) (sorted first)
    (sorted second) ?_
  exact (List.mergeSort_perm _ _).trans (same.trans (List.mergeSort_perm _ _).symm)

theorem mem_declared {lead name : String} {entries : List DirectoryEntry} :
    name ∈ entries.filterMap (declarationName? lead) ↔
      ⟨.text name, .file⟩ ∈ entries ∧ isDeclarationName lead name = true := by
  rw [List.mem_filterMap]
  constructor
  · rintro ⟨⟨entryName, kind⟩, inside, found⟩
    cases kind <;> cases entryName <;> simp [declarationName?] at found
    obtain ⟨declared, rfl⟩ := found
    exact ⟨inside, declared⟩
  · rintro ⟨inside, declared⟩
    exact ⟨_, inside, by simp [declarationName?, declared]⟩

theorem mem_names {lead name : String} {entries : List DirectoryEntry} :
    name ∈ names lead entries ↔
      ⟨.text name, .file⟩ ∈ entries ∧ isDeclarationName lead name = true := by
  rw [names, List.mem_mergeSort, mem_declared]

/-- No declaration file is found twice when no name is listed twice. -/
theorem declared_nodup {entries : List DirectoryEntry}
    (distinct : (entries.map DirectoryEntry.name).Nodup) (lead : String) :
    (entries.filterMap (declarationName? lead)).Nodup := by
  have fewer : ((entries.filterMap (declarationName? lead)).map EntryName.text).Sublist
      (entries.map DirectoryEntry.name) := by
    clear distinct
    induction entries with
    | nil => exact List.Sublist.slnil
    | cons entry rest hypothesis =>
        rw [List.filterMap_cons]
        cases named : declarationName? lead entry with
        | none => exact hypothesis.cons _
        | some name =>
            obtain ⟨entryName, kind⟩ := entry
            cases kind <;> cases entryName <;> simp [declarationName?] at named
            obtain ⟨_, rfl⟩ := named
            exact hypothesis.cons_cons _
  exact List.Nodup.of_map _ (distinct.sublist fewer)

/-- A name with the ending of rotated copies is no declaration file, whatever the lead is. -/
theorem isDeclarationName_aside (lead stem : String) :
    isDeclarationName lead (stem ++ Rotation.ending) = false := by
  rw [isDeclarationName, Bool.and_eq_false_iff]
  right
  rw [← Bool.not_eq_true, List.isSuffixOf_iff_suffix]
  rintro ⟨front, same⟩
  have letters := congrArg List.getLast? same
  simp [ending, Rotation.ending] at letters

end Discovery

namespace Introspection

theorem load_congr {first second : FilePath → Except FileError String} {paths : List FilePath}
    (same : ∀ path ∈ paths, first path = second path) (context : Context) :
    SourceSet.load first paths context = SourceSet.load second paths context := by
  induction paths generalizing context with
  | nil => rfl
  | cons path rest hypothesis =>
      rw [List.forall_mem_cons] at same
      rw [SourceSet.load, SourceSet.load, same.1]
      cases second path with
      | error cause => exact hypothesis same.2 _
      | ok text => simp only [hypothesis same.2]

/-- Two listings with the same declaration files lead to the same introspection when the files hold
the same texts. -/
theorem introspect_congr {first second : List DirectoryEntry}
    {read other : FilePath → Except FileError String} {directory : FilePath}
    {options : IntrospectionOptions}
    (listed : Discovery.names options.lead first = Discovery.names options.lead second)
    (same : ∀ name ∈ Discovery.names options.lead second,
      read (directory.join (.ofText name)) = other (directory.join (.ofText name))) :
    introspect (.ok first) read directory options =
      introspect (.ok second) other directory options := by
  have paths : Discovery.paths directory options.lead first =
      Discovery.paths directory options.lead second := by
    rw [Discovery.paths, Discovery.paths, listed]
  have loaded : ∀ context,
      SourceSet.load read (Discovery.paths directory options.lead second) context =
        SourceSet.load other (Discovery.paths directory options.lead second) context := by
    apply load_congr
    intro path inside
    obtain ⟨name, declared, rfl⟩ := List.mem_map.mp inside
    exact same name declared
  simp only [introspect, ofPaths, paths, loaded]

end Introspection

namespace FileTree

/-- A node may have a name that is proper, short and without a slash. -/
def IsNodeName (name : String) : Prop :=
  IsProperName name ∧ '/' ∉ name.toList ∧ name.utf8ByteSize ≤ maxNameSize

instance (name : String) : Decidable (IsNodeName name) :=
  inferInstanceAs (Decidable (IsProperName name ∧ '/' ∉ name.toList ∧
    name.utf8ByteSize ≤ maxNameSize))

/-- A tree of a system lists no location twice, and its nodes stand in directories under names that
nodes may have. -/
structure Genuine (tree : FileTree) : Prop where
  formed : tree.WellFormed
  distinct : tree.Distinct
  named : ∀ place name, (tree.node? (place ++ [name])).isSome → IsNodeName name

/-- A tree is genuine when its list has each location once, below a directory and with a valid
name. -/
theorem genuine_of_nodes {tree : FileTree} (formed : tree.WellFormed)
    (distinct : (tree.nodes.map Prod.fst).Nodup)
    (named : ∀ entry ∈ tree.nodes, ∀ name ∈ entry.1.getLast?, IsNodeName name) :
    tree.Genuine := by
  refine ⟨formed, distinct, ?_⟩
  intro place name present
  rw [tree.node?_of_ne_root (by simp), List.lookup_isSome_iff] at present
  obtain ⟨entry, inside, same⟩ := present
  rw [beq_iff_eq] at same
  exact named entry inside name (by simp [← same])

/-- Two trees declare the same when they differ only in files that are no declaration files. -/
structure SameDeclared (lead : String) (tree other : FileTree) : Prop where
  here : other.here = tree.here
  nodes : ∀ location, other.node? location = tree.node? location ∨
    Node.IsFileOrNothing (tree.node? location) ∧ Node.IsFileOrNothing (other.node? location) ∧
      ∀ place name, location = place ++ [name] → Discovery.isDeclarationName lead name = false

section Joined

variable {tree : FileTree} {directory : FilePath} {place : Location}

/-- A name joined to the path of a directory has its seat there. -/
theorem seat_join (located : tree.locate true directory = .ok place)
    (present : tree.node? place = some .directory) {name : String} :
    tree.Seat (directory.join ⟨[], name⟩) place :=
  seat_of_standsIn (FilePath.standsIn_join.mpr ⟨rfl, rfl⟩) located present

/-- What is wrong with a path itself is wrong in every tree. -/
theorem locate_unacceptable {path : FilePath} (refused : ¬ path.IsAcceptable)
    (tree other : FileTree) {follow : Bool} :
    other.locate follow path = tree.locate follow path := by
  rw [locate, locate]
  split
  · rfl
  · next some =>
      split
      · rfl
      · next clean =>
          split
          · rfl
          · next short =>
              exact absurd ⟨some, by simpa using clean, Nat.lt_of_not_le short⟩ refused

/-- Trees with the same file under a name in a directory read the same there. -/
theorem textAt_join {other : FileTree} (located : tree.locate true directory = .ok place)
    (otherLocated : other.locate true directory = .ok place)
    (present : tree.node? place = some .directory)
    (otherPresent : other.node? place = some .directory) {name : String} (valid : IsNodeName name)
    {content : ByteArray} {writable : Bool}
    (found : tree.node? (place ++ [name]) = some (.file content writable))
    (same : other.node? (place ++ [name]) = tree.node? (place ++ [name])) :
    other.textAt (directory.join (.ofText name)) =
      tree.textAt (directory.join (.ofText name)) := by
  obtain ⟨proper, single, short⟩ := valid
  rw [FilePath.ofText_single single]
  have last : (directory.join ⟨[], name⟩).last = name := FilePath.last_join _ _
  have nodes : other.nodeAt (directory.join ⟨[], name⟩) =
      tree.nodeAt (directory.join ⟨[], name⟩) := by
    by_cases accepted : (directory.join ⟨[], name⟩).IsAcceptable
    · have reaches : ∀ {one : FileTree}, one.Seat (directory.join ⟨[], name⟩) place →
          one.node? (place ++ [name]) = some (.file content writable) →
            one.locate true (directory.join ⟨[], name⟩) = .ok (place ++ [name]) := by
        intro one seat standing
        apply locate_stop
        · exact (seat.locate_iff (last.symm ▸ proper)).mpr ⟨accepted, by rwa [last], by rw [last]⟩
        · simp [standing]
      rw [nodeAt, nodeAt, reaches (seat_join located present) found,
        reaches (seat_join otherLocated otherPresent) (same.trans found)]
      simp only [bind, Except.bind, same]
    · have lost : ∀ one : FileTree, ∃ cause,
          one.locate true (directory.join ⟨[], name⟩) = .error cause := by
        intro one
        cases ended : one.locate true (directory.join ⟨[], name⟩) with
        | error cause => exact ⟨cause, rfl⟩
        | ok there => exact absurd (locate_iff.mp ended).1 accepted
      obtain ⟨cause, refused⟩ := lost tree
      rw [nodeAt, nodeAt, locate_unacceptable accepted tree other, refused]
      rfl
  rw [textAt, textAt, bytesAt, bytesAt, nodes]

end Joined

namespace SameDeclared

variable {lead : String} {tree other : FileTree} (same : tree.SameDeclared lead other)
include same

theorem sameWays : tree.SameWays other :=
  SameWays.of_files same.here fun location =>
    (same.nodes location).imp_right fun both => ⟨both.1, both.2.1⟩

theorem node?_eq {place : Location} {name : String}
    (declared : Discovery.isDeclarationName lead name = true) :
    other.node? (place ++ [name]) = tree.node? (place ++ [name]) := by
  obtain equal | ⟨_, _, undeclared⟩ := same.nodes (place ++ [name])
  · exact equal
  · rw [undeclared place name rfl] at declared
    cases declared

end SameDeclared

section Declared

variable {tree : FileTree}

/-- This function lists a directory at a location. -/
def entriesOf (tree : FileTree) (place : Location) : List DirectoryEntry :=
  (tree.children place).map fun child => ⟨.text child.1, kindOf child.2⟩

theorem entriesAt_of_locate {directory : FilePath} {place : Location}
    (located : tree.locate true directory = .ok place) :
    tree.entriesAt directory =
      match tree.node? place with
      | none => .error .notFound
      | some .directory => .ok (tree.entriesOf place)
      | some _ => .error .notADirectory := by
  rw [entriesAt, located]
  rfl

theorem mem_entriesOf_file (distinct : tree.Distinct) {place : Location} {name : String} :
    ⟨.text name, .file⟩ ∈ tree.entriesOf place ↔
      ∃ content writable, tree.node? (place ++ [name]) = some (.file content writable) := by
  rw [entriesOf, List.mem_map]
  constructor
  · rintro ⟨⟨childName, node⟩, inside, same⟩
    obtain ⟨named, kind⟩ := DirectoryEntry.mk.inj same
    obtain rfl := EntryName.text.inj named
    have found := distinct.mem_children_iff.mp inside
    cases node with
    | file content writable => exact ⟨content, writable, found⟩
    | directory => cases kind
    | link target => cases kind
  · rintro ⟨content, writable, found⟩
    exact ⟨_, distinct.mem_children_iff.mpr found, rfl⟩

theorem entriesOf_names (tree : FileTree) (place : Location) :
    (tree.entriesOf place).map DirectoryEntry.name =
      ((tree.children place).map Prod.fst).map EntryName.text := by
  rw [entriesOf, List.map_map, List.map_map]
  rfl

/-- A directory lists no name twice. -/
theorem entriesOf_nodup (distinct : tree.Distinct) (place : Location) :
    ((tree.entriesOf place).map DirectoryEntry.name).Nodup := by
  rw [entriesOf_names]
  exact (distinct.children_nodup place).map fun _ _ => EntryName.text.inj

end Declared

/-- Two trees have the same declaration files right below a location. -/
def SameFiles (lead : String) (place : Location) (tree other : FileTree) : Prop :=
  ∀ name content writable, Discovery.isDeclarationName lead name = true →
    (other.node? (place ++ [name]) = some (.file content writable) ↔
      tree.node? (place ++ [name]) = some (.file content writable))

section Sameness

variable {tree other : FileTree} {directory : FilePath} {options : IntrospectionOptions}
  {place : Location}

theorem SameFiles.names {lead : String} (same : SameFiles lead place tree other)
    (distinct : tree.Distinct) (otherDistinct : other.Distinct) :
    Discovery.names lead (other.entriesOf place) = Discovery.names lead (tree.entriesOf place) := by
  apply Discovery.names_congr
  rw [List.perm_ext_iff_of_nodup (Discovery.declared_nodup (entriesOf_nodup otherDistinct _) _)
    (Discovery.declared_nodup (entriesOf_nodup distinct _) _)]
  intro name
  rw [Discovery.mem_declared, Discovery.mem_declared, mem_entriesOf_file otherDistinct,
    mem_entriesOf_file distinct]
  refine and_congr_left fun declared => ?_
  exact exists_congr fun content => exists_congr fun writable =>
    same name content writable declared

/-- A directory is introspected alike in two trees that have the same declaration files in it. -/
theorem SameFiles.introspection (same : SameFiles options.lead place tree other)
    (genuine : tree.Genuine) (otherDistinct : other.Distinct)
    (reached : tree.locate true directory = .ok place)
    (located : other.locate true directory = .ok place)
    (standing : tree.node? place = some .directory)
    (otherStanding : other.node? place = some .directory) :
    Build.introspection other directory options = Build.introspection tree directory options := by
  rw [Build.introspection, Build.introspection, entriesAt_of_locate located,
    entriesAt_of_locate reached, standing, otherStanding]
  apply Introspection.introspect_congr
  · exact same.names genuine.distinct otherDistinct
  · intro name inside
    obtain ⟨listed, declared⟩ := Discovery.mem_names.mp inside
    obtain ⟨content, writable, found⟩ := (mem_entriesOf_file genuine.distinct).mp listed
    have valid := genuine.named place name (by simp [found])
    have otherFound := (same name content writable declared).mpr found
    exact textAt_join reached located standing otherStanding valid found
      (otherFound.trans found.symm)

/-- Trees that declare the same are introspected alike from a directory whose way they agree on. -/
theorem SameDeclared.introspection (same : tree.SameDeclared options.lead other)
    (genuine : tree.Genuine) (otherDistinct : other.Distinct)
    (agree : ∀ location ∈ tree.wayOf directory, other.node? location = tree.node? location) :
    Build.introspection other directory options = Build.introspection tree directory options := by
  have located : other.locate true directory = tree.locate true directory :=
    same.sameWays.locate agree
  cases reached : tree.locate true directory with
  | error cause =>
      rw [reached] at located
      rw [Build.introspection, Build.introspection, entriesAt, entriesAt, located, reached]
      rfl
  | ok place =>
      rw [reached] at located
      have node : other.node? place = tree.node? place := agree place (mem_wayOf reached)
      by_cases standing : tree.node? place = some .directory
      · have files : SameFiles options.lead place tree other := by
          intro name content writable declared
          rw [same.node?_eq declared]
        exact files.introspection genuine otherDistinct reached located standing
          (node.trans standing)
      · rw [Build.introspection, Build.introspection, entriesAt_of_locate located,
          entriesAt_of_locate reached, node]
        split
        · rfl
        · next there => exact absurd there standing
        · rfl

end Sameness

end FileTree

end Tablewright
