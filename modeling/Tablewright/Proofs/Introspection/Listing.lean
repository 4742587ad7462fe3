import Tablewright.Proofs.Introspection.Sameness
import Tablewright.Proofs.Text.ByteOrder

namespace Tablewright

namespace FilePath

theorem parts_join {name : String} (single : '/' ∉ name.toList) (folder : FilePath) :
    (folder.join (ofText name)).parts = folder.front ++ [name] := by
  rw [ofText_single single, join_relative rfl, parts, List.append_nil]

/-- Paths are ordered by the bytes of their parts. -/
def Before (left right : FilePath) : Prop :=
  left.parts.map Text.bytes < right.parts.map Text.bytes

/-- Files of a folder have the order of their names. -/
theorem before_of_names {left right : String} (single : '/' ∉ left.toList)
    (otherSingle : '/' ∉ right.toList) (before : left < right) (folder : FilePath) :
    (folder.join (ofText left)).Before (folder.join (ofText right)) := by
  rw [Before, parts_join single, parts_join otherSingle, List.map_append, List.map_append]
  exact List.append_left_lt (List.cons_lt_cons_iff.mpr (.inl (Text.bytes_lt before)))

theorem Before.ne {left right : FilePath} (before : left.Before right) : left ≠ right := by
  rintro rfl
  exact List.lt_irrefl _ before

end FilePath

namespace Discovery

/-- A system lists every name once, and no name has a slash. -/
structure IsListing (entries : List DirectoryEntry) : Prop where
  distinct : (entries.map DirectoryEntry.name).Nodup
  single : ∀ name kind, ⟨.text name, kind⟩ ∈ entries → '/' ∉ name.toList

/-- Paths are the declaration files that a directory lists. -/
structure Discovered (directory : FilePath) (lead : String) (entries : List DirectoryEntry)
    (paths : List FilePath) : Prop where
  /-- Only a file can be found, and no link or directory. Its name has to be a text. -/
  found : ∀ path, path ∈ paths ↔ ∃ name, ⟨.text name, .file⟩ ∈ entries ∧
    (Text.upperCase lead).toList <+: (Text.upperCase name).toList ∧
    ".rs".toList <:+ name.toList ∧ path = directory.join (.ofText name)
  direct : ∀ path ∈ paths, path.parts = directory.front ++ [path.last]
  once : paths.Nodup
  ascending : paths.Pairwise FilePath.Before

/-- Two listings agree on the entries that are declaration files. -/
def SameDeclarations (lead : String) (entries others : List DirectoryEntry) : Prop :=
  ∀ entry, (declarationName? lead entry).isSome → (entry ∈ others ↔ entry ∈ entries)

section Listings

variable {lead name : String} {entries others : List DirectoryEntry} {directory : FilePath}

theorem isDeclarationName_iff : isDeclarationName lead name = true ↔
    (Text.upperCase lead).toList <+: (Text.upperCase name).toList ∧
      ".rs".toList <:+ name.toList := by
  rw [isDeclarationName, Bool.and_eq_true, List.isPrefixOf_iff_prefix, List.isSuffixOf_iff_suffix]
  rfl

theorem names_single (listing : IsListing entries) :
    ∀ name ∈ names lead entries, '/' ∉ name.toList :=
  fun name inside => listing.single name .file (mem_names.mp inside).1

/-- The names of declaration files ascend strictly, whatever order the entries have. -/
theorem names_ascending (listing : IsListing entries) (lead : String) :
    (names lead entries).Pairwise (· < ·) := by
  refine ascending_sorted id ?_
  rw [List.map_id]
  exact declared_nodup listing.distinct lead

theorem discovered (listing : IsListing entries) (directory : FilePath) (lead : String) :
    Discovered directory lead entries (paths directory lead entries) := by
  have single : ∀ name ∈ names lead entries, '/' ∉ name.toList := names_single listing
  have ascending : (paths directory lead entries).Pairwise FilePath.Before := by
    rw [paths, List.pairwise_map]
    refine (names_ascending listing lead).imp_of_mem ?_
    intro left right inside otherInside before
    exact FilePath.before_of_names (single left inside) (single right otherInside) before directory
  constructor
  case found =>
    intro path
    rw [paths, List.mem_map]
    constructor
    · rintro ⟨name, inside, rfl⟩
      obtain ⟨listed, declared⟩ := mem_names.mp inside
      obtain ⟨starts, ends⟩ := isDeclarationName_iff.mp declared
      exact ⟨name, listed, starts, ends, rfl⟩
    · rintro ⟨name, listed, starts, ends, rfl⟩
      exact ⟨name, mem_names.mpr ⟨listed, isDeclarationName_iff.mpr ⟨starts, ends⟩⟩, rfl⟩
  case direct =>
    intro path inside
    obtain ⟨name, among, rfl⟩ := List.mem_map.mp inside
    rw [FilePath.parts_join (single name among), FilePath.last_join,
      FilePath.ofText_single (single name among)]
  case once => exact ascending.imp FilePath.Before.ne
  case ascending => exact ascending

theorem names_of_perm (same : others.Perm entries) : names lead others = names lead entries :=
  names_congr (same.filterMap _)

theorem names_of_declarations (listing : IsListing entries) (otherListing : IsListing others)
    (same : SameDeclarations lead entries others) : names lead others = names lead entries := by
  apply names_congr
  rw [List.perm_ext_iff_of_nodup (declared_nodup otherListing.distinct lead)
    (declared_nodup listing.distinct lead)]
  intro name
  rw [mem_declared, mem_declared]
  refine and_congr_left fun declared => same ⟨.text name, .file⟩ ?_
  simp [declarationName?, declared]

end Listings

/-- A tree lists its directories as a system does. -/
theorem isListing_entriesOf {tree : FileTree} (genuine : tree.Genuine) (place : Location) :
    IsListing (tree.entriesOf place) where
  distinct := FileTree.entriesOf_nodup genuine.distinct place
  single := by
    intro name kind inside
    obtain ⟨⟨childName, node⟩, child, same⟩ := List.mem_map.mp inside
    obtain ⟨named, -⟩ := DirectoryEntry.mk.inj same
    obtain rfl := EntryName.text.inj named
    have found := genuine.distinct.mem_children_iff.mp child
    exact (genuine.named place childName (by simp [found])).2.1

end Discovery

namespace Introspection

open Discovery

/-- Introspection does not depend on how a directory is listed. It finds the declaration files that
are listed in ascending order, and ends the same for every order of the entries, for every listing
with the same declaration files, and in every tree that has the same declaration files right below
the directory. -/
theorem introspection_ignores_listing {entries : List DirectoryEntry} (listing : IsListing entries)
    (read : FilePath → Except FileError String) (directory : FilePath)
    (options : IntrospectionOptions) :
    Discovered directory options.lead entries (paths directory options.lead entries) ∧
    (∀ others : List DirectoryEntry, others.Perm entries →
      paths directory options.lead others = paths directory options.lead entries ∧
      introspect (.ok others) read directory options =
        introspect (.ok entries) read directory options) ∧
    (∀ (others : List DirectoryEntry) (other : FilePath → Except FileError String),
      IsListing others → SameDeclarations options.lead entries others →
      (∀ path ∈ paths directory options.lead entries, other path = read path) →
      introspect (.ok others) other directory options =
        introspect (.ok entries) read directory options) ∧
    ∀ (tree other : FileTree) (place : Location), tree.Genuine → other.Genuine →
      tree.locate true directory = .ok place → other.locate true directory = .ok place →
      tree.node? place = some .directory → other.node? place = some .directory →
      FileTree.SameFiles options.lead place tree other →
      tree.entriesAt directory = .ok (tree.entriesOf place) ∧ IsListing (tree.entriesOf place) ∧
      Build.introspection other directory options =
        Build.introspection tree directory options := by
  have whole : ∀ {others : List DirectoryEntry} {other : FilePath → Except FileError String},
      names options.lead others = names options.lead entries →
      (∀ path ∈ paths directory options.lead entries, other path = read path) →
      introspect (.ok others) other directory options =
        introspect (.ok entries) read directory options := by
    intro others other same alike
    exact introspect_congr same fun name inside =>
      alike _ (List.mem_map.mpr ⟨name, inside, rfl⟩)
  refine ⟨discovered listing directory options.lead, ?_, ?_, ?_⟩
  · intro others same
    have equal : names options.lead others = names options.lead entries := names_of_perm same
    exact ⟨by rw [paths, paths, equal], whole equal fun _ _ => rfl⟩
  · intro others other otherListing same alike
    exact whole (names_of_declarations listing otherListing same) alike
  · intro tree other place genuine otherGenuine reached located standing otherStanding files
    refine ⟨?_, isListing_entriesOf genuine place, ?_⟩
    · rw [FileTree.entriesAt_of_locate reached, standing]
    · exact files.introspection genuine otherGenuine.distinct reached located standing
        otherStanding

/-- A declaration file stands in this tree. -/
def flatTree : FileTree :=
  (FileTree.empty ["d"]).put ["d", "c_item.rs"] (.file "pub struct Item;".toUTF8 true)

/-- Here a directory with the name of a declaration file has a declaration file in it. -/
def nestedTree : FileTree :=
  (flatTree.put ["d", "c_sub.rs"] .directory).put ["d", "c_sub.rs", "c_item.rs"]
    (.file "pub struct Skill;".toUTF8 true)

theorem flatTree_genuine : flatTree.Genuine := by
  apply FileTree.genuine_of_nodes
  · apply FileTree.wellFormed_of_nodes
    intro entry inside
    simp [flatTree, FileTree.put, FileTree.empty] at inside
    rcases inside with rfl | rfl <;> rfl
  · decide +kernel
  · decide +kernel

theorem nestedTree_genuine : nestedTree.Genuine := by
  apply FileTree.genuine_of_nodes
  · apply FileTree.wellFormed_of_nodes
    intro entry inside
    simp [nestedTree, flatTree, FileTree.put, FileTree.empty] at inside
    rcases inside with rfl | rfl | rfl | rfl <;> rfl
  · decide +kernel
  · decide +kernel

/-- A directory, a link, bytes that are no text and other names change nothing. -/
theorem introspection_ignores_listing_mixed :
    let directory := FilePath.ofText "."
    let entries : List DirectoryEntry := [⟨.text "c_item.rs", .file⟩, ⟨.text "C_Skill.rs", .file⟩]
    let others : List DirectoryEntry := [⟨.text "C_Skill.rs", .file⟩, ⟨.text "c_dir.rs", .directory⟩,
      ⟨.text "c_link.rs", .link⟩, ⟨.bytes [0x63, 0x5F, 0xFF], .file⟩, ⟨.text "item.rs", .file⟩,
      ⟨.text "c_item.rs", .file⟩, ⟨.text "c_notes.txt", .file⟩]
    let read := flatTree.textAt
    IsListing entries ∧ IsListing others ∧ SameDeclarations "c_" entries others ∧
    paths directory "c_" entries = [⟨["."], "C_Skill.rs"⟩, ⟨["."], "c_item.rs"⟩] ∧
    Discovered directory "c_" entries (paths directory "c_" entries) ∧
    introspect (.ok others) read directory {} = introspect (.ok entries) read directory {} ∧
    flatTree.Genuine ∧ nestedTree.Genuine ∧ FileTree.SameFiles "c_" ["d"] flatTree nestedTree ∧
    Build.introspection nestedTree directory {} = Build.introspection flatTree directory {} := by
  intro directory entries others read
  have single : ∀ entry ∈ others, ∀ name, entry.name = .text name → '/' ∉ name.toList := by
    intro entry inside name named
    simp only [others, List.mem_cons, List.not_mem_nil, or_false] at inside
    rcases inside with rfl | rfl | rfl | rfl | rfl | rfl | rfl <;> cases named <;> decide +kernel
  have among : ∀ entry ∈ entries, entry ∈ others := by decide +kernel
  have listing : IsListing entries :=
    ⟨by decide +kernel, fun name _ inside => single _ (among _ inside) name rfl⟩
  have otherListing : IsListing others :=
    ⟨by decide +kernel, fun name _ inside => single _ inside name rfl⟩
  have declared : ∀ entry ∈ others, (declarationName? "c_" entry).isSome → entry ∈ entries := by
    decide +kernel
  have same : SameDeclarations "c_" entries others :=
    fun entry found => ⟨fun inside => declared entry inside found, among entry⟩
  have files : FileTree.SameFiles "c_" ["d"] flatTree nestedTree := by
    intro name content writable _
    rw [nestedTree, FileTree.node?_put _ (by simp), if_neg (by simp),
      FileTree.node?_put _ (by simp)]
    split
    · next there =>
        obtain rfl : name = "c_sub.rs" := by simpa using there
        have nothing : flatTree.node? ["d", "c_sub.rs"] = none := rfl
        simp [nothing]
    · rfl
  obtain ⟨found, -, relisted, trees⟩ := introspection_ignores_listing listing read directory {}
  have sorted : names "c_" entries = ["C_Skill.rs", "c_item.rs"] := by
    have kept : entries.filterMap (declarationName? "c_") = ["c_item.rs", "C_Skill.rs"] := by
      decide +kernel
    rw [names, kept]
    exact sorted_eq id (by decide) (.swap "c_item.rs" "C_Skill.rs" [])
  have joined : paths directory "c_" entries = [⟨["."], "C_Skill.rs"⟩, ⟨["."], "c_item.rs"⟩] := by
    rw [paths, sorted]
    decide +kernel
  have reached : flatTree.locate true directory = .ok ["d"] := by decide +kernel
  have located : nestedTree.locate true directory = .ok ["d"] := by decide +kernel
  obtain ⟨-, -, alike⟩ := trees flatTree nestedTree ["d"] flatTree_genuine nestedTree_genuine
    reached located rfl rfl files
  exact ⟨listing, otherListing, same, joined, found,
    relisted others read otherListing same fun _ _ => rfl, flatTree_genuine, nestedTree_genuine,
    files, alike⟩

end Introspection

end Tablewright
