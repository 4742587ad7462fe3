import Tablewright.Proofs.FileTree.Leading

namespace Tablewright

namespace FilePath

/-- A folder is above a path when it is its parent or is above its parent. -/
inductive Above (folder : FilePath) : FilePath → Prop
  | parent {path : FilePath} (direct : path.parent? = some folder) : Above folder path
  | higher {parent path : FilePath} (above : Above folder parent)
      (direct : path.parent? = some parent) : Above folder path

theorem Above.up {folder higher path : FilePath} (above : Above folder path)
    (direct : folder.parent? = some higher) : Above higher path := by
  induction above with
  | parent first => exact .higher (.parent direct) first
  | higher _ first ih => exact .higher ih first

theorem trimmed_proper {path : FilePath} (proper : FileTree.IsProperName path.last) :
    path.trimmed = path.folders ++ [path.last] := by
  have step : isStep path.last = true := by simp [isStep, proper.1, proper.2.1]
  have kept : ((path.folders ++ [path.last]).reverse.dropWhile
      fun part => !isStep part).reverse = path.folders ++ [path.last] := by
    simp [step]
  rw [trimmed, trimParts, parts, kept]
  split
  · next empty => simp at empty
  · rfl

theorem fileName?_proper {path : FilePath} (proper : FileTree.IsProperName path.last) :
    path.fileName? = some path.last := by
  rw [fileName?, trimmed_proper proper, List.getLast?_concat]
  simp [isStep, proper.1, proper.2.1, proper.2.2]

/-- The parent of a path has the first of its parts. -/
theorem prefix_of_parent {path parent : FilePath} (direct : path.parent? = some parent) :
    ∃ front, front <+: path.parts ∧ parent = ofParts (trimParts path.isAbsolute front) := by
  have trimmedPrefix : path.trimmed = [""] ∨ path.trimmed <+: path.parts := by
    rw [trimmed, trimParts]
    split
    · split
      · exact .inl rfl
      · split
        · next dot =>
            refine .inr ?_
            obtain ⟨rest, same⟩ := List.head?_eq_some_iff.mp dot
            exact ⟨rest, same.symm⟩
        · exact .inr List.nil_prefix
    · next kept =>
        refine .inr ?_
        rw [← List.reverse_suffix, List.reverse_reverse]
        exact List.dropWhile_suffix _
  rw [parent?] at direct
  split at direct
  · cases direct
  · cases direct
  · next notEmpty notRoot =>
      refine ⟨path.trimmed.dropLast, ?_, (Option.some.inj direct).symm⟩
      obtain root | before := trimmedPrefix
      · exact absurd root notRoot
      · exact (List.dropLast_prefix _).trans before

theorem parent?_proper {path : FilePath} (proper : FileTree.IsProperName path.last) :
    path.parent? = some (ofParts (trimParts path.isAbsolute path.folders)) := by
  rw [parent?, trimmed_proper proper]
  split
  · next empty => simp at empty
  · next root => exact absurd root (FileTree.concat_ne_root proper.1)
  · rw [List.dropLast_concat]

/-- The parts of a path are those it is made of, with an empty one behind them at times. -/
theorem parts_ofParts (lead : List String) :
    (ofParts lead).parts = lead ∨ (ofParts lead).parts = lead ++ [""] := by
  cases lead using List.reverseRecOn with
  | nil => exact .inr rfl
  | append_singleton front last =>
      by_cases root : front ++ [last] = [""]
      · rw [root]
        exact .inr rfl
      · rw [FileTree.ofParts_concat root]
        exact .inl rfl

theorem isAbsolute_ofParts (lead : List String) :
    (ofParts lead).isAbsolute = true ↔ lead.head? = some "" := by
  cases lead using List.reverseRecOn with
  | nil => simp [ofParts, empty, isAbsolute]
  | append_singleton front last =>
      by_cases root : front ++ [last] = [""]
      · rw [root]
        simp [ofParts, isAbsolute]
      · rw [FileTree.ofParts_concat root]
        cases front with
        | nil => simpa [isAbsolute] using root
        | cons first rest => simp [isAbsolute]

/-- Trimmed parts end with a step, or there is no step and they stand for the start of the
path. -/
theorem trimParts_cases (absolute : Bool) (parts : List String) :
    (∃ front last, trimParts absolute parts = front ++ [last] ∧ isStep last = true ∧
        (parts.reverse.dropWhile fun part => !isStep part).reverse = front ++ [last]) ∨
      ((parts.reverse.dropWhile fun part => !isStep part).reverse = [] ∧
        trimParts absolute parts =
          if absolute then [""] else if parts.head? = some "." then ["."] else []) := by
  rw [trimParts]
  have ended := List.head?_dropWhile_not (fun part => !isStep part) parts.reverse
  generalize parts.reverse.dropWhile (fun part => !isStep part) = backwards at ended
  cases backwards with
  | nil => exact .inr ⟨rfl, rfl⟩
  | cons last front =>
      have kept : (last :: front).reverse = front.reverse ++ [last] := List.reverse_cons
      refine .inl ⟨front.reverse, last, ?_, by simpa using ended, kept⟩
      rw [kept]
      split
      · next empty => simp at empty
      · rfl

/-- Trimmed parts start at the root exactly if the path does. -/
theorem head_trimParts {path : FilePath} {front : List String} (before : front <+: path.parts) :
    (trimParts path.isAbsolute front).head? = some "" ↔ path.isAbsolute = true := by
  obtain ⟨kept, last, trimmed, step, dropped⟩ | ⟨_, trimmed⟩ :=
    trimParts_cases path.isAbsolute front
  · have shorter : kept ++ [last] <+: path.parts := by
      refine List.IsPrefix.trans ?_ before
      rw [← dropped, ← List.reverse_suffix, List.reverse_reverse]
      exact List.dropWhile_suffix _
    rw [trimmed]
    obtain ⟨folders, final⟩ := path
    cases folders with
    | nil =>
        have alone : kept = [] := by
          have lengths := shorter.length_le
          simpa [parts] using lengths
        subst alone
        have named : last ≠ "" := by
          intro equal
          subst equal
          cases step
        simp [isAbsolute, named]
    | cons folder rest =>
        obtain ⟨tail, same⟩ := shorter
        have heads : (kept ++ [last]).head? = some folder := by
          have both := congrArg List.head? same
          simpa [parts, List.head?_append] using both
        rw [heads]
        simp [isAbsolute]
  · rw [trimmed]
    cases path.isAbsolute with
    | true => simp
    | false => by_cases dot : front.head? = some "." <;> simp [dot]

end FilePath

namespace FileTree

variable {tree : FileTree} {links : Nat} {start place : Location}

theorem walk_still {part : String} (still : FilePath.isStep part = false)
    (directory : tree.node? start = some .directory) :
    tree.walk true links start [part] = .ok start := by
  have nowhere : part = "" ∨ part = "." := by
    simpa [FilePath.isStep, or_iff_not_imp_left] using still
  cases links <;> simp [walk, walkParts, directory, nowhere]

/-- Parts that lead nowhere may be dropped from a walk to a directory. -/
theorem walk_trimParts {parts : List String} (absolute : Bool)
    (walked : tree.walk true links start parts = .ok place)
    (directory : tree.node? place = some .directory) :
    tree.walk true links start (FilePath.trimParts absolute parts) = .ok place := by
  have shorter := walk_dropped
    (fun part (drops : (!FilePath.isStep part) = true) => by simpa using drops) walked
  obtain ⟨kept, last, trimmed, _, dropped⟩ | ⟨dropped, trimmed⟩ :=
    FilePath.trimParts_cases absolute parts
  · rw [trimmed, ← dropped]
    exact shorter
  · rw [dropped] at shorter
    have here : start = place := by cases links <;> exact Except.ok.inj shorter
    subst here
    rw [trimmed]
    cases absolute with
    | true => exact walk_still rfl directory
    | false =>
        by_cases dot : parts.head? = some "."
        · simpa [dot] using walk_still rfl directory
        · simpa [dot] using shorter

/-- An empty part behind a walk to a directory leads nowhere else. -/
theorem walk_concat_empty {parts : List String}
    (walked : tree.walk true links start parts = .ok place)
    (directory : tree.node? place = some .directory) :
    tree.walk true links start (parts ++ [""]) = .ok place := by
  apply tree.walk_stop
  · rw [walk_concat, walked]
    simp [bind, Except.bind, enter, walk, walkParts, directory]
  · simp [directory]

theorem origin_trimParts {path : FilePath} {front : List String} {last : String}
    (before : front <+: path.parts) :
    tree.origin ⟨FilePath.trimParts path.isAbsolute front, last⟩ = tree.origin path := by
  have same := FilePath.head_trimParts before
  rw [origin, origin, FilePath.isAbsolute]
  simp only [beq_iff_eq, same]

/-- A trimmed path leads where its parts lead. -/
theorem walk_ofParts {path : FilePath} {front : List String} (before : front <+: path.parts)
    (walked : tree.walk true links (tree.origin path) front = .ok place)
    (directory : tree.node? place = some .directory) :
    tree.walk true links
        (tree.origin (.ofParts (FilePath.trimParts path.isAbsolute front)))
        (FilePath.ofParts (FilePath.trimParts path.isAbsolute front)).parts = .ok place := by
  have same : tree.origin (.ofParts (FilePath.trimParts path.isAbsolute front)) =
      tree.origin path := by
    have absolute := (FilePath.isAbsolute_ofParts _).trans (FilePath.head_trimParts before)
    simp only [origin, absolute]
  have trimmed := walk_trimParts path.isAbsolute walked directory
  rw [same]
  obtain parts | parts := FilePath.parts_ofParts (FilePath.trimParts path.isAbsolute front)
  · rw [parts]
    exact trimmed
  · rw [parts]
    exact walk_concat_empty trimmed directory

/-- Every folder above a path to a directory leads to a directory. -/
theorem directory_of_above {folder path : FilePath} (above : folder.Above path)
    (walked : tree.walk true links (tree.origin path) path.parts = .ok place)
    (directory : tree.node? place = some .directory) :
    ∃ higher, tree.walk true links (tree.origin folder) folder.parts = .ok higher ∧
      tree.node? higher = some .directory := by
  have up : ∀ {path parent place}, path.parent? = some parent →
      tree.walk true links (tree.origin path) path.parts = .ok place →
      tree.node? place = some .directory →
        ∃ higher, tree.walk true links (tree.origin parent) parent.parts = .ok higher ∧
          tree.node? higher = some .directory := by
    intro path parent place direct walked directory
    obtain ⟨front, before, rfl⟩ := FilePath.prefix_of_parent direct
    obtain ⟨rest, whole⟩ := before
    obtain ⟨higher, reached, found⟩ := walk_prefix (whole ▸ walked) directory
    exact ⟨higher, walk_ofParts ⟨rest, whole⟩ reached found, found⟩
  induction above generalizing place with
  | parent direct => exact up direct walked directory
  | higher _ direct ih =>
      obtain ⟨_, reached, found⟩ := up direct walked directory
      exact ih reached found

namespace Seat

variable {path : FilePath} {folder : Location}

/-- Every folder above a path with a seat leads to a directory. -/
theorem above (seat : tree.Seat path folder) (proper : IsProperName path.last)
    {higher : FilePath} (above : higher.Above path) :
    ∃ place, tree.walk true maxLinks (tree.origin higher) higher.parts = .ok place ∧
      tree.node? place = some .directory := by
  have parentStands := walk_ofParts ⟨[path.last], rfl⟩ seat.reached seat.directory
  cases above with
  | parent direct =>
      obtain rfl := Option.some.inj ((FilePath.parent?_proper proper).symm.trans direct)
      exact ⟨folder, parentStands, seat.directory⟩
  | higher above direct =>
      obtain rfl := Option.some.inj ((FilePath.parent?_proper proper).symm.trans direct)
      exact directory_of_above above parentStands seat.directory

/-- A path with trimmed folders has the same seat. -/
theorem trimmed (seat : tree.Seat path folder) (last : String) :
    tree.Seat ⟨FilePath.trimParts path.isAbsolute path.folders, last⟩ folder where
  reached := by
    rw [origin_trimParts ⟨[path.last], rfl⟩]
    exact walk_trimParts path.isAbsolute seat.reached seat.directory
  directory := seat.directory

end Seat

end FileTree

end Tablewright
