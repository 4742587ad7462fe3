import Tablewright.Proofs.Except
import Tablewright.Proofs.FilePath
import Tablewright.Proofs.FileTree.Walk

namespace Tablewright

/-- A path is acceptable when it is not empty, not too long, and has no zero character. -/
def FilePath.IsAcceptable (path : FilePath) : Prop :=
  path.text ≠ "" ∧ path.text.toList.contains '\x00' = false ∧
    path.text.utf8ByteSize < FileTree.maxPathSize

namespace FileTree

/-- A path starts from the root or from the place where all paths start. -/
def origin (tree : FileTree) (path : FilePath) : Location :=
  if path.isAbsolute then [] else tree.here

section Locate

variable {tree grown : FileTree} {path : FilePath} {place : Location}

theorem locate_iff {follow : Bool} :
    tree.locate follow path = .ok place ↔
      path.IsAcceptable ∧
        tree.walk follow maxLinks (tree.origin path) path.parts = .ok place := by
  rw [locate]
  by_cases empty : path.text = ""
  · simp [FilePath.IsAcceptable, empty]
  · by_cases zero : path.text.toList.contains '\x00' = true
    · rw [if_neg empty, if_pos zero]
      simp only [FilePath.IsAcceptable, zero, reduceCtorEq, false_and, and_false]
    · by_cases long : maxPathSize ≤ path.text.utf8ByteSize
      · rw [if_neg empty, if_neg zero, if_pos long]
        have tooLong : ¬ path.text.utf8ByteSize < maxPathSize := by omega
        simp only [FilePath.IsAcceptable, tooLong, reduceCtorEq, and_false, false_and]
      · rw [if_neg empty, if_neg zero, if_neg long]
        have accepted : path.IsAcceptable :=
          ⟨empty, by simpa using zero, by omega⟩
        exact (and_iff_right accepted).symm

/-- A path leads to a place when its folders lead to the folder where its last name leads to the
place. -/
theorem locate_iff_enter :
    tree.locate false path = .ok place ↔
      path.IsAcceptable ∧ ∃ folder,
        tree.walk true maxLinks (tree.origin path) path.folders = .ok folder ∧
          tree.enter folder path.last = .ok place := by
  rw [locate_iff, FilePath.parts, walk_concat]
  apply and_congr_right
  intro _
  cases walked : tree.walk true maxLinks (tree.origin path) path.folders with
  | error cause => simp [bind, Except.bind]
  | ok folder => simp [bind, Except.bind]

theorem GrowsInto.origin (grows : tree.GrowsInto grown) (path : FilePath) :
    grown.origin path = tree.origin path := by
  rw [FileTree.origin, FileTree.origin, grows.here]

theorem GrowsInto.locate (grows : tree.GrowsInto grown) {follow : Bool}
    (located : tree.locate follow path = .ok place) :
    grown.locate follow path = .ok place := by
  rw [locate_iff] at located ⊢
  rw [grows.origin]
  exact ⟨located.1, grows.walk _ _ _ _ _ located.2⟩

theorem locate_follow (located : tree.locate true path = .ok place) :
    ∃ near, tree.locate false path = .ok near ∧
      (place = near ∨ ∃ target, tree.node? near = some (.link target)) := by
  rw [locate_iff] at located
  obtain ⟨near, walked, same⟩ := tree.walk_follow _ _ _ _ located.2
  exact ⟨near, locate_iff.mpr ⟨located.1, walked⟩, same⟩

theorem locate_stop (located : tree.locate false path = .ok place)
    (noLink : ∀ target, tree.node? place ≠ some (.link target)) :
    tree.locate true path = .ok place := by
  rw [locate_iff] at located ⊢
  exact ⟨located.1, tree.walk_stop _ _ _ _ located.2 noLink⟩

theorem nodeAt_iff {node : Node} :
    tree.nodeAt path = .ok node ↔
      ∃ place, tree.locate true path = .ok place ∧ tree.node? place = some node := by
  rw [nodeAt]
  cases tree.locate true path with
  | error cause => simp [bind, Except.bind]
  | ok place => cases found : tree.node? place <;> simp [found, bind, Except.bind]

/-- A path leads to a node when the place it leads to has one. -/
theorem leadsToNode_iff :
    tree.leadsToNode path = true ↔
      ∃ place node, tree.locate true path = .ok place ∧ tree.node? place = some node := by
  rw [leadsToNode]
  constructor
  · intro leads
    cases reached : tree.nodeAt path with
    | error cause => simp [reached, Except.toBool] at leads
    | ok node =>
        obtain ⟨place, located, found⟩ := nodeAt_iff.mp reached
        exact ⟨place, node, located, found⟩
  · intro given
    obtain ⟨place, node, located, found⟩ := given
    rw [nodeAt_iff.mpr ⟨place, located, found⟩]
    rfl

end Locate

/-- This function drops the empty parts at the end. -/
def stripped (parts : List String) : List String :=
  (parts.reverse.dropWhile (· = "")).reverse

@[simp] theorem stripped_concat_empty (parts : List String) :
    stripped (parts ++ [""]) = stripped parts := by
  simp [stripped]

theorem stripped_concat (parts : List String) {last : String} (named : last ≠ "") :
    stripped (parts ++ [last]) = parts ++ [last] := by
  simp [stripped, named]

theorem stripped_cases (parts : List String) :
    stripped parts = [] ∨ ∃ folders last, last ≠ "" ∧ stripped parts = folders ++ [last] := by
  induction parts using List.reverseRecOn with
  | nil => exact .inl rfl
  | append_singleton parts last ih =>
      by_cases named : last = ""
      · rw [named, stripped_concat_empty]
        exact ih
      · exact .inr ⟨parts, last, named, stripped_concat parts named⟩

theorem ofParts_concat {folders : List String} {last : String}
    (notRoot : folders ++ [last] ≠ [""]) :
    FilePath.ofParts (folders ++ [last]) = ⟨folders, last⟩ := by
  rw [FilePath.ofParts]
  · simp
  · simp
  · exact notRoot

/-- Parts that end with a name are not the parts of the root. -/
theorem concat_ne_root {folders : List String} {last : String} (named : last ≠ "") :
    folders ++ [last] ≠ [""] := by
  intro root
  obtain ⟨_, same⟩ := List.append_inj' (root.trans (List.nil_append [""]).symm) rfl
  exact named (List.singleton_inj.mp same)

theorem withoutSlashes_of_last {path : FilePath} (named : path.last ≠ "") :
    withoutSlashes path = path := by
  have kept : (path.parts.reverse.dropWhile (· = "")).reverse = path.folders ++ [path.last] :=
    stripped_concat path.folders named
  rw [withoutSlashes, kept]
  split
  · next empty => simp at empty
  · exact ofParts_concat (concat_ne_root named)

/-- A stripped path starts where the path did. -/
theorem origin_stripped (tree : FileTree) {path : FilePath} {folders : List String}
    {last : String} (named : last ≠ "") (kept : stripped path.parts = folders ++ [last]) :
    tree.origin ⟨folders, last⟩ = tree.origin path := by
  obtain ⟨before, final⟩ := path
  have shorter : folders ++ [last] <+: before ++ [final] := by
    have ended := List.dropWhile_suffix (l := (before ++ [final]).reverse) (· = "")
    rw [← List.reverse_prefix, List.reverse_reverse] at ended
    exact kept ▸ ended
  have absolute : folders.head? = some "" ↔ before.head? = some "" := by
    cases folders with
    | nil =>
        obtain ⟨rest, equal⟩ := shorter
        cases before with
        | nil => simp
        | cons folder others =>
            simp only [List.nil_append, List.cons_append, List.cons.injEq] at equal
            simpa [equal.1] using fun empty => named (equal.1.trans empty)
    | cons folder rest =>
        obtain ⟨tail, equal⟩ := shorter
        cases before with
        | nil =>
            have lengths := congrArg List.length equal
            simp at lengths
        | cons other others =>
            simp only [List.cons_append, List.cons.injEq] at equal
            simp [equal.1]
  simp only [origin, FilePath.isAbsolute, beq_iff_eq, absolute]

/-- A path without its slashes is the same path, or has the stripped parts and starts at the
same place. -/
theorem withoutSlashes_cases (path : FilePath) :
    withoutSlashes path = path ∨
      ∃ folders last, last ≠ "" ∧ stripped path.parts = folders ++ [last] ∧
        withoutSlashes path = ⟨folders, last⟩ := by
  obtain empty | ⟨folders, last, named, kept⟩ := stripped_cases path.parts
  · rw [stripped] at empty
    rw [withoutSlashes, empty]
    exact .inl rfl
  · refine .inr ⟨folders, last, named, kept, ?_⟩
    rw [stripped] at kept
    rw [withoutSlashes, kept]
    split
    · next empty => simp at empty
    · exact ofParts_concat (concat_ne_root named)

section Slashes

variable {tree : FileTree}

/-- An empty name or a dot at the end of a walk leads to the directory before it. -/
theorem of_walk_concat_still {links : Nat} {start place : Location} {parts : List String}
    {last : String} (still : FilePath.isStep last = false)
    (walked : tree.walk true links start (parts ++ [last]) = .ok place) :
    tree.walk true links start parts = .ok place ∧ tree.node? place = some .directory := by
  have nowhere : ¬ IsProperName last ∧ last ≠ ".." := by
    refine ⟨fun proper => ?_, ?_⟩
    · simp [FilePath.isStep, proper.1, proper.2.1] at still
    · intro equal
      subst equal
      cases still
  obtain ⟨near, stopped, same⟩ := tree.walk_follow _ _ _ _ walked
  rw [walk_concat] at stopped
  obtain ⟨folder, reached, entered⟩ := of_bind_ok stopped
  obtain ⟨directory, ⟨rfl, -⟩ | ⟨-, upwards⟩ | ⟨-, proper, -⟩⟩ := of_enter entered
  · obtain rfl | ⟨target, link⟩ := same
    · exact ⟨reached, directory⟩
    · rw [directory] at link
      cases link
  · exact absurd upwards nowhere.2
  · exact absurd proper nowhere.1

/-- Parts at the end of a walk that lead nowhere may be dropped. -/
theorem walk_dropped {links : Nat} {start place : Location} {parts : List String}
    {drops : String → Bool} (still : ∀ part, drops part = true → FilePath.isStep part = false)
    (walked : tree.walk true links start parts = .ok place) :
    tree.walk true links start (parts.reverse.dropWhile drops).reverse = .ok place := by
  induction parts using List.reverseRecOn with
  | nil => exact walked
  | append_singleton parts last ih =>
      rw [List.reverse_append, List.reverse_singleton, List.singleton_append,
        List.dropWhile_cons]
      split
      · next dropped => exact ih (of_walk_concat_still (still last dropped) walked).1
      · rw [← List.singleton_append, ← List.reverse_singleton, ← List.reverse_append,
          List.reverse_reverse]
        exact walked

/-- A walk to a directory goes through directories only. -/
theorem walk_prefix {links : Nat} {start place : Location} {front rest : List String}
    (walked : tree.walk true links start (front ++ rest) = .ok place)
    (directory : tree.node? place = some .directory) :
    ∃ middle, tree.walk true links start front = .ok middle ∧
      tree.node? middle = some .directory := by
  induction rest using List.reverseRecOn generalizing place with
  | nil => exact ⟨place, by rwa [List.append_nil] at walked, directory⟩
  | append_singleton rest last ih =>
      rw [← List.append_assoc] at walked
      obtain ⟨near, stopped, _⟩ := tree.walk_follow _ _ _ _ walked
      rw [walk_concat] at stopped
      obtain ⟨folder, reached, entered⟩ := of_bind_ok stopped
      exact ih reached (of_enter entered).1

end Slashes

end FileTree

end Tablewright
