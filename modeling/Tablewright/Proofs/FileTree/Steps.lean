import Mathlib.Data.List.TakeWhile
import Tablewright.Proofs.FileTree.Parents

namespace Tablewright

namespace FilePath

/-- These are the parts of a path that lead to another folder. -/
def steps (path : FilePath) : List String :=
  path.parts.filter isStep

theorem steps_eq (path : FilePath) : path.steps = path.folders.filter isStep ++
    if isStep path.last then [path.last] else [] := by
  rw [steps, parts, List.filter_append, List.filter_cons, List.filter_nil]

theorem filter_front (folder : FilePath) : folder.front.filter isStep = folder.steps := by
  rw [front]
  split
  · next slash => rw [steps_eq, slash, if_neg (by decide), List.append_nil]
  · rfl

/-- The last of the trimmed parts is the last step, if there is a step. -/
theorem fileName?_iff {path : FilePath} {name : String} :
    path.fileName? = some name ↔ path.steps.getLast? = some name ∧ name ≠ ".." := by
  have last : path.steps.getLast? =
      (path.parts.reverse.dropWhile fun part => !isStep part).head? := by
    rw [steps, ← List.head?_reverse, ← List.filter_reverse, List.head?_filter,
      List.find?_eq_head?_dropWhile_not]
  rw [fileName?, trimmed, last]
  obtain ⟨front, final, trimmed, step, kept⟩ | ⟨nothing, trimmed⟩ :=
    trimParts_cases path.isAbsolute path.parts
  · have backwards := congrArg List.reverse kept
    rw [List.reverse_reverse, List.reverse_append, List.reverse_singleton] at backwards
    rw [trimmed, backwards, List.getLast?_concat]
    dsimp only [List.singleton_append, List.head?_cons]
    constructor
    · intro found
      split at found
      · next proper =>
          obtain rfl := Option.some.inj found
          exact ⟨rfl, proper.2⟩
      · cases found
    · rintro ⟨same, proper⟩
      obtain rfl := Option.some.inj same
      exact if_pos ⟨step, proper⟩
  · rw [List.reverse_eq_nil_iff] at nothing
    have still : ∀ final, (trimParts path.isAbsolute path.parts).getLast? = some final →
        isStep final = false := by
      intro final ended
      rw [trimmed] at ended
      split at ended
      · obtain rfl := Option.some.inj ended
        rfl
      · split at ended
        · obtain rfl := Option.some.inj ended
          rfl
        · cases ended
    rw [nothing]
    split
    · next final ended => simp [still final ended]
    · simp

/-- Two paths are alike when they start at the same place and have the same steps. -/
def Alike (path other : FilePath) : Prop :=
  path.isAbsolute = other.isAbsolute ∧ path.steps = other.steps

/-- A path stands in a folder under a name when the name is its last part and the folders before it
are those of the folder. -/
structure StandsIn (path folder : FilePath) (name : String) : Prop where
  last : path.last = name
  root : path.isAbsolute = folder.isAbsolute
  above : path.folders.filter isStep = folder.steps

section Folders

variable {path other folder : FilePath} {name : String}

/-- An absolute path is not joined to a folder, and another one has no folders of its own. -/
theorem standsIn_join : (folder.join path).StandsIn folder name ↔
    path.last = name ∧ if path.isAbsolute then
      folder.isAbsolute = true ∧ path.folders.filter isStep = folder.steps
    else path.folders.filter isStep = [] := by
  cases rooted : path.isAbsolute with
  | true =>
      rw [join, if_pos rooted, if_pos rfl]
      constructor
      · rintro ⟨last, root, above⟩
        exact ⟨last, root.symm.trans rooted, above⟩
      · rintro ⟨last, root, above⟩
        exact ⟨last, rooted.trans root.symm, above⟩
  | false =>
      have root : (folder.join path).isAbsolute = folder.isAbsolute := by
        rw [isAbsolute_join, rooted, Bool.false_or]
      have above : (folder.join path).folders.filter isStep =
          folder.steps ++ path.folders.filter isStep := by
        rw [join_relative rooted, List.filter_append, filter_front]
      rw [if_neg Bool.false_ne_true]
      constructor
      · rintro ⟨last, _, same⟩
        rw [above] at same
        exact ⟨(last_join folder path).symm.trans last, by simpa using same⟩
      · rintro ⟨last, none⟩
        exact ⟨(last_join folder path).trans last, root, by rw [above, none, List.append_nil]⟩

theorem steps_join : (folder.join path).steps =
    if path.isAbsolute then path.steps else folder.steps ++ path.steps := by
  cases rooted : path.isAbsolute with
  | true => rw [join, if_pos rooted, if_pos rfl]
  | false =>
      rw [join_relative rooted, if_neg Bool.false_ne_true, steps_eq, steps_eq path,
        List.filter_append, filter_front, List.append_assoc]

theorem fileName?_join (named : path.fileName? = some name) :
    (folder.join path).fileName? = some name := by
  obtain ⟨last, proper⟩ := fileName?_iff.mp named
  refine fileName?_iff.mpr ⟨?_, proper⟩
  rw [steps_join]
  split
  · exact last
  · rw [List.getLast?_append, last, Option.some_or]

/-- The file name of a path is its last part unless that is no step. -/
theorem last_eq_iff (named : path.fileName? = some name) :
    path.last = name ↔ isStep path.last = true := by
  obtain ⟨last, -⟩ := fileName?_iff.mp named
  constructor
  · rintro rfl
    exact (List.mem_filter.mp (List.mem_of_getLast? last)).2
  · intro step
    rw [steps_eq, if_pos step, List.getLast?_concat] at last
    exact Option.some.inj last

theorem StandsIn.steps (stands : path.StandsIn folder name) (step : isStep name = true) :
    path.steps = folder.steps ++ [name] := by
  rw [steps_eq, stands.above, stands.last, if_pos step]

/-- Two paths in one folder are alike exactly if their names are the same. -/
theorem alike_iff {otherName : String} (stands : path.StandsIn folder name)
    (otherStands : other.StandsIn folder otherName) (step : isStep name = true)
    (otherStep : isStep otherName = true) : path.Alike other ↔ name = otherName := by
  rw [Alike, stands.steps step, otherStands.steps otherStep, stands.root, otherStands.root,
    List.append_singleton_inj]
  simp

end Folders

end FilePath

namespace FileTree

variable {tree : FileTree}

section Parts

variable {jump : Location → List String → Except FileError Location}

/-- A walk to a directory starts in one. -/
theorem directory_of_walkParts {place final : Location} {parts : List String}
    (walked : tree.walkParts true jump place parts = .ok final)
    (standing : tree.node? final = some .directory) : tree.node? place = some .directory := by
  cases parts with
  | nil =>
      obtain rfl := Except.ok.inj walked
      exact standing
  | cons part rest =>
      rw [walkParts] at walked
      split at walked
      · cases walked
      · cases walked
      · cases walked
      · next directory => exact directory

theorem walkParts_steps
    (same : ∀ place parts final, tree.node? final = some .directory →
      (jump place parts = .ok final ↔ jump place (parts.filter FilePath.isStep) = .ok final))
    {place final : Location} {parts : List String}
    (standing : tree.node? final = some .directory) :
    tree.walkParts true jump place parts = .ok final ↔
      tree.walkParts true jump place (parts.filter FilePath.isStep) = .ok final := by
  induction parts generalizing place with
  | nil => exact Iff.rfl
  | cons part rest hypothesis =>
      by_cases step : FilePath.isStep part = true
      · have leads : ¬ (part = "" ∨ part = ".") := by simpa [FilePath.isStep] using step
        rw [List.filter_cons_of_pos step, walkParts, walkParts]
        cases tree.node? place with
        | none => exact Iff.rfl
        | some node =>
            cases node with
            | file content writable => exact Iff.rfl
            | link target => exact Iff.rfl
            | directory =>
                simp only [leads, if_false, Bool.not_true, Bool.false_eq_true, and_false]
                split
                · exact hypothesis
                · split
                  · exact Iff.rfl
                  · split
                    · next target _ =>
                        have alike : ((FilePath.ofText target).parts ++ rest).filter
                            FilePath.isStep = ((FilePath.ofText target).parts ++
                              rest.filter FilePath.isStep).filter FilePath.isStep := by
                          simp [List.filter_append]
                        rw [same _ _ _ standing, alike]
                        exact (same _ _ _ standing).symm
                    · exact hypothesis
      · have still : part = "" ∨ part = "." := by
          by_contra leads
          exact step (by simpa [FilePath.isStep] using leads)
        rw [List.filter_cons_of_neg step, ← hypothesis]
        have skipped : tree.node? place = some .directory →
            tree.walkParts true jump place (part :: rest) =
              tree.walkParts true jump place rest := by
          intro directory
          simp only [walkParts, directory, still, if_true]
        constructor
        · intro walked
          rwa [skipped (directory_of_walkParts walked standing)] at walked
        · intro walked
          rwa [skipped (directory_of_walkParts walked standing)]

end Parts

/-- A walk ends in a directory exactly if the walk along its steps does. -/
theorem walk_steps {links : Nat} {place final : Location} {parts : List String}
    (standing : tree.node? final = some .directory) :
    tree.walk true links place parts = .ok final ↔
      tree.walk true links place (parts.filter FilePath.isStep) = .ok final := by
  induction links generalizing place parts final with
  | zero => exact walkParts_steps (by simp) standing
  | succ links hypothesis =>
      have same : ∀ place parts final, tree.node? final = some .directory →
          (tree.walk true links place parts = .ok final ↔
            tree.walk true links place (parts.filter FilePath.isStep) = .ok final) :=
        fun _ _ _ directory => hypothesis directory
      exact walkParts_steps same standing

/-- In a tree where the folder leads to a directory, a path that stands in it has its seat there. -/
theorem seat_of_standsIn {path folder : FilePath} {name : String} {place : Location}
    (stands : path.StandsIn folder name)
    (located : tree.locate true folder = .ok place)
    (standing : tree.node? place = some .directory) : tree.Seat path place := by
  obtain ⟨_, walked⟩ := locate_iff.mp located
  have origin : tree.origin path = tree.origin folder := by
    rw [origin, origin, stands.root]
  refine ⟨?_, standing⟩
  rw [origin, walk_steps standing, stands.above]
  exact (walk_steps standing).mp walked

end FileTree

end Tablewright
