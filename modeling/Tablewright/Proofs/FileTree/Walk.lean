import Tablewright.FileTree.Change
import Tablewright.Proofs.FileTree.Growth

namespace Tablewright.FileTree

/-- A proper name is not empty and leads neither nowhere nor upwards. -/
def IsProperName (name : String) : Prop :=
  name ≠ "" ∧ name ≠ "." ∧ name ≠ ".."

instance (name : String) : Decidable (IsProperName name) :=
  inferInstanceAs (Decidable (name ≠ "" ∧ name ≠ "." ∧ name ≠ ".."))

theorem IsProperName.of_long {name : String} (long : 2 < name.length) : IsProperName name := by
  refine ⟨?_, ?_, ?_⟩ <;>
  · intro equal
    subst equal
    exact absurd long (by decide)

/-- This function goes from a folder to the place of one name. A link there is not followed. -/
def enter (tree : FileTree) (folder : Location) (name : String) : Except FileError Location :=
  tree.walk false 0 folder [name]

section Enter

variable {tree : FileTree} {folder place : Location} {name : String}

/-- A proper name leads from a directory to the place below it. -/
theorem enter_proper (directory : tree.node? folder = some .directory)
    (proper : IsProperName name) (short : name.utf8ByteSize ≤ maxNameSize) :
    tree.enter folder name = .ok (folder ++ [name]) := by
  obtain ⟨notEmpty, notDot, notDots⟩ := proper
  have fits : ¬ maxNameSize < name.utf8ByteSize := by omega
  simp only [enter, walk, walkParts, directory, notEmpty, notDot, notDots, fits, or_self,
    ↓reduceIte, Bool.not_false, and_self]
  split <;> rfl

/-- A name leads from a directory to itself, to the directory above or to a place below. -/
theorem of_enter (entered : tree.enter folder name = .ok place) :
    tree.node? folder = some .directory ∧
      (place = folder ∧ (name = "" ∨ name = ".") ∨
        place = folder.dropLast ∧ name = ".." ∨
        place = folder ++ [name] ∧ IsProperName name ∧ name.utf8ByteSize ≤ maxNameSize) := by
  simp only [enter, walk, walkParts, Bool.not_false, and_self, ↓reduceIte] at entered
  split at entered
  · cases entered
  · cases entered
  · cases entered
  · next directory =>
      refine ⟨directory, ?_⟩
      split at entered
      · next nowhere => exact .inl ⟨(Except.ok.inj entered).symm, nowhere⟩
      · next somewhere =>
          rw [not_or] at somewhere
          split at entered
          · next upwards => exact .inr (.inl ⟨(Except.ok.inj entered).symm, upwards⟩)
          · next down =>
              split at entered
              · cases entered
              · next fits =>
                  refine .inr (.inr ⟨?_, ⟨somewhere.1, somewhere.2, down⟩, by omega⟩)
                  split at entered <;> exact (Except.ok.inj entered).symm

end Enter

section Concat

variable (tree : FileTree)

theorem walkParts_concat (stop go : Location → List String → Except FileError Location)
    (last : String)
    (jump : ∀ place parts, stop place (parts ++ [last]) =
      go place parts >>= fun folder => tree.enter folder last)
    (place : Location) (folders : List String) :
    tree.walkParts false stop place (folders ++ [last]) =
      tree.walkParts true go place folders >>= fun folder => tree.enter folder last := by
  induction folders generalizing place with
  | nil =>
      change tree.walkParts false stop place [last] = tree.enter place last
      simp only [enter, walk, walkParts, Bool.not_false, and_self, ↓reduceIte]
  | cons part rest ih =>
      simp only [List.cons_append, walkParts]
      cases tree.node? place with
      | none => rfl
      | some node =>
          cases node with
          | file content writable => rfl
          | link target => rfl
          | directory =>
              dsimp only
              by_cases nowhere : part = "" ∨ part = "."
              · rw [if_pos nowhere, if_pos nowhere, ih]
              · rw [if_neg nowhere, if_neg nowhere]
                by_cases upwards : part = ".."
                · rw [if_pos upwards, if_pos upwards, ih]
                · rw [if_neg upwards, if_neg upwards]
                  by_cases long : maxNameSize < part.utf8ByteSize
                  · rw [if_pos long, if_pos long]
                    rfl
                  · rw [if_neg long, if_neg long]
                    have more : rest ++ [last] ≠ [] := by simp
                    split
                    · simp only [more, false_and, ↓reduceIte, Bool.not_true, Bool.false_eq_true,
                        and_false]
                      rw [← List.append_assoc, jump]
                    · exact ih _

/-- A walk to a place is a walk through the folders and the step to the last name. -/
theorem walk_concat (links : Nat) (place : Location) (folders : List String) (last : String) :
    tree.walk false links place (folders ++ [last]) =
      tree.walk true links place folders >>= fun folder => tree.enter folder last := by
  induction links generalizing place folders with
  | zero => exact tree.walkParts_concat _ _ last (fun _ _ => rfl) place folders
  | succ links ih => exact tree.walkParts_concat _ _ last ih place folders

theorem walkParts_follow (stop go : Location → List String → Except FileError Location)
    (jump : ∀ place parts final, go place parts = .ok final →
      ∃ near, stop place parts = .ok near ∧
        (final = near ∨ ∃ target, tree.node? near = some (.link target)))
    (place : Location) (parts : List String) (final : Location)
    (walked : tree.walkParts true go place parts = .ok final) :
    ∃ near, tree.walkParts false stop place parts = .ok near ∧
      (final = near ∨ ∃ target, tree.node? near = some (.link target)) := by
  induction parts generalizing place with
  | nil => exact ⟨place, rfl, .inl (Except.ok.inj walked).symm⟩
  | cons part rest ih =>
      simp only [walkParts, Bool.not_false, Bool.not_true, Bool.false_eq_true, and_true,
        and_false, ↓reduceIte] at walked ⊢
      split at walked
      · cases walked
      · cases walked
      · cases walked
      · split at walked
        · next nowhere =>
            simp only [nowhere, ↓reduceIte]
            exact ih _ walked
        · next somewhere =>
            simp only [somewhere, ↓reduceIte]
            split at walked
            · next upwards =>
                simp only [upwards, ↓reduceIte]
                exact ih _ walked
            · next down =>
                simp only [down, ↓reduceIte]
                split at walked
                · cases walked
                · next fits =>
                    simp only [fits, ↓reduceIte]
                    split at walked
                    · next target found =>
                        by_cases ended : rest = []
                        · exact ⟨_, by simp [ended], .inr ⟨target, found⟩⟩
                        · simp only [ended, ↓reduceIte]
                          exact jump _ _ _ walked
                    · exact ih _ walked

/-- A walk that follows a link at its end differs only where a link stands. -/
theorem walk_follow (links : Nat) (place : Location) (parts : List String) (final : Location)
    (walked : tree.walk true links place parts = .ok final) :
    ∃ near, tree.walk false links place parts = .ok near ∧
      (final = near ∨ ∃ target, tree.node? near = some (.link target)) := by
  induction links generalizing place parts final with
  | zero =>
      refine tree.walkParts_follow _ _ ?_ place parts final walked
      intro _ _ _ looped
      cases looped
  | succ links ih => exact tree.walkParts_follow _ _ ih place parts final walked

theorem walkParts_stop (stop go : Location → List String → Except FileError Location)
    (jump : ∀ place parts near, stop place parts = .ok near →
      (∀ target, tree.node? near ≠ some (.link target)) → go place parts = .ok near)
    (place : Location) (parts : List String) (near : Location)
    (walked : tree.walkParts false stop place parts = .ok near)
    (noLink : ∀ target, tree.node? near ≠ some (.link target)) :
    tree.walkParts true go place parts = .ok near := by
  induction parts generalizing place with
  | nil => exact walked
  | cons part rest ih =>
      simp only [walkParts, Bool.not_false, Bool.not_true, Bool.false_eq_true, and_true,
        and_false, ↓reduceIte] at walked ⊢
      split at walked
      · cases walked
      · cases walked
      · cases walked
      · split at walked
        · next nowhere =>
            simp only [nowhere, ↓reduceIte]
            exact ih _ walked
        · next somewhere =>
            simp only [somewhere, ↓reduceIte]
            split at walked
            · next upwards =>
                simp only [upwards, ↓reduceIte]
                exact ih _ walked
            · next down =>
                simp only [down, ↓reduceIte]
                split at walked
                · cases walked
                · next fits =>
                    simp only [fits, ↓reduceIte]
                    split at walked
                    · next target found =>
                        split at walked
                        · next ended =>
                            obtain rfl := Except.ok.inj walked
                            exact absurd found (noLink target)
                        · exact jump _ _ _ walked noLink
                    · exact ih _ walked

/-- A walk that stops where no link stands ends there when it follows links too. -/
theorem walk_stop (links : Nat) (place : Location) (parts : List String) (near : Location)
    (walked : tree.walk false links place parts = .ok near)
    (noLink : ∀ target, tree.node? near ≠ some (.link target)) :
    tree.walk true links place parts = .ok near := by
  induction links generalizing place parts near with
  | zero =>
      refine tree.walkParts_stop _ _ ?_ place parts near walked noLink
      intro _ _ _ looped
      cases looped
  | succ links ih => exact tree.walkParts_stop _ _ ih place parts near walked noLink

end Concat

section Growth

variable {tree grown : FileTree}

theorem GrowsInto.walkParts (grows : tree.GrowsInto grown) (follow : Bool)
    (jump later : Location → List String → Except FileError Location)
    (same : ∀ place parts final, jump place parts = .ok final →
      later place parts = .ok final)
    (place : Location) (parts : List String) (final : Location)
    (walked : tree.walkParts follow jump place parts = .ok final) :
    grown.walkParts follow later place parts = .ok final := by
  induction parts generalizing place with
  | nil => exact walked
  | cons part rest ih =>
      simp only [FileTree.walkParts] at walked ⊢
      split at walked
      · cases walked
      · cases walked
      · cases walked
      · next directory =>
          rw [grows.directories place directory]
          dsimp only
          split at walked
          · next nowhere =>
              rw [if_pos nowhere]
              exact ih _ walked
          · next somewhere =>
              rw [if_neg somewhere]
              split at walked
              · next upwards =>
                  rw [if_pos upwards]
                  exact ih _ walked
              · next down =>
                  rw [if_neg down]
                  split at walked
                  · cases walked
                  · next fits =>
                      rw [if_neg fits]
                      split at walked
                      · next target found =>
                          rw [(grows.links _ _).mpr found]
                          dsimp only
                          split at walked
                          · next ended =>
                              rw [if_pos ended]
                              exact walked
                          · next more =>
                              rw [if_neg more]
                              exact same _ _ _ walked
                      · next noLink =>
                          split
                          · next target found =>
                              exact absurd ((grows.links _ _).mp found) (noLink target)
                          · exact ih _ walked

/-- A walk that ends in a tree ends at the same place in every tree that it grows into. -/
theorem GrowsInto.walk (grows : tree.GrowsInto grown) (follow : Bool) (links : Nat)
    (place : Location) (parts : List String) (final : Location)
    (walked : tree.walk follow links place parts = .ok final) :
    grown.walk follow links place parts = .ok final := by
  induction links generalizing place parts final with
  | zero => exact grows.walkParts follow _ _ (fun _ _ _ => id) place parts final walked
  | succ links ih => exact grows.walkParts follow _ _ ih place parts final walked

end Growth

end Tablewright.FileTree
