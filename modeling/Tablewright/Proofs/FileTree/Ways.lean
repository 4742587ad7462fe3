import Tablewright.Proofs.FileTree.Exchange

namespace Tablewright.FileTree

/-- One part of a path ends a walk with an error, leads to a location, or leads through a link to
the start of more parts. -/
inductive Pace
  | stop (cause : FileError)
  | go (place : Location)
  | jump (start : Location) (front : List String)

/-- This function is the pace of one part at a location. A link is followed. -/
def pace (tree : FileTree) (place : Location) (part : String) : Pace :=
  match tree.node? place with
  | none => .stop .notFound
  | some (.file _ _) | some (.link _) => .stop .notADirectory
  | some .directory =>
      if part = "" ∨ part = "." then .go place
      else if part = ".." then .go place.dropLast
      else if maxNameSize < part.utf8ByteSize then .stop .nameTooLong
      else
        match tree.node? (place ++ [part]) with
        | some (.link target) =>
            let path := FilePath.ofText target
            .jump (if path.isAbsolute then [] else place) path.parts
        | _ => .go (place ++ [part])

/-- A walk goes on from one pace to the next. -/
theorem walkParts_cons (tree : FileTree)
    (onLink : Location → List String → Except FileError Location) (place : Location)
    (part : String) (rest : List String) :
    tree.walkParts true onLink place (part :: rest) =
      match tree.pace place part with
      | .stop cause => .error cause
      | .go next => tree.walkParts true onLink next rest
      | .jump start front => onLink start (front ++ rest) := by
  rw [walkParts, pace]
  cases tree.node? place with
  | none => rfl
  | some node =>
      cases node with
      | file content writable => rfl
      | link target => rfl
      | directory =>
          dsimp only
          by_cases nowhere : part = "" ∨ part = "."
          · rw [if_pos nowhere, if_pos nowhere]
          · rw [if_neg nowhere, if_neg nowhere]
            by_cases upwards : part = ".."
            · rw [if_pos upwards, if_pos upwards]
            · rw [if_neg upwards, if_neg upwards]
              by_cases long : maxNameSize < part.utf8ByteSize
              · rw [if_pos long, if_pos long]
              · rw [if_neg long, if_neg long]
                cases tree.node? (place ++ [part]) with
                | none => rfl
                | some node => cases node <;> simp

/-- This function lists the locations that a walk along the parts of a path comes to. -/
def wayParts (tree : FileTree) (onLink : Location → List String → List Location) :
    Location → List String → List Location
  | place, [] => [place]
  | place, part :: rest =>
      place ::
        match tree.pace place part with
        | .stop _ => []
        | .go next => wayParts tree onLink next rest
        | .jump start front => onLink start (front ++ rest)

/-- This function lists the locations that a walk comes to through a number of links at most. -/
def way (tree : FileTree) : (links : Nat) → Location → List String → List Location
  | 0 => wayParts tree fun _ _ => []
  | links + 1 => wayParts tree (way tree links)

/-- This function lists the locations on the way of a path. -/
def wayOf (tree : FileTree) (path : FilePath) : List Location :=
  tree.way maxLinks (tree.origin path) path.parts

section Ends

variable {tree : FileTree}

theorem mem_wayParts {onLink : Location → List String → List Location}
    {jump : Location → List String → Except FileError Location}
    (ends : ∀ place parts final, jump place parts = .ok final → final ∈ onLink place parts)
    {place final : Location} {parts : List String}
    (walked : tree.walkParts true jump place parts = .ok final) :
    final ∈ tree.wayParts onLink place parts := by
  induction parts generalizing place with
  | nil =>
      obtain rfl := Except.ok.inj walked
      exact List.mem_cons_self
  | cons part rest hypothesis =>
      rw [walkParts_cons] at walked
      refine List.mem_cons_of_mem _ ?_
      cases taken : tree.pace place part with
      | stop cause =>
          rw [taken] at walked
          cases walked
      | go next =>
          rw [taken] at walked
          exact hypothesis walked
      | jump start front =>
          rw [taken] at walked
          exact ends _ _ _ walked

/-- A walk ends on its way. -/
theorem mem_way {links : Nat} {place final : Location} {parts : List String}
    (walked : tree.walk true links place parts = .ok final) :
    final ∈ tree.way links place parts := by
  induction links generalizing place parts final with
  | zero => exact mem_wayParts (fun _ _ _ looped => by cases looped) walked
  | succ links hypothesis => exact mem_wayParts (fun _ _ _ => hypothesis) walked

theorem mem_wayOf {path : FilePath} {place : Location}
    (located : tree.locate true path = .ok place) : place ∈ tree.wayOf path :=
  mem_way (locate_iff.mp located).2

end Ends

section Congruence

variable {tree other : FileTree} (same : tree.SameWays other)
include same

theorem SameWays.directory_iff {place : Location} :
    other.node? place = some .directory ↔ tree.node? place = some .directory :=
  ⟨same.back.directories place, same.there.directories place⟩

/-- A pace depends on directories and links, and its error on the node where it ends. -/
theorem SameWays.pace (place : Location) (part : String) :
    other.pace place part = tree.pace place part ∨
      other.node? place ≠ tree.node? place ∧
        (∃ cause, other.pace place part = .stop cause) ∧
          ∃ cause, tree.pace place part = .stop cause := by
  have stops : ∀ {one : FileTree}, one.node? place ≠ some .directory →
      ∃ cause, one.pace place part = .stop cause := by
    intro one away
    rw [FileTree.pace]
    split
    · exact ⟨_, rfl⟩
    · exact ⟨_, rfl⟩
    · exact ⟨_, rfl⟩
    · next directory => exact absurd directory away
  by_cases directory : tree.node? place = some .directory
  · left
    have there := same.directory_iff.mpr directory
    have child : ∀ target, other.node? (place ++ [part]) = some (.link target) ↔
        tree.node? (place ++ [part]) = some (.link target) := same.there.links _
    rw [FileTree.pace, FileTree.pace, directory, there]
    dsimp only
    congr 3
    split
    · next target found => rw [(child target).mp found]
    · next noLink =>
        split
        · next target found => exact absurd ((child target).mpr found) (noLink target)
        · rfl
  · have away : other.node? place ≠ some .directory := fun there =>
      directory (same.directory_iff.mp there)
    by_cases equal : other.node? place = tree.node? place
    · left
      rw [FileTree.pace, FileTree.pace, equal]
      split
      · rfl
      · rfl
      · rfl
      · next there => exact absurd there directory
    · exact .inr ⟨equal, stops away, stops directory⟩

theorem SameWays.wayParts {jump : Location → List String → List Location} (place : Location)
    (parts : List String) : other.wayParts jump place parts = tree.wayParts jump place parts := by
  induction parts generalizing place with
  | nil => rfl
  | cons part rest hypothesis =>
      rw [FileTree.wayParts, FileTree.wayParts]
      obtain equal | ⟨_, ⟨cause, stops⟩, reason, ends⟩ := same.pace place part
      · rw [equal]
        cases tree.pace place part with
        | stop cause => rfl
        | go next => exact congrArg (place :: ·) (hypothesis next)
        | jump start front => rfl
      · rw [stops, ends]

/-- The way of a path depends on directories and links only. -/
theorem SameWays.way (links : Nat) : other.way links = tree.way links := by
  induction links with
  | zero =>
      funext place parts
      exact same.wayParts place parts
  | succ links hypothesis =>
      funext place parts
      rw [FileTree.way, FileTree.way, hypothesis]
      exact same.wayParts place parts

theorem SameWays.wayOf (path : FilePath) : other.wayOf path = tree.wayOf path := by
  rw [FileTree.wayOf, FileTree.wayOf, same.there.origin, same.way]

theorem SameWays.walkParts {onLink : Location → List String → List Location}
    {jump further : Location → List String → Except FileError Location}
    (jumps : ∀ place parts, (∀ location ∈ onLink place parts,
      other.node? location = tree.node? location) → further place parts = jump place parts)
    {place : Location} {parts : List String}
    (agree : ∀ location ∈ tree.wayParts onLink place parts,
      other.node? location = tree.node? location) :
    other.walkParts true further place parts = tree.walkParts true jump place parts := by
  induction parts generalizing place with
  | nil => rfl
  | cons part rest hypothesis =>
      rw [FileTree.wayParts, List.forall_mem_cons] at agree
      obtain equal | ⟨differ, _⟩ := same.pace place part
      · rw [walkParts_cons, walkParts_cons, equal]
        cases taken : tree.pace place part with
        | stop cause => rfl
        | go next =>
            rw [taken] at agree
            exact hypothesis agree.2
        | jump start front =>
            rw [taken] at agree
            exact jumps _ _ agree.2
      · exact absurd agree.1 differ

theorem SameWays.walk {links : Nat} {place : Location} {parts : List String}
    (agree : ∀ location ∈ tree.way links place parts,
      other.node? location = tree.node? location) :
    other.walk true links place parts = tree.walk true links place parts := by
  induction links generalizing place parts with
  | zero => exact same.walkParts (fun _ _ _ => rfl) agree
  | succ links hypothesis => exact same.walkParts (fun _ _ => hypothesis) agree

/-- A path leads to the same place or fails for the same cause in trees that agree on its way. -/
theorem SameWays.locate {path : FilePath}
    (agree : ∀ location ∈ tree.wayOf path, other.node? location = tree.node? location) :
    other.locate true path = tree.locate true path := by
  have walked := same.walk agree
  rw [FileTree.locate, FileTree.locate, same.there.here]
  split
  · rfl
  · split
    · rfl
    · split
      · rfl
      · exact walked

end Congruence

end Tablewright.FileTree
