import Tablewright.FileTree.Change
import Tablewright.Journal

namespace Tablewright

inductive Happening
  | change (change : FileChange) (after : FileTree)
  | event (event : Event)

/-- A device may stop a write after some bytes, and may fail to make a file or a directory durable.
What it does may depend on all that has happened. Only new content is at its mercy. -/
structure Device where
  stops : List Happening → FilePath → Option (Nat × FileError) := fun _ _ => none
  loses : List Happening → FilePath → Option FileError := fun _ _ => none

/-- A world has files, what has happened in its order, what was printed, and a device. -/
structure World where
  files : FileTree
  history : List Happening := []
  output : String := ""
  device : Device := {}

def World.trail (world : World) : List (FileChange × FileTree) :=
  world.history.filterMap fun happening =>
    match happening with
    | .change change after => some (change, after)
    | .event _ => none

/-- A work changes a world and may fail. What it changed before stays. -/
abbrev Work (ε : Type) := ExceptT ε (StateM World)

namespace Work

def files {ε : Type} : Work ε FileTree := do
  return (← get).files

def note {ε : Type} (event : Event) : Work ε Unit :=
  modify fun world => { world with history := world.history ++ [.event event] }

def noteAll {ε : Type} (events : Journal) : Work ε Unit :=
  modify fun world => { world with history := world.history ++ events.map .event }

def print {ε : Type} (text : String) : Work ε Unit :=
  modify fun world => { world with output := world.output ++ text }

/-- This work changes the files by one step. A step that fails changes nothing. -/
def perform (change : FileChange) : Work FileError Unit := fun world =>
  match world.files.apply change with
  | .ok files =>
      (.ok (), { world with files, history := world.history ++ [.change change files] })
  | .error error => (.error error, world)

def outcome {ε δ α : Type} (work : Work ε α) : Work δ (Except ε α) := fun world =>
  let (result, next) := work world
  (.ok result, next)

def mapError {ε δ α : Type} (cause : ε → δ) (work : Work ε α) : Work δ α := fun world =>
  let (result, next) := work world
  (result.mapError cause, next)

def ofExcept {ε α : Type} (result : Except ε α) : Work ε α := fun world =>
  (result, world)

/-- This work makes a directory and those above it as far as they are missing. A directory that
is there already is no failure. -/
def makeDirectoriesUpTo : (depth : Nat) → FilePath → Work FileError Unit
  | 0, _ => return
  | depth + 1, path => do
      if path.text = "" then
        return
      let accept (error : FileError) : Work FileError Unit := do
        if !(← files).leadsToDirectory path then
          throw error
      match ← outcome (perform (.makeDirectory path)) with
      | .ok _ => return
      | .error .notFound =>
          match path.parent? with
          | none => throw .notFound
          | some parent =>
              makeDirectoriesUpTo depth parent
              match ← outcome (perform (.makeDirectory path)) with
              | .ok _ => return
              | .error error => accept error
      | .error error => accept error

def makeDirectories (path : FilePath) : Work FileError Unit :=
  makeDirectoriesUpTo (path.parts.length + 1) path

/-- This work gives an open file new content. A device that stops leaves the bytes so far. -/
def fill (path : FilePath) (content : ByteArray) : Work FileError Unit := do
  let world ← get
  match world.device.stops world.history path with
  | none => perform (.write path content)
  | some (count, cause) =>
      perform (.write path (content.extract 0 count))
      throw cause

/-- This work writes a whole file. The file is empty for a moment. -/
def writeFile (path : FilePath) (content : ByteArray) : Work FileError Unit := do
  perform (.create path)
  fill path content

def flush (path : FilePath) : Work FileError Unit := do
  let world ← get
  match world.device.loses world.history path with
  | none => return
  | some cause => throw cause

end Tablewright.Work
