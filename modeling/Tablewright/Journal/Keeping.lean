import Tablewright.Journal.Filter
import Tablewright.Journal.Line
import Tablewright.World

namespace Tablewright

/-- A log file is open from the start of a run to its end. It has the place where it stands among
the files, and none when it was removed or replaced. -/
structure LogFile where
  filter : Filter
  place : Option Location
  deriving DecidableEq, Repr

namespace LogFile

/-- A file that is moved takes everything below it along, and what stood at the target is gone. -/
def placeAfterMove (source target place : Location) : Option Location :=
  if source = target then some place
  else if source.isPrefixOf place then some (target ++ place.drop source.length)
  else if target.isPrefixOf place then none
  else some place

def placeAfter (files : FileTree) (place : Location) : FileChange → Option Location
  | .rename source target =>
      match files.locate false (FileTree.withoutSlashes source),
          files.locate false (FileTree.withoutSlashes target) with
      | .ok start, .ok goal => placeAfterMove start goal place
      | _, _ => some place
  | .remove path =>
      match files.locate false (FileTree.withoutSlashes path) with
      | .ok removed => if removed = place then none else some place
      | .error _ => some place
  | _ => some place

def pathOf (place : Location) : FilePath :=
  .ofParts ("" :: place)

def append (log : LogFile) (line : String) (world : World) : World :=
  match log.place with
  | none => world
  | some place => (Work.perform (.append (pathOf place) (line ++ "\n").toUTF8) world).2

/-- This function lets one thing happen while the log file is open. An admitted event adds a line
where the file stands by then. -/
def happen (log : LogFile) (world : World) : Happening → LogFile × World
  | .change change _ =>
      ({ log with place := log.place.bind (placeAfter world.files · change) },
        (Work.perform change world).2)
  | .event event =>
      let noted := { world with history := world.history ++ [.event event] }
      (log, if log.filter.admits event then log.append event.line noted else noted)

def keep (log : LogFile) : List Happening → World → World
  | [], world => world
  | happening :: rest, world =>
      let (log, world) := log.happen world happening
      keep log rest world

end Tablewright.LogFile
