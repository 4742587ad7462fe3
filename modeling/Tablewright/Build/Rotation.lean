import Tablewright.World

namespace Tablewright

structure Rotation where
  moved : List FilePath
  deriving DecidableEq, Repr

namespace Rotation

def ending : String := ".prev"

def asidePath (output : FilePath) : FilePath :=
  output.withEnding ending

def rotatedEvent (output : FilePath) : Event :=
  .named .debug .rotation "output_rotated" [("path", .text output.text)]

def restoredEvent (output : FilePath) : Event :=
  .named .warn .rotation "output_restored" [("path", .text output.text)]

def delete (path : FilePath) : Work FileError Unit := do
  Work.perform (.setWritable path true)
  Work.perform (.remove path)

def clear (path : FilePath) : Work FileError Unit := do
  if (← Work.files).leadsToNode path then
    delete path

/-- This work moves an output aside. An older copy makes way for it. -/
def moveAside (output : FilePath) : Work FileError Unit := do
  clear (asidePath output)
  Work.perform (.rename output (asidePath output))
  Work.note (rotatedEvent output)

/-- This work moves every output aside that exists. The older copy of an output that does not
exist stays as it is. -/
def start : List FilePath → Work FileError Rotation
  | [] => return ⟨[]⟩
  | output :: rest => do
      if (← Work.files).leadsToNode output then
        moveAside output
        return ⟨output :: (← start rest).moved⟩
      else
        start rest

def moveBack (output : FilePath) : Work FileError Unit := do
  clear output
  Work.perform (.rename (asidePath output) output)
  Work.note (restoredEvent output)

def restore (rotation : Rotation) : Work FileError Unit :=
  rotation.moved.forM moveBack

def discard (rotation : Rotation) : Work FileError Unit :=
  rotation.moved.forM fun output => delete (asidePath output)

end Tablewright.Rotation
