import Tablewright.Build.Error
import Tablewright.World

namespace Tablewright.Replacement

def ending : String := ".tmp"

/-- This function is the path that new content is written to. It is beside the file that the
content is for. -/
def temporaryPath? (path : FilePath) : Option FilePath :=
  path.fileName?.map fun name => path.withFileName (name ++ ending)

def makeParents (path : FilePath) : Work FileError Unit :=
  match path.parent? with
  | some parent => Work.makeDirectories parent
  | none => return

/-- This work makes the entries of the directory of a path durable. The current directory is left
out. -/
def flushParent (path : FilePath) : Work FileError Unit := do
  match path.parent? with
  | none => return
  | some parent =>
      if parent.text ≠ "" then
        let _node ← Work.ofExcept ((← Work.files).nodeAt parent)
        Work.flush parent

/-- This work writes new content beside a file and renames it to the file. -/
def replaceBy (temporary path : FilePath) (content : ByteArray) : Work FileError Unit := do
  Work.writeFile temporary content
  Work.flush temporary
  Work.perform (.rename temporary path)
  flushParent path

def replace (path : FilePath) (content : ByteArray) : Work BuildError Unit := do
  Work.mapError .files (makeParents path)
  match temporaryPath? path with
  | none => throw (.noFileName path)
  | some temporary => Work.mapError .files (replaceBy temporary path content)

end Tablewright.Replacement
