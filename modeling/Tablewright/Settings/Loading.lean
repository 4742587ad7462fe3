import Tablewright.FileTree.Lookup
import Tablewright.Settings.Document

namespace Tablewright.Settings

def fileName : String := "tablegen.toml"

def readFile (files : FileTree) (path : FilePath) : Except ConfigError Settings :=
  match files.textAt path with
  | .error cause => .error (.unreadable path cause)
  | .ok text =>
      match ofText text with
      | none => .error (.invalidDocument path)
      | some settings => .ok settings

/-- The settings come from the file that is asked for. Otherwise they come from the file in the
declaration directory, and are the default when there is none. -/
def load (files : FileTree) (directory : FilePath) (asked : Option FilePath) :
    Except ConfigError Settings :=
  match asked with
  | some path => readFile files path
  | none =>
      let path := directory.join (.ofText fileName)
      if files.leadsToFile path then readFile files path else .ok {}

end Tablewright.Settings
