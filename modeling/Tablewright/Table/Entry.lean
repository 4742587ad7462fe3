import Tablewright.FilePath
import Tablewright.Naming

namespace Tablewright

/-- An entry names a table type and the places of its rows. The dependencies are advice only,
and the origin is the declaration file of the annotation. -/
structure TableEntry where
  name : String
  csv : String := ""
  excel : String := ""
  depend : List String := []
  origin : Option FilePath := none
  deriving DecidableEq, Repr

namespace TableEntry

def registryKey (entry : TableEntry) : String :=
  Text.lowerCase entry.name

def storageVariable (entry : TableEntry) : String :=
  Naming.storageVariable entry.name

end Tablewright.TableEntry
