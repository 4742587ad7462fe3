import Tablewright.Table.Entry
import Tablewright.Table.Index
import Tablewright.Table.Key

namespace Tablewright

structure ResolvedTable where
  entry : TableEntry
  storageVariable : String
  key : KeySchema
  capabilities : Capabilities
  deriving DecidableEq, Repr

def ResolvedTable.name (table : ResolvedTable) : String :=
  table.entry.name

end Tablewright
