import Tablewright.Diagnostic
import Tablewright.Journal
import Tablewright.Table.Registry

namespace Tablewright

structure Context where
  registry : Registry := {}
  diagnostics : Diagnostics := []
  journal : Journal := []
  deriving DecidableEq, Repr

namespace Context

def report (context : Context) (diagnostic : Diagnostic) : Context :=
  { context with diagnostics := context.diagnostics ++ [diagnostic] }

def note (context : Context) (event : Event) : Context :=
  { context with journal := context.journal ++ [event] }

def register (context : Context) (entry : TableEntry) : Context :=
  { context with registry := (context.registry.insert entry).2 }

def isFatal (context : Context) : Bool :=
  context.diagnostics.isFatal

end Tablewright.Context
