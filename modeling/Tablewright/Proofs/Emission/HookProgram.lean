import Mathlib.Logic.Function.Basic
import Tablewright.Emission

namespace Tablewright.Emission

/-- Inside the loop the key or the row is pushed to a slice when a probe of the row holds. -/
structure Push where
  method : String
  position : Nat
  slice : String
  keyed : Bool
  deriving DecidableEq, Repr

/-- The call of a sort method changes a slice in its place. -/
structure SortCall where
  typeName : String
  method : String
  slice : String
  position : Nat
  deriving DecidableEq, Repr

/-- A command has nothing but what its lines show. -/
inductive Command
  | snapshot (function : String)
  | declare (slice typeName : String)
  | loop (keyed : Bool) (pushes : List Push)
  | sort (call : SortCall)
  | publish (storage slice : String)
  | hook (typeName argument : String)
  deriving DecidableEq, Repr

def Push.lines (push : Push) : List String :=
  ["        if row." ++ push.method ++ "(" ++ toString push.position ++ ") \x7b",
    "            " ++ push.slice ++ ".push(" ++
      (if push.keyed then "key.clone()" else "Arc::clone(row)") ++ ");",
    "        \x7d"]

namespace Command

/-- This function writes a command. -/
def lines : Command → List String
  | .snapshot function => ["    let table = " ++ function ++ "();"]
  | .declare slice typeName =>
      ["    let mut " ++ slice ++ " = " ++ typeName ++ "::with_capacity(table.len());"]
  | .loop keyed pushes =>
      [if keyed then "    for (key, row) in table.iter() \x7b"
        else "    for row in table.values() \x7b"] ++ pushes.flatMap Push.lines ++ ["    \x7d"]
  | .sort call =>
      ["    " ++ call.typeName ++ "::" ++ call.method ++ "(&mut " ++ call.slice ++ ", " ++
        toString call.position ++ ");"]
  | .publish storage slice =>
      ["    *" ++ storage ++ ".write().unwrap_or_else(PoisonError::into_inner) = Arc::new(" ++
        slice ++ ");"]
  | .hook typeName argument => ["    " ++ typeName ++ "::after_load(&" ++ argument ++ ");"]

end Command

/-- An element of a slice is a key or a row of a table. -/
inductive Element (Key Row : Type)
  | key (key : Key)
  | row (row : Row)
  deriving DecidableEq, Repr

/-- The functions that a program calls take snapshots of tables, in the order of the map, probe
rows and sort slices. -/
structure Methods (Key Row : Type) where
  entries : String → List (Key × Row)
  probe : String → Nat → Row → Bool
  sort : String → String → Nat → List (Element Key Row) → List (Element Key Row)

/-- The slices of a program are found under their names. -/
abbrev Slices (Key Row : Type) :=
  String → Option (List (Element Key Row))

/-- The memory of a program has its local variables, the statics, and the hooks it has called with
their tables. -/
structure Memory (Key Row : Type) where
  table : Option (List (Key × Row)) := none
  slices : Slices Key Row := fun _ => none
  statics : String → List (Element Key Row)
  calls : List (String × List (Key × Row)) := []

/-- This function puts elements into a slice, or takes the slice away. -/
def Memory.setSlice {Key Row : Type} (memory : Memory Key Row) (slice : String)
    (elements : Option (List (Element Key Row))) : Memory Key Row :=
  { memory with slices := Function.update memory.slices slice elements }

/-- This function puts elements into a static. -/
def Memory.setStatic {Key Row : Type} (memory : Memory Key Row) (storage : String)
    (elements : List (Element Key Row)) : Memory Key Row :=
  { memory with statics := Function.update memory.statics storage elements }

section Meaning

variable {Key Row : Type} (methods : Methods Key Row)

namespace Push

def element (push : Push) (entry : Key × Row) : Element Key Row :=
  if push.keyed then .key entry.1 else .row entry.2

/-- A push needs its slice. It needs the key of the loop if it pushes keys. -/
def run (keyed : Bool) (entry : Key × Row) (slices : Slices Key Row) (push : Push) :
    Option (Slices Key Row) :=
  if push.keyed && !keyed then none
  else (slices push.slice).map fun elements =>
    if methods.probe push.method push.position entry.2 then
      Function.update slices push.slice (some (elements ++ [push.element entry]))
    else slices

end Push

namespace Command

/-- This function does one command. A slice that is published is moved, and is gone then. -/
def run (memory : Memory Key Row) : Command → Option (Memory Key Row)
  | .snapshot function => some { memory with table := some (methods.entries function) }
  | .declare slice _ =>
      memory.table.map fun _ => memory.setSlice slice (some [])
  | .loop keyed pushes => do
      let entries ← memory.table
      let slices ← entries.foldlM
        (fun slices entry => pushes.foldlM (Push.run methods keyed entry) slices) memory.slices
      some { memory with slices }
  | .sort call =>
      (memory.slices call.slice).map fun elements =>
        memory.setSlice call.slice
          (some (methods.sort call.typeName call.method call.position elements))
  | .publish storage slice =>
      (memory.slices slice).map fun elements =>
        (memory.setSlice slice none).setStatic storage elements
  | .hook typeName argument =>
      if argument = "table" then
        memory.table.map fun entries =>
          { memory with calls := memory.calls ++ [(typeName, entries)] }
      else none

/-- This function does commands one after the other. -/
def runAll (commands : List Command) (memory : Memory Key Row) : Option (Memory Key Row) :=
  commands.foldlM (run methods) memory

end Command

end Meaning

namespace Holder

/-- This function is the push to the slice of a holder. -/
def push (holder : Holder) : Push where
  method := holder.pattern.probeMethod
  position := holder.position
  slice := holder.slice
  keyed := holder.pattern = .keySlice

/-- This function is the call that sorts the slice of a holder. -/
def sortCall (table : String) (holder : Holder) : SortCall where
  typeName := table
  method := holder.pattern.sortMethod
  slice := holder.slice
  position := holder.position

end Holder

/-- This function reads a statement as a command. -/
def Statement.command : Statement → Command
  | .snapshot suffix => .snapshot ("get_all_" ++ suffix)
  | .declare holder => .declare holder.slice holder.typeName
  | .scan holders =>
      .loop (holders.any fun holder => holder.pattern = .keySlice) (holders.map Holder.push)
  | .sort table holder => .sort (holder.sortCall table)
  | .publish holder => .publish holder.storage holder.slice
  | .hook table argument => .hook table argument

/-- A command is written as the statement that it was read from. -/
theorem Statement.command_lines (statement : Statement) :
    statement.command.lines = statement.lines := by
  cases statement with
  | snapshot suffix =>
      have joined : "    let table = get_all_" = "    let table = " ++ "get_all_" := by decide
      simp only [command, Command.lines, lines, joined, String.append_assoc]
  | scan holders =>
      have pushes : (holders.map Holder.push).flatMap Push.lines = holders.flatMap pushLines := by
        rw [List.flatMap_map]
        congr 1
        funext holder
        cases pattern : holder.pattern <;> simp [Push.lines, Holder.push, pushLines, pattern]
      rw [command, Command.lines, pushes, lines, scanHeader]
  | declare | sort | publish | hook => rfl

/-- The program of a table is the body of its function that runs after loading. -/
def hookProgram (table : ResolvedTable) : List Command :=
  (afterLoadBody table).map Statement.command

/-- The function is its program between a head and a closing brace. -/
theorem afterLoadLines_eq (table : ResolvedTable) :
    afterLoadLines table =
      [afterLoadComment table,
        "pub fn after_load_" ++ Naming.functionSuffix table.name ++ "() \x7b"] ++
        (hookProgram table).flatMap Command.lines ++ ["\x7d"] := by
  rw [afterLoadLines, hookProgram, List.flatMap_map]
  simp only [Statement.command_lines]

end Tablewright.Emission
