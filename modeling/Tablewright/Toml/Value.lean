namespace Tablewright.Toml

/-- A table has a header of its own, is implied by the header of another, is made by dotted keys,
or stands between braces. -/
inductive TableOrigin
  | header
  | implied
  | dotted
  | inline
  deriving DecidableEq, Repr

/-- Numbers with a point and moments of time are known by their kind only. A table array has the
entries of each of its tables, in the order of their headers. -/
inductive Value
  | text (value : String)
  | truth (value : Bool)
  | whole (value : Int)
  | decimal
  | moment
  | array (elements : List Value)
  | table (origin : TableOrigin) (entries : List (String × Value))
  | tables (members : List (List (String × Value)))
  deriving Repr

abbrev Entries := List (String × Value)

namespace Entries

def put (entries : Entries) (key : String) (value : Value) : Entries :=
  if (entries.lookup key).isSome then
    entries.map fun entry => if entry.1 = key then (key, value) else entry
  else
    entries ++ [(key, value)]

/-- This function changes the entries of the table at a path. Tables that are missing on the way
are implied. The last member of a table array stands for it, and nothing else can be entered. -/
def updateAt : (path : List String) → (Entries → Option Entries) → Entries → Option Entries
  | [], change, entries => change entries
  | key :: rest, change, entries =>
      match entries.lookup key with
      | none => (updateAt rest change []).map fun inner => entries.put key (.table .implied inner)
      | some (.table .inline _) => none
      | some (.table origin inner) =>
          (updateAt rest change inner).map fun changed => entries.put key (.table origin changed)
      | some (.tables members) =>
          match members.getLast? with
          | none => none
          | some last =>
              (updateAt rest change last).map fun changed =>
                entries.put key (.tables (members.dropLast ++ [changed]))
      | some _ => none

def add (key : String) (value : Value) (entries : Entries) : Option Entries :=
  if (entries.lookup key).isSome then none else some (entries ++ [(key, value)])

/-- This function adds a value under a dotted key. The tables on the way have no header of their
own, and the table that gets the value is made by dotted keys. -/
def addDotted (key : String) (value : Value) :
    (path : List String) → (madeByDots : Bool) → Entries → Option Entries
  | [], madeByDots, entries => if madeByDots then add key value entries else none
  | name :: rest, _, entries =>
      match entries.lookup name with
      | none =>
          (addDotted key value rest true []).map fun inner =>
            entries.put name (.table .dotted inner)
      | some (.table .dotted inner) =>
          (addDotted key value rest true inner).map fun changed =>
            entries.put name (.table .dotted changed)
      | some (.table .implied inner) =>
          (addDotted key value rest false inner).map fun changed =>
            entries.put name (.table .implied changed)
      | some (.tables members) =>
          match members.getLast? with
          | none => none
          | some last =>
              (addDotted key value rest false last).map fun changed =>
                entries.put name (.tables (members.dropLast ++ [changed]))
      | some _ => none

def addAt (path : List String) (key : String) (value : Value) (entries : Entries) :
    Option Entries :=
  addDotted key value path path.isEmpty entries

/-- This function opens a table by its header. A table has one header at most, and a table made by
dotted keys has none. -/
def openTable (key : String) (entries : Entries) : Option Entries :=
  match entries.lookup key with
  | none => some (entries.put key (.table .header []))
  | some (.table .implied inner) => some (entries.put key (.table .header inner))
  | some _ => none

def openMember (key : String) (entries : Entries) : Option Entries :=
  match entries.lookup key with
  | none => some (entries.put key (.tables [[]]))
  | some (.tables members) => some (entries.put key (.tables (members ++ [[]])))
  | some _ => none

end Tablewright.Toml.Entries
