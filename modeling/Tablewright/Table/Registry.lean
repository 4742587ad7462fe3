import Tablewright.Table.Entry

namespace Tablewright

/-- A registry pairs registry keys with entries. The keys ascend and are pairwise different. -/
structure Registry where
  pairs : List (String × TableEntry) := []
  deriving DecidableEq, Repr

namespace Registry

def place (key : String) (entry : TableEntry) :
    List (String × TableEntry) → List (String × TableEntry)
  | [] => [(key, entry)]
  | pair :: rest =>
      if key < pair.1 then (key, entry) :: pair :: rest
      else if key = pair.1 then (key, entry) :: rest
      else pair :: place key entry rest

def find? (registry : Registry) (key : String) : Option TableEntry :=
  registry.pairs.lookup key

def get? (registry : Registry) (name : String) : Option TableEntry :=
  registry.find? (Text.lowerCase name)

/-- This function adds an entry. It gives back the entry that had the same key. -/
def insert (registry : Registry) (entry : TableEntry) : Option TableEntry × Registry :=
  (registry.find? entry.registryKey, ⟨place entry.registryKey entry registry.pairs⟩)

def size (registry : Registry) : Nat :=
  registry.pairs.length

def isEmpty (registry : Registry) : Bool :=
  registry.pairs.isEmpty

def entries (registry : Registry) : List TableEntry :=
  registry.pairs.map Prod.snd

/-- This function lists the entries in ascending order of their names. All generated sections
have this order. -/
def sorted (registry : Registry) : List TableEntry :=
  registry.entries.mergeSort fun left right => left.name ≤ right.name

end Tablewright.Registry
