namespace Tablewright

abbrev Location := List String

inductive Node
  | directory
  | file (content : ByteArray) (writable : Bool)
  | link (target : String)

/-- A tree has nodes at locations, and the location that paths start from. Each file stands at one
location, for there are no hard links. The user may do everything, so a mark against writing refuses
nothing, and there is always room. Only the device of a world makes a write fail. -/
structure FileTree where
  here : Location
  nodes : List (Location × Node)

namespace FileTree

def empty (here : Location) : FileTree :=
  ⟨here, (List.range here.length).map fun depth => (here.take (depth + 1), .directory)⟩

/-- This function is the node at a location. The root is a directory. -/
def node? (tree : FileTree) (location : Location) : Option Node :=
  if location = [] then some .directory else tree.nodes.lookup location

def put (tree : FileTree) (location : Location) (node : Node) : FileTree :=
  { tree with
    nodes := (location, node) :: tree.nodes.filter fun entry => entry.1 ≠ location }

def erase (tree : FileTree) (location : Location) : FileTree :=
  { tree with nodes := tree.nodes.filter fun entry => entry.1 ≠ location }

/-- This function moves a node with everything below it. What stood at the target is gone. -/
def move (tree : FileTree) (source target : Location) : FileTree :=
  { tree with
    nodes := (tree.nodes.filter fun entry => !target.isPrefixOf entry.1).map fun entry =>
      if source.isPrefixOf entry.1 then (target ++ entry.1.drop source.length, entry.2)
      else entry }

def children (tree : FileTree) (location : Location) : List (String × Node) :=
  tree.nodes.filterMap fun entry =>
    match entry.1.getLast? with
    | some name => if entry.1.dropLast = location then some (name, entry.2) else none
    | none => none

end Tablewright.FileTree
