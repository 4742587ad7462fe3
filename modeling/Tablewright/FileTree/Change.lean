import Tablewright.FileTree.Lookup

namespace Tablewright

inductive FileChange
  | makeDirectory (path : FilePath)
  | create (path : FilePath)
  | write (path : FilePath) (content : ByteArray)
  | append (path : FilePath) (content : ByteArray)
  | remove (path : FilePath)
  | rename (source target : FilePath)
  | setWritable (path : FilePath) (writable : Bool)

namespace FileTree

def withoutSlashes (path : FilePath) : FilePath :=
  match (path.parts.reverse.dropWhile (· = "")).reverse with
  | [] => path
  | parts => .ofParts parts

def hasLastName (path : FilePath) : Bool :=
  let name := (withoutSlashes path).last
  name ≠ "" && name ≠ "." && name ≠ ".."

def endsWithSlash (path : FilePath) : Bool :=
  path.last = ""

def makeDirectory (tree : FileTree) (path : FilePath) : Except FileError FileTree := do
  let place ← tree.locate false (withoutSlashes path)
  match tree.node? place with
  | some _ => .error .alreadyExists
  | none => .ok (tree.put place .directory)

/-- This function opens a file for new content. It makes the file if there is none, and keeps
whether an old one is writable. -/
def create (tree : FileTree) (path : FilePath) : Except FileError FileTree := do
  if path.text ≠ "" ∧ endsWithSlash path then
    let _place ← tree.locate false (withoutSlashes path)
    .error .isADirectory
  else
    let place ← tree.locate true path
    match tree.node? place with
    | none => .ok (tree.put place (.file .empty true))
    | some (.file _ writable) => .ok (tree.put place (.file .empty writable))
    | some _ => .error .isADirectory

def write (tree : FileTree) (path : FilePath) (content : ByteArray) :
    Except FileError FileTree := do
  let place ← tree.locate true path
  match tree.node? place with
  | none => .error .notFound
  | some (.file _ writable) => .ok (tree.put place (.file content writable))
  | some _ => .error .isADirectory

/-- This function adds content at the end of a file. It makes the file if there is none. -/
def append (tree : FileTree) (path : FilePath) (content : ByteArray) :
    Except FileError FileTree := do
  if path.text ≠ "" ∧ endsWithSlash path then
    let _place ← tree.locate false (withoutSlashes path)
    .error .isADirectory
  else
    let place ← tree.locate true path
    match tree.node? place with
    | none => .ok (tree.put place (.file content true))
    | some (.file before writable) => .ok (tree.put place (.file (before ++ content) writable))
    | some _ => .error .isADirectory

def remove (tree : FileTree) (path : FilePath) : Except FileError FileTree := do
  let place ← tree.locate false (withoutSlashes path)
  match tree.node? place with
  | none => .error .notFound
  | some .directory => .error .isADirectory
  | some _ => if endsWithSlash path then .error .notADirectory else .ok (tree.erase place)

/-- This function renames a node. A file replaces a file or link, and a directory replaces an
empty directory. -/
def rename (tree : FileTree) (source target : FilePath) : Except FileError FileTree := do
  let start ← tree.locate false (withoutSlashes source)
  let goal ← tree.locate false (withoutSlashes target)
  if !hasLastName source || !hasLastName target then
    .error .busy
  else
    match tree.node? start, tree.node? goal with
    | none, _ => .error .notFound
    | some .directory, old =>
        if start = goal then .ok tree
        else if start.isPrefixOf goal then .error .invalidArgument
        else if goal.isPrefixOf start then .error .directoryNotEmpty
        else
          match old with
          | none => .ok (tree.move start goal)
          | some .directory =>
              if (tree.children goal).isEmpty then .ok (tree.move start goal)
              else .error .directoryNotEmpty
          | some _ => .error .notADirectory
    | some _, old =>
        if endsWithSlash source || endsWithSlash target then .error .notADirectory
        else if start = goal then .ok tree
        else if goal.isPrefixOf start then .error .directoryNotEmpty
        else
          match old with
          | some .directory => .error .isADirectory
          | _ => .ok (tree.move start goal)

/-- This function lets a file be written or not. A directory stays as it is. -/
def setWritable (tree : FileTree) (path : FilePath) (writable : Bool) :
    Except FileError FileTree := do
  let place ← tree.locate true path
  match tree.node? place with
  | none => .error .notFound
  | some (.file content _) => .ok (tree.put place (.file content writable))
  | some _ => .ok tree

def apply (tree : FileTree) : FileChange → Except FileError FileTree
  | .makeDirectory path => tree.makeDirectory path
  | .create path => tree.create path
  | .write path content => tree.write path content
  | .append path content => tree.append path content
  | .remove path => tree.remove path
  | .rename source target => tree.rename source target
  | .setWritable path writable => tree.setWritable path writable

end Tablewright.FileTree
