import Tablewright.FileError
import Tablewright.FilePath
import Tablewright.FileTree
import Tablewright.Introspection.Discovery

namespace Tablewright.FileTree

def maxNameSize : Nat := 255

def maxPathSize : Nat := 4096

def maxLinks : Nat := 40

/-- This function walks along the parts of a path. A link at the end is followed on demand, and
all other links are. The last part may have no node. -/
def walkParts (tree : FileTree) (follow : Bool)
    (onLink : Location → List String → Except FileError Location) :
    Location → List String → Except FileError Location
  | place, [] => .ok place
  | place, part :: rest =>
      match tree.node? place with
      | none => .error .notFound
      | some (.file _ _) | some (.link _) => .error .notADirectory
      | some .directory =>
          if part = "" ∨ part = "." then walkParts tree follow onLink place rest
          else if part = ".." then walkParts tree follow onLink place.dropLast rest
          else if maxNameSize < part.utf8ByteSize then .error .nameTooLong
          else
            match tree.node? (place ++ [part]) with
            | some (.link target) =>
                if rest = [] ∧ !follow then .ok (place ++ [part])
                else
                  let path := FilePath.ofText target
                  onLink (if path.isAbsolute then [] else place) (path.parts ++ rest)
            | _ => walkParts tree follow onLink (place ++ [part]) rest

def walk (tree : FileTree) (follow : Bool) :
    (links : Nat) → Location → List String → Except FileError Location
  | 0 => walkParts tree follow fun _ _ => .error .linkLoop
  | links + 1 => walkParts tree follow (walk tree follow links)

def locate (tree : FileTree) (follow : Bool) (path : FilePath) : Except FileError Location :=
  if path.text = "" then .error .notFound
  else if path.text.toList.contains '\x00' then .error .zeroInName
  else if maxPathSize ≤ path.text.utf8ByteSize then .error .nameTooLong
  else tree.walk follow maxLinks (if path.isAbsolute then [] else tree.here) path.parts

def nodeAt (tree : FileTree) (path : FilePath) : Except FileError Node := do
  match tree.node? (← tree.locate true path) with
  | some node => .ok node
  | none => .error .notFound

def leadsToNode (tree : FileTree) (path : FilePath) : Bool :=
  (tree.nodeAt path).toBool

def leadsToFile (tree : FileTree) (path : FilePath) : Bool :=
  match tree.nodeAt path with
  | .ok (.file _ _) => true
  | _ => false

def leadsToDirectory (tree : FileTree) (path : FilePath) : Bool :=
  match tree.nodeAt path with
  | .ok .directory => true
  | _ => false

def bytesAt (tree : FileTree) (path : FilePath) : Except FileError ByteArray := do
  match ← tree.nodeAt path with
  | .file content _ => .ok content
  | _ => .error .isADirectory

def textAt (tree : FileTree) (path : FilePath) : Except FileError String := do
  match String.fromUTF8? (← tree.bytesAt path) with
  | some text => .ok text
  | none => .error .invalidText

def kindOf : Node → EntryKind
  | .directory => .directory
  | .file _ _ => .file
  | .link _ => .link

def entriesAt (tree : FileTree) (path : FilePath) : Except FileError (List DirectoryEntry) := do
  let place ← tree.locate true path
  match tree.node? place with
  | none => .error .notFound
  | some .directory =>
      .ok ((tree.children place).map fun child => ⟨.text child.1, kindOf child.2⟩)
  | some _ => .error .notADirectory

end Tablewright.FileTree
