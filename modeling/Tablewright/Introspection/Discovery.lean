import Tablewright.FilePath
import Tablewright.Journal
import Tablewright.Text.CaseMapping
import Tablewright.Text.Quoted

namespace Tablewright

inductive EntryName
  | text (name : String)
  | bytes (name : List UInt8)
  deriving DecidableEq, Repr

/-- A directory entry is known by its own kind. A link is not followed. -/
inductive EntryKind
  | file
  | directory
  | link
  deriving DecidableEq, Repr

structure DirectoryEntry where
  name : EntryName
  kind : EntryKind
  deriving DecidableEq, Repr

namespace Discovery

def ending : String := ".rs"

def isDeclarationName (lead name : String) : Bool :=
  (Text.upperCase lead).toList.isPrefixOf (Text.upperCase name).toList &&
    ending.toList.isSuffixOf name.toList

def declarationName? (lead : String) (entry : DirectoryEntry) : Option String :=
  match entry.kind, entry.name with
  | .file, .text name => if isDeclarationName lead name then some name else none
  | _, _ => none

def names (lead : String) (entries : List DirectoryEntry) : List String :=
  (entries.filterMap (declarationName? lead)).mergeSort fun left right => left ≤ right

def paths (directory : FilePath) (lead : String) (entries : List DirectoryEntry) :
    List FilePath :=
  (names lead entries).map fun name => directory.join (.ofText name)

def listing (paths : List FilePath) : String :=
  "[" ++ Text.joined ", " (paths.map fun path => Text.quotedPath path.text) ++ "]"

def event (paths : List FilePath) : Event :=
  .named .debug .discovery "discovered" [("files", .text (listing paths))]

end Tablewright.Discovery
