import Tablewright.Text.WhiteSpace

namespace Tablewright.Emission

inductive Section
  | mapTypes
  | storage
  | loadAll
  | loaders
  | getKey
  | accessors
  | getAll
  | sliceTypes
  | sliceStorage
  | afterLoad
  deriving DecidableEq, Repr

namespace Section

def all : List Section :=
  [.mapTypes, .storage, .loadAll, .loaders, .getKey, .accessors, .getAll, .sliceTypes,
    .sliceStorage, .afterLoad]

def title : Section → String
  | .mapTypes => "map types"
  | .storage => "storage"
  | .loadAll => "load all"
  | .loaders => "loaders"
  | .getKey => "keys"
  | .accessors => "accessors"
  | .getAll => "snapshots"
  | .sliceTypes => "slice types"
  | .sliceStorage => "slice storage"
  | .afterLoad => "after load"

end Section

structure Fragment where
  kind : Section
  text : String
  deriving DecidableEq, Repr

structure Artifact where
  description : String
  imports : List String := []
  fragments : List Fragment := []
  deriving DecidableEq, Repr

namespace Artifact

/-- This function adds an import line. An empty line separates groups of imports. -/
def addImport (artifact : Artifact) (line : String) : Artifact :=
  { artifact with imports := artifact.imports ++ [line] }

def push (artifact : Artifact) (fragment : Fragment) : Artifact :=
  { artifact with fragments := artifact.fragments ++ [fragment] }

def pushAll (artifact : Artifact) (fragments : List Fragment) : Artifact :=
  fragments.foldl push artifact

def inSection (artifact : Artifact) (kind : Section) : List String :=
  (artifact.fragments.filter fun fragment => fragment.kind = kind).map Fragment.text

def renderFragment (text : String) : String :=
  "\n" ++ String.ofList (Text.trimEnd text.toList) ++ "\n"

/-- A section has a title line and its fragments. A section without fragments leaves no trace. -/
def renderSection (artifact : Artifact) (kind : Section) : String :=
  match artifact.inSection kind with
  | [] => ""
  | texts =>
      Text.ofLines ["", "// ---- " ++ kind.title ++ " ----"] ++
        String.join (texts.map renderFragment)

def header (description : String) : List String :=
  ["// Code generated by tablegen. DO NOT EDIT.", "// " ++ description, "",
    "#![allow(dead_code, unused_imports, clippy::all)]", ""]

def render (artifact : Artifact) : String :=
  Text.ofLines (header artifact.description ++ artifact.imports) ++
    String.join (Section.all.map artifact.renderSection)

end Tablewright.Emission.Artifact
