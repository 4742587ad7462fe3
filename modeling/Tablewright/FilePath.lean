import Tablewright.Text.Pieces

namespace Tablewright

/-- A path is its text cut at every slash. The part after the last slash is apart from those
before it. -/
structure FilePath where
  folders : List String
  last : String
  deriving DecidableEq, Repr

namespace FilePath

def ofText (text : String) : FilePath :=
  let parts := (Text.pieces (· == '/') text.toList).map String.ofList
  ⟨parts.dropLast, parts.getLast?.getD ""⟩

def parts (path : FilePath) : List String :=
  path.folders ++ [path.last]

def text (path : FilePath) : String :=
  Text.joined "/" path.parts

def empty : FilePath :=
  ⟨[], ""⟩

def isAbsolute (path : FilePath) : Bool :=
  path.folders.head? == some ""

/-- A path joined to a folder replaces it when it is absolute. A folder whose text ends with a
slash gets no second one. -/
def join (folder path : FilePath) : FilePath :=
  if path.isAbsolute then path
  else if folder.folders = [] ∧ folder.last = "" then path
  else if folder.last = "" then ⟨folder.folders ++ path.folders, path.last⟩
  else ⟨folder.parts ++ path.folders, path.last⟩

def isStep (part : String) : Bool :=
  part ≠ "" && part ≠ "."

/-- This function drops the parts at the end that lead nowhere. An absolute path keeps its
root, and a path that starts with a dot keeps the dot. -/
def trimParts (absolute : Bool) (parts : List String) : List String :=
  match (parts.reverse.dropWhile fun part => !isStep part).reverse with
  | [] => if absolute then [""] else if parts.head? = some "." then ["."] else []
  | kept => kept

def trimmed (path : FilePath) : List String :=
  trimParts path.isAbsolute path.parts

/-- This function is the path with the given parts. No part stands for the empty path. -/
def ofParts : List String → FilePath
  | [] => empty
  | [""] => ⟨[""], ""⟩
  | parts => ⟨parts.dropLast, parts.getLast?.getD ""⟩

def fileName? (path : FilePath) : Option String :=
  match path.trimmed.getLast? with
  | some name => if isStep name ∧ name ≠ ".." then some name else none
  | none => none

/-- The parent of a path is the path without its last step. The root and the empty path have
none. -/
def parent? (path : FilePath) : Option FilePath :=
  match path.trimmed with
  | [] => none
  | [""] => none
  | parts => some (ofParts (trimParts path.isAbsolute parts.dropLast))

/-- This function cuts a file name at its last dot. A dot at the start of the name does not
count, and the name of the folder above has no dot. -/
def cutAtDot (name : String) : String × Option String :=
  let backwards := name.toList.reverse
  let ending := backwards.takeWhile (· ≠ '.')
  match backwards.drop ending.length with
  | '.' :: stem@(_ :: _) =>
      if name = ".." then (name, none)
      else (String.ofList stem.reverse, some (String.ofList ending.reverse))
  | _ => (name, none)

def stem? (path : FilePath) : Option String :=
  path.fileName?.map fun name => (cutAtDot name).1

def extension? (path : FilePath) : Option String :=
  path.fileName?.bind fun name => (cutAtDot name).2

def withFileName (path : FilePath) (name : String) : FilePath :=
  (path.parent?.getD empty).join (ofText name)

def withEnding (path : FilePath) (ending : String) : FilePath :=
  { path with last := path.last ++ ending }

end Tablewright.FilePath
