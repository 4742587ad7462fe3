import Tablewright.Context
import Tablewright.Declaration
import Tablewright.FileError
import Tablewright.Text.WholeWord

namespace Tablewright

open Declaration

structure SourceFile where
  path : FilePath
  text : String
  items : Option (List Item)
  deriving Repr

abbrev SourceSet := List SourceFile

/-- A struct is found among the items of a parsed file, or its name in the text of another. -/
inductive StructLookup
  | found (declaration : StructDeclaration) (path : FilePath)
  | unparsed (path : FilePath)
  | missing
  deriving Repr

namespace SourceFile

def reportUnreadable (path : FilePath) (error : FileError) (context : Context) : Context :=
  (context.note (.named .warn .sources "source_unreadable"
    [("path", .text path.text), ("error", .text error.message)])).report
    (.warning "unreadable_source" path.text error.message)

/-- This function reports a file that could not be parsed from some line on. The message keeps the
line, and what the parser itself says about the error is left out. -/
def reportUnparseable (path : FilePath) (line : Nat) (context : Context) : Context :=
  (context.note { Event.named .warn .sources "source_unparseable"
      [("path", .text path.text), ("line", .number line)] with others := ["error"] }).report
    (.warning "unparseable_source" path.text s!"line {line}")

def parse (path : FilePath) (text : String) (context : Context) : SourceFile × Context :=
  match Declaration.read text with
  | .ok items => (⟨path, text, some items⟩, context)
  | .error line => (⟨path, text, none⟩, reportUnparseable path line context)

def structs (file : SourceFile) : List StructDeclaration :=
  (file.items.getD []).filterMap fun item =>
    match item with
    | .struct declaration => some declaration
    | _ => none

def implementations (file : SourceFile) : List Implementation :=
  (file.items.getD []).filterMap fun item =>
    match item with
    | .implementation declaration => some declaration
    | _ => none

/-- The text of a file that was not parsed seems to declare a struct when it has the keyword and
the name as whole words. -/
def seemsToDeclare (file : SourceFile) (name : String) : Bool :=
  file.items.isNone && Text.WholeWord.occurs ("struct " ++ name) file.text

end SourceFile

namespace SourceSet

/-- This function reads and parses files in their order. A file that cannot be read is left
out. -/
def load (read : FilePath → Except FileError String) :
    List FilePath → Context → SourceSet × Context
  | [], context => ([], context)
  | path :: rest, context =>
      match read path with
      | .error error => load read rest (SourceFile.reportUnreadable path error context)
      | .ok text =>
          let parsed := SourceFile.parse path text context
          let others := load read rest parsed.2
          (parsed.1 :: others.1, others.2)

def declared? (sources : SourceSet) (name : String) : Option (StructDeclaration × FilePath) :=
  sources.findSome? fun file =>
    (file.structs.find? fun declaration => declaration.name = name).map fun declaration =>
      (declaration, file.path)

def findStruct (sources : SourceSet) (name : String) : StructLookup :=
  match sources.declared? name with
  | some (declaration, path) => .found declaration path
  | none =>
      match sources.find? (·.seemsToDeclare name) with
      | some file => .unparsed file.path
      | none => .missing

def isTypeNamed (name : String) : TypeTree → Bool
  | .path qualified path => !qualified && path.lastName? = some name
  | .reference target => isTypeNamed name target
  | .enclosed inner => isTypeNamed name inner
  | _ => false

def functionsOf (sources : SourceSet) (name : String) : List FunctionDeclaration :=
  sources.flatMap fun file =>
    (file.implementations.filter fun block => isTypeNamed name block.selfType).flatMap
      Implementation.functions

end Tablewright.SourceSet
