import Tablewright.Annotation.Block
import Tablewright.Context

namespace Tablewright.Annotation

def invalidName (origin : FilePath) (name : String) (context : Context) : Context :=
  (context.note (.named .warn .annotations "invalid_table_name"
    [("path", .text origin.text), ("name", .text name)])).report
    (.warning "invalid_table_name" origin.text
      s!"annotation block names '{name}', which is not a type identifier")

def malformedTag (table tag : String) (context : Context) : Context :=
  (context.note (.named .warn .annotations "malformed_tag"
    [("table", .text table), ("tag", .text tag)])).report
    (.warning "malformed_tag" table s!"expected '@key value', found '@{tag}'")

/-- The dependencies of a tag are the parts of its value between bars, empty parts left out. -/
def dependencies (value : List Char) : List String :=
  ((Text.pieces (· == '|') value).filter fun name => !name.isEmpty).map String.ofList

def readTag (entry : TableEntry) (tag : List Char) (context : Context) :
    TableEntry × Context :=
  match Text.words tag with
  | [key, value] =>
      match String.ofList key with
      | "csv" => ({ entry with csv := String.ofList value }, context)
      | "excel" => ({ entry with excel := String.ofList value }, context)
      | "depend" => ({ entry with depend := entry.depend ++ dependencies value }, context)
      | other => (entry, context.note (.named .debug .annotations "tag_ignored"
          [("table", .text entry.name), ("key", .text other)]))
  | _ => (entry, malformedTag entry.name (String.ofList tag) context)

def readTags (entry : TableEntry) (tags : List (List Char)) (context : Context) :
    TableEntry × Context :=
  tags.foldl (fun state tag => readTag state.1 tag state.2) (entry, context)

def blockName (tag : List Char) : String :=
  String.ofList ((Text.words tag).head?.getD [])

/-- This function reads one block. A block without tags declares no table. -/
def readBlock (origin : FilePath) (block : List Char) (context : Context) :
    Option TableEntry × Context :=
  match tags block with
  | [] => (none, context)
  | first :: rest =>
      let name := blockName first
      if Naming.isIdentifier name then
        let read := readTags { name, origin := some origin } rest context
        (some read.1, read.2)
      else
        (none, invalidName origin name context)

def readBlocks (origin : FilePath) : List (List Char) → Context → List TableEntry × Context
  | [], context => ([], context)
  | block :: rest, context =>
      let read := readBlock origin block context
      let others := readBlocks origin rest read.2
      (read.1.toList ++ others.1, others.2)

def extract (origin : FilePath) (text : String) (context : Context) :
    List TableEntry × Context :=
  readBlocks origin (blocks text.toList) context

def register (origin : FilePath) (context : Context) (entry : TableEntry) : Context :=
  let registered := context.register entry
  if (context.registry.insert entry).1.isSome then
    registered.note (.named .debug .annotations "table_redeclared"
      [("table", .text entry.name), ("path", .text origin.text)])
  else
    registered

def extractInto (origin : FilePath) (text : String) (context : Context) : Context :=
  let read := extract origin text context
  read.1.foldl (register origin) read.2

end Tablewright.Annotation
