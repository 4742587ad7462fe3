import Tablewright.Introspection.Options
import Tablewright.Introspection.Source
import Tablewright.Table.Key

namespace Tablewright

open Declaration

inductive IntrospectionError
  | unreadableDirectory (path : FilePath) (cause : FileError)
  | typeNotFound (name : String)
  | emptyType (name : String) (path : FilePath)
  deriving DecidableEq, Repr

def IntrospectionError.message : IntrospectionError → String
  | .unreadableDirectory path cause =>
      s!"cannot read declaration directory {path.text}: {cause.message}"
  | .typeNotFound name => s!"struct '{name}' not found in any declaration file"
  | .emptyType name path => s!"struct '{name}' in {path.text} has no fields"

/-- These problems leave a table without a key. Resolution goes on after them. -/
inductive KeyProblem
  | missing
  | unsupported (line : Option Nat) (error : KeyError)
  | unparsedFile (path : FilePath)
  | takenNames (storage suffix owner : String) (origin : Option FilePath)
  deriving DecidableEq, Repr

/-- A field of this name is the key of a struct without tags, in any case. -/
def implicitKeyField : String := "id"

namespace KeyProblem

def code : KeyProblem → String
  | .missing => "missing_key"
  | .unsupported _ _ => "unsupported_key_kind"
  | .unparsedFile _ => "unparseable_source"
  | .takenNames _ _ _ _ => "name_collision"

def message : KeyProblem → String
  | .missing =>
      s!"no field is tagged as key and there is no default key field '{implicitKeyField}'"
  | .unsupported none error => error.message
  | .unsupported (some line) error => s!"line {line}: {error.message}"
  | .unparsedFile path => s!"declaring file {path.text} could not be parsed"
  | .takenNames storage suffix owner origin =>
      let declared := match origin with
        | some path => s!" (declared in {path.text})"
        | none => ""
      s!"generated names {storage} and load_{suffix} are already taken by '{owner}'{declared}"

def report (table : String) (context : Context) (problem : KeyProblem) : Context :=
  (context.note (.named .error .resolution "key_unresolved"
    [("code", .text problem.code), ("table", .text table),
      ("message", .text problem.message)])).report
    (.error problem.code table problem.message)

end KeyProblem

structure ResolvedKey where
  entry : TableEntry
  key : KeySchema
  deriving DecidableEq, Repr

namespace KeyResolution

def keyWord : String := "key"

def isKeyTag (marker : String) (tag : Attribute) : Bool :=
  tag.path.isName marker &&
    match tag.form with
    | .bare => false
    | .list body => Token.anyMentions keyWord.toList body
    | .value text => text.any fun value => Text.contains keyWord.toList value.toList

/-- This function writes a type by its outer form. Only the last name of a path counts. -/
def typeName : TypeTree → String
  | .path _ path => path.lastName?.getD ""
  | .reference target => "&" ++ typeName target
  | .enclosed inner => typeName inner
  | .array element => "[" ++ typeName element ++ "; _]"
  | .slice element => "[" ++ typeName element ++ "]"
  | .tuple size => s!"({size} elements)"
  | .bounds _ => "<unsupported>"
  | .other => "<unsupported>"

def isImplicitKey (name : String) : Bool :=
  name.toList.map Char.toLower = implicitKeyField.toList

structure NamedField where
  name : String
  line : Nat
  typeName : String
  tagged : Bool

def namedFields (marker : String) (fields : List Field) : List NamedField :=
  fields.filterMap fun field =>
    field.name.map fun name =>
      ⟨name, field.line, typeName field.type, field.attributes.any (isKeyTag marker)⟩

def NamedField.keyField (field : NamedField) : Except KeyError KeyField :=
  KeyField.make field.name field.typeName

def taggedProblems (tagged : List NamedField) : List KeyProblem :=
  tagged.filterMap fun field =>
    match field.keyField with
    | .ok _ => none
    | .error error => some (.unsupported (some field.line) error)

def keyFields (fields : List NamedField) : List KeyField :=
  fields.filterMap fun field => field.keyField.toOption

/-- The key of a struct has all tagged fields. Without them it is the first field with the
implicit name. -/
def structKey (marker : String) (fields : List Field) : Except (List KeyProblem) KeySchema :=
  let named := namedFields marker fields
  let tagged := named.filter NamedField.tagged
  match taggedProblems tagged, keyFields tagged with
  | problem :: others, _ => .error (problem :: others)
  | [], first :: others => .ok ⟨first, others, true⟩
  | [], [] =>
      match named.find? fun field => isImplicitKey field.name with
      | none => .error [.missing]
      | some field =>
          match field.keyField with
          | .ok key => .ok ⟨key, [], false⟩
          | .error error => .error [.unsupported none error]

def owner? (resolved : List ResolvedKey) (name : String) : Option ResolvedKey :=
  resolved.find? fun other =>
    Naming.functionSuffix other.entry.name = Naming.functionSuffix name

def takenNames (registry : Registry) (entry : TableEntry) (owner : ResolvedKey) : KeyProblem :=
  .takenNames entry.storageVariable (Naming.functionSuffix entry.name) owner.entry.name
    ((registry.get? owner.entry.name).bind TableEntry.origin)

/-- This function finds the key of an entry. The entries before it keep their generated
names. -/
def entryKey (sources : SourceSet) (marker : String) (registry : Registry)
    (resolved : List ResolvedKey) (entry : TableEntry) :
    Except IntrospectionError (Except (List KeyProblem) KeySchema) :=
  match sources.findStruct entry.name with
  | .missing => .error (.typeNotFound entry.name)
  | .unparsed path => .ok (.error [.unparsedFile path])
  | .found declaration path =>
      if declaration.fields.isEmpty then .error (.emptyType entry.name path)
      else
        match structKey marker declaration.fields with
        | .error problems => .ok (.error problems)
        | .ok key =>
            match owner? resolved entry.name with
            | some owner => .ok (.error [takenNames registry entry owner])
            | none => .ok (.ok key)

def stopEvent : IntrospectionError → Option Event
  | .unreadableDirectory _ _ => none
  | .typeNotFound name =>
      some (.named .error .resolution "type_not_found" [("table", .text name)])
  | .emptyType name path =>
      some (.named .error .resolution "type_empty"
        [("table", .text name), ("path", .text path.text)])

def resolvedEvent (entry : TableEntry) (key : KeySchema) : Event :=
  .named .debug .resolution "key_resolved"
    [("table", .text entry.name), ("fields", .number key.fields.length),
      ("explicit", .truth key.explicit)]

/-- This function resolves entries in their order, after those that are resolved. It stops at the
first entry that has no struct with fields. -/
def resolveAfter (sources : SourceSet) (marker : String) (resolved : List ResolvedKey) :
    List TableEntry → Context → Except IntrospectionError (List ResolvedKey) × Context
  | [], context => (.ok resolved, context)
  | entry :: rest, context =>
      match entryKey sources marker context.registry resolved entry with
      | .error error => (.error error, (stopEvent error).toList.foldl Context.note context)
      | .ok (.error problems) =>
          resolveAfter sources marker resolved rest
            (problems.foldl (KeyProblem.report entry.name) context)
      | .ok (.ok key) =>
          resolveAfter sources marker (resolved ++ [⟨entry, key⟩]) rest
            (context.note (resolvedEvent entry key))

def resolve (sources : SourceSet) (marker : String) (context : Context) :
    Except IntrospectionError (List ResolvedKey) × Context :=
  resolveAfter sources marker [] context.registry.sorted context

end Tablewright.KeyResolution
