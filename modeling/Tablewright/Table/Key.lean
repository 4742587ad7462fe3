import Tablewright.Naming

namespace Tablewright

inductive KeyKind
  | integer
  | text
  deriving DecidableEq, Repr

namespace KeyKind

def label : KeyKind → String
  | .integer => "integer"
  | .text => "text"

def integerTypes : List String :=
  ["i8", "i16", "i32", "i64", "i128", "isize", "u8", "u16", "u32", "u64", "u128", "usize"]

def ofTypeName? (name : String) : Option KeyKind :=
  if name ∈ integerTypes then some .integer
  else if name = "String" then some .text
  else none

theorem ofTypeName_string : ofTypeName? "String" = some .text := by
  decide

theorem ofTypeName_i32 : ofTypeName? "i32" = some .integer := by
  decide

theorem ofTypeName_u8 : ofTypeName? "u8" = some .integer := by
  decide

end KeyKind

inductive KeyError
  | emptySchema (table : String)
  | unsupportedType (field typeName : String)
  deriving DecidableEq, Repr

def KeyError.message : KeyError → String
  | .emptySchema table => s!"empty key schema for table '{table}'"
  | .unsupportedType field typeName =>
      s!"unsupported key type '{typeName}' on field '{field}'"

structure KeyField where
  name : String
  typeName : String
  kind : KeyKind
  kind_eq : KeyKind.ofTypeName? typeName = some kind
  deriving DecidableEq, Repr

namespace KeyField

def make (name typeName : String) : Except KeyError KeyField :=
  match supported : KeyKind.ofTypeName? typeName with
  | some kind => .ok ⟨name, typeName, kind, supported⟩
  | none => .error (.unsupportedType name typeName)

def packableTypes : List String :=
  ["i8", "i16", "i32", "i64", "isize", "u8", "u16", "u32"]

def packs (field : KeyField) : Bool :=
  field.typeName ∈ packableTypes

def parameterName (field : KeyField) : String :=
  Naming.parameterName field.name

def parameterType (field : KeyField) : String :=
  match field.kind with
  | .integer => field.typeName
  | .text => "&str"

end KeyField

/-- Generated code stores a key as the value of its only field, as two or three packed numbers,
or as a formatted text. -/
inductive KeyForm
  | scalar
  | packed2
  | packed3
  | formatted
  deriving DecidableEq, Repr

def KeyForm.label : KeyForm → String
  | .scalar => "scalar"
  | .packed2 => "packed2"
  | .packed3 => "packed3"
  | .formatted => "formatted"

/-- A key schema lists one or more fields. It is explicit when its fields carry key tags. -/
structure KeySchema where
  first : KeyField
  others : List KeyField
  explicit : Bool
  deriving DecidableEq, Repr

namespace KeySchema

def make (table : String) (fields : List KeyField) (explicit : Bool) :
    Except KeyError KeySchema :=
  match fields with
  | [] => .error (.emptySchema table)
  | first :: others => .ok ⟨first, others, explicit⟩

def fields (key : KeySchema) : List KeyField :=
  key.first :: key.others

def isComposite (key : KeySchema) : Bool :=
  !key.others.isEmpty

def allInteger (key : KeySchema) : Bool :=
  key.fields.all fun field => field.kind = .integer

def kind (key : KeySchema) : KeyKind :=
  if key.isComposite then .text else key.first.kind

/-- Two or three fields are packed when all of them pack. Any other composite key is
formatted. -/
def form (key : KeySchema) : KeyForm :=
  match key.others.length, key.fields.all KeyField.packs with
  | 0, _ => .scalar
  | 1, true => .packed2
  | 2, true => .packed3
  | _, _ => .formatted

def mapType (key : KeySchema) : String :=
  match key.form with
  | .scalar => key.first.typeName
  | .packed2 => "Key2"
  | .packed3 => "Key3"
  | .formatted => "String"

end Tablewright.KeySchema
