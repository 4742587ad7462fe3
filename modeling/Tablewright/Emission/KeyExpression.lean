import Tablewright.Table.Key

namespace Tablewright.Emission

inductive Operand
  | field (receiver name : String)
  | ownedField (receiver name : String)
  | parameter (name : String)
  deriving DecidableEq, Repr

def Operand.render : Operand → String
  | .field receiver name => receiver ++ "." ++ name
  | .ownedField receiver name => receiver ++ "." ++ name ++ ".clone()"
  | .parameter name => name

/-- A key expression is one operand, a packed key of operands, or their formatted text with an
underscore between neighbours. -/
inductive KeyExpression
  | value (operand : Operand)
  | packed (typeName : String) (operands : List Operand)
  | formatted (operands : List Operand)
  deriving DecidableEq, Repr

/-- This function writes a key expression. Packed operands are cast to signed numbers of 64
bits. -/
def KeyExpression.render : KeyExpression → String
  | .value operand => operand.render
  | .packed typeName operands =>
      typeName ++ "::new(" ++
        Text.joined ", " (operands.map fun operand => operand.render ++ " as i64") ++ ")"
  | .formatted operands =>
      "format!(\"" ++ Text.joined "_" (operands.map fun _ => "\x7b\x7d") ++ "\", " ++
        Text.joined ", " (operands.map Operand.render) ++ ")"

def compose (key : KeySchema) (operand : KeyField → Operand) : KeyExpression :=
  match key.form with
  | .scalar => .value (operand key.first)
  | .packed2 | .packed3 => .packed key.mapType (key.fields.map operand)
  | .formatted => .formatted (key.fields.map operand)

structure Parameter where
  name : String
  typeName : String
  deriving DecidableEq, Repr

/-- A composite key has one parameter for every field. The only parameter of any other key is
named `key`. -/
def accessorParameters (key : KeySchema) : List Parameter :=
  if key.isComposite then
    key.fields.map fun field => ⟨field.parameterName, field.parameterType⟩
  else
    [⟨"key", key.first.parameterType⟩]

def renderParameters (parameters : List Parameter) : String :=
  Text.joined ", " (parameters.map fun parameter =>
    parameter.name ++ ": " ++ parameter.typeName)

structure Lookup where
  binding : Option KeyExpression
  borrowed : Bool
  deriving DecidableEq, Repr

namespace Lookup

def renderBinding? (lookup : Lookup) : Option String :=
  lookup.binding.map fun value => "let key = " ++ value.render ++ ";"

def renderArgument (lookup : Lookup) : String :=
  if lookup.borrowed then "&key" else "key"

end Lookup

/-- The accessor of a composite key binds the key of its parameters. A text parameter is
borrowed already. -/
def accessorLookup (key : KeySchema) : Lookup :=
  if key.isComposite then
    ⟨some (compose key fun field => .parameter field.parameterName), true⟩
  else
    ⟨none, key.kind = .integer⟩

def rowOperand (receiver : String) (composite : Bool) (field : KeyField) : Operand :=
  if field.kind = .text ∧ !composite then .ownedField receiver field.name
  else .field receiver field.name

def keyMethodBody (key : KeySchema) : KeyExpression :=
  compose key (rowOperand "self" key.isComposite)

inductive RowKey
  | method
  | field (operand : Operand)
  deriving DecidableEq, Repr

def RowKey.render : RowKey → String
  | .method => "row.get_key()"
  | .field operand => operand.render

def rowKey (key : KeySchema) : RowKey :=
  if key.explicit then .method else .field (rowOperand "row" false key.first)

end Tablewright.Emission
