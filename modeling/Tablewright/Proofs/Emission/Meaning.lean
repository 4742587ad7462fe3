import Mathlib.Algebra.Group.Int.Defs
import Tablewright.Emission.KeyExpression

namespace Tablewright.Emission

/-- Packed keys are functions of signed numbers of 64 bits. -/
structure Tools (Key2 Key3 : Type) where
  pack2 : Int64 → Int64 → Key2
  pack3 : Int64 → Int64 → Int64 → Key3

/-- Generated code handles these values. A slice is a borrowed text. -/
inductive Value (Key2 Key3 : Type)
  | integer (typeName : String) (number : Int)
  | text (content : String)
  | slice (content : String)
  | key2 (key : Key2)
  | key3 (key : Key3)
  deriving DecidableEq

/-- An integer type has a sign or none, and a number of bits. Types of pointer size have 64. -/
def integerForms : List (String × Bool × Nat) :=
  [("i8", true, 8), ("i16", true, 16), ("i32", true, 32), ("i64", true, 64), ("i128", true, 128),
    ("isize", true, 64), ("u8", false, 8), ("u16", false, 16), ("u32", false, 32),
    ("u64", false, 64), ("u128", false, 128), ("usize", false, 64)]

/-- This function tells whether an integer type has a number. -/
def holdsNumber (typeName : String) (number : Int) : Bool :=
  match integerForms.lookup typeName with
  | some (true, bits) => -(2 ^ (bits - 1)) ≤ number ∧ number < 2 ^ (bits - 1)
  | some (false, bits) => 0 ≤ number ∧ number < 2 ^ bits
  | none => false

namespace Value

variable {Key2 Key3 : Type}

def typeName : Value Key2 Key3 → String
  | .integer typeName _ => typeName
  | .text _ => "String"
  | .slice _ => "&str"
  | .key2 _ => "Key2"
  | .key3 _ => "Key3"

/-- A number is in the range of its type. -/
def inRange : Value Key2 Key3 → Bool
  | .integer typeName number => holdsNumber typeName number
  | _ => true

/-- A value is of a type when it has the name of the type and is in its range. -/
structure Of (typeName : String) (value : Value Key2 Key3) : Prop where
  named : value.typeName = typeName
  ranged : value.inRange = true

/-- A text can be copied out of a row only by a clone, and a number leaves a copy behind. -/
def copied? : Value Key2 Key3 → Option (Value Key2 Key3)
  | .text _ => none
  | value => some value

/-- The cast of a number to 64 bits keeps its lowest bits. -/
def cast? : Value Key2 Key3 → Option Int64
  | .integer _ number => some (Int64.ofInt number)
  | _ => none

/-- Numbers are shown in decimal, and texts as they are. -/
def shown? : Value Key2 Key3 → Option String
  | .integer _ number => some (toString number)
  | .text content => some content
  | .slice content => some content
  | _ => none

/-- An accessor takes a text as a slice. -/
def passed : Value Key2 Key3 → Value Key2 Key3
  | .text content => .slice content
  | value => value

/-- A value of another type does not compile where this type is expected. -/
def expected? (typeName : String) (value : Value Key2 Key3) : Option (Value Key2 Key3) :=
  if value.typeName = typeName then some value else none

end Value

/-- A row has a value for every field. -/
abbrev Fields (Key2 Key3 : Type) :=
  String → Value Key2 Key3

/-- A scope has at most one row, under the name of a receiver, and local variables. -/
structure Scope (Key2 Key3 : Type) where
  row? : Option (String × Fields Key2 Key3) := none
  locals : List (String × Value Key2 Key3) := []

section Expressions

variable {Key2 Key3 : Type} (tools : Tools Key2 Key3) (scope : Scope Key2 Key3)

def Scope.field? (receiver name : String) : Option (Value Key2 Key3) :=
  match scope.row? with
  | some (owner, row) => if owner = receiver then some (row name) else none
  | none => none

/-- This function is the value of an operand that is only looked at. -/
def Operand.seen? : Operand → Option (Value Key2 Key3)
  | .field receiver name => scope.field? receiver name
  | .ownedField receiver name => scope.field? receiver name
  | .parameter name => scope.locals.lookup name

/-- This function is the value of an operand that is taken. A row keeps all its fields. -/
def Operand.taken? : Operand → Option (Value Key2 Key3)
  | .field receiver name => (scope.field? receiver name).bind Value.copied?
  | .ownedField receiver name => scope.field? receiver name
  | .parameter name => scope.locals.lookup name

/-- This function is the value of a key expression. -/
def KeyExpression.value? : KeyExpression → Option (Value Key2 Key3)
  | .value operand => operand.taken? scope
  | .packed typeName operands => do
      let numbers ← operands.mapM fun operand => (operand.taken? scope).bind Value.cast?
      match typeName, numbers with
      | "Key2", [first, second] => some (.key2 (tools.pack2 first second))
      | "Key3", [first, second, third] => some (.key3 (tools.pack3 first second third))
      | _, _ => none
  | .formatted operands => do
      let texts ← operands.mapM fun operand => (operand.seen? scope).bind Value.shown?
      some (.text (Text.joined "_" texts))

end Expressions

/-- This is the code of a table that handles keys. Its map has keys of one type, its key method has
a result type and a body, and its accessor has parameters and a look-up. -/
structure KeyCode where
  mapKey : String
  rowKey : RowKey
  method? : Option (String × KeyExpression)
  parameters : List Parameter
  lookup : Lookup

section Functions

variable {Key2 Key3 : Type} (tools : Tools Key2 Key3) (code : KeyCode)

/-- The key method builds the key of its receiver. -/
def keyMethod? (row : Fields Key2 Key3) : Option (Value Key2 Key3) :=
  match code.method? with
  | some (result, body) =>
      (body.value? tools { row? := some ("self", row) }).bind (Value.expected? result)
  | none => none

/-- The loader stores a row under this key. -/
def storedKey? (row : Fields Key2 Key3) : Option (Value Key2 Key3) :=
  match code.rowKey with
  | .method => (keyMethod? tools code row).bind (Value.expected? code.mapKey)
  | .field operand =>
      (operand.taken? { row? := some ("row", row) }).bind (Value.expected? code.mapKey)

/-- A call binds arguments to parameters of their types. Two parameters of one name do not
compile. -/
def call? (parameters : List Parameter) (arguments : List (Value Key2 Key3)) :
    Option (Scope Key2 Key3) :=
  if (parameters.map Parameter.name).Nodup ∧
      arguments.map Value.typeName = parameters.map Parameter.typeName then
    some { locals := (parameters.map Parameter.name).zip arguments }
  else none

/-- A map whose keys are owned is searched with a borrowed key of their type, or with a slice if
they are texts. -/
def searched? (mapKey : String) (borrowed : Bool) (value : Value Key2 Key3) :
    Option (Value Key2 Key3) :=
  match borrowed, value with
  | true, value => value.expected? mapKey
  | false, .slice content => (Value.text content).expected? mapKey
  | false, _ => none

/-- A binding defines the name `key` anew. -/
def bound? (lookup : Lookup) (scope : Scope Key2 Key3) : Option (Scope Key2 Key3) :=
  match lookup.binding with
  | none => some scope
  | some expression => do
      let value ← expression.value? tools scope
      some { scope with locals := ("key", value) :: scope.locals }

/-- The accessor looks up this key. -/
def lookedUpKey? (arguments : List (Value Key2 Key3)) : Option (Value Key2 Key3) := do
  let entered ← call? code.parameters arguments
  let scope ← bound? tools code.lookup entered
  let value ← scope.locals.lookup "key"
  searched? code.mapKey code.lookup.borrowed value

end Functions

section Storage

variable {Key2 Key3 Row : Type} [DecidableEq Key2] [DecidableEq Key3]
  (tools : Tools Key2 Key3) (code : KeyCode)

/-- The accessor finds a row of a loaded table, or finds out that there is none. -/
def find? (table : Value Key2 Key3 → Option Row) (arguments : List (Value Key2 Key3)) :
    Option (Option Row) :=
  (lookedUpKey? tools code arguments).map table

end Storage

end Tablewright.Emission
