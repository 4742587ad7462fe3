import Mathlib.Data.List.Basic
import Tablewright.Proofs.Emission.Meaning
import Tablewright.Proofs.Except

namespace Tablewright

namespace KeyField

theorem integer_typeName {field : KeyField} (integer : field.kind = .integer) :
    field.typeName ∈ KeyKind.integerTypes := by
  have supported := field.kind_eq
  unfold KeyKind.ofTypeName? at supported
  split at supported
  · assumption
  · split at supported
    · rw [integer] at supported
      cases supported
    · cases supported

theorem text_typeName {field : KeyField} (text : field.kind = .text) :
    field.typeName = "String" := by
  have supported := field.kind_eq
  unfold KeyKind.ofTypeName? at supported
  split at supported
  · rw [text] at supported
    cases supported
  · split at supported
    · assumption
    · cases supported

/-- A field that packs holds numbers. -/
theorem integer_of_packs {field : KeyField} (packs : field.packs = true) :
    field.kind = .integer := by
  have among : field.typeName ∈ KeyKind.integerTypes := by
    have every : ∀ typeName ∈ packableTypes, typeName ∈ KeyKind.integerTypes := by decide
    exact every _ (of_decide_eq_true packs)
  have supported := field.kind_eq
  rw [KeyKind.ofTypeName?, if_pos among] at supported
  exact (Option.some.inj supported).symm

end KeyField

namespace KeySchema

variable {key : KeySchema}

theorem form_scalar_iff : key.form = .scalar ↔ key.isComposite = false := by
  unfold form isComposite
  rcases key.others with _ | ⟨second, _ | ⟨third, _ | ⟨fourth, rest⟩⟩⟩ <;>
    cases key.fields.all KeyField.packs <;> simp

/-- Packed keys have two or three fields that pack. -/
theorem packs_of_form (packed : key.form = .packed2 ∨ key.form = .packed3) :
    key.fields.length = (if key.form = .packed2 then 2 else 3) ∧
      ∀ field ∈ key.fields, field.packs = true := by
  unfold form at packed ⊢
  split at packed
  all_goals simp_all [fields]

/-- These are the types of keys in generated maps. -/
def mapTypes : List String :=
  ["Key2", "Key3", "String"] ++ KeyKind.integerTypes

theorem mapType_mem (key : KeySchema) : key.mapType ∈ mapTypes := by
  unfold mapType
  cases key.form with
  | scalar =>
      cases kind : key.first.kind with
      | integer => exact List.mem_append_right _ (KeyField.integer_typeName kind)
      | text =>
          rw [KeyField.text_typeName kind]
          decide
  | packed2 | packed3 | formatted => simp [mapTypes]

theorem mapType_of_form_formatted (formatted : key.form = .formatted) :
    key.mapType = "String" := by
  rw [mapType, formatted]

end KeySchema

namespace Emission

variable {Key2 Key3 : Type}

namespace Value.Of

variable {typeName : String} {value : Value Key2 Key3}

theorem integer (isOf : value.Of typeName) (among : typeName ∈ KeyKind.integerTypes) :
    ∃ number, value = .integer typeName number := by
  obtain ⟨rfl, _⟩ := isOf
  cases value with
  | integer typeName number => exact ⟨number, rfl⟩
  | text | slice | key2 | key3 => simp [typeName, KeyKind.integerTypes] at among

theorem text (isOf : value.Of "String") : ∃ content, value = .text content := by
  obtain ⟨named, ranged⟩ := isOf
  cases value with
  | integer typeName number =>
      obtain rfl : typeName = "String" := named
      cases ranged
  | text content => exact ⟨content, rfl⟩
  | slice | key2 | key3 => simp [typeName] at named

end Value.Of

/-- A row fits a key when each of its key fields has a value of the declared type. -/
def Fits (key : KeySchema) (row : Fields Key2 Key3) : Prop :=
  ∀ field ∈ key.fields, (row field.name).Of field.typeName

section Values

variable {field : KeyField} {value : Value Key2 Key3} (isOf : value.Of field.typeName)
include isOf

theorem integer_of_kind (integer : field.kind = .integer) :
    ∃ number, value = .integer field.typeName number :=
  isOf.integer (KeyField.integer_typeName integer)

theorem text_of_kind (text : field.kind = .text) : ∃ content, value = .text content := by
  rw [KeyField.text_typeName text] at isOf
  exact isOf.text

theorem exists_shown : ∃ content, value.shown? = some content := by
  cases kind : field.kind with
  | integer =>
      obtain ⟨number, rfl⟩ := integer_of_kind isOf kind
      exact ⟨_, rfl⟩
  | text =>
      obtain ⟨content, rfl⟩ := text_of_kind isOf kind
      exact ⟨_, rfl⟩

end Values

@[simp] theorem passed_shown (value : Value Key2 Key3) : value.passed.shown? = value.shown? := by
  cases value <;> rfl

@[simp] theorem passed_cast (value : Value Key2 Key3) : value.passed.cast? = value.cast? := by
  cases value <;> rfl

section Operands

variable {key : KeySchema} {row : Fields Key2 Key3} {receiver : String}
  {locals : List (String × Value Key2 Key3)}

theorem rowOperand_seen (composite : Bool) (field : KeyField) :
    (rowOperand receiver composite field).seen? ⟨some (receiver, row), locals⟩ =
      some (row field.name) := by
  unfold rowOperand
  split <;> simp [Operand.seen?, Scope.field?]

/-- A number is copied out of its row. -/
theorem rowOperand_cast (composite : Bool) {field : KeyField} (integer : field.kind = .integer)
    (isOf : (row field.name).Of field.typeName) :
    ((rowOperand receiver composite field).taken? ⟨some (receiver, row), locals⟩).bind
      Value.cast? = (row field.name).cast? := by
  obtain ⟨number, same⟩ := integer_of_kind isOf integer
  simp [rowOperand, integer, Operand.taken?, Scope.field?, same, Value.copied?]

/-- A single key field is copied or cloned out of its row. -/
theorem rowOperand_single {field : KeyField} (isOf : (row field.name).Of field.typeName) :
    (rowOperand receiver false field).taken? ⟨some (receiver, row), locals⟩ =
      some (row field.name) := by
  cases kind : field.kind with
  | integer =>
      obtain ⟨number, same⟩ := integer_of_kind isOf kind
      simp [rowOperand, kind, Operand.taken?, Scope.field?, same, Value.copied?]
  | text => simp [rowOperand, kind, Operand.taken?, Scope.field?]

end Operands

section Compose

variable {tools : Tools Key2 Key3} {key : KeySchema}

/-- Packed numbers make a key of the type that the schema names. -/
theorem exists_packed {receiver : String} {row : Fields Key2 Key3} (fits : Fits key row)
    (packed : key.form = .packed2 ∨ key.form = .packed3) (composite : Bool) :
    ∃ value, (compose key (rowOperand receiver composite)).value? tools
        { row? := some (receiver, row) } = some value ∧ value.typeName = key.mapType := by
  obtain ⟨size, packs⟩ := KeySchema.packs_of_form packed
  obtain ⟨numbers, found, length⟩ : ∃ numbers, ((key.fields.map (rowOperand receiver
      composite)).mapM fun operand => (operand.taken? { row? := some (receiver, row) }).bind
        Value.cast?) = some numbers ∧ numbers.length = key.fields.length := by
    rw [List.mapM_map]
    apply exists_mapM
    intro field inside
    have integer := KeyField.integer_of_packs (packs field inside)
    obtain ⟨number, same⟩ := integer_of_kind (fits field inside) integer
    refine ⟨Int64.ofInt number, ?_⟩
    rw [Function.comp_apply, rowOperand_cast composite integer (fits field inside), same]
    rfl
  rw [size] at length
  obtain form | form := packed
  · rw [if_pos form] at length
    obtain ⟨first, second, rfl⟩ := List.length_eq_two.mp length
    refine ⟨.key2 (tools.pack2 first second), ?_, ?_⟩
    · simp [compose, form, KeySchema.mapType, KeyExpression.value?, found]
    · simp [KeySchema.mapType, form, Value.typeName]
  · rw [if_neg (by simp [form])] at length
    obtain ⟨first, second, third, rfl⟩ := List.length_eq_three.mp length
    refine ⟨.key3 (tools.pack3 first second third), ?_, ?_⟩
    · simp [compose, form, KeySchema.mapType, KeyExpression.value?, found]
    · simp [KeySchema.mapType, form, Value.typeName]

theorem exists_formatted {receiver : String} {row : Fields Key2 Key3} (fits : Fits key row)
    (formatted : key.form = .formatted) (composite : Bool) :
    ∃ value, (compose key (rowOperand receiver composite)).value? tools
        { row? := some (receiver, row) } = some value ∧ value.typeName = key.mapType := by
  obtain ⟨texts, found, _⟩ : ∃ texts, ((key.fields.map (rowOperand receiver composite)).mapM
      fun operand => (operand.seen? { row? := some (receiver, row) }).bind Value.shown?) =
        some texts ∧ texts.length = key.fields.length := by
    rw [List.mapM_map]
    apply exists_mapM
    intro field inside
    rw [Function.comp_apply, rowOperand_seen]
    exact exists_shown (fits field inside)
  refine ⟨.text (Text.joined "_" texts), ?_, ?_⟩
  · simp [compose, formatted, KeyExpression.value?, found]
  · rw [KeySchema.mapType_of_form_formatted formatted]
    rfl

/-- The key method of a row has a value of the key type. -/
theorem exists_keyMethodBody (tools : Tools Key2 Key3) {row : Fields Key2 Key3}
    (fits : Fits key row) :
    ∃ value, (keyMethodBody key).value? tools { row? := some ("self", row) } = some value ∧
      value.typeName = key.mapType := by
  unfold keyMethodBody
  cases form : key.form with
  | scalar =>
      have single := KeySchema.form_scalar_iff.mp form
      have isOf := fits key.first List.mem_cons_self
      refine ⟨row key.first.name, ?_, ?_⟩
      · simp only [compose, form, single, KeyExpression.value?]
        exact rowOperand_single isOf
      · rw [KeySchema.mapType, form]
        exact isOf.named
  | packed2 => exact exists_packed fits (.inl form) _
  | packed3 => exact exists_packed fits (.inr form) _
  | formatted => exact exists_formatted fits form _

end Compose

section Agreement

/-- This is the code that handles a key. -/
def KeyCode.ofKey (key : KeySchema) : KeyCode where
  mapKey := key.mapType
  rowKey := Emission.rowKey key
  method? := if key.explicit then some (key.mapType, keyMethodBody key) else none
  parameters := accessorParameters key
  lookup := accessorLookup key

variable {tools : Tools Key2 Key3} {key : KeySchema} {row : Fields Key2 Key3}

/-- The loader stores a row under the result of its key method, also where it has none. -/
theorem storedKey_eq (resolvable : key.explicit = true ∨ key.others = []) (fits : Fits key row)
    {value : Value Key2 Key3}
    (found : (keyMethodBody key).value? tools { row? := some ("self", row) } = some value)
    (named : value.typeName = key.mapType) : storedKey? tools (.ofKey key) row = some value := by
  have typed : value.expected? key.mapType = some value := by
    simp [Value.expected?, named]
  cases explicit : key.explicit with
  | true => simp [storedKey?, KeyCode.ofKey, rowKey, keyMethod?, explicit, found, typed]
  | false =>
      have alone : key.others = [] := resolvable.resolve_left (by simp [explicit])
      have single : key.isComposite = false := by simp [KeySchema.isComposite, alone]
      have isOf := fits key.first List.mem_cons_self
      have same : row key.first.name = value := by
        rw [keyMethodBody, compose, KeySchema.form_scalar_iff.mpr single, single] at found
        exact Option.some.inj ((rowOperand_single isOf).symm.trans found)
      simp [storedKey?, KeyCode.ofKey, rowKey, explicit, rowOperand_single isOf, same, typed]

end Agreement

end Emission

end Tablewright
