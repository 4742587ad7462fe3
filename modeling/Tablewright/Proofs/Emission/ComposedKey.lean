import Tablewright.Proofs.Emission.WrittenKeys
import Tablewright.Proofs.Text.Decimal

namespace Tablewright

/-- This function names the value at a position. -/
def valueName (position : Nat) : String :=
  "value_" ++ toString position

/-- This function gives a field the name of its position. -/
def KeyField.atPosition (numbered : KeyField × Nat) : KeyField :=
  { numbered.1 with name := valueName numbered.2 }

/-- In a numbered key every field has a name of its own. The generated code is the same but for
the names of its operands. -/
def KeySchema.numbered (key : KeySchema) : KeySchema :=
  ⟨KeyField.atPosition (key.first, 0), (key.others.zipIdx 1).map KeyField.atPosition,
    key.explicit⟩

namespace KeySchema

variable {key : KeySchema}

theorem numbered_fields (key : KeySchema) :
    key.numbered.fields = key.fields.zipIdx.map KeyField.atPosition := by
  rw [fields, fields, List.zipIdx_cons, List.map_cons]
  rfl

theorem numbered_names (key : KeySchema) :
    key.numbered.fields.map KeyField.name = (List.range key.fields.length).map valueName := by
  rw [numbered_fields, List.map_map, List.range_eq_range', ← List.zipIdx_map_snd, List.map_map]
  rfl

theorem numbered_nodup (key : KeySchema) : (key.numbered.fields.map KeyField.name).Nodup := by
  rw [numbered_names]
  refine List.nodup_range.map fun first second same => ?_
  exact Text.natural_injective ((String.append_right_inj _).mp same)

@[simp] theorem numbered_form (key : KeySchema) : key.numbered.form = key.form := by
  have packs : key.numbered.fields.all KeyField.packs = key.fields.all KeyField.packs := by
    rw [numbered_fields, List.all_map]
    conv_rhs => rw [← List.zipIdx_map_fst 0 key.fields, List.all_map]
    rfl
  rw [form, form, packs]
  simp [numbered]

@[simp] theorem numbered_mapType (key : KeySchema) : key.numbered.mapType = key.mapType := by
  rw [mapType, mapType, numbered_form]
  rfl

/-- A key with a text beside other fields is formatted. -/
theorem form_of_text {field : KeyField} (inside : field ∈ key.fields) (text : field.kind = .text)
    (several : key.fields.length ≠ 1) : key.form = .formatted := by
  have unpacked : ¬(key.form = .packed2 ∨ key.form = .packed3) := by
    intro packed
    have packs := (packs_of_form packed).2 field inside
    rw [KeyField.integer_of_packs packs] at text
    cases text
  cases form : key.form with
  | scalar =>
      have alone : key.others = [] := by
        simpa [isComposite] using form_scalar_iff.mp form
      simp [fields, alone] at several
  | packed2 => exact absurd (.inl form) unpacked
  | packed3 => exact absurd (.inr form) unpacked
  | formatted => rfl

end KeySchema

namespace Emission

variable {Key2 Key3 : Type}

/-- A tuple has a value in the range of its declared type for every field. -/
def Fills (fields : List KeyField) (values : List (Value Key2 Key3)) : Prop :=
  List.Forall₂ (fun field value => value.Of field.typeName) fields values

/-- This function is the key that generated code builds of a tuple. The code is read as it is
written for parameters that have a name for every position. -/
def composedKey? (tools : Tools Key2 Key3) (key : KeySchema) (values : List (Value Key2 Key3)) :
    Option (Value Key2 Key3) :=
  (readExpression? (compose key.numbered fun field => .parameter field.name).render).bind
    fun expression => expression.value? tools
      { locals := (key.numbered.fields.map KeyField.name).zip values }

theorem isNameCharacter_digit {character : Char} (digit : character.isDigit = true) :
    isNameCharacter character = true := by
  have small : character.toNat < 0x80 := by
    have bounds := of_decide_eq_true (Bool.and_eq_true_iff.mp digit).2
    have code : character.toNat ≤ 57 := bounds
    omega
  have goesOn : Text.isIdentifierContinue character = true := by
    rw [Text.isIdentifierContinue, if_pos small]
    simp [Char.isAlphanum, digit]
  simp [isNameCharacter, goesOn]

theorem isName_valueName (position : Nat) : IsName (valueName position) := by
  constructor
  · intro empty
    have letters := congrArg String.toList empty
    simp [valueName] at letters
  · intro character inside
    rw [valueName, String.toList_append, List.mem_append] at inside
    rcases inside with lead | digit
    · have letters : "value_".toList.all isNameCharacter = true := by decide
      exact List.all_eq_true.mp letters character lead
    · exact isNameCharacter_digit (Text.isDigit_of_repr digit)

/-- The code of a composed key is read back. -/
theorem composedKey_eq (tools : Tools Key2 Key3) (key : KeySchema)
    (values : List (Value Key2 Key3)) :
    composedKey? tools key values =
      (compose key.numbered fun field => .parameter field.name).value? tools
        { locals := (key.numbered.fields.map KeyField.name).zip values } := by
  have named : ∀ field ∈ key.numbered.fields, IsName field.name := by
    rw [KeySchema.numbered_fields]
    exact List.forall_mem_map.mpr fun numbered _ => isName_valueName numbered.2
  rw [composedKey?, readExpression_compose named]
  rfl

/-- This function packs numbers, if there is a packed key of this name for as many. -/
def Tools.packed? (tools : Tools Key2 Key3) (typeName : String) (numbers : List Int64) :
    Option (Value Key2 Key3) :=
  match typeName, numbers with
  | "Key2", [first, second] => some (.key2 (tools.pack2 first second))
  | "Key3", [first, second, third] => some (.key3 (tools.pack3 first second third))
  | _, _ => none

section Composed

variable {tools : Tools Key2 Key3} {key : KeySchema} {operand : KeyField → Operand}
  {scope : Scope Key2 Key3} {values : List (Value Key2 Key3)}

/-- The key of shown operands is their text, with an underscore between neighbours. -/
theorem compose_formatted (formatted : key.form = .formatted) :
    (compose key operand).value? tools scope =
      (key.fields.mapM fun field => ((operand field).seen? scope).bind Value.shown?).map
        fun texts => .text (Text.joined "_" texts) := by
  simp only [compose, formatted, KeyExpression.value?, List.mapM_map, Option.map_eq_bind]
  rfl

/-- The key of cast operands is packed. -/
theorem compose_packed (packed : key.form = .packed2 ∨ key.form = .packed3) :
    (compose key operand).value? tools scope =
      (key.fields.mapM fun field => ((operand field).taken? scope).bind Value.cast?).bind
        (tools.packed? key.mapType) := by
  obtain form | form := packed
  all_goals
    simp only [compose, form, KeyExpression.value?, List.mapM_map]
    rfl

/-- Distinct names find the values of their positions. -/
theorem mapM_lookup_zip {β : Type} (step : Value Key2 Key3 → Option β) {names : List String}
    (distinct : names.Nodup) (length : values.length = names.length) :
    (names.mapM fun name => ((names.zip values).lookup name).bind step) = values.mapM step := by
  induction names generalizing values with
  | nil =>
      obtain rfl := List.length_eq_zero_iff.mp length
      rfl
  | cons name rest hypothesis =>
      obtain ⟨value, others, rfl⟩ := List.exists_cons_of_length_eq_add_one length
      obtain ⟨fresh, distinct⟩ := List.nodup_cons.mp distinct
      have later : ∀ other ∈ rest,
          ((((name :: rest).zip (value :: others)).lookup other).bind step) =
            ((rest.zip others).lookup other).bind step := by
        intro other inside
        have different : other ≠ name := by
          rintro rfl
          exact fresh inside
        rw [List.zip_cons_cons, List.lookup_cons, beq_eq_false_iff_ne.mpr different]
      rw [List.mapM_cons, List.mapM_cons, mapM_congr later,
        hypothesis distinct (Nat.succ.inj length)]
      simp

theorem mapM_parameters {β : Type} (step : Value Key2 Key3 → Option β)
    (length : values.length = key.fields.length) :
    (key.numbered.fields.mapM fun field =>
      (((key.numbered.fields.map KeyField.name).zip values).lookup field.name).bind step) =
        values.mapM step := by
  have count : values.length = (key.numbered.fields.map KeyField.name).length := by
    simp [KeySchema.numbered_names, length]
  rw [← mapM_lookup_zip step (KeySchema.numbered_nodup key) count, List.mapM_map]
  rfl

theorem composedKey_scalar (scalar : key.form = .scalar) (value : Value Key2 Key3) :
    composedKey? tools key [value] = some value := by
  have form : key.numbered.form = .scalar := by simp [scalar]
  rw [composedKey_eq, compose, form, KeySchema.fields, List.map_cons]
  simp [KeyExpression.value?, Operand.taken?]

theorem composedKey_packed (packed : key.form = .packed2 ∨ key.form = .packed3)
    (length : values.length = key.fields.length) :
    composedKey? tools key values = (values.mapM Value.cast?).bind (tools.packed? key.mapType) := by
  rw [composedKey_eq, compose_packed (by simpa using packed), KeySchema.numbered_mapType,
    ← mapM_parameters Value.cast? length]
  rfl

theorem composedKey_formatted (formatted : key.form = .formatted)
    (length : values.length = key.fields.length) :
    composedKey? tools key values =
      (values.mapM Value.shown?).map fun texts => .text (Text.joined "_" texts) := by
  rw [composedKey_eq, compose_formatted (by simpa using formatted),
    ← mapM_parameters Value.shown? length]
  rfl

/-- The key method builds the key of the tuple of its receiver. -/
theorem keyMethodBody_value {row : Fields Key2 Key3} (fits : Fits key row) :
    (keyMethodBody key).value? tools { row? := some ("self", row) } =
      composedKey? tools key (key.fields.map fun field => row field.name) := by
  have length : (key.fields.map fun field => row field.name).length = key.fields.length :=
    List.length_map ..
  have packs : key.form = .packed2 ∨ key.form = .packed3 →
      (keyMethodBody key).value? tools { row? := some ("self", row) } =
        composedKey? tools key (key.fields.map fun field => row field.name) := by
    intro packed
    rw [keyMethodBody, compose_packed packed, composedKey_packed packed length, List.mapM_map]
    congr 1
    apply mapM_congr
    intro field inside
    have integer := KeyField.integer_of_packs ((KeySchema.packs_of_form packed).2 field inside)
    exact rowOperand_cast _ integer (fits field inside)
  cases form : key.form with
  | scalar =>
      have single := KeySchema.form_scalar_iff.mp form
      have alone : key.others = [] := by simpa [KeySchema.isComposite] using single
      have tuple : (key.fields.map fun field => row field.name) = [row key.first.name] := by
        simp [KeySchema.fields, alone]
      rw [tuple, composedKey_scalar form, keyMethodBody, compose, form, single]
      exact rowOperand_single (fits key.first List.mem_cons_self)
  | packed2 => exact packs (.inl form)
  | packed3 => exact packs (.inr form)
  | formatted =>
      rw [keyMethodBody, compose_formatted form, composedKey_formatted form length, List.mapM_map]
      congr 1
      apply mapM_congr
      intro field inside
      rw [rowOperand_seen]
      rfl

end Composed

end Tablewright.Emission
