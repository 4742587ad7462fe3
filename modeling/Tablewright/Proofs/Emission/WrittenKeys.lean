import Tablewright.Proofs.Emission.Sections
import Tablewright.Proofs.Emission.KeyAgreement
import Tablewright.Proofs.Emission.ParameterNames

namespace Tablewright.Emission

/-- These characters stand in identifiers or mark them as raw. -/
def isNameCharacter (character : Char) : Bool :=
  Text.isIdentifierStart character || Text.isIdentifierContinue character || character == '#'

/-- A written name is not empty and has no characters but those of names. -/
structure IsName (name : String) : Prop where
  some : name ≠ ""
  plain : ∀ character ∈ name.toList, isNameCharacter character = true

instance : DecidablePred IsName :=
  fun name => decidable_of_iff (name ≠ "" ∧ name.toList.all isNameCharacter = true)
    ⟨fun both => ⟨both.1, List.all_eq_true.mp both.2⟩,
      fun name => ⟨name.1, List.all_eq_true.mpr name.2⟩⟩

/-- This function cuts a text at every copy of a character. -/
def cutAt (separator : Char) (text : String) : List String :=
  (text.toList.splitOn separator).map String.ofList

/-- This function reads items that have a comma and a space between neighbours. -/
def readItems? (text : String) : Option (List String) :=
  match cutAt ',' text with
  | [] => none
  | first :: rest => (rest.mapM (between? " " "")).map (first :: ·)

/-- This function reads an operand. -/
def readOperand? (text : String) : Option Operand :=
  match cutAt '.' text with
  | [name] => if IsName name then some (.parameter name) else none
  | [receiver, name] =>
      if IsName receiver ∧ IsName name then some (.field receiver name) else none
  | [receiver, name, call] =>
      if IsName receiver ∧ IsName name ∧ call = "clone()" then some (.ownedField receiver name)
      else none
  | _ => none

/-- This function reads the cast of an operand to a signed number of 64 bits. -/
def readCast? (text : String) : Option Operand :=
  (between? "" " as i64" text).bind readOperand?

/-- This function reads the operands of a packed key. -/
def readPacked? (typeName inner : String) : Option KeyExpression := do
  let items ← readItems? inner
  let operands ← items.mapM readCast?
  some (.packed typeName operands)

/-- This function reads the operands of a formatted key. Its pattern ends with a quote, and has a
place for every operand and an underscore between neighbours. -/
def readFormatted? (inner : String) : Option KeyExpression := do
  let items ← readItems? inner
  let places ← between? "" "\"" (← items.head?)
  let operands ← items.tail.mapM readOperand?
  if cutAt '_' places = operands.map fun _ => "\x7b\x7d" then some (.formatted operands) else none

/-- This function reads a key expression. -/
def readExpression? (text : String) : Option KeyExpression :=
  match between? "Key2::new(" ")" text, between? "Key3::new(" ")" text,
    between? "format!(\"" ")" text with
  | some inner, _, _ => readPacked? "Key2" inner
  | none, some inner, _ => readPacked? "Key3" inner
  | none, none, some inner => readFormatted? inner
  | none, none, none => (readOperand? text).map .value

/-- This function reads the key of a row. -/
def readRowKey? (text : String) : Option RowKey :=
  if text = "row.get_key()" then some .method else (readOperand? text).map .field

/-- This function reads a parameter. -/
def readParameter? (text : String) : Option Parameter :=
  match cutAt ':' text with
  | [name, rest] =>
      if IsName name then (between? " " "" rest).map fun typeName => ⟨name, typeName⟩ else none
  | _ => none

/-- This function reads a list of parameters. -/
def readParameters? (text : String) : Option (List Parameter) :=
  (readItems? text).bind fun items => items.mapM readParameter?

/-- This function reads the statement that defines the key. -/
def readBinding? (text : String) : Option KeyExpression :=
  (between? "let key = " ";" text).bind readExpression?

/-- This function reads the argument of a look-up, which may be borrowed. -/
def readArgument? (text : String) : Option Bool :=
  if text = "&key" then some true else if text = "key" then some false else none

section Names

variable {name word : String} {separator : Char}

/-- Names have no separators in them. -/
theorem IsName.outside (isName : IsName name) (separates : isNameCharacter separator = false) :
    separator ∉ name.toList := by
  intro inside
  rw [isName.plain separator inside] at separates
  cases separates

theorem isName_of_word (spelled : Declaration.IsWord word) : IsName word := by
  obtain ⟨first, rest, letters, starts, goesOn⟩ := spelled
  constructor
  · rintro rfl
    cases letters
  · rw [letters, List.forall_mem_cons]
    refine ⟨by simp [isNameCharacter, starts], ?_⟩
    intro character inside
    simp [isNameCharacter, goesOn character inside]

theorem isName_raw (isName : IsName word) : IsName (Declaration.Lexeme.rawMark ++ word) := by
  constructor
  · intro empty
    have letters := congrArg String.toList empty
    rw [Declaration.toList_rawMark_append] at letters
    cases letters
  · rw [Declaration.toList_rawMark_append, List.forall_mem_cons, List.forall_mem_cons]
    exact ⟨by decide, by decide, isName.plain⟩

theorem isName_field (named : Declaration.IsFieldName name) : IsName name := by
  cases named with
  | plain spelled _ => exact isName_of_word spelled
  | raw spelled _ => exact isName_raw (isName_of_word spelled)

theorem isName_parameter (named : Declaration.IsFieldName name) :
    IsName (Naming.parameterName name) := by
  cases named with
  | plain spelled free =>
      rw [Naming.parameterName_of_word spelled free]
      exact isName_of_word spelled
  | raw spelled _ =>
      rw [Naming.parameterName_of_raw spelled]
      split
      · decide
      · exact isName_of_word spelled

end Names

section Items

variable {items : List String} {separator : Char}

/-- Items without separators are cut apart again. -/
theorem cutAt_intercalate (filled : items ≠ [])
    (whole : ∀ item ∈ items, separator ∉ item.toList) :
    cutAt separator ((String.singleton separator).intercalate items) = items := by
  have parts : ∀ part ∈ items.map String.toList, separator ∉ part :=
    List.forall_mem_map.mpr whole
  rw [cutAt, String.toList_intercalate, String.toList_singleton,
    List.splitOn_intercalate separator parts (by simpa using filled), List.map_map]
  simp

/-- A comma and a space between items are a comma, and a space in front of later items. -/
theorem joined_comma (first : String) (rest : List String) :
    Text.joined ", " (first :: rest) =
      (String.singleton ',').intercalate (first :: rest.map fun item => " " ++ item) := by
  unfold Text.joined
  induction rest generalizing first with
  | nil => simp
  | cons second others hypothesis =>
      have moved : (String.singleton ',').intercalate
          ((" " ++ second) :: others.map fun item => " " ++ item) =
            " " ++ (String.singleton ',').intercalate
              (second :: others.map fun item => " " ++ item) :=
        String.intercalate_cons_append
      have comma : ", " = String.singleton ',' ++ " " := rfl
      rw [String.intercalate_cons_of_ne_nil (List.cons_ne_nil _ _), hypothesis, List.map_cons,
        String.intercalate_cons_of_ne_nil (List.cons_ne_nil _ _), moved, comma]
      simp only [String.append_assoc]

/-- What is written item by item is read back item by item. -/
theorem mapM_read {Item : Type} {write : Item → String} {read : String → Option Item}
    {things : List Item} (reads : ∀ thing ∈ things, read (write thing) = some thing) :
    (things.map write).mapM read = some things := by
  have same : ∀ thing ∈ things, (read ∘ write) thing = (pure thing : Option Item) := reads
  rw [List.mapM_map, mapM_congr same]
  exact List.mapM_pure.trans (congrArg some (List.map_id' things))

theorem readItems_joined (filled : items ≠ []) (whole : ∀ item ∈ items, ',' ∉ item.toList) :
    readItems? (Text.joined ", " items) = some items := by
  cases items with
  | nil => exact absurd rfl filled
  | cons first rest =>
      rw [List.forall_mem_cons] at whole
      have spaced : ∀ item ∈ first :: rest.map (fun item => " " ++ item), ',' ∉ item.toList := by
        refine List.forall_mem_cons.mpr ⟨whole.1, List.forall_mem_map.mpr fun item inside => ?_⟩
        rw [String.toList_append, List.mem_append, not_or]
        exact ⟨by decide, whole.2 item inside⟩
      have read : ∀ item ∈ rest, between? " " "" (" " ++ item) = some item := by
        intro item _
        simpa using between_found " " item ""
      rw [readItems?, joined_comma, cutAt_intercalate (List.cons_ne_nil _ _) spaced]
      exact congrArg (Option.map (first :: ·)) (mapM_read read)

end Items

/-- The parts of an operand are names. -/
def Operand.Named : Operand → Prop
  | .field receiver name => IsName receiver ∧ IsName name
  | .ownedField receiver name => IsName receiver ∧ IsName name
  | .parameter name => IsName name

/-- An operand is written with dots between these parts. -/
def Operand.parts : Operand → List String
  | .field receiver name => [receiver, name]
  | .ownedField receiver name => [receiver, name, "clone()"]
  | .parameter name => [name]

namespace Operand

variable {operand : Operand} {separator : Char}

theorem render_parts (operand : Operand) :
    operand.render = (String.singleton '.').intercalate operand.parts := by
  have call : ".clone()" = String.singleton '.' ++ "clone()" := by decide
  cases operand with
  | field receiver name => simp [render, parts, String.intercalate_cons_cons]
  | ownedField receiver name =>
      simp [render, parts, String.intercalate_cons_cons, call, String.append_assoc]
  | parameter name => simp [render, parts]

/-- A separator that stands neither in names nor in a call stands in no part. -/
theorem Named.outside_parts (named : operand.Named) (separates : isNameCharacter separator = false)
    (uncalled : separator ∉ "clone()".toList) : ∀ part ∈ operand.parts, separator ∉ part.toList := by
  cases operand with
  | field receiver name =>
      exact List.forall_mem_cons.mpr ⟨named.1.outside separates,
        List.forall_mem_singleton.mpr (named.2.outside separates)⟩
  | ownedField receiver name =>
      exact List.forall_mem_cons.mpr ⟨named.1.outside separates, List.forall_mem_cons.mpr
        ⟨named.2.outside separates, List.forall_mem_singleton.mpr uncalled⟩⟩
  | parameter name => exact List.forall_mem_singleton.mpr (IsName.outside named separates)

theorem Named.outside (named : operand.Named) (separates : isNameCharacter separator = false)
    (other : separator ≠ '.') (uncalled : separator ∉ "clone()".toList) :
    separator ∉ operand.render.toList := by
  rw [render_parts, String.toList_intercalate]
  intro inside
  rcases Text.mem_of_intercalate inside with between | ⟨part, among, own⟩
  · exact other (List.mem_singleton.mp (String.toList_singleton '.' ▸ between))
  · obtain ⟨text, member, rfl⟩ := List.mem_map.mp among
    exact named.outside_parts separates uncalled text member own

/-- An operand of names is read back. -/
theorem read_render (named : operand.Named) : readOperand? operand.render = some operand := by
  have parts : ∀ part ∈ operand.parts, '.' ∉ part.toList :=
    named.outside_parts (by decide) (by decide)
  have filled : operand.parts ≠ [] := by cases operand <;> simp [Operand.parts]
  rw [readOperand?, render_parts, cutAt_intercalate filled parts]
  cases operand with
  | field receiver name => exact if_pos named
  | ownedField receiver name => exact if_pos ⟨named.1, named.2, rfl⟩
  | parameter name => exact if_pos named

end Operand

/-- A text without a character of the lead does not start with it. -/
theorem between_none {lead tail text : String} {character : Char}
    (leads : character ∈ lead.toList) (absent : character ∉ text.toList) :
    between? lead tail text = none := by
  refine if_neg fun starts => absent ?_
  exact (List.isPrefixOf_iff_prefix.mp starts.1).subset leads

section Expressions

variable {operand : Operand} {operands : List Operand}

theorem readExpression_value (named : operand.Named) :
    readExpression? (KeyExpression.value operand).render = some (.value operand) := by
  have colon : ':' ∉ operand.render.toList := named.outside (by decide) (by decide) (by decide)
  have quote : '"' ∉ operand.render.toList := named.outside (by decide) (by decide) (by decide)
  have second : between? "Key2::new(" ")" operand.render = none := between_none (by decide) colon
  have third : between? "Key3::new(" ")" operand.render = none := between_none (by decide) colon
  have format : between? "format!(\"" ")" operand.render = none := between_none (by decide) quote
  rw [KeyExpression.render, readExpression?, second, third, format]
  exact congrArg (Option.map KeyExpression.value) (Operand.read_render named)

/-- The casts of operands are read back. -/
theorem readPacked_joined (typeName : String) (filled : operands ≠ [])
    (named : ∀ operand ∈ operands, operand.Named) :
    readPacked? typeName (Text.joined ", " (operands.map fun operand =>
      operand.render ++ " as i64")) = some (.packed typeName operands) := by
  have whole : ∀ item ∈ operands.map fun operand => operand.render ++ " as i64",
      ',' ∉ item.toList := by
    refine List.forall_mem_map.mpr fun operand inside => ?_
    rw [String.toList_append, List.mem_append, not_or]
    exact ⟨(named operand inside).outside (by decide) (by decide) (by decide), by decide⟩
  have reads : ∀ operand ∈ operands,
      readCast? (operand.render ++ " as i64") = some operand := by
    intro operand inside
    have cut := between_found "" operand.render " as i64"
    rw [String.empty_append] at cut
    rw [readCast?, cut]
    exact Operand.read_render (named operand inside)
  rw [readPacked?, readItems_joined (by simpa using filled) whole, Option.bind_eq_bind,
    Option.bind_some, mapM_read reads]
  rfl

theorem comma_places (operands : List Operand) :
    ',' ∉ (Text.joined "_" (operands.map fun _ => "\x7b\x7d")).toList := by
  rw [Text.joined, String.toList_intercalate]
  intro inside
  rcases Text.mem_of_intercalate inside with between | ⟨part, among, own⟩
  · exact absurd between (by decide)
  · obtain ⟨_, member, rfl⟩ := List.mem_map.mp among
    obtain ⟨_, _, rfl⟩ := List.mem_map.mp member
    exact absurd own (by decide)

/-- The places of a formatted key and its operands are read back. -/
theorem readFormatted_joined (filled : operands ≠ [])
    (named : ∀ operand ∈ operands, operand.Named) :
    readFormatted? (Text.joined "_" (operands.map fun _ => "\x7b\x7d") ++ "\", " ++
      Text.joined ", " (operands.map Operand.render)) = some (.formatted operands) := by
  have counted : cutAt '_' (Text.joined "_" (operands.map fun _ => "\x7b\x7d")) =
      operands.map fun _ => "\x7b\x7d" :=
    cutAt_intercalate (by simpa using filled) (List.forall_mem_map.mpr fun _ _ => by decide)
  have comma := comma_places operands
  generalize Text.joined "_" (operands.map fun _ => "\x7b\x7d") = places at counted comma ⊢
  have whole : ∀ item ∈ (places ++ "\"") :: operands.map Operand.render, ',' ∉ item.toList := by
    refine List.forall_mem_cons.mpr ⟨?_, List.forall_mem_map.mpr fun operand inside => ?_⟩
    · rw [String.toList_append, List.mem_append, not_or]
      exact ⟨comma, by decide⟩
    · exact (named operand inside).outside (by decide) (by decide) (by decide)
  have items : places ++ "\", " ++ Text.joined ", " (operands.map Operand.render) =
      Text.joined ", " ((places ++ "\"") :: operands.map Operand.render) := by
    have quote : "\", " = "\"" ++ ", " := rfl
    rw [Text.joined, Text.joined, String.intercalate_cons_of_ne_nil (by simpa using filled), quote]
    simp only [String.append_assoc]
  have cut : between? "" "\"" (places ++ "\"") = some places := by
    simpa using between_found "" places "\""
  have reads : (operands.map Operand.render).mapM readOperand? = some operands :=
    mapM_read fun operand inside => Operand.read_render (named operand inside)
  rw [items, readFormatted?, readItems_joined (List.cons_ne_nil _ _) whole]
  simp [cut, reads, counted]

theorem readExpression_packed {typeName : String} (packs : typeName = "Key2" ∨ typeName = "Key3")
    (filled : operands ≠ []) (named : ∀ operand ∈ operands, operand.Named) :
    readExpression? (KeyExpression.packed typeName operands).render =
      some (.packed typeName operands) := by
  have read := readPacked_joined typeName filled named
  rw [KeyExpression.render]
  generalize Text.joined ", " (operands.map fun operand => operand.render ++ " as i64") = inner
    at read ⊢
  obtain rfl | rfl := packs
  · have first : between? "Key2::new(" ")" ("Key2" ++ "::new(" ++ inner ++ ")") = some inner :=
      between_found "Key2::new(" inner ")"
    rw [readExpression?, first]
    exact read
  · have other : between? "Key2::new(" ")" ("Key3" ++ "::new(" ++ inner ++ ")") = none := by
      simp [between?]
    have second : between? "Key3::new(" ")" ("Key3" ++ "::new(" ++ inner ++ ")") = some inner :=
      between_found "Key3::new(" inner ")"
    rw [readExpression?, other, second]
    exact read

theorem readExpression_formatted (filled : operands ≠ [])
    (named : ∀ operand ∈ operands, operand.Named) :
    readExpression? (KeyExpression.formatted operands).render = some (.formatted operands) := by
  have read := readFormatted_joined filled named
  have rendered : (KeyExpression.formatted operands).render = "format!(\"" ++
      (Text.joined "_" (operands.map fun _ => "\x7b\x7d") ++ "\", " ++
        Text.joined ", " (operands.map Operand.render)) ++ ")" := by
    simp only [KeyExpression.render, String.append_assoc]
  rw [rendered]
  generalize Text.joined "_" (operands.map fun _ => "\x7b\x7d") ++ "\", " ++
    Text.joined ", " (operands.map Operand.render) = inner at read ⊢
  have second : between? "Key2::new(" ")" ("format!(\"" ++ inner ++ ")") = none := by
    simp [between?]
  have third : between? "Key3::new(" ")" ("format!(\"" ++ inner ++ ")") = none := by
    simp [between?]
  rw [readExpression?, second, third, between_found]
  exact read

/-- The key that is built of named operands is read back. -/
theorem readExpression_compose {key : KeySchema} {operand : KeyField → Operand}
    (named : ∀ field ∈ key.fields, (operand field).Named) :
    readExpression? (compose key operand).render = some (compose key operand) := by
  have filled : key.fields.map operand ≠ [] := by simp [KeySchema.fields]
  have operands : ∀ own ∈ key.fields.map operand, own.Named := List.forall_mem_map.mpr named
  unfold compose
  cases form : key.form with
  | scalar => exact readExpression_value (named key.first List.mem_cons_self)
  | packed2 =>
      exact readExpression_packed (.inl (by rw [KeySchema.mapType, form])) filled operands
  | packed3 =>
      exact readExpression_packed (.inr (by rw [KeySchema.mapType, form])) filled operands
  | formatted => exact readExpression_formatted filled operands

end Expressions

section Keys

variable {key : KeySchema} (named : ∀ name ∈ fieldNames key, Declaration.IsFieldName name)
include named

theorem named_field {field : KeyField} (inside : field ∈ key.fields) :
    Declaration.IsFieldName field.name :=
  named field.name (List.mem_map_of_mem inside)

theorem named_rowOperand {receiver : String} (isName : IsName receiver) (composite : Bool)
    {field : KeyField} (inside : field ∈ key.fields) :
    (rowOperand receiver composite field).Named := by
  have field := isName_field (named_field named inside)
  unfold rowOperand
  split <;> exact ⟨isName, field⟩

/-- The body of the key method is read back. -/
theorem readExpression_keyMethod :
    readExpression? (keyMethodBody key).render = some (keyMethodBody key) :=
  readExpression_compose fun _ inside => named_rowOperand named (by decide) _ inside

theorem readRowKey_render : readRowKey? (rowKey key).render = some (rowKey key) := by
  unfold rowKey
  split
  case isTrue => rfl
  case isFalse =>
    have read : readOperand? (rowOperand "row" false key.first).render = _ :=
      Operand.read_render (named_rowOperand named (by decide) false List.mem_cons_self)
    have other : (rowOperand "row" false key.first).render ≠ "row.get_key()" := by
      intro same
      have unread : readOperand? "row.get_key()" = none := by decide
      rw [same, unread] at read
      cases read
    rw [RowKey.render, readRowKey?, if_neg other, read]
    rfl

/-- The binding of the accessor is read back, if there is one. -/
theorem readBinding_render {expression : KeyExpression}
    (bound : (accessorLookup key).binding = some expression) :
    readBinding? ("let key = " ++ expression.render ++ ";") = some expression := by
  unfold accessorLookup at bound
  split at bound
  case isTrue =>
    obtain rfl := Option.some.inj bound
    rw [readBinding?, between_found]
    exact readExpression_compose fun field inside => isName_parameter (named_field named inside)
  case isFalse => cases bound

end Keys

section Parameters

variable {key : KeySchema}

theorem parameterType_plain (field : KeyField) :
    ':' ∉ field.parameterType.toList ∧ ',' ∉ field.parameterType.toList := by
  have integers : ∀ typeName ∈ KeyKind.integerTypes,
      ':' ∉ typeName.toList ∧ ',' ∉ typeName.toList := by decide
  unfold KeyField.parameterType
  cases kind : field.kind with
  | integer => exact integers _ (KeyField.integer_typeName kind)
  | text => exact (by decide : ':' ∉ "&str".toList ∧ ',' ∉ "&str".toList)

/-- A parameter is read back if its type has no colon. -/
theorem readParameter_render {parameter : Parameter} (isName : IsName parameter.name)
    (plain : ':' ∉ parameter.typeName.toList) :
    readParameter? (parameter.name ++ ": " ++ parameter.typeName) = some parameter := by
  have cut : cutAt ':' (parameter.name ++ ": " ++ parameter.typeName) =
      [parameter.name, " " ++ parameter.typeName] := by
    have whole : ∀ part ∈ [parameter.name, " " ++ parameter.typeName], ':' ∉ part.toList := by
      refine List.forall_mem_cons.mpr ⟨isName.outside (by decide), List.forall_mem_singleton.mpr ?_⟩
      rw [String.toList_append, List.mem_append, not_or]
      exact ⟨by decide, plain⟩
    have colon : ": " = String.singleton ':' ++ " " := rfl
    rw [← cutAt_intercalate (List.cons_ne_nil _ _) whole, String.intercalate_cons_cons,
      String.intercalate_singleton, colon]
    simp only [String.append_assoc]
  have typed : between? " " "" (" " ++ parameter.typeName) = some parameter.typeName := by
    simpa using between_found " " parameter.typeName ""
  simp only [readParameter?, cut, if_pos isName, typed, Option.map_some]

/-- The parameters of the accessor are read back. -/
theorem readParameters_render (named : ∀ name ∈ fieldNames key, Declaration.IsFieldName name) :
    readParameters? (renderParameters (accessorParameters key)) = some (accessorParameters key) := by
  have each : ∀ parameter ∈ accessorParameters key, IsName parameter.name ∧
      ':' ∉ parameter.typeName.toList ∧ ',' ∉ parameter.typeName.toList := by
    unfold accessorParameters
    split
    · refine List.forall_mem_map.mpr fun field inside => ?_
      exact ⟨isName_parameter (named_field named inside), parameterType_plain field⟩
    · exact List.forall_mem_singleton.mpr
        ⟨(by decide : IsName "key"), parameterType_plain key.first⟩
  have filled : accessorParameters key ≠ [] := by
    unfold accessorParameters
    split <;> simp [KeySchema.fields]
  have whole : ∀ item ∈ (accessorParameters key).map fun parameter =>
      parameter.name ++ ": " ++ parameter.typeName, ',' ∉ item.toList := by
    refine List.forall_mem_map.mpr fun parameter inside => ?_
    obtain ⟨isName, _, plain⟩ := each parameter inside
    rw [String.toList_append, String.toList_append, List.mem_append, List.mem_append, not_or,
      not_or]
    exact ⟨⟨isName.outside (by decide), by decide⟩, plain⟩
  rw [readParameters?, renderParameters, readItems_joined (by simpa using filled) whole,
    Option.bind_some]
  exact mapM_read fun parameter inside =>
    readParameter_render (each parameter inside).1 (each parameter inside).2.1

end Parameters

theorem readArgument_render (lookup : Lookup) :
    readArgument? lookup.renderArgument = some lookup.borrowed := by
  unfold Lookup.renderArgument
  cases lookup.borrowed <;> decide

end Tablewright.Emission
