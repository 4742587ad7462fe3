import Tablewright.Proofs.Emission.Locality
import Tablewright.Proofs.Emission.WrittenKeys
import Tablewright.Proofs.Introspection.VariantNames
import Tablewright.Proofs.Text.Lines
import Tablewright.Proofs.Text.Quoting

namespace Tablewright.Emission

open Text (Single single_append single_joined)

/-- This function is the only member of a list, if there is no other one. -/
def only? {Item : Type} : List Item → Option Item
  | [item] => some item
  | _ => none

/-- This function lists the lines that fragments bring into a section. -/
def linesIn (kind : Section) (fragments : List Fragment) : List String :=
  (textsIn kind fragments).flatMap Text.linesOf

/-- This function reads the type of the keys of the map of a table. -/
def readMapKey? (name : String) (texts : List String) : Option String :=
  only? (readings ("pub type " ++ name ++ "Table = HashMap<") (", Arc<" ++ name ++ ">>;") texts)

/-- This function reads the type of the map that a loader fills. -/
def readFilled? (lines : List String) : Option String :=
  only? (readings "    let mut table = " "::with_capacity(rows.len());" lines)

/-- This function reads the key under which a loader inserts a row. -/
def readInserted? (lines : List String) : Option RowKey :=
  (only? (readings "        table.insert(" ", Arc::new(row));" lines)).bind readRowKey?

/-- This function reads the static that a loader publishes its map in. -/
def readPublished? (lines : List String) : Option String :=
  only? (readings "    *" ".write().unwrap_or_else(PoisonError::into_inner) = Arc::new(table);"
    lines)

/-- This function reads the result type and the body of the key method of a table, if there is
one. -/
def readMethod? (name : String) : List String → Option (Option (String × KeyExpression))
  | [] => some none
  | [opening, header, body, "    \x7d", "\x7d"] => do
      let result ← between? "    pub fn get_key(&self) -> " " \x7b" header
      let expression ← (between? "        " "" body).bind readExpression?
      if opening = "impl " ++ name ++ " \x7b" then some (some (result, expression)) else none
  | _ => none

/-- This function reads the parameters of the accessor of a table. -/
def readHeader? (name line : String) : Option (List Parameter) :=
  (between? ("pub fn get_" ++ Naming.functionSuffix name ++ "(")
    (") -> Option<Arc<" ++ name ++ ">> \x7b") line).bind readParameters?

/-- This function reads whether an accessor searches the map in a static with a borrowed key. -/
def readSearch? (storage line : String) : Option Bool :=
  (between? ("    " ++ storage ++ ".read().unwrap_or_else(PoisonError::into_inner).get(")
    ").cloned()" line).bind readArgument?

/-- This function reads the accessor of a table, which may define the key first. -/
def readAccessor? (name storage : String) : List String → Option (List Parameter × Lookup)
  | [header, search, "\x7d"] => do
      some (← readHeader? name header, ⟨none, ← readSearch? storage search⟩)
  | [header, binding, search, "\x7d"] => do
      let expression ← (between? "    " "" binding).bind readBinding?
      some (← readHeader? name header, ⟨some expression, ← readSearch? storage search⟩)
  | _ => none

/-- This function reads the code that handles the keys of a table. The loader fills the map of the
table, and the accessor searches the map that the loader publishes. -/
def readKeyCode? (name : String) (fragments : List Fragment) : Option KeyCode := do
  let mapKey ← readMapKey? name (textsIn .mapTypes fragments)
  let filled ← readFilled? (linesIn .loaders fragments)
  let rowKey ← readInserted? (linesIn .loaders fragments)
  let storage ← readPublished? (linesIn .loaders fragments)
  let method? ← readMethod? name (linesIn .getKey fragments)
  let (parameters, lookup) ← readAccessor? name storage (linesIn .accessors fragments)
  if filled = name ++ "Table" then some { mapKey, rowKey, method?, parameters, lookup } else none

/-- The names of a table are well formed when its own name is an identifier, its static has a name
derived from it, and its key fields have names of fields. -/
structure WellNamed (table : ResolvedTable) : Prop where
  identifier : Naming.isIdentifier table.name = true
  stored : table.storageVariable = Naming.storageVariable table.name
  fields : ∀ name ∈ fieldNames table.key, Declaration.IsFieldName name

section Lines

variable {table : ResolvedTable}

theorem single_of_continues {text : String}
    (continues : ∀ character ∈ text.toList, Naming.continuesIdentifier character = true) :
    Single text := by
  intro inside
  exact absurd (continues '\n' inside) (by decide)

theorem Operand.Named.single {operand : Operand} (named : operand.Named) :
    Single operand.render :=
  named.outside (by decide) (by decide) (by decide)

theorem single_typeName (field : KeyField) : Single field.typeName := by
  have integers : ∀ typeName ∈ KeyKind.integerTypes, Single typeName := by decide
  cases kind : field.kind with
  | integer => exact integers _ (KeyField.integer_typeName kind)
  | text =>
      rw [KeyField.text_typeName kind]
      decide

theorem single_parameterType (field : KeyField) : Single field.parameterType := by
  unfold KeyField.parameterType
  cases field.kind with
  | integer => exact single_typeName field
  | text => exact (by decide : Single "&str")

theorem single_mapType (key : KeySchema) : Single key.mapType :=
  (by decide : ∀ typeName ∈ KeySchema.mapTypes, Single typeName) _ key.mapType_mem

/-- A key expression of named operands stands on one line. -/
theorem single_compose {key : KeySchema} {operand : KeyField → Operand}
    (named : ∀ field ∈ key.fields, (operand field).Named) :
    Single (compose key operand).render := by
  have mapType := single_mapType key
  have casts : Single (Text.joined ", " ((key.fields.map operand).map fun operand =>
      operand.render ++ " as i64")) := by
    refine single_joined (by decide) (List.forall_mem_map.mpr (List.forall_mem_map.mpr ?_))
    exact fun field inside => single_append.mpr ⟨(named field inside).single, by decide⟩
  have operands : Single (Text.joined ", " ((key.fields.map operand).map Operand.render)) := by
    refine single_joined (by decide) (List.forall_mem_map.mpr (List.forall_mem_map.mpr ?_))
    exact fun field inside => (named field inside).single
  have places : Single (Text.joined "_" ((key.fields.map operand).map fun _ => "\x7b\x7d")) :=
    single_joined (by decide) (List.forall_mem_map.mpr fun _ _ => by decide)
  unfold compose
  cases key.form with
  | scalar => exact (named key.first List.mem_cons_self).single
  | packed2 | packed3 =>
      simp only [KeyExpression.render, single_append, mapType, casts, true_and, and_true]
      decide
  | formatted =>
      simp only [KeyExpression.render, single_append, places, operands, and_true]
      decide

theorem WellNamed.single_name (named : WellNamed table) : Single table.name :=
  single_of_continues (Naming.continues_of_identifier named.identifier)

theorem WellNamed.single_suffix (named : WellNamed table) :
    Single (Naming.functionSuffix table.name) :=
  single_of_continues (Naming.continues_functionSuffix named.identifier)

theorem WellNamed.single_storage (named : WellNamed table) : Single table.storageVariable := by
  rw [named.stored, Naming.storageVariable, single_append]
  exact ⟨by decide, single_of_continues (Naming.continues_upperSnakeCase named.identifier)⟩

theorem single_rowKey (named : ∀ name ∈ fieldNames table.key, Declaration.IsFieldName name) :
    Single (rowKey table.key).render := by
  unfold rowKey
  split
  case isTrue => exact (by decide : Single "row.get_key()")
  case isFalse => exact (named_rowOperand named (by decide) false List.mem_cons_self).single

theorem single_loader (named : WellNamed table) :
    ∀ line ∈ (Loader.ofTable table).lines, Single line := by
  have name := named.single_name
  have suffix := named.single_suffix
  have storage := named.single_storage
  have rowKey := single_rowKey named.fields
  have literal : ∀ text, Single (Text.quoted text) := fun text => (Text.denotes_quoted text).one_line
  simp only [Loader.lines, Loader.ofTable, mapTypeName, List.forall_mem_cons, single_append, name,
    suffix, storage, rowKey, literal, true_and, and_true, List.not_mem_nil, false_imp_iff,
    implies_true]
  decide

theorem single_keyMethod (named : WellNamed table) :
    ∀ line ∈ keyMethodLines table, Single line := by
  have name := named.single_name
  have body : Single (keyMethodBody table.key).render :=
    single_compose fun _ inside => named_rowOperand named.fields (by decide) _ inside
  simp only [keyMethodLines, List.forall_mem_cons, single_append, name, body, single_mapType,
    and_true, List.not_mem_nil, false_imp_iff, implies_true]
  decide

theorem IsName.single {name : String} (isName : IsName name) : Single name :=
  isName.outside (by decide)

theorem single_parameters (named : ∀ name ∈ fieldNames table.key, Declaration.IsFieldName name) :
    Single (renderParameters (accessorParameters table.key)) := by
  refine single_joined (by decide) (List.forall_mem_map.mpr ?_)
  simp only [single_append]
  unfold accessorParameters
  split
  case isTrue =>
    refine List.forall_mem_map.mpr fun field inside => ?_
    exact ⟨⟨(isName_parameter (named_field named inside)).single, by decide⟩,
      single_parameterType field⟩
  case isFalse =>
    exact List.forall_mem_singleton.mpr
      ⟨(by decide : Single "key" ∧ Single ": "), single_parameterType table.key.first⟩

/-- The binding of an accessor stands on one line. -/
theorem single_binding (named : ∀ name ∈ fieldNames table.key, Declaration.IsFieldName name)
    {binding : String} (bound : (accessorLookup table.key).renderBinding? = some binding) :
    Single binding := by
  unfold accessorLookup Lookup.renderBinding? at bound
  split at bound
  case isTrue =>
    obtain rfl := Option.some.inj bound
    have built : Single (compose table.key fun field => .parameter field.parameterName).render :=
      single_compose fun field inside => isName_parameter (named_field named inside)
    exact single_append.mpr ⟨single_append.mpr ⟨by decide, built⟩, by decide⟩
  case isFalse => cases bound

theorem single_accessor (named : WellNamed table) :
    ∀ line ∈ accessorLines table, Single line := by
  have name := named.single_name
  have suffix := named.single_suffix
  have storage := named.single_storage
  have parameters := single_parameters named.fields
  have argument : Single (accessorLookup table.key).renderArgument := by
    unfold Lookup.renderArgument
    split <;> decide
  have binding : ∀ line ∈ ((accessorLookup table.key).renderBinding?.map
      fun binding => "    " ++ binding).toList, Single line := by
    intro line inside
    obtain ⟨binding, bound, rfl⟩ := Option.map_eq_some_iff.mp (Option.mem_toList.mp inside)
    exact single_append.mpr ⟨by decide, single_binding named.fields bound⟩
  simp only [accessorLines, List.forall_mem_append, List.forall_mem_cons, single_append, name,
    suffix, storage, parameters, argument, and_true, List.not_mem_nil, false_imp_iff,
    implies_true]
  exact ⟨⟨by decide, binding⟩, by decide⟩

end Lines

section Sections

variable {table : ResolvedTable} (named : WellNamed table)
include named

theorem linesIn_loaders :
    linesIn .loaders (primaryFragments table) = (Loader.ofTable table).lines := by
  have texts : textsIn .loaders (primaryFragments table) =
      [Text.ofLines (Loader.ofTable table).lines] := primaryFragments_texts table .loaders
  rw [linesIn, texts, List.flatMap_singleton]
  exact Text.linesOf_ofLines (single_loader named)

theorem linesIn_getKey :
    linesIn .getKey (primaryFragments table) =
      if table.key.explicit then keyMethodLines table else [] := by
  have texts : textsIn .getKey (primaryFragments table) = _ := primaryFragments_texts table .getKey
  rw [linesIn, texts, primaryTexts]
  split
  · rw [List.flatMap_singleton]
    exact Text.linesOf_ofLines (single_keyMethod named)
  · rfl

theorem linesIn_accessors :
    linesIn .accessors (primaryFragments table) = accessorLines table := by
  have texts : textsIn .accessors (primaryFragments table) = [Text.ofLines (accessorLines table)] :=
    primaryFragments_texts table .accessors
  rw [linesIn, texts, List.flatMap_singleton]
  exact Text.linesOf_ofLines (single_accessor named)

end Sections

section Readings

variable {table : ResolvedTable}

theorem readMapKey_written (table : ResolvedTable) :
    readMapKey? table.name (textsIn .mapTypes (primaryFragments table)) =
      some table.key.mapType := by
  have texts : textsIn .mapTypes (primaryFragments table) = [renderMapType table] :=
    primaryFragments_texts table .mapTypes
  rw [readMapKey?, texts, readings, List.filterMap_cons_some (between_mapType table)]
  rfl

theorem readFilled_written (table : ResolvedTable) :
    readFilled? (Loader.ofTable table).lines = some (table.name ++ "Table") := by
  have filled : readings "    let mut table = " "::with_capacity(rows.len());"
      (Loader.ofTable table).lines = [mapTypeName table] := by
    simp [readings, Loader.lines, Loader.ofTable, between?]
  rw [readFilled?, filled]
  rfl

theorem readPublished_written (table : ResolvedTable) :
    readPublished? (Loader.ofTable table).lines = some table.storageVariable := by
  simp [readPublished?, readings, Loader.lines, Loader.ofTable, between?, only?]

theorem readInserted_written
    (named : ∀ name ∈ fieldNames table.key, Declaration.IsFieldName name) :
    readInserted? (Loader.ofTable table).lines = some (rowKey table.key) := by
  have inserted : readings "        table.insert(" ", Arc::new(row));"
      (Loader.ofTable table).lines = [(rowKey table.key).render] := by
    simp [readings, Loader.lines, Loader.ofTable, between?]
  rw [readInserted?, inserted]
  exact readRowKey_render named

theorem readMethod_written
    (named : ∀ name ∈ fieldNames table.key, Declaration.IsFieldName name) :
    readMethod? table.name (keyMethodLines table) =
      some (some (table.key.mapType, keyMethodBody table.key)) := by
  have result := between_found "    pub fn get_key(&self) -> " table.key.mapType " \x7b"
  have body : between? "        " "" ("        " ++ (keyMethodBody table.key).render) =
      some (keyMethodBody table.key).render := by
    simpa using between_found "        " (keyMethodBody table.key).render ""
  simp only [readMethod?, keyMethodLines]
  rw [result, body]
  simp [readExpression_keyMethod named]

theorem readHeader_written
    (named : ∀ name ∈ fieldNames table.key, Declaration.IsFieldName name) :
    readHeader? table.name ("pub fn get_" ++ Naming.functionSuffix table.name ++ "(" ++
      renderParameters (accessorParameters table.key) ++ ") -> Option<Arc<" ++ table.name ++
        ">> \x7b") = some (accessorParameters table.key) := by
  have found := between_found ("pub fn get_" ++ Naming.functionSuffix table.name ++ "(")
    (renderParameters (accessorParameters table.key))
    (") -> Option<Arc<" ++ table.name ++ ">> \x7b")
  simp only [← String.append_assoc] at found
  rw [readHeader?, found]
  exact readParameters_render named

theorem readSearch_written (storage : String) (lookup : Lookup) :
    readSearch? storage ("    " ++ storage ++
      ".read().unwrap_or_else(PoisonError::into_inner).get(" ++ lookup.renderArgument ++
        ").cloned()") = some lookup.borrowed := by
  rw [readSearch?, between_found]
  exact readArgument_render lookup

/-- The accessor of a table is read back. -/
theorem readAccessor_written
    (named : ∀ name ∈ fieldNames table.key, Declaration.IsFieldName name) :
    readAccessor? table.name table.storageVariable (accessorLines table) =
      some (accessorParameters table.key, accessorLookup table.key) := by
  have header := readHeader_written named
  have search := readSearch_written table.storageVariable (accessorLookup table.key)
  rw [accessorLines]
  cases bound : (accessorLookup table.key).binding with
  | none =>
      have unbound : (accessorLookup table.key).renderBinding? = none := by
        rw [Lookup.renderBinding?, bound]
        rfl
      have same : accessorLookup table.key = ⟨none, (accessorLookup table.key).borrowed⟩ := by
        rw [← bound]
      simp only [unbound, Option.map_none, Option.toList_none, List.append_nil,
        List.singleton_append, readAccessor?, header, search, ← same, Option.bind_eq_bind,
        Option.bind_some]
  | some expression =>
      have written : (accessorLookup table.key).renderBinding? =
          some ("let key = " ++ expression.render ++ ";") := by
        rw [Lookup.renderBinding?, bound]
        rfl
      have binding : between? "    " "" ("    " ++ ("let key = " ++ expression.render ++ ";")) =
          some ("let key = " ++ expression.render ++ ";") := by
        simpa using between_found "    " ("let key = " ++ expression.render ++ ";") ""
      have same : accessorLookup table.key =
          ⟨some expression, (accessorLookup table.key).borrowed⟩ := by
        rw [← bound]
      simp only [written, Option.map_some, Option.toList_some, List.cons_append, List.nil_append,
        readAccessor?, binding, readBinding_render named bound, header, search, ← same,
        Option.bind_eq_bind, Option.bind_some]

/-- The code that handles the keys of a table is read back. -/
theorem readKeyCode_written (named : WellNamed table) :
    readKeyCode? table.name (primaryFragments table) = some (.ofKey table.key) := by
  have method : readMethod? table.name (linesIn .getKey (primaryFragments table)) =
      some (KeyCode.ofKey table.key).method? := by
    rw [linesIn_getKey named, KeyCode.ofKey]
    split
    · exact readMethod_written named.fields
    · rfl
  rw [readKeyCode?, linesIn_loaders named, linesIn_accessors named, readMapKey_written,
    readFilled_written, readInserted_written named.fields, readPublished_written, method]
  simp only [Option.bind_eq_bind, Option.bind_some, readAccessor_written named.fields, if_true]
  rfl

end Readings

end Tablewright.Emission
