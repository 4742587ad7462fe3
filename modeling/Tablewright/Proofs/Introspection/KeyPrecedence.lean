import Tablewright.Proofs.Introspection.Resolution
import Tablewright.Proofs.Text.Phrases

namespace Tablewright

open Declaration

/-- A token shows a phrase in a word or a literal, at any depth. -/
inductive Declaration.Token.Shows (phrase : List Char) : Token → Prop
  | word {text : String} {line : Nat} (inside : phrase <:+: text.toList) :
      Shows phrase (.word text line)
  | literal {text : String} {line : Nat} (inside : phrase <:+: text.toList) :
      Shows phrase (.literal text line)
  | group {bracket : Bracket} {firstLine lastLine : Nat} {body : List Token} {token : Token}
      (among : token ∈ body) (inside : Shows phrase token) :
      Shows phrase (.group bracket firstLine lastLine body)

namespace Declaration.Token

variable {phrase : List Char}

mutual

theorem mentions_iff : ∀ token : Token, token.mentions phrase = true ↔ token.Shows phrase
  | .word text line => by
      rw [mentions, Text.contains_iff]
      exact ⟨.word, fun | .word inside => inside⟩
  | .literal text line => by
      rw [mentions, Text.contains_iff]
      exact ⟨.literal, fun | .literal inside => inside⟩
  | .mark _ _ _ => by
      rw [mentions]
      exact ⟨fun never => absurd never (by simp), fun shows => nomatch shows⟩
  | .group _ _ _ body => by
      rw [mentions, anyMentions_iff body]
      exact ⟨fun ⟨_, among, inside⟩ => .group among inside,
        fun | .group among inside => ⟨_, among, inside⟩⟩

theorem anyMentions_iff :
    ∀ tokens : List Token, anyMentions phrase tokens = true ↔ ∃ token ∈ tokens, token.Shows phrase
  | [] => by simp [anyMentions]
  | token :: rest => by
      rw [anyMentions, Bool.or_eq_true, mentions_iff token, anyMentions_iff rest]
      simp

end

end Declaration.Token

namespace KeyResolution

/-- An argument lists the key word when an item between its commas has it. Tokens are looked
through without the commas, which no word or literal needs to have the word. -/
inductive ListsKey : AttributeForm → Prop
  | tokens {body : List Token} {token : Token} (among : token ∈ body)
      (shown : token.Shows keyWord.toList) : ListsKey (.list body)
  | text {value : String} {item : List Char}
      (among : item ∈ Text.pieces (· == ',') value.toList)
      (inside : keyWord.toList <:+: Text.trim item) : ListsKey (.value (some value))

/-- A field carries a key tag when an attribute named like the marker lists the key word. -/
def CarriesKeyTag (marker : String) (field : Field) : Prop :=
  ∃ tag ∈ field.attributes, tag.path = ⟨false, [⟨marker, .none⟩]⟩ ∧ ListsKey tag.form

theorem isKeyTag_iff {marker : String} {tag : Attribute} : isKeyTag marker tag = true ↔
    tag.path = ⟨false, [⟨marker, .none⟩]⟩ ∧ ListsKey tag.form := by
  rw [isKeyTag, Bool.and_eq_true, Path.isName, decide_eq_true_iff]
  refine and_congr_right fun _ => ?_
  cases tag.form with
  | bare => exact ⟨fun never => absurd never (by simp), fun lists => nomatch lists⟩
  | list body =>
      dsimp only
      rw [Token.anyMentions_iff]
      exact ⟨fun ⟨_, among, shown⟩ => .tokens among shown,
        fun | .tokens among shown => ⟨_, among, shown⟩⟩
  | value text =>
      cases text with
      | none => exact ⟨fun never => absurd never (by simp), fun lists => nomatch lists⟩
      | some value =>
          have solid : ∀ character ∈ keyWord.toList, Text.isWhiteSpace character = false := by
            simp [keyWord, Text.isWhiteSpace]
          change Text.contains keyWord.toList value.toList = true ↔ _
          rw [Text.contains_iff,
            Text.infix_iff_items (by simp [keyWord]) (by simp [keyWord]) solid]
          exact ⟨fun ⟨_, among, inside⟩ => .text among inside,
            fun | .text among inside => ⟨_, among, inside⟩⟩

theorem any_isKeyTag_iff {marker : String} {field : Field} :
    field.attributes.any (isKeyTag marker) = true ↔ CarriesKeyTag marker field := by
  simp only [List.any_eq_true, isKeyTag_iff, CarriesKeyTag]

instance (marker : String) (field : Field) : Decidable (CarriesKeyTag marker field) :=
  decidable_of_iff _ any_isKeyTag_iff

/-- This function lists the fields that have names, each behind its name. -/
def fieldsByName (fields : List Field) : List (String × Field) :=
  fields.filterMap fun field => field.name.map fun name => (name, field)

/-- This function lists the named fields that carry a key tag, in their order. -/
def taggedFields (marker : String) (fields : List Field) : List (String × Field) :=
  (fieldsByName fields).filter fun named => CarriesKeyTag marker named.2

/-- The type of an unsupported field holds neither whole numbers nor texts. -/
def Unsupported (field : Field) : Prop :=
  KeyKind.ofTypeName? (typeName field.type) = none

instance (field : Field) : Decidable (Unsupported field) :=
  inferInstanceAs (Decidable (_ = _))

/-- These are the spellings of the implicit key. -/
def implicitSpellings : List String :=
  ["id", "iD", "Id", "ID"]

/-- The implicit field is the first one with a spelling of the implicit key. -/
def IsImplicit (fields : List Field) (named : String × Field) : Prop :=
  ∃ before after, fieldsByName fields = before ++ named :: after ∧
    named.1 ∈ implicitSpellings ∧ ∀ other ∈ before, other.1 ∉ implicitSpellings

/-- A key consists of fields when it has their names and types in their order. -/
def ConsistsOf (key : KeySchema) (fields : List (String × Field)) : Prop :=
  key.fields.map (fun part => (part.name, part.typeName)) =
    fields.map fun named => (named.1, typeName named.2.type)

/-- This error is about a tagged field, and names its line. -/
def unsupportedTag (table : String) (named : String × Field) : Diagnostic :=
  .error "unsupported_key_kind" table (s!"line {named.2.line}: " ++
    s!"unsupported key type '{typeName named.2.type}' on field '{named.1}'")

/-- This error is about the implicit field. -/
def unsupportedImplicit (table : String) (named : String × Field) : Diagnostic :=
  .error "unsupported_key_kind" table
    s!"unsupported key type '{typeName named.2.type}' on field '{named.1}'"

/-- This error is about a struct without a field for its key. -/
def missingKey (table : String) : Diagnostic :=
  .error "missing_key" table
    "no field is tagged as key and there is no default key field 'id'"

/-- This function finds the key of a struct, and reports why there is none. -/
def reportedKey (marker table : String) (fields : List Field) (context : Context) :
    Option KeySchema × Context :=
  match structKey marker fields with
  | .ok key => (some key, context)
  | .error problems => (none, problems.foldl (KeyProblem.report table) context)

/-- This is the rule of precedence. An unsupported tagged field leaves a struct without a key,
whatever its other fields are. Otherwise the key has all tagged fields. Without them it is the
implicit field, unless that is unsupported or not there. -/
structure Precedence (marker table : String) (fields : List Field) (context : Context)
    (outcome : Option KeySchema × Context) : Prop where
  registry : outcome.2.registry = context.registry
  unsupported : (∃ named ∈ taggedFields marker fields, Unsupported named.2) →
    outcome.1 = none ∧ outcome.2.diagnostics = context.diagnostics ++
      ((taggedFields marker fields).filter fun named => Unsupported named.2).map
        (unsupportedTag table)
  explicit : taggedFields marker fields ≠ [] →
    (∀ named ∈ taggedFields marker fields, ¬ Unsupported named.2) →
      ∃ key, outcome = (some key, context) ∧ key.explicit = true ∧
        ConsistsOf key (taggedFields marker fields)
  implicit : taggedFields marker fields = [] →
    ∀ named, IsImplicit fields named → ¬ Unsupported named.2 →
      ∃ key, outcome = (some key, context) ∧ key.explicit = false ∧ ConsistsOf key [named]
  unsupportedImplicit : taggedFields marker fields = [] →
    ∀ named, IsImplicit fields named → Unsupported named.2 →
      outcome.1 = none ∧
        outcome.2.diagnostics = context.diagnostics ++ [unsupportedImplicit table named]
  missing : taggedFields marker fields = [] →
    (∀ named ∈ fieldsByName fields, named.1 ∉ implicitSpellings) →
      outcome.1 = none ∧ outcome.2.diagnostics = context.diagnostics ++ [missingKey table]
  none_iff : outcome.1 = none ↔ ∃ added, added ≠ [] ∧
    (∀ diagnostic ∈ added, diagnostic.Blames table) ∧
    outcome.2.diagnostics = context.diagnostics ++ added

section Fields

variable {marker table : String} {fields : List Field} {named : String × Field}
  {listed : List (String × Field)}

/-- A letter in lower case is the letter itself or its upper case. -/
theorem letter_of_toLower {character lower upper : Char} (same : character.toLower = lower)
    (pair : upper.toNat + 32 = lower.toNat) : character = lower ∨ character = upper := by
  unfold Char.toLower at same
  split at same
  case isTrue inside =>
    have codes := congrArg Char.toNat same
    obtain ⟨above, below⟩ := inside
    simp [UInt32.le_iff_toNat_le] at codes above below
    exact .inr (Char.toNat_inj.mp (by omega))
  case isFalse => exact .inl same

/-- A name is the implicit key exactly if it is one of its spellings. -/
theorem isImplicitKey_iff {name : String} :
    isImplicitKey name = true ↔ name ∈ implicitSpellings := by
  have letters : implicitKeyField.toList = ['i', 'd'] := rfl
  rw [isImplicitKey, decide_eq_true_iff, letters]
  constructor
  · intro same
    obtain ⟨first, rest, split, firstLower, others⟩ := List.map_eq_cons_iff.mp same
    obtain ⟨second, last, rfl, secondLower, nothing⟩ := List.map_eq_cons_iff.mp others
    obtain rfl := List.map_eq_nil_iff.mp nothing
    have written : name = String.ofList [first, second] := by rw [← split, String.ofList_toList]
    subst written
    rcases @letter_of_toLower _ _ 'I' firstLower rfl with rfl | rfl <;>
      rcases @letter_of_toLower _ _ 'D' secondLower rfl with rfl | rfl <;> decide
  · intro spelled
    simp only [implicitSpellings, List.mem_cons, List.not_mem_nil, or_false] at spelled
    rcases spelled with rfl | rfl | rfl | rfl <;> rfl

/-- This function describes a field by what decides about its key. -/
def describe (marker : String) (named : String × Field) : NamedField :=
  ⟨named.1, named.2.line, typeName named.2.type, CarriesKeyTag marker named.2⟩

theorem namedFields_eq :
    namedFields marker fields = (fieldsByName fields).map (describe marker) := by
  have tagged : ∀ field, field.attributes.any (isKeyTag marker) =
      decide (CarriesKeyTag marker field) := fun field => by
    rw [Bool.eq_iff_iff, any_isKeyTag_iff, decide_eq_true_iff]
  simp [namedFields, fieldsByName, List.map_filterMap, describe, tagged, Function.comp_def]

theorem filter_tagged : (namedFields marker fields).filter NamedField.tagged =
    (taggedFields marker fields).map (describe marker) := by
  rw [namedFields_eq, List.filter_map]
  rfl

theorem keyField_unsupported (unsupported : Unsupported named.2) :
    (describe marker named).keyField =
      .error (.unsupportedType named.1 (typeName named.2.type)) := by
  unfold NamedField.keyField KeyField.make
  split
  next found => cases unsupported.symm.trans found
  next => rfl

theorem exists_keyField (supported : ¬ Unsupported named.2) :
    ∃ part, (describe marker named).keyField = .ok part ∧ part.name = named.1 ∧
      part.typeName = typeName named.2.type := by
  unfold NamedField.keyField KeyField.make
  split
  next => exact ⟨_, rfl, rfl, rfl⟩
  next missing => exact absurd missing supported

theorem taggedProblems_map : taggedProblems (listed.map (describe marker)) =
    (listed.filter fun named => Unsupported named.2).map fun named =>
      .unsupported (some named.2.line) (.unsupportedType named.1 (typeName named.2.type)) := by
  induction listed with
  | nil => rfl
  | cons named rest hypothesis =>
      unfold taggedProblems at hypothesis ⊢
      by_cases unsupported : Unsupported named.2
      · rw [List.map_cons, List.filterMap_cons, keyField_unsupported unsupported, hypothesis,
          List.filter_cons_of_pos (by simpa using unsupported)]
        rfl
      · obtain ⟨part, made, _⟩ := @exists_keyField marker named unsupported
        rw [List.map_cons, List.filterMap_cons, made, hypothesis,
          List.filter_cons_of_neg (by simpa using unsupported)]

theorem keyFields_map (supported : ∀ named ∈ listed, ¬ Unsupported named.2) :
    (keyFields (listed.map (describe marker))).map (fun part => (part.name, part.typeName)) =
      listed.map fun named => (named.1, typeName named.2.type) := by
  induction listed with
  | nil => rfl
  | cons named rest hypothesis =>
      rw [List.forall_mem_cons] at supported
      obtain ⟨part, made, name, type⟩ := @exists_keyField marker named supported.1
      have cons : keyFields (describe marker named :: rest.map (describe marker)) =
          part :: keyFields (rest.map (describe marker)) :=
        List.filterMap_cons_some (by rw [made]; rfl)
      rw [List.map_cons, cons, List.map_cons, List.map_cons, hypothesis supported.2, name, type]

/-- The search for the implicit key ends at the implicit field. -/
theorem find_implicit (first : IsImplicit fields named) :
    (namedFields marker fields).find? (fun field => isImplicitKey field.name) =
      some (describe marker named) := by
  obtain ⟨before, after, split, spelled, earlier⟩ := first
  rw [namedFields_eq, split, List.find?_eq_some_iff_append]
  refine ⟨isImplicitKey_iff.mpr spelled, before.map (describe marker),
    after.map (describe marker), by simp, ?_⟩
  intro other inside
  obtain ⟨one, among, rfl⟩ := List.mem_map.mp inside
  have unspelled : isImplicitKey one.1 = false :=
    eq_false_of_ne_true fun spelled => earlier one among (isImplicitKey_iff.mp spelled)
  simpa [describe] using unspelled

theorem find_missing (absent : ∀ named ∈ fieldsByName fields, named.1 ∉ implicitSpellings) :
    (namedFields marker fields).find? (fun field => isImplicitKey field.name) = none := by
  rw [namedFields_eq, List.find?_eq_none]
  intro other inside spelled
  obtain ⟨one, among, rfl⟩ := List.mem_map.mp inside
  exact absent one among (isImplicitKey_iff.mp spelled)

end Fields

section Struct

variable {marker table : String} {fields : List Field} {named : String × Field}

/-- A struct is decided by its tagged fields, and by its implicit field when it has none. -/
theorem structKey_eq (marker : String) (fields : List Field) : structKey marker fields =
    match taggedProblems ((taggedFields marker fields).map (describe marker)),
        keyFields ((taggedFields marker fields).map (describe marker)) with
      | problem :: others, _ => .error (problem :: others)
      | [], first :: others => .ok ⟨first, others, true⟩
      | [], [] =>
          match (namedFields marker fields).find? fun field => isImplicitKey field.name with
          | none => .error [.missing]
          | some field =>
              match field.keyField with
              | .ok key => .ok ⟨key, [], false⟩
              | .error error => .error [.unsupported none error] := by
  rw [← filter_tagged]
  rfl

/-- An unsupported tagged field decides, whatever the other fields are. -/
theorem structKey_unsupported
    (found : ∃ named ∈ taggedFields marker fields, Unsupported named.2) :
    structKey marker fields = .error
      (((taggedFields marker fields).filter fun named => Unsupported named.2).map fun named =>
        .unsupported (some named.2.line) (.unsupportedType named.1 (typeName named.2.type))) := by
  obtain ⟨named, among, unsupported⟩ := found
  rw [structKey_eq, taggedProblems_map]
  cases listed : (taggedFields marker fields).filter fun named => Unsupported named.2 with
  | nil => exact absurd unsupported (by simpa using List.filter_eq_nil_iff.mp listed _ among)
  | cons first rest => rfl

theorem structKey_explicit (tagged : taggedFields marker fields ≠ [])
    (supported : ∀ named ∈ taggedFields marker fields, ¬ Unsupported named.2) :
    ∃ key, structKey marker fields = .ok key ∧ key.explicit = true ∧
      ConsistsOf key (taggedFields marker fields) := by
  have noProblem : taggedProblems ((taggedFields marker fields).map (describe marker)) = [] := by
    rw [taggedProblems_map]
    simpa using supported
  have parts := @keyFields_map marker _ supported
  rw [structKey_eq, noProblem]
  cases made : keyFields ((taggedFields marker fields).map (describe marker)) with
  | nil => simp_all
  | cons first others =>
      rw [made] at parts
      exact ⟨_, rfl, rfl, parts⟩

/-- Without tagged fields the implicit field decides. -/
theorem structKey_implicit (untagged : taggedFields marker fields = [])
    (first : IsImplicit fields named) (supported : ¬ Unsupported named.2) :
    ∃ key, structKey marker fields = .ok key ∧ key.explicit = false ∧
      ConsistsOf key [named] := by
  obtain ⟨part, made, name, type⟩ := @exists_keyField marker named supported
  refine ⟨⟨part, [], false⟩, ?_, rfl, by simp [ConsistsOf, KeySchema.fields, name, type]⟩
  rw [structKey_eq, untagged]
  simp [taggedProblems, keyFields, find_implicit first, made]

theorem structKey_unsupportedImplicit (untagged : taggedFields marker fields = [])
    (first : IsImplicit fields named) (unsupported : Unsupported named.2) :
    structKey marker fields =
      .error [.unsupported none (.unsupportedType named.1 (typeName named.2.type))] := by
  rw [structKey_eq, untagged]
  simp [taggedProblems, keyFields, find_implicit first, keyField_unsupported unsupported]

theorem structKey_missing (untagged : taggedFields marker fields = [])
    (absent : ∀ named ∈ fieldsByName fields, named.1 ∉ implicitSpellings) :
    structKey marker fields = .error [.missing] := by
  rw [structKey_eq, untagged]
  simp [taggedProblems, keyFields, find_missing absent]

theorem reportedKey_ok {key : KeySchema} (found : structKey marker fields = .ok key)
    (context : Context) : reportedKey marker table fields context = (some key, context) := by
  rw [reportedKey, found]

theorem reportedKey_error {problems : List KeyProblem}
    (failed : structKey marker fields = .error problems) (context : Context) :
    (reportedKey marker table fields context).1 = none ∧
      (reportedKey marker table fields context).2.diagnostics = context.diagnostics ++
        problems.map fun problem => .error problem.code table problem.message := by
  rw [reportedKey, failed]
  exact ⟨rfl, reportAll_diagnostics table problems context⟩

/-- A struct has no key exactly if an error about its table is reported. -/
theorem reportedKey_none_iff (context : Context) :
    (reportedKey marker table fields context).1 = none ↔ ∃ added, added ≠ [] ∧
      (∀ diagnostic ∈ added, diagnostic.Blames table) ∧
      (reportedKey marker table fields context).2.diagnostics =
        context.diagnostics ++ added := by
  cases decided : structKey marker fields with
  | ok key =>
      rw [reportedKey_ok decided]
      constructor
      · intro none
        cases none
      · rintro ⟨added, some, _, same⟩
        exact absurd (List.self_eq_append_right.mp same) some
  | error problems =>
      obtain ⟨none, grown⟩ := @reportedKey_error marker table fields problems decided context
      refine ⟨fun _ => ⟨_, ?_, ?_, grown⟩, fun _ => none⟩
      · simpa using structKey_problems decided
      · intro diagnostic inside
        obtain ⟨problem, _, rfl⟩ := List.mem_map.mp inside
        exact ⟨rfl, rfl⟩

theorem reportedKey_registry (context : Context) :
    (reportedKey marker table fields context).2.registry = context.registry := by
  unfold reportedKey
  split
  · rfl
  · exact reportAll_registry table _ context

/-- The key of a struct follows the rule of precedence. -/
theorem precedence_reportedKey (marker table : String) (fields : List Field) (context : Context) :
    Precedence marker table fields context (reportedKey marker table fields context) where
  registry := reportedKey_registry context
  unsupported found := by
    obtain ⟨none, grown⟩ :=
      @reportedKey_error marker table _ _ (structKey_unsupported found) context
    refine ⟨none, grown.trans ?_⟩
    rw [List.map_map]
    rfl
  explicit tagged supported := by
    obtain ⟨key, found, explicit, consists⟩ := structKey_explicit tagged supported
    exact ⟨key, reportedKey_ok found context, explicit, consists⟩
  implicit untagged named first supported := by
    obtain ⟨key, found, implicit, consists⟩ := structKey_implicit untagged first supported
    exact ⟨key, reportedKey_ok found context, implicit, consists⟩
  unsupportedImplicit untagged named first unsupported :=
    reportedKey_error (structKey_unsupportedImplicit untagged first unsupported) context
  missing untagged absent := reportedKey_error (structKey_missing untagged absent) context
  none_iff := reportedKey_none_iff context

end Struct

/-- This function resolves the other entries after the key of one was found or reported. Only an
owner of its names keeps a key from its entry. -/
def resolveBehind (sources : SourceSet) (marker : String) (resolved : List ResolvedKey)
    (entry : TableEntry) (rest : List TableEntry) :
    Option KeySchema × Context → Except IntrospectionError (List ResolvedKey) × Context
  | (none, reported) => resolveAfter sources marker resolved rest reported
  | (some key, context) =>
      match owner? resolved entry.name with
      | some owner => resolveAfter sources marker resolved rest
          ((takenNames context.registry entry owner).report entry.name context)
      | none => resolveAfter sources marker (resolved ++ [⟨entry, key⟩]) rest
          (context.note (resolvedEvent entry key))

theorem resolveBehind_none {sources : SourceSet} {marker : String} {resolved : List ResolvedKey}
    {entry : TableEntry} {rest : List TableEntry} {outcome : Option KeySchema × Context}
    (keyless : outcome.1 = none) : resolveBehind sources marker resolved entry rest outcome =
      resolveAfter sources marker resolved rest outcome.2 := by
  obtain ⟨key, context⟩ := outcome
  cases keyless
  rfl

/-- Resolution finds or reports the key of a struct with fields, and goes on. -/
theorem resolveAfter_found {sources : SourceSet} {entry : TableEntry}
    {declaration : StructDeclaration} {path : FilePath}
    (found : sources.findStruct entry.name = .found declaration path)
    (nonempty : declaration.fields ≠ []) (marker : String) (resolved : List ResolvedKey)
    (rest : List TableEntry) (context : Context) :
    resolveAfter sources marker resolved (entry :: rest) context =
      resolveBehind sources marker resolved entry rest
        (reportedKey marker entry.name declaration.fields context) := by
  have notEmpty : declaration.fields.isEmpty = false := by simpa using nonempty
  rw [resolveAfter, entryKey, found]
  simp only [notEmpty, Bool.false_eq_true, if_false]
  cases decided : structKey marker declaration.fields with
  | error problems => simp only [reportedKey, decided, resolveBehind]
  | ok key =>
      rw [reportedKey_ok decided, resolveBehind]
      cases owner? resolved entry.name <;> rfl

/-- Every struct gets its key by the rule of precedence, or an error says why it gets none. This is
what resolution does with the struct of an entry. -/
theorem struct_key_precedence :
    (∀ marker table fields context,
      Precedence marker table fields context (reportedKey marker table fields context)) ∧
    ∀ sources entry declaration path, sources.findStruct entry.name = .found declaration path →
      declaration.fields ≠ [] → ∀ marker resolved rest context,
        resolveAfter sources marker resolved (entry :: rest) context =
          resolveBehind sources marker resolved entry rest
            (reportedKey marker entry.name declaration.fields context) := by
  constructor
  · exact precedence_reportedKey
  · intro sources entry declaration path found nonempty
    exact resolveAfter_found found nonempty

/-- This file declares a struct with an implicit field and three tagged ones. Two of these have
types that cannot be keys. -/
def rateSources : SourceSet :=
  [(SourceFile.parse (.ofText "c_rate.rs") ("struct Rate \x7b ID: i32,\n#[table(key)] value: f64, " ++
    "#[table(key)] slot: u8,\n#[table = \"sort, key\"] marks: Vec<u8> \x7d") {}).1]

/-- This function lists the fields of that struct. -/
def rateFields : List Field :=
  ((rateSources.declared? "Rate").map fun found => found.1.fields).getD []

/-- Neither the implicit field nor the usable tagged one makes up for the two others. -/
theorem struct_key_precedence_rate :
    let rate : TableEntry := { name := "Rate" }
    let outcome := reportedKey "table" "Rate" rateFields {}
    (taggedFields "table" rateFields).map Prod.fst = ["value", "slot", "marks"] ∧
    outcome.1 = none ∧
    outcome.2.diagnostics =
      [.error "unsupported_key_kind" "Rate"
        "line 2: unsupported key type 'f64' on field 'value'",
      .error "unsupported_key_kind" "Rate"
        "line 3: unsupported key type 'Vec' on field 'marks'"] ∧
    resolveAfter rateSources "table" [] [rate] {} = (.ok [], outcome.2) := by
  intro rate outcome
  have read : (rateSources.declared? "Rate").isSome = true ∧
      (taggedFields "table" rateFields).map Prod.fst = ["value", "slot", "marks"] ∧
      ((taggedFields "table" rateFields).filter fun named => Unsupported named.2).map
        (unsupportedTag "Rate") = [.error "unsupported_key_kind" "Rate"
          "line 2: unsupported key type 'f64' on field 'value'",
        .error "unsupported_key_kind" "Rate"
          "line 3: unsupported key type 'Vec' on field 'marks'"] := by
    decide +kernel
  obtain ⟨declared, names, blamed⟩ := read
  obtain ⟨⟨declaration, path⟩, lookup⟩ := Option.isSome_iff_exists.mp declared
  have same : declaration.fields = rateFields := by rw [rateFields, lookup]; rfl
  have found : rateSources.findStruct "Rate" = .found declaration path := by
    rw [SourceSet.findStruct, lookup]
  have unsupported : ∃ named ∈ taggedFields "table" rateFields, Unsupported named.2 := by
    by_contra all
    have nothing : (taggedFields "table" rateFields).filter
        (fun named => Unsupported named.2) = [] := by simpa using all
    rw [nothing] at blamed
    cases blamed
  have nonempty : rateFields ≠ [] := by
    intro empty
    rw [empty] at names
    cases names
  obtain ⟨keyless, reported⟩ :=
    (struct_key_precedence.1 "table" "Rate" rateFields {}).unsupported unsupported
  have step := struct_key_precedence.2 rateSources rate declaration path found
    (same ▸ nonempty) "table" [] [] {}
  refine ⟨names, keyless, ?_, ?_⟩
  · rw [reported, blamed]
    rfl
  · rw [step, same]
    exact resolveBehind_none keyless

end KeyResolution

end Tablewright
