import Mathlib.Data.List.Forall2
import Mathlib.Data.Set.Operations
import Tablewright.Proofs.Emission.ComposedKey
import Tablewright.Proofs.Emission.KeyFunctions

namespace Tablewright.Emission

variable {Key2 Key3 : Type}

/-- Packed keys are equal only if all their components are. -/
structure Tools.Componentwise (tools : Tools Key2 Key3) : Prop where
  pack2 : ∀ first second third fourth, tools.pack2 first second = tools.pack2 third fourth →
    first = third ∧ second = fourth
  pack3 : ∀ first second third fourth fifth sixth,
    tools.pack3 first second third = tools.pack3 fourth fifth sixth →
      first = fourth ∧ second = fifth ∧ third = sixth

section Values

variable {field : KeyField} {value other : Value Key2 Key3} (isOf : value.Of field.typeName)
  (otherOf : other.Of field.typeName)
include isOf otherOf

/-- A number of a type that packs keeps its value in a cast. -/
theorem cast_injective (packs : field.packs = true) (same : value.cast? = other.cast?) :
    value = other := by
  have within : ∀ typeName ∈ KeyField.packableTypes, ∀ number,
      holdsNumber typeName number = true → (Int64.ofInt number).toInt = number := by
    intro typeName among number holds
    have bounds : -2 ^ 63 ≤ number ∧ number < 2 ^ 63 := by
      simp only [KeyField.packableTypes, List.mem_cons, List.not_mem_nil, or_false] at among
      rcases among with rfl | rfl | rfl | rfl | rfl | rfl | rfl | rfl
      all_goals
        simp [holdsNumber, integerForms, List.lookup_cons] at holds
        omega
    exact Int64.toInt_ofInt_of_le bounds.1 bounds.2
  have integer := KeyField.integer_of_packs packs
  have among : field.typeName ∈ KeyField.packableTypes := of_decide_eq_true packs
  obtain ⟨number, rfl⟩ := integer_of_kind isOf integer
  obtain ⟨second, rfl⟩ := integer_of_kind otherOf integer
  have casts : Int64.ofInt number = Int64.ofInt second := Option.some.inj same
  rw [← within _ among number isOf.ranged, casts, within _ among second otherOf.ranged]

/-- A value of a key field is what it is shown as. -/
theorem shown_injective (same : value.shown? = other.shown?) : value = other := by
  cases kind : field.kind with
  | integer =>
      obtain ⟨number, rfl⟩ := integer_of_kind isOf kind
      obtain ⟨second, rfl⟩ := integer_of_kind otherOf kind
      rw [Text.integer_injective (Option.some.inj same)]
  | text =>
      obtain ⟨content, rfl⟩ := text_of_kind isOf kind
      obtain ⟨second, rfl⟩ := text_of_kind otherOf kind
      rw [Option.some.inj same]

end Values

theorem whole_shown {field : KeyField} (integer : field.kind = .integer)
    {value : Value Key2 Key3} (isOf : value.Of field.typeName) {text : String}
    (shown : value.shown? = some text) : Text.Whole text := by
  obtain ⟨number, rfl⟩ := integer_of_kind isOf integer
  obtain rfl := Option.some.inj shown
  exact Text.whole_integer number

section Tuples

variable {fields : List KeyField} {values others : List (Value Key2 Key3)}

theorem of_mapM_cons {β : Type} {step : Value Key2 Key3 → Option β} {value : Value Key2 Key3}
    {results : List β} (found : (value :: values).mapM step = some results) :
    ∃ result rest, results = result :: rest ∧ step value = some result ∧
      values.mapM step = some rest := by
  rw [List.mapM_cons] at found
  obtain ⟨result, first, found⟩ := Option.bind_eq_some_iff.mp found
  obtain ⟨rest, later, found⟩ := Option.bind_eq_some_iff.mp found
  exact ⟨result, rest, (Option.some.inj found).symm, first, later⟩

/-- Values are told apart position by position. -/
theorem mapM_injective {β : Type} {step : Value Key2 Key3 → Option β} {results : List β}
    (fills : Fills fields values) (otherFills : Fills fields others)
    (injective : ∀ field ∈ fields, ∀ value other : Value Key2 Key3, value.Of field.typeName →
      other.Of field.typeName → step value = step other → value = other)
    (found : values.mapM step = some results) (otherFound : others.mapM step = some results) :
    values = others := by
  induction fills generalizing others results with
  | nil =>
      cases otherFills
      rfl
  | cons isOf rest hypothesis =>
      obtain _ | ⟨otherOf, otherRest⟩ := otherFills
      rw [List.forall_mem_cons] at injective
      obtain ⟨result, more, rfl, first, later⟩ := of_mapM_cons found
      obtain ⟨_, _, same, otherFirst, otherLater⟩ := of_mapM_cons otherFound
      obtain ⟨rfl, rfl⟩ := List.cons.inj same
      rw [injective.1 _ _ isOf otherOf (first.trans otherFirst.symm),
        hypothesis otherRest injective.2 later otherLater]

theorem exists_texts (fills : Fills fields values) :
    ∃ texts, values.mapM Value.shown? = some texts := by
  induction fills with
  | nil => exact ⟨[], rfl⟩
  | cons isOf rest hypothesis =>
      obtain ⟨text, shown⟩ := exists_shown isOf
      obtain ⟨texts, found⟩ := hypothesis
      exact ⟨text :: texts, by simp [List.mapM_cons, shown, found]⟩

theorem texts_length {texts : List String} (found : values.mapM Value.shown? = some texts) :
    texts.length = values.length := by
  induction values generalizing texts with
  | nil =>
      obtain rfl := Option.some.inj found
      rfl
  | cons value rest hypothesis =>
      obtain ⟨_, _, rfl, _, later⟩ := of_mapM_cons found
      exact congrArg (· + 1) (hypothesis later)

/-- Numbers are shown without underscores. -/
theorem whole_texts (fills : Fills fields values)
    (integers : ∀ field ∈ fields, field.kind = .integer) {texts : List String}
    (found : values.mapM Value.shown? = some texts) : ∀ text ∈ texts, Text.Whole text := by
  induction fills generalizing texts with
  | nil =>
      obtain rfl := Option.some.inj found
      simp
  | cons isOf rest hypothesis =>
      rw [List.forall_mem_cons] at integers
      obtain ⟨text, others, rfl, shown, later⟩ := of_mapM_cons found
      rw [List.forall_mem_cons]
      exact ⟨whole_shown integers.1 isOf shown, hypothesis integers.2 later⟩

/-- Joined texts can be cut apart again when at most one of them may have underscores. The cuts
go on from the left up to that text, and from the right behind it. -/
theorem texts_of_joined (fills : Fills fields values)
    (otherFills : Fills fields others)
    (few : fields.countP (fun field => field.kind = .text) ≤ 1) {texts otherTexts : List String}
    (found : values.mapM Value.shown? = some texts)
    (otherFound : others.mapM Value.shown? = some otherTexts)
    (same : Text.joined "_" texts = Text.joined "_" otherTexts) : texts = otherTexts := by
  induction fills generalizing others texts otherTexts with
  | nil =>
      cases otherFills
      exact Option.some.inj (found.symm.trans otherFound)
  | @cons field value rest values isOf fills hypothesis =>
      obtain _ | ⟨otherOf, otherFills⟩ := otherFills
      obtain ⟨text, texts, rfl, shown, later⟩ := of_mapM_cons found
      obtain ⟨otherText, otherTexts, rfl, otherShown, otherLater⟩ := of_mapM_cons otherFound
      have length : texts.length = otherTexts.length := by
        rw [texts_length later, texts_length otherLater, ← fills.length_eq,
          ← otherFills.length_eq]
      have behind : (∀ field ∈ rest, field.kind = .integer) →
          text :: texts = otherText :: otherTexts := by
        intro integers
        obtain ⟨rfl, rfl⟩ := Text.joined_cons_injective length (whole_texts fills integers later)
          (whole_texts otherFills integers otherLater) same
        rfl
      cases kind : field.kind with
      | text =>
          rw [List.countP_cons_of_pos (by simp [kind])] at few
          refine behind ?_
          intro other inside
          have missing := List.countP_eq_zero.mp (Nat.le_zero.mp (Nat.le_of_succ_le_succ few))
          cases otherKind : other.kind with
          | integer => rfl
          | text => exact absurd (by simp [otherKind]) (missing other inside)
      | integer =>
          rw [List.countP_cons_of_neg (by simp [kind])] at few
          by_cases ended : texts = []
          · have none : rest = [] := by
              rw [← List.length_eq_zero_iff, fills.length_eq, ← texts_length later, ended]
              rfl
            exact behind (by simp [none])
          · have more : otherTexts ≠ [] := by
              rintro rfl
              exact ended (List.length_eq_zero_iff.mp length)
            rw [Text.joined_cons _ ended, Text.joined_cons _ more] at same
            obtain ⟨rfl, tails⟩ := Text.cut_first (whole_shown kind isOf shown)
              (whole_shown kind otherOf otherShown) same
            rw [hypothesis otherFills few later otherLater tails]

end Tuples

section Lossless

variable {tools : Tools Key2 Key3} {key : KeySchema}

theorem Tools.Componentwise.packed_injective (componentwise : tools.Componentwise)
    {typeName : String} {numbers others : List Int64} {value : Value Key2 Key3}
    (packed : tools.packed? typeName numbers = some value)
    (otherPacked : tools.packed? typeName others = some value) : numbers = others := by
  unfold Tools.packed? at packed
  split at packed
  · obtain rfl := Option.some.inj packed
    unfold Tools.packed? at otherPacked
    split at otherPacked
    · have same := Value.key2.inj (Option.some.inj otherPacked)
      obtain ⟨rfl, rfl⟩ := componentwise.pack2 _ _ _ _ same
      rfl
    all_goals cases otherPacked
  · obtain rfl := Option.some.inj packed
    unfold Tools.packed? at otherPacked
    split at otherPacked
    · cases otherPacked
    · have same := Value.key3.inj (Option.some.inj otherPacked)
      obtain ⟨rfl, rfl, rfl⟩ := componentwise.pack3 _ _ _ _ _ _ same
      rfl
    · cases otherPacked
  · cases packed

theorem exists_numbers {fields : List KeyField} {values : List (Value Key2 Key3)}
    (fills : Fills fields values) (integers : ∀ field ∈ fields, field.kind = .integer) :
    ∃ numbers, values.mapM Value.cast? = some numbers ∧ numbers.length = fields.length := by
  induction fills with
  | nil => exact ⟨[], rfl, rfl⟩
  | cons isOf rest hypothesis =>
      rw [List.forall_mem_cons] at integers
      obtain ⟨number, rfl⟩ := integer_of_kind isOf integers.1
      obtain ⟨numbers, found, length⟩ := hypothesis integers.2
      exact ⟨Int64.ofInt number :: numbers, by simp [List.mapM_cons, Value.cast?, found],
        congrArg (· + 1) length⟩

theorem exists_packed_tuple (packed : key.form = .packed2 ∨ key.form = .packed3)
    {values : List (Value Key2 Key3)} (fills : Fills key.fields values) :
    ∃ numbers value, values.mapM Value.cast? = some numbers ∧
      tools.packed? key.mapType numbers = some value := by
  obtain ⟨size, packs⟩ := KeySchema.packs_of_form packed
  obtain ⟨numbers, found, length⟩ := exists_numbers fills fun field inside =>
    KeyField.integer_of_packs (packs field inside)
  rw [size] at length
  obtain form | form := packed
  · rw [if_pos form] at length
    obtain ⟨first, second, rfl⟩ := List.length_eq_two.mp length
    exact ⟨_, _, found, by rw [KeySchema.mapType, form]; rfl⟩
  · rw [if_neg (by simp [form])] at length
    obtain ⟨first, second, third, rfl⟩ := List.length_eq_three.mp length
    exact ⟨_, _, found, by rw [KeySchema.mapType, form]; rfl⟩

theorem fills_scalar (scalar : key.form = .scalar) {values : List (Value Key2 Key3)}
    (fills : Fills key.fields values) : ∃ value, values = [value] := by
  have alone : key.others = [] := by
    simpa [KeySchema.isComposite] using KeySchema.form_scalar_iff.mp scalar
  rw [Fills, KeySchema.fields, alone] at fills
  obtain _ | ⟨_, _ | _⟩ := fills
  exact ⟨_, rfl⟩

/-- Every tuple of values has a key. -/
theorem exists_composedKey (tools : Tools Key2 Key3) {values : List (Value Key2 Key3)}
    (fills : Fills key.fields values) : ∃ value, composedKey? tools key values = some value := by
  have packs (packed : key.form = .packed2 ∨ key.form = .packed3) :
      ∃ value, composedKey? tools key values = some value := by
    obtain ⟨numbers, value, found, made⟩ := exists_packed_tuple packed fills
    refine ⟨value, ?_⟩
    rw [composedKey_packed packed fills.length_eq.symm, found, Option.bind_some, made]
  cases form : key.form with
  | scalar =>
      obtain ⟨value, rfl⟩ := fills_scalar form fills
      exact ⟨value, composedKey_scalar form value⟩
  | packed2 => exact packs (.inl form)
  | packed3 => exact packs (.inr form)
  | formatted =>
      obtain ⟨texts, found⟩ := exists_texts fills
      rw [composedKey_formatted form fills.length_eq.symm, found]
      exact ⟨_, rfl⟩

/-- A key with at most one text tells all tuples apart. -/
theorem composedKey_injOn (componentwise : tools.Componentwise)
    (few : key.fields.countP (fun field => field.kind = .text) ≤ 1) :
    Set.InjOn (composedKey? tools key) {values | Fills key.fields values} := by
  intro values fills others otherFills same
  change Fills key.fields values at fills
  change Fills key.fields others at otherFills
  have packs (packed : key.form = .packed2 ∨ key.form = .packed3) : values = others := by
    obtain ⟨numbers, value, found, made⟩ := exists_packed_tuple packed fills
    obtain ⟨more, other, otherFound, otherMade⟩ := exists_packed_tuple packed otherFills
    rw [composedKey_packed packed fills.length_eq.symm,
      composedKey_packed packed otherFills.length_eq.symm, found, otherFound, Option.bind_some,
      Option.bind_some, made, otherMade] at same
    obtain rfl := Option.some.inj same
    obtain rfl := componentwise.packed_injective made otherMade
    refine mapM_injective fills otherFills ?_ found otherFound
    intro field inside value other isOf otherOf
    exact cast_injective isOf otherOf ((KeySchema.packs_of_form packed).2 field inside)
  cases form : key.form with
  | scalar =>
      obtain ⟨value, rfl⟩ := fills_scalar form fills
      obtain ⟨other, rfl⟩ := fills_scalar form otherFills
      rw [composedKey_scalar form, composedKey_scalar form] at same
      rw [Option.some.inj same]
  | packed2 => exact packs (.inl form)
  | packed3 => exact packs (.inr form)
  | formatted =>
      obtain ⟨texts, found⟩ := exists_texts fills
      obtain ⟨others, otherFound⟩ := exists_texts otherFills
      rw [composedKey_formatted form fills.length_eq.symm,
        composedKey_formatted form otherFills.length_eq.symm, found, otherFound] at same
      obtain rfl := texts_of_joined fills otherFills few found otherFound
        (Value.text.inj (Option.some.inj same))
      exact mapM_injective fills otherFills
        (fun field _ value other isOf otherOf => shown_injective isOf otherOf) found otherFound

end Lossless

/-- A field of every type may have this value. -/
def plainValue (field : KeyField) : Value Key2 Key3 :=
  match field.kind with
  | .integer => .integer field.typeName 0
  | .text => .text ""

/-- This function is the text of a plain value. -/
def plainText (field : KeyField) : String :=
  match field.kind with
  | .integer => "0"
  | .text => ""

theorem plainValue_of (field : KeyField) :
    (plainValue field : Value Key2 Key3).Of field.typeName := by
  unfold plainValue
  cases kind : field.kind with
  | integer =>
      have zero : ∀ typeName ∈ KeyKind.integerTypes, holdsNumber typeName 0 = true := by decide
      exact ⟨rfl, zero _ (KeyField.integer_typeName kind)⟩
  | text => exact ⟨(KeyField.text_typeName kind).symm, rfl⟩

theorem text_of {field : KeyField} (text : field.kind = .text) (content : String) :
    (Value.text content : Value Key2 Key3).Of field.typeName :=
  ⟨(KeyField.text_typeName text).symm, rfl⟩

theorem plainValue_shown (fields : List KeyField) :
    (fields.map plainValue : List (Value Key2 Key3)).mapM Value.shown? =
      some (fields.map plainText) := by
  induction fields with
  | nil => rfl
  | cons field rest hypothesis =>
      have shown : (plainValue field : Value Key2 Key3).shown? = some (plainText field) := by
        unfold plainValue plainText
        cases field.kind <;> rfl
      simp [List.mapM_cons, shown, hypothesis]

theorem fills_plain (fields : List KeyField) :
    Fills fields (fields.map plainValue : List (Value Key2 Key3)) := by
  rw [Fills, List.forall₂_map_right_iff, List.forall₂_same]
  exact fun field _ => plainValue_of field

theorem exists_two_texts {fields : List KeyField}
    (two : 2 ≤ fields.countP (fun field => field.kind = .text)) :
    ∃ before first middle second after, fields = before ++ first :: middle ++ second :: after ∧
      first.kind = .text ∧ second.kind = .text := by
  induction fields with
  | nil => simp at two
  | cons field rest hypothesis =>
      cases kind : field.kind with
      | text =>
          rw [List.countP_cons_of_pos (by simp [kind])] at two
          obtain ⟨second, inside, text⟩ :=
            List.countP_pos_iff.mp (Nat.lt_of_succ_le (Nat.le_of_succ_le_succ two))
          obtain ⟨middle, after, rfl⟩ := List.append_of_mem inside
          exact ⟨[], field, middle, second, after, rfl, kind, of_decide_eq_true text⟩
      | integer =>
          rw [List.countP_cons_of_neg (by simp [kind])] at two
          obtain ⟨before, first, middle, second, after, rfl, texts⟩ := hypothesis two
          exact ⟨field :: before, first, middle, second, after, rfl, texts⟩

section Collision

variable {before middle after : List KeyField} {first second : KeyField}

/-- This tuple has given texts at two places, and plain values at all others. -/
def tupleAround (before middle after : List KeyField) (left right : String) :
    List (Value Key2 Key3) :=
  before.map plainValue ++ .text left :: middle.map plainValue ++
    .text right :: after.map plainValue

/-- This function joins plain values between two empty texts. -/
def joinedBetween (middle : List KeyField) : String :=
  Text.joined "_" ("" :: middle.map plainText ++ [""])

theorem joinedBetween_ne_empty (middle : List KeyField) : joinedBetween middle ≠ "" := by
  intro empty
  rw [joinedBetween, List.cons_append, Text.joined_cons _ (by simp)] at empty
  have letters := congrArg String.toList empty
  simp at letters

theorem fills_around (text : first.kind = .text) (otherText : second.kind = .text)
    (left right : String) :
    Fills (before ++ first :: middle ++ second :: after)
      (tupleAround before middle after left right : List (Value Key2 Key3)) :=
  List.rel_append (List.rel_append (fills_plain before) (.cons (text_of text left)
    (fills_plain middle))) (.cons (text_of otherText right) (fills_plain after))

theorem texts_around (left right : String) :
    (tupleAround before middle after left right : List (Value Key2 Key3)).mapM Value.shown? =
      some (before.map plainText ++ (left :: middle.map plainText ++ [right]) ++
        after.map plainText) := by
  have shown (content : String) : (Value.text content : Value Key2 Key3).shown? = some content :=
    rfl
  simp [tupleAround, List.mapM_append, List.mapM_cons, plainValue_shown, shown, -List.mapM_map]

/-- Either of two texts may hold what stands between them, and the joined text is the same. -/
theorem joined_around :
    Text.joined "_" (before.map plainText ++ ("" :: middle.map plainText ++
      [joinedBetween middle]) ++ after.map plainText) =
    Text.joined "_" (before.map plainText ++ (joinedBetween middle :: middle.map plainText ++
      [""]) ++ after.map plainText) := by
  apply Text.joined_congr (by simp) (by simp)
  calc Text.joined "_" ("" :: middle.map plainText ++ [joinedBetween middle])
      = "" ++ joinedBetween middle ++ joinedBetween middle := Text.joined_ends ..
    _ = joinedBetween middle ++ joinedBetween middle ++ "" := by
        rw [String.empty_append, String.append_empty]
    _ = Text.joined "_" (joinedBetween middle :: middle.map plainText ++ [""]) :=
        (Text.joined_ends ..).symm

end Collision

section Lossless

variable {key : KeySchema}

/-- A key with two texts has the same value for two tuples. -/
theorem exists_collision (tools : Tools Key2 Key3)
    (two : 2 ≤ key.fields.countP (fun field => field.kind = .text)) :
    ∃ values others : List (Value Key2 Key3), Fills key.fields values ∧
      Fills key.fields others ∧ values ≠ others ∧
      composedKey? tools key values = composedKey? tools key others := by
  obtain ⟨before, first, middle, second, after, fields, text, otherText⟩ := exists_two_texts two
  have formatted : key.form = .formatted := by
    have inside : first ∈ key.fields := by simp [fields]
    refine KeySchema.form_of_text inside text ?_
    simp only [fields, List.length_append, List.length_cons]
    omega
  have fills (left right : String) : Fills key.fields
      (tupleAround before middle after left right : List (Value Key2 Key3)) := by
    rw [fields]
    exact fills_around text otherText left right
  refine ⟨tupleAround before middle after "" (joinedBetween middle),
    tupleAround before middle after (joinedBetween middle) "", fills _ _, fills _ _, ?_, ?_⟩
  · intro same
    rw [tupleAround, tupleAround, List.append_assoc, List.append_assoc] at same
    have tails := List.append_cancel_left same
    exact joinedBetween_ne_empty middle
      (Value.text.inj (List.head_eq_of_cons_eq tails)).symm
  · rw [composedKey_formatted formatted (fills _ _).length_eq.symm,
      composedKey_formatted formatted (fills _ _).length_eq.symm, texts_around, texts_around,
      Option.map_some, Option.map_some, joined_around]

/-- A key tells all tuples of values apart if and only if at most one of its fields is a text.
Every tuple has a key. The loader and the key method of a table, as they are written, build the key
of the tuple of a row. -/
theorem composedKey_lossless_iff (tools : Tools Key2 Key3) (componentwise : tools.Componentwise)
    (key : KeySchema) :
    (Set.InjOn (composedKey? tools key) {values | Fills key.fields values} ↔
      key.fields.countP (fun field => field.kind = .text) ≤ 1) ∧
    (∀ values, Fills key.fields values → ∃ value, composedKey? tools key values = some value) ∧
    ∀ table : ResolvedTable, table.key = key → WellNamed table →
      ∃ code, readKeyCode? table.name (primaryFragments table) = some code ∧
        ∀ row : Fields Key2 Key3, Fits key row →
          (key.explicit = true → keyMethod? tools code row =
            composedKey? tools key (key.fields.map fun field => row field.name)) ∧
          (key.explicit = true ∨ key.others = [] → storedKey? tools code row =
            composedKey? tools key (key.fields.map fun field => row field.name)) := by
  refine ⟨⟨?_, composedKey_injOn componentwise⟩,
    fun values fills => exists_composedKey tools fills, ?_⟩
  · intro injective
    by_contra more
    obtain ⟨values, others, fills, otherFills, different, same⟩ :=
      exists_collision tools (Nat.lt_of_not_le more)
    exact different (injective fills otherFills same)
  · rintro table rfl named
    refine ⟨.ofKey table.key, readKeyCode_written named, fun row fits => ?_⟩
    obtain ⟨value, found, typed⟩ := exists_keyMethodBody tools fits
    have composed := (keyMethodBody_value fits).symm.trans found
    constructor
    · intro explicit
      simp [keyMethod?, KeyCode.ofKey, explicit, found, composed, Value.expected?, typed]
    · intro resolvable
      rw [composed]
      exact storedKey_eq resolvable fits found typed

end Lossless

/-- The key of this table has a text between two numbers. -/
def levelNameRankTable : ResolvedTable where
  entry := { name := "Hero", csv := "hero.csv" }
  storageVariable := "TABLE_HERO"
  key := ⟨⟨"level", "u64", .integer, by decide⟩,
    [⟨"name", "String", .text, KeyKind.ofTypeName_string⟩,
      ⟨"rank", "i32", .integer, KeyKind.ofTypeName_i32⟩], true⟩
  capabilities := {}

/-- This row has an underscore in its text. -/
def levelNameRankRow : Fields (Int64 × Int64) (Int64 × Int64 × Int64) :=
  fun name =>
    if name = "level" then .integer "u64" 7
    else if name = "name" then .text "a_b"
    else .integer "i32" (-3)

/-- The key of the row can be cut apart again. -/
theorem composedKey_lossless_iff_text_between :
    let tools : Tools (Int64 × Int64) (Int64 × Int64 × Int64) :=
      ⟨Prod.mk, fun first second third => (first, second, third)⟩
    let key := levelNameRankTable.key
    tools.Componentwise ∧ WellNamed levelNameRankTable ∧ key.explicit = true ∧
      Fits key levelNameRankRow ∧
      Set.InjOn (composedKey? tools key) {values | Fills key.fields values} ∧
      ∃ code, readKeyCode? "Hero" (primaryFragments levelNameRankTable) = some code ∧
        storedKey? tools code levelNameRankRow = some (.text "7_a_b_-3") := by
  intro tools key
  have componentwise : tools.Componentwise := by
    refine ⟨?_, ?_⟩
    · intro first second third fourth same
      exact Prod.mk.inj same
    · intro first second third fourth fifth sixth same
      obtain ⟨heads, tails⟩ := Prod.mk.inj same
      exact ⟨heads, Prod.mk.inj tails⟩
  have named : WellNamed levelNameRankTable := ⟨by decide, by decide +kernel, by decide⟩
  have fits : Fits key levelNameRankRow := by
    intro field inside
    have among : field = key.first ∨ field = ⟨"name", "String", .text, rfl⟩ ∨
        field = ⟨"rank", "i32", .integer, rfl⟩ := by
      simpa [key, levelNameRankTable, KeySchema.fields] using inside
    obtain rfl | rfl | rfl := among
    all_goals exact ⟨rfl, by decide⟩
  obtain ⟨lossless, _, written⟩ := composedKey_lossless_iff tools componentwise key
  obtain ⟨code, read, same⟩ := written levelNameRankTable rfl named
  refine ⟨componentwise, named, rfl, fits, lossless.mpr (by decide), code, read, ?_⟩
  rw [(same levelNameRankRow fits).2 (.inl rfl)]
  decide +kernel

end Tablewright.Emission
