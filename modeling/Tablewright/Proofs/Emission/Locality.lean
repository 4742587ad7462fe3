import Tablewright.Proofs.Emission.Sections
import Tablewright.Proofs.Sorting

namespace Tablewright.Emission

/-- This function lists the texts that fragments bring into a section. -/
def textsIn (kind : Section) (fragments : List Fragment) : List String :=
  (fragments.filter fun fragment => fragment.kind = kind).map Fragment.text

/-- This function lists the lines of tables in the body of `load_all`. -/
def loadLines (tables : List ResolvedTable) : List String :=
  (tables.flatMap LoadLine.ofTable).map LoadLine.render

/-- This function is the text of `load_all` with some lines in its body. -/
def loadAllAround (lines : List String) : String :=
  Text.ofLines (["/// Loads every table.", "pub fn load_all() -> Result<(), TableError> \x7b"] ++
    lines ++ ["    Ok(())", "\x7d"])

section Texts

variable (options : EmitOptions) (table : ResolvedTable) (tables before after : List ResolvedTable)
  (kind : Section)

theorem textsIn_append (first second : List Fragment) :
    textsIn kind (first ++ second) = textsIn kind first ++ textsIn kind second := by
  rw [textsIn, List.filter_append, List.map_append]
  rfl

theorem loadLines_append :
    loadLines (before ++ after) = loadLines before ++ loadLines after := by
  rw [loadLines, List.flatMap_append, List.map_append]
  rfl

theorem loadAll_primary :
    (primary options tables).inSection .loadAll = [loadAllAround (loadLines tables)] :=
  inSection_loadAll options tables

theorem textsIn_primary (other : kind ≠ .loadAll) :
    (primary options tables).inSection kind = textsIn kind (tables.flatMap primaryFragments) := by
  have elsewhere : (loadAllFragment tables).kind ≠ kind := Ne.symm other
  rw [primary, inSection_push, inSection_pushAll, if_neg elsewhere, List.append_nil]
  rfl

theorem textsIn_secondary :
    (secondary options tables).inSection kind =
      textsIn kind (tables.flatMap secondaryFragments) := by
  rw [secondary, inSection_pushAll]
  rfl

end Texts

/-- One artifact arises from another when the fragments of a table are put between those of the
tables before it and after it, section by section. -/
structure Inserted (fragments : ResolvedTable → List Fragment) (table : ResolvedTable)
    (before after : List ResolvedTable) (artifact grown : Artifact) : Prop where
  description : grown.description = artifact.description
  imports : grown.imports = artifact.imports
  /-- The function `load_all` is no fragment of one table. -/
  sections : ∀ kind, kind ≠ .loadAll →
    artifact.inSection kind =
      textsIn kind (before.flatMap fragments) ++ textsIn kind (after.flatMap fragments) ∧
    grown.inSection kind =
      textsIn kind (before.flatMap fragments) ++ textsIn kind (fragments table) ++
        textsIn kind (after.flatMap fragments)

/-- One more table has been put into two artifacts between those before it and after it. -/
structure TableInserted (table : ResolvedTable) (before after : List ResolvedTable)
    (first second grownFirst grownSecond : Artifact) : Prop where
  primary : Inserted primaryFragments table before after first grownFirst
  secondary : Inserted secondaryFragments table before after second grownSecond
  /-- The lines of the table are put into the body of `load_all`. -/
  loads : first.inSection .loadAll = [loadAllAround (loadLines before ++ loadLines after)] ∧
    grownFirst.inSection .loadAll =
      [loadAllAround (loadLines before ++ loadLines [table] ++ loadLines after)]
  /-- These are its call, and a comment if it depends on others. -/
  lines : (loadLines [table]).length = if table.entry.depend.isEmpty then 1 else 2
  unloaded : second.inSection .loadAll = [] ∧ grownSecond.inSection .loadAll = []

section Insertion

variable (options : EmitOptions) (table : ResolvedTable) (before after : List ResolvedTable)

theorem flatMap_inserted (fragments : ResolvedTable → List Fragment) (kind : Section) :
    textsIn kind ((before ++ table :: after).flatMap fragments) =
      textsIn kind (before.flatMap fragments) ++ textsIn kind (fragments table) ++
        textsIn kind (after.flatMap fragments) := by
  rw [List.flatMap_append, List.flatMap_cons, textsIn_append, textsIn_append, List.append_assoc]

theorem inserted_primary : Inserted primaryFragments table before after
    (primary options (before ++ after)) (primary options (before ++ table :: after)) where
  description := by simp only [primary, pushAll_eq, Artifact.push]
  imports := by simp only [primary, pushAll_eq, Artifact.push]
  sections kind other := by
    rw [textsIn_primary _ _ _ other, textsIn_primary _ _ _ other, flatMap_inserted,
      List.flatMap_append, textsIn_append]
    exact ⟨rfl, rfl⟩

theorem inserted_secondary : Inserted secondaryFragments table before after
    (secondary options (before ++ after)) (secondary options (before ++ table :: after)) where
  description := by simp only [secondary, pushAll_eq]
  imports := by simp only [secondary, pushAll_eq]
  sections kind _ := by
    rw [textsIn_secondary, textsIn_secondary, flatMap_inserted, List.flatMap_append,
      textsIn_append]
    exact ⟨rfl, rfl⟩

theorem tableInserted : TableInserted table before after
    (primary options (before ++ after)) (secondary options (before ++ after))
    (primary options (before ++ table :: after))
    (secondary options (before ++ table :: after)) where
  primary := inserted_primary options table before after
  secondary := inserted_secondary options table before after
  loads := by
    have split : before ++ table :: after = before ++ [table] ++ after := by simp
    rw [loadAll_primary, loadAll_primary, split, loadLines_append, loadLines_append,
      loadLines_append]
    exact ⟨rfl, rfl⟩
  lines := by
    rw [loadLines, List.flatMap_singleton, LoadLine.ofTable]
    split <;> rfl
  unloaded := by simp [inSection_secondary, secondaryTexts]

end Insertion

section Order

variable {table : ResolvedTable} {tables larger before after : List ResolvedTable}

theorem ordered_eq
    (ascending : (before ++ after).Pairwise fun left right => left.name < right.name)
    (same : (before ++ after).Perm tables) : ordered tables = before ++ after :=
  sorted_eq ResolvedTable.name ascending same

/-- Tables with different names are ordered to the same list, however they are listed. -/
theorem ordered_congr (different : (tables.map ResolvedTable.name).Nodup)
    (same : larger.Perm tables) : ordered larger = ordered tables :=
  sorted_eq ResolvedTable.name (ascending_sorted ResolvedTable.name different)
    ((List.mergeSort_perm tables _).trans same.symm)

/-- One more table is put into the order between the names before its own and those after it. -/
theorem exists_place (different : (tables.map ResolvedTable.name).Nodup)
    (fresh : table.name ∉ tables.map ResolvedTable.name) (same : larger.Perm (table :: tables)) :
    ∃ before after, ordered tables = before ++ after ∧
      ordered larger = before ++ table :: after ∧
      (before ++ table :: after).Pairwise fun left right => left.name < right.name := by
  have names : (larger.map ResolvedTable.name).Nodup :=
    (same.map ResolvedTable.name).nodup_iff.mpr (List.nodup_cons.mpr ⟨fresh, different⟩)
  have ascending := ascending_sorted ResolvedTable.name names
  have listed : (ordered larger).Perm (table :: tables) :=
    (List.mergeSort_perm larger _).trans same
  obtain ⟨before, after, split⟩ :=
    List.append_of_mem (listed.mem_iff.mpr List.mem_cons_self)
  rw [split] at listed
  change (ordered larger).Pairwise _ at ascending
  rw [split] at ascending
  have fewer : (before ++ after).Sublist (before ++ table :: after) :=
    (List.sublist_cons_self table after).append_left before
  refine ⟨before, after, ?_, split, ascending⟩
  exact ordered_eq (ascending.sublist fewer)
    (List.perm_middle.symm.trans listed).cons_inv

end Order

/-- Emission is the same for every order of tables with different names. One more table is put
into each section and into `load_all` at the place of its name, and all else stays. -/
theorem emit_local (options : EmitOptions) {diagnostics : Diagnostics}
    (sound : diagnostics.isFatal = false) {tables : List ResolvedTable}
    (different : (tables.map ResolvedTable.name).Nodup) :
    (∀ others : List ResolvedTable, others.Perm tables →
      emit options diagnostics others = emit options diagnostics tables) ∧
    ∀ (table : ResolvedTable) (larger : List ResolvedTable),
      table.name ∉ tables.map ResolvedTable.name → larger.Perm (table :: tables) →
      ∃ (before after : List ResolvedTable) (first second grownFirst grownSecond : Artifact),
        (before ++ after).Perm tables ∧
        (before ++ table :: after).Pairwise (fun left right => left.name < right.name) ∧
        emit options diagnostics tables = .ok ⟨first.render, second.render⟩ ∧
        emit options diagnostics larger = .ok ⟨grownFirst.render, grownSecond.render⟩ ∧
        TableInserted table before after first second grownFirst grownSecond := by
  have emits : ∀ all, emit options diagnostics all = .ok ⟨(primary options (ordered all)).render,
      (secondary options (ordered all)).render⟩ := by
    intro all
    rw [emit, sound]
    rfl
  constructor
  · intro others same
    rw [emits, emits, ordered_congr different same]
  · intro table larger fresh same
    obtain ⟨before, after, smaller, grown, ascending⟩ := exists_place different fresh same
    refine ⟨before, after, _, _, _, _, ?_, ascending, emits tables, emits larger, ?_⟩
    · rw [← smaller]
      exact List.mergeSort_perm tables _
    · rw [smaller, grown]
      exact tableInserted options table before after

/-- A table with a key of its own and no slices. -/
def plainTable (name storage : String) : ResolvedTable where
  entry := { name }
  storageVariable := storage
  key := ⟨⟨"id", "i32", .integer, KeyKind.ofTypeName_i32⟩, [], false⟩
  capabilities := {}

/-- The comment and the call of a table are put between the calls of the others. -/
theorem emit_local_between :
    let item := plainTable "Item" "TABLE_ITEM"
    let zone := plainTable "Zone" "TABLE_ZONE"
    Diagnostics.isFatal [] = false ∧ ([zone, item].map ResolvedTable.name).Nodup ∧
      [item, zone].Perm [zone, item] ∧
      emit {} [] [item, zone] = emit {} [] [zone, item] ∧
      monsterTable.name ∉ [zone, item].map ResolvedTable.name ∧
      ∃ grownFirst grownSecond : Artifact,
        emit {} [] [monsterTable, zone, item] =
          .ok ⟨grownFirst.render, grownSecond.render⟩ ∧
        grownFirst.inSection .loadAll = [loadAllAround ["    load_item()?;",
          "    // Monster depends on: Item", "    load_monster()?;", "    load_zone()?;"]] ∧
        grownSecond.inSection .afterLoad = [Text.ofLines (afterLoadLines item),
          Text.ofLines (afterLoadLines monsterTable), Text.ofLines (afterLoadLines zone)] := by
  intro item zone
  have sound : Diagnostics.isFatal [] = false := rfl
  have different : ([zone, item].map ResolvedTable.name).Nodup := by decide
  have swapped : [item, zone].Perm [zone, item] := .swap zone item []
  have fresh : monsterTable.name ∉ [zone, item].map ResolvedTable.name := by decide
  obtain ⟨every, insertion⟩ := emit_local {} sound different
  obtain ⟨before, after, _, _, grownFirst, grownSecond, others, ascending, _, emitted, inserted⟩ :=
    insertion monsterTable [monsterTable, zone, item] fresh (.refl _)
  have placed : before ++ monsterTable :: after = [item] ++ monsterTable :: [zone] := by
    have listed : ([item] ++ monsterTable :: [zone]).Perm (before ++ monsterTable :: after) := by
      refine (List.Perm.swap monsterTable item [zone]).trans (.trans ?_ List.perm_middle.symm)
      exact (swapped.trans others.symm).cons monsterTable
    exact (sorted_eq ResolvedTable.name ascending (.refl _)).symm.trans
      (sorted_eq ResolvedTable.name (by decide) listed)
  have first : monsterTable ∉ [item] := by decide
  have last : monsterTable ∉ [zone] := by decide
  obtain ⟨rfl, _, rfl⟩ := (List.append_cons_inj_of_notMem first last).mp placed.symm
  have lines : loadLines [item] ++ loadLines [monsterTable] ++ loadLines [zone] =
      ["    load_item()?;", "    // Monster depends on: Item", "    load_monster()?;",
        "    load_zone()?;"] := by decide +kernel
  have own : ∀ table, textsIn .afterLoad (secondaryFragments table) =
      [Text.ofLines (afterLoadLines table)] :=
    fun table => secondaryFragments_texts table .afterLoad
  have hooks := (inserted.secondary.sections .afterLoad (by decide)).2
  rw [List.flatMap_singleton, List.flatMap_singleton, own, own, own] at hooks
  have calls := inserted.loads.2
  rw [lines] at calls
  exact ⟨sound, different, swapped, every _ swapped, fresh, grownFirst, grownSecond, emitted,
    calls, hooks⟩

end Tablewright.Emission
