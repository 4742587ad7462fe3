import Mathlib.Data.List.Perm.Basic
import Tablewright.Proofs.Emission.Sections
import Tablewright.Proofs.Except
import Tablewright.Proofs.Introspection.Tables
import Tablewright.Proofs.Text.SnakeCase

namespace Tablewright.Emission

/-- This function is the name of the function that a line declares at its margin, if it declares
one. The name ends before the parameters. -/
def declared? (line : String) : Option String :=
  if "pub fn ".toList.isPrefixOf line.toList then
    some (String.ofList ((line.toList.drop "pub fn ".toList.length).takeWhile (· != '(')))
  else none

/-- This function lists the functions that lines declare at their margin. A line is read as a whole,
also where a text in it has a line feed. -/
def declarations (lines : List String) : List String :=
  lines.filterMap declared?

section Declarations

theorem declared_function {kind ending : String} (kindPlain : '(' ∉ kind.toList)
    (endingPlain : '(' ∉ ending.toList) (rest : String) :
    declared? ("pub fn " ++ kind ++ ending ++ "(" ++ rest) = some (kind ++ ending) := by
  have kept : ∀ character ∈ kind.toList ++ ending.toList, (character != '(') = true := by
    intro character inside
    rw [bne_iff_ne]
    rintro rfl
    exact (List.mem_append.mp inside).elim kindPlain endingPlain
  have spelled : ("pub fn " ++ kind ++ ending ++ "(" ++ rest).toList =
      "pub fn ".toList ++ ((kind.toList ++ ending.toList) ++ '(' :: rest.toList) := by
    simp only [String.toList_append, List.append_assoc]
    rfl
  have leads : "pub fn ".toList.isPrefixOf ("pub fn " ++ kind ++ ending ++ "(" ++ rest).toList =
      true := by
    rw [spelled, List.isPrefixOf_iff_prefix]
    exact List.prefix_append ..
  rw [declared?, if_pos leads, spelled, List.drop_left, List.takeWhile_append_of_pos kept]
  simp

/-- A line with another start declares nothing. -/
theorem declared_none {line : String} (other : line.toList.head? ≠ some 'p') :
    declared? line = none := by
  apply if_neg
  rw [List.isPrefixOf_iff_prefix]
  rintro ⟨rest, spelled⟩
  exact other (spelled ▸ rfl)

theorem declarations_none {lines : List String}
    (other : ∀ line ∈ lines, line.toList.head? ≠ some 'p') : declarations lines = [] :=
  List.filterMap_eq_nil_iff.mpr fun line inside => declared_none (other line inside)

/-- A declaration stands between lines that declare nothing. -/
theorem declarations_one (before : List String) {line : String} {after : List String}
    {name : String} (found : declared? line = some name)
    (beforeOther : ∀ line ∈ before, line.toList.head? ≠ some 'p')
    (afterOther : ∀ line ∈ after, line.toList.head? ≠ some 'p') :
    declarations (before ++ line :: after) = [name] := by
  have first := declarations_none beforeOther
  have last := declarations_none afterOther
  unfold declarations at first last ⊢
  rw [List.filterMap_append, List.filterMap_cons_some found, first, last]
  rfl

variable (table : ResolvedTable)

/-- The calls and the comments in the body are indented. -/
theorem declarations_loadAll (tables : List ResolvedTable) :
    declarations (loadAllLines tables) = ["load_all"] := by
  have found : declared? "pub fn load_all() -> Result<(), TableError> \x7b" = some "load_all" :=
    @declared_function "load_" "all" (by decide) (by decide) ") -> Result<(), TableError> \x7b"
  have lines : loadAllLines tables = ["/// Loads every table."] ++
      "pub fn load_all() -> Result<(), TableError> \x7b" ::
        ((tables.flatMap LoadLine.ofTable).map LoadLine.render ++ ["    Ok(())", "\x7d"]) := rfl
  rw [lines]
  apply declarations_one _ found
  · simp
  · rw [List.forall_mem_append]
    constructor
    · intro line inside
      obtain ⟨called, _, rfl⟩ := List.mem_map.mp inside
      cases called <;> simp [LoadLine.render]
    · simp

theorem declarations_loader :
    declarations (Loader.ofTable table).lines = ["load_" ++ Naming.functionSuffix table.name] := by
  have found : declared? ("pub fn load_" ++ Naming.functionSuffix table.name ++
      "() -> Result<(), TableError> \x7b") =
        some ("load_" ++ Naming.functionSuffix table.name) := by
    have lead : "pub fn load_" = "pub fn " ++ "load_" := by decide
    have tail : "() -> Result<(), TableError> \x7b" =
        "(" ++ ") -> Result<(), TableError> \x7b" := by decide
    rw [lead, tail, ← String.append_assoc]
    exact declared_function (by decide) (parenthesis_functionSuffix _) _
  exact declarations_one [_] found (by simp) (by simp)

theorem declarations_keyMethod : declarations (keyMethodLines table) = [] := by
  apply declarations_none
  simp [keyMethodLines]

theorem declarations_accessor :
    declarations (accessorLines table) = ["get_" ++ Naming.functionSuffix table.name] := by
  have found : declared? ("pub fn get_" ++ Naming.functionSuffix table.name ++ "(" ++
      renderParameters (accessorParameters table.key) ++ ") -> Option<Arc<" ++ table.name ++
      ">> \x7b") = some ("get_" ++ Naming.functionSuffix table.name) := by
    have lead : "pub fn get_" = "pub fn " ++ "get_" := by decide
    rw [lead]
    simpa only [String.append_assoc] using declared_function (by decide)
      (parenthesis_functionSuffix table.name) (renderParameters (accessorParameters table.key) ++
        ") -> Option<Arc<" ++ table.name ++ ">> \x7b")
  apply declarations_one [] found (by simp)
  cases (accessorLookup table.key).renderBinding? <;> simp

theorem declarations_snapshot {snapshot : Snapshot} (plain : '(' ∉ snapshot.function.toList) :
    declarations snapshot.lines = [snapshot.function] := by
  have found : declared? ("pub fn " ++ snapshot.function ++ "() -> Arc<" ++ snapshot.typeName ++
      "> \x7b") = some snapshot.function := by
    have tail : "() -> Arc<" = "(" ++ ") -> Arc<" := by decide
    rw [tail]
    simpa only [String.append_assoc, String.empty_append] using
      @declared_function "" snapshot.function (by decide) plain
        (") -> Arc<" ++ snapshot.typeName ++ "> \x7b")
  exact declarations_one [] found (by simp) (by simp)

/-- The snapshot of all rows comes first, and those of slices follow in their order. -/
theorem declarations_snapshots :
    declarations (snapshotLines table) = ("get_all_" ++ Naming.functionSuffix table.name) ::
      (Slice.ofTable table).map Slice.accessor := by
  have rows : declarations (Snapshot.ofTable table).lines =
      ["get_all_" ++ Naming.functionSuffix table.name] := by
    apply declarations_snapshot
    simpa [Snapshot.ofTable] using parenthesis_functionSuffix table.name
  have slices : declarations ((Snapshot.ofVariants table).flatMap fun snapshot =>
      "" :: snapshot.lines) = (Slice.ofTable table).map Slice.accessor := by
    have each : ∀ slice ∈ Slice.ofTable table,
        ("" :: slice.snapshot.lines).filterMap declared? = [slice.accessor] := by
      intro slice inside
      obtain ⟨index, _, inside⟩ := List.mem_flatMap.mp inside
      obtain ⟨variant, _, rfl⟩ := List.mem_map.mp inside
      exact declarations_snapshot (parenthesis_accessorName index.pattern variant)
    rw [declarations, Slice.snapshots_ofTable, List.flatMap_map, List.filterMap_flatMap,
      List.flatMap_congr each, List.map_eq_flatMap]
  unfold declarations at rows slices ⊢
  rw [snapshotLines, List.filterMap_append, rows, slices]
  rfl

end Declarations

/-- This function lists the code in a section of the primary artifact by its lines. The other
sections hold types and statics. -/
def functionCode (tables : List ResolvedTable) : Section → List (List String)
  | .loadAll => [loadAllLines tables]
  | .loaders => tables.map fun table => (Loader.ofTable table).lines
  | .getKey => (tables.filter fun table => table.key.explicit).map keyMethodLines
  | .accessors => tables.map accessorLines
  | .getAll => tables.map snapshotLines
  | _ => []

/-- This function lists the functions that the primary artifact declares at the top level, in the
order of their sections. -/
def declaredFunctions (tables : List ResolvedTable) : List String :=
  Section.all.flatMap fun kind => (functionCode tables kind).flatMap declarations

/-- This function lists the function suffixes of tables. -/
def suffixes (tables : List ResolvedTable) : List String :=
  tables.map fun table => Naming.functionSuffix table.name

/-- Three functions of every table and the one that loads all tables are named by templates. -/
def templateNames (tables : List ResolvedTable) : List String :=
  "load_all" :: ((suffixes tables).map ("load_" ++ ·) ++ (suffixes tables).map ("get_" ++ ·) ++
    (suffixes tables).map ("get_all_" ++ ·))

/-- Every slice has one more function. -/
def sliceNames (tables : List ResolvedTable) : List String :=
  tables.flatMap fun table => (Slice.ofTable table).map Slice.accessor

section Functions

variable (options : EmitOptions) (tables : List ResolvedTable)

theorem inSection_functionCode {kind : Section} (noTypes : kind ≠ .mapTypes)
    (noStatics : kind ≠ .storage) :
    (primary options tables).inSection kind = (functionCode tables kind).map Text.ofLines := by
  have keyMethods : (tables.flatMap fun table => primaryTexts table .getKey) =
      (functionCode tables .getKey).map Text.ofLines := by
    have written := inSection_getKey options tables
    rw [inSection_primary, if_neg (by decide), List.append_nil] at written
    rw [written, functionCode, List.map_map]
    rfl
  rw [inSection_primary]
  cases kind <;>
    simp_all [primaryTexts, functionCode, ← List.map_eq_flatMap]

theorem declaredFunctions_eq : declaredFunctions tables =
    "load_all" :: ((suffixes tables).map ("load_" ++ ·) ++ (suffixes tables).map ("get_" ++ ·) ++
      tables.flatMap fun table => ("get_all_" ++ Naming.functionSuffix table.name) ::
        (Slice.ofTable table).map Slice.accessor) := by
  have keyMethods : (functionCode tables .getKey).flatMap declarations = [] := by
    rw [functionCode, List.flatMap_map, List.flatMap_eq_nil_iff]
    intro table _
    exact declarations_keyMethod table
  have loaders : (functionCode tables .loaders).flatMap declarations =
      (suffixes tables).map ("load_" ++ ·) := by
    simp [functionCode, suffixes, List.flatMap_map, declarations_loader, ← List.map_eq_flatMap]
  have accessors : (functionCode tables .accessors).flatMap declarations =
      (suffixes tables).map ("get_" ++ ·) := by
    simp [functionCode, suffixes, List.flatMap_map, declarations_accessor, ← List.map_eq_flatMap]
  have snapshots : (functionCode tables .getAll).flatMap declarations =
      tables.flatMap fun table => ("get_all_" ++ Naming.functionSuffix table.name) ::
        (Slice.ofTable table).map Slice.accessor := by
    simp [functionCode, List.flatMap_map, declarations_snapshots]
  simp only [declaredFunctions, Section.all, List.flatMap_cons, loaders, keyMethods, accessors,
    snapshots]
  simp [functionCode, declarations_loadAll]

theorem declaredFunctions_perm :
    (declaredFunctions tables).Perm (templateNames tables ++ sliceNames tables) := by
  have snapshots := List.map_append_flatMap_perm tables
    (fun table => "get_all_" ++ Naming.functionSuffix table.name)
    fun table => (Slice.ofTable table).map Slice.accessor
  rw [declaredFunctions_eq, templateNames, sliceNames, List.cons_append, List.append_assoc]
  apply List.Perm.cons
  rw [List.append_assoc, List.append_assoc]
  refine List.Perm.append_left _ (List.Perm.append_left _ ?_)
  simpa [suffixes, List.map_map, Function.comp_def] using snapshots.symm

/-- Different suffixes go with different names of one template. -/
theorem template_nodup {endings : List String} (apart : endings.Nodup) (lead : String) :
    (endings.map (lead ++ ·)).Nodup :=
  apart.map fun _ _ same => String.append_right_inj lead |>.mp same

/-- Loaders are told apart from other functions by their first letter. -/
theorem load_ne_get (left right : String) : "load_" ++ left ≠ "get_" ++ right := by
  intro same
  have heads := congrArg (fun text => text.toList.head?) same
  simp at heads

/-- The only names that two templates share are those of `load_all` and of the snapshots of all
rows. -/
theorem templateNames_nodup_iff (apart : (suffixes tables).Nodup) :
    (templateNames tables).Nodup ↔ "all" ∉ suffixes tables ∧
      ∀ suffix ∈ suffixes tables, "all_" ++ suffix ∉ suffixes tables := by
  have all : "load_all" = "load_" ++ "all" := by decide
  have rows : "get_all_" = "get_" ++ "all_" := by decide
  have loaders := template_nodup apart "load_"
  have accessors := template_nodup apart "get_"
  have snapshots := template_nodup apart "get_all_"
  rw [templateNames, List.nodup_cons, List.nodup_append, List.nodup_append]
  constructor
  · rintro ⟨notAll, ⟨_, _, _⟩, _, disjoint⟩
    constructor
    · intro inside
      rw [List.append_assoc] at notAll
      exact notAll (List.mem_append_left _ (List.mem_map.mpr ⟨"all", inside, all.symm⟩))
    · intro suffix inside taken
      have accessor := List.mem_map_of_mem (f := ("get_" ++ ·)) taken
      have snapshot := List.mem_map_of_mem (f := ("get_all_" ++ ·)) inside
      refine disjoint _ (List.mem_append_right _ accessor) _ snapshot ?_
      rw [rows, String.append_assoc]
  · rintro ⟨notAll, notRows⟩
    have loadsOnly : ∀ left, ∀ name ∈ (suffixes tables).map ("get_" ++ ·) ++
        (suffixes tables).map ("get_all_" ++ ·), "load_" ++ left ≠ name := by
      intro left name inside
      rcases List.mem_append.mp inside with one | all <;>
        obtain ⟨suffix, _, rfl⟩ := List.mem_map.mp ‹_›
      · exact load_ne_get left suffix
      · rw [rows, String.append_assoc]
        exact load_ne_get left _
    refine ⟨?_, ⟨loaders, accessors, ?_⟩, snapshots, ?_⟩
    · rw [List.append_assoc, all]
      intro inside
      rcases List.mem_append.mp inside with loader | other
      · obtain ⟨suffix, inside, same⟩ := List.mem_map.mp loader
        exact notAll ((String.append_right_inj "load_").mp same ▸ inside)
      · exact loadsOnly "all" _ other rfl
    · intro name loader other accessor
      obtain ⟨suffix, _, rfl⟩ := List.mem_map.mp loader
      exact loadsOnly suffix other (List.mem_append_left _ accessor)
    · intro name other snapshot among same
      obtain ⟨suffix, inside, rfl⟩ := List.mem_map.mp among
      rcases List.mem_append.mp other with loader | accessor
      · obtain ⟨left, _, rfl⟩ := List.mem_map.mp loader
        exact loadsOnly left _ (List.mem_append_right _ among) same
      · obtain ⟨left, taken, rfl⟩ := List.mem_map.mp accessor
        rw [rows, String.append_assoc] at same
        exact notRows suffix inside ((String.append_right_inj "get_").mp same ▸ taken)

/-- Suffixes and slices are distinct when no name of a function is made twice of them. -/
structure Distinct (tables : List ResolvedTable) : Prop where
  /-- No table has the loader or the accessor that `load_all` and all rows take. -/
  notAll : "all" ∉ suffixes tables
  /-- No accessor of a table is the snapshot of all rows of another. -/
  notRows : ∀ suffix ∈ suffixes tables, "all_" ++ suffix ∉ suffixes tables
  slices : (sliceNames tables).Nodup
  notSlices : ∀ name ∈ sliceNames tables, name ∉ templateNames tables

theorem declaredFunctions_nodup_iff (apart : (suffixes tables).Nodup) :
    (declaredFunctions tables).Nodup ↔ Distinct tables := by
  rw [(declaredFunctions_perm tables).nodup_iff, List.nodup_append,
    templateNames_nodup_iff tables apart]
  constructor
  · rintro ⟨⟨notAll, notRows⟩, slices, others⟩
    exact ⟨notAll, notRows, slices, fun name slice template => others name template name slice rfl⟩
  · rintro ⟨notAll, notRows, slices, notSlices⟩
    refine ⟨⟨notAll, notRows⟩, slices, ?_⟩
    rintro name template _ slice rfl
    exact notSlices name slice template

end Functions

open Introspection (introspect finish probeAll)

section Directory

variable {listing : Except FileError (List DirectoryEntry)}
  {read : FilePath → Except FileError String} {directory : FilePath}
  {options : IntrospectionOptions} {tables : List ResolvedTable}

theorem suffixes_of_finish {sources : SourceSet} {marker : String} {context : Context}
    (ended : (finish sources marker context).outcome = .ok tables) : (suffixes tables).Nodup := by
  unfold finish at ended
  cases resolution : KeyResolution.resolve sources marker context with
  | mk outcome resolved =>
      rw [resolution] at ended
      cases outcome with
      | error error => cases ended
      | ok keys =>
          dsimp only at ended
          split at ended
          case isTrue =>
            cases ended
            exact List.nodup_nil
          case isFalse =>
            cases ended
            have same : suffixes (probeAll sources keys resolved).1 =
                keys.map fun other => Naming.functionSuffix other.entry.name := by
              have entries := congrArg (List.map fun entry => Naming.functionSuffix entry.name)
                (Introspection.probeAll_entries sources keys resolved)
              rwa [List.map_map, List.map_map] at entries
            rw [same]
            refine KeyResolution.resolveAfter_suffixes ?_ resolution
            exact List.nodup_nil

/-- The tables of a directory have different function suffixes. -/
theorem suffixes_of_introspect
    (ended : (introspect listing read directory options).outcome = .ok tables) :
    (suffixes tables).Nodup := by
  unfold introspect at ended
  cases listing with
  | error cause => cases ended
  | ok entries => exact suffixes_of_finish ended

/-- The tables of a directory are in the order of emission already. -/
theorem ordered_of_introspect
    (ended : (introspect listing read directory options).outcome = .ok tables) :
    ordered tables = tables := by
  apply List.mergeSort_of_pairwise
  rcases Introspection.introspect_complete ended with complete | refused
  · refine (List.pairwise_map.mp complete.ascending).imp fun before => ?_
    exact decide_eq_true (le_of_lt before)
  · rw [refused.none]
    exact List.Pairwise.nil

/-- The functions of the primary artifact have different names exactly when the names of tables and
slices are distinct. A directory that ends without errors gives different suffixes only. -/
theorem functions_distinct_iff
    (ended : (introspect listing read directory options).outcome = .ok tables)
    (clean : (introspect listing read directory options).context.isFatal = false)
    (emission : EmitOptions) :
    (∃ artifacts, emit emission (introspect listing read directory options).context.diagnostics
        tables = .ok artifacts ∧ artifacts.primary = (primary emission tables).render) ∧
    (∀ kind, kind ≠ .mapTypes → kind ≠ .storage → (primary emission tables).inSection kind =
      (functionCode tables kind).map Text.ofLines) ∧
    (declaredFunctions tables).Perm (templateNames tables ++ sliceNames tables) ∧
    (suffixes tables).Nodup ∧
    ((declaredFunctions tables).Nodup ↔ Distinct tables) := by
  have apart := suffixes_of_introspect ended
  refine ⟨⟨⟨(primary emission tables).render, (secondary emission tables).render⟩, ?_, rfl⟩,
    fun kind => inSection_functionCode emission tables, declaredFunctions_perm tables, apart,
    declaredFunctions_nodup_iff tables apart⟩
  rw [emit, ordered_of_introspect ended]
  exact if_neg (Bool.eq_false_iff.mp clean)

end Directory

/-- This directory has a table with a slice. -/
def monsterDirectory : Introspection :=
  Introspection.ofText
    "/* @Monster */ struct Monster { id: u8 } impl Monster { fn key_slice() {} }"

/-- Five functions have different names. -/
theorem functions_distinct_iff_monster : ∃ tables, monsterDirectory.outcome = .ok tables ∧
    monsterDirectory.context.isFatal = false ∧ (declaredFunctions tables).Nodup ∧
    Distinct tables := by
  have names : monsterDirectory.outcome.map declaredFunctions =
      .ok ["load_all", "load_monster", "get_monster", "get_all_monster", "monster_key_slice"] := by
    decide +kernel
  have clean : monsterDirectory.context.isFatal = false := by decide +kernel
  obtain ⟨tables, ended, declared⟩ := of_map_ok names
  have nodup : (declaredFunctions tables).Nodup := by
    rw [declared]
    decide
  exact ⟨tables, ended, clean, nodup,
    (functions_distinct_iff ended clean {}).2.2.2.2.mp nodup⟩

/-- This directory has a table whose loader is named like the one of all tables. -/
def allDirectory : Introspection :=
  Introspection.ofText "/* @All */ struct All { id: u8 }"

/-- The directory ends without errors, and `load_all` is declared twice. -/
theorem all_loads_twice :
    (∃ tables, allDirectory.outcome = .ok tables ∧ allDirectory.context.isFatal = false ∧
      declaredFunctions tables = ["load_all", "load_all", "get_all", "get_all_all"]) ∧
    ¬ ∀ listing read directory options tables,
      (introspect listing read directory options).outcome = .ok tables →
      (introspect listing read directory options).context.isFatal = false →
      (declaredFunctions tables).Nodup := by
  have names : allDirectory.outcome.map declaredFunctions =
      .ok ["load_all", "load_all", "get_all", "get_all_all"] := by decide +kernel
  have clean : allDirectory.context.isFatal = false := by decide +kernel
  obtain ⟨tables, ended, declared⟩ := of_map_ok names
  refine ⟨⟨tables, ended, clean, declared⟩, fun distinct => ?_⟩
  have nodup := distinct _ _ _ _ tables ended clean
  rw [declared] at nodup
  exact absurd nodup (by decide)

end Tablewright.Emission
