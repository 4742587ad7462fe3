import Tablewright.Proofs.Emission.KeyAgreement
import Tablewright.Proofs.Emission.Sections
import Tablewright.Proofs.Text.Decimal

namespace Tablewright.Emission

/-- This function writes lines, each of them with a line feed behind it. -/
def written (lines : List String) : String :=
  String.join (lines.map fun line => line ++ "\n")

/-- This function reads a function that shares the value of a static. -/
def readSnapshot? (header body : String) : Option Snapshot := do
  let inner ← between? "pub fn " "> \x7b" header
  let function := inner.toList.takeWhile (· != '(')
  let typeName ← between? "() -> Arc<" "" (String.ofList (inner.toList.drop function.length))
  let storage ← between? "    Arc::clone(&" ".read().unwrap_or_else(PoisonError::into_inner))" body
  some ⟨String.ofList function, typeName, storage⟩

/-- This function reads functions with an empty line between neighbours. -/
def readSnapshots? : List String → Option (List Snapshot)
  | [header, body, "\x7d"] => do some [← readSnapshot? header body]
  | header :: body :: "\x7d" :: "" :: rest => do
      let snapshot ← readSnapshot? header body
      some (snapshot :: (← readSnapshots? rest))
  | _ => none

/-- This is the code that a table brings into the two artifacts. -/
structure TableCode where
  mapType : String
  static : String
  loader : List String
  keyMethod? : Option (List String)
  snapshots : List String
  sliceTypes : List String
  sliceStatics : List String
  hook : List String

/-- This is the code of a table. -/
def TableCode.ofTable (table : ResolvedTable) : TableCode where
  mapType := renderMapType table
  static := renderStatic table.storageVariable (mapTypeName table)
  loader := (Loader.ofTable table).lines
  keyMethod? := if table.key.explicit then some (keyMethodLines table) else none
  snapshots := snapshotLines table
  sliceTypes := (Slice.ofTable table).map (Slice.renderType table)
  sliceStatics := (Slice.ofTable table).map fun slice => renderStatic slice.storage slice.typeName
  hook := afterLoadLines table

section Calls

variable {front behind line : String}

end Calls

namespace Statement

/-- This function is the snapshot that a statement takes. -/
def taken? : Statement → Option String
  | .snapshot suffix => some ("get_all_" ++ suffix)
  | _ => none

end Statement

section Bodies

variable (table : ResolvedTable)

end Bodies

section Snapshots

variable {table : ResolvedTable}

/-- A function that shares a static is read back if its name has no parenthesis. -/
theorem readSnapshot_lines {snapshot : Snapshot} (plain : '(' ∉ snapshot.function.toList) :
    readSnapshot? ("pub fn " ++ snapshot.function ++ "() -> Arc<" ++ snapshot.typeName ++ "> \x7b")
      ("    Arc::clone(&" ++ snapshot.storage ++
        ".read().unwrap_or_else(PoisonError::into_inner))") = some snapshot := by
  have header : between? "pub fn " "> \x7b" ("pub fn " ++ snapshot.function ++ "() -> Arc<" ++
      snapshot.typeName ++ "> \x7b") =
        some (snapshot.function ++ ("() -> Arc<" ++ snapshot.typeName)) := by
    have found := between_found "pub fn "
      (snapshot.function ++ ("() -> Arc<" ++ snapshot.typeName)) "> \x7b"
    simpa only [String.append_assoc] using found
  have kept : ∀ character ∈ snapshot.function.toList, (character != '(') = true := by
    intro character inside
    rw [bne_iff_ne]
    rintro rfl
    exact plain inside
  have name : (snapshot.function ++ ("() -> Arc<" ++ snapshot.typeName)).toList.takeWhile
      (· != '(') = snapshot.function.toList := by
    rw [String.toList_append, List.takeWhile_append_of_pos kept]
    simp
  have rest : String.ofList ((snapshot.function ++ ("() -> Arc<" ++ snapshot.typeName)).toList.drop
      snapshot.function.toList.length) = "() -> Arc<" ++ snapshot.typeName := by
    rw [String.toList_append, List.drop_left, String.ofList_toList]
  have typed : between? "() -> Arc<" "" ("() -> Arc<" ++ snapshot.typeName) =
      some snapshot.typeName := by
    simpa using between_found "() -> Arc<" snapshot.typeName ""
  simp only [readSnapshot?, header, Option.bind_eq_bind, Option.bind_some, name, rest, typed,
    between_found, String.ofList_toList]

/-- Functions that are written one after the other are read back. -/
theorem readSnapshots_lines {first : Snapshot} {rest : List Snapshot}
    (plain : ∀ snapshot ∈ first :: rest, '(' ∉ snapshot.function.toList) :
    readSnapshots? (first.lines ++ rest.flatMap fun snapshot => "" :: snapshot.lines) =
      some (first :: rest) := by
  induction rest generalizing first with
  | nil => 
      rw [List.forall_mem_singleton] at plain
      rw [List.flatMap_nil, List.append_nil, Snapshot.lines, readSnapshots?,
        readSnapshot_lines plain]
      rfl
  | cons second others hypothesis =>
      rw [List.forall_mem_cons] at plain
      have later := hypothesis plain.2
      have step : readSnapshots? (first.lines ++ (second :: others).flatMap fun snapshot =>
          "" :: snapshot.lines) = (do
            let snapshot ← readSnapshot? ("pub fn " ++ first.function ++ "() -> Arc<" ++
              first.typeName ++ "> \x7b") ("    Arc::clone(&" ++ first.storage ++
                ".read().unwrap_or_else(PoisonError::into_inner))")
            some (snapshot :: (← readSnapshots? (second.lines ++ others.flatMap fun snapshot =>
              "" :: snapshot.lines)))) := rfl
      rw [step, readSnapshot_lines plain.1, later]
      rfl

end Snapshots

section Slices

variable {table : ResolvedTable}

end Slices

section Artifacts

variable (options : EmitOptions) (tables : List ResolvedTable)

/-- The functions of slices have names without parentheses. -/
theorem parenthesis_accessor {table : ResolvedTable} {slice : Slice}
    (inside : slice ∈ Slice.ofTable table) : '(' ∉ slice.accessor.toList := by
  obtain ⟨index, _, inside⟩ := List.mem_flatMap.mp inside
  obtain ⟨variant, _, rfl⟩ := List.mem_map.mp inside
  exact parenthesis_accessorName index.pattern variant

theorem snapshots_ofTable (table : ResolvedTable) :
    readSnapshots? (snapshotLines table) = some
      (Snapshot.ofTable table :: (Slice.ofTable table).map Slice.snapshot) := by
  rw [snapshotLines, Slice.snapshots_ofTable]
  refine readSnapshots_lines (List.forall_mem_cons.mpr ⟨?_, List.forall_mem_map.mpr ?_⟩)
  · rw [Snapshot.ofTable, String.toList_append, List.mem_append, not_or]
    exact ⟨by decide, parenthesis_functionSuffix table.name⟩
  · exact fun slice inside => parenthesis_accessor inside

end Artifacts

end Tablewright.Emission
