import Tablewright.Proofs.Text.Decimal
import Tablewright.Proofs.Emission.Sections
import Tablewright.Proofs.Emission.HookProgram

namespace Tablewright.Emission

/-- A variant has a position among the variants of its index, and a number among all variants of
its table. Positions are counted from zero and numbers from one. -/
structure Numbered (table : ResolvedTable) (index : SecondaryIndex) (variant : Variant)
    (position number : Nat) : Prop where
  counted : ∃ before after earlier later,
    table.capabilities.indexes = before ++ index :: after ∧
    index.variants = earlier ++ variant :: later ∧ position = earlier.length ∧
    number = (before.flatMap SecondaryIndex.variants).length + earlier.length + 1

/-- This function names the local slice of a variant by its number. -/
def sliceName (number : Nat) : String :=
  "slice_" ++ toString number

theorem sliceName_injective : Function.Injective sliceName := by
  intro first second same
  exact Text.natural_injective ((String.append_right_inj _).mp same)

namespace Holder

/-- This function is the holder of a variant. -/
def ofVariant (index : SecondaryIndex) (variant : Variant) (position number : Nat) : Holder where
  pattern := index.pattern
  position
  number
  typeName := variant.holderType index.pattern
  storage := variant.storageVariable index.pattern
  sorted := index.hasSort

/-- A numbered variant is listed with its position, after all variants with smaller numbers. -/
theorem exists_listed {table : ResolvedTable} {index : SecondaryIndex} {variant : Variant}
    {position number : Nat} (numbered : Numbered table index variant position number) :
    ∃ front back, table.capabilities.indexes.flatMap positions =
        front ++ (index, variant, position) :: back ∧ front.length + 1 = number := by
  obtain ⟨before, after, earlier, later, indexes, variants, rfl, rfl⟩ := numbered.counted
  have own : positions index = (earlier.zipIdx.map fun one => (index, one.1, one.2)) ++
      (index, variant, earlier.length) ::
        ((later.zipIdx (earlier.length + 1)).map fun one => (index, one.1, one.2)) := by
    rw [positions, variants, List.zipIdx_append, List.zipIdx_cons]
    simp
  have listed : table.capabilities.indexes.flatMap positions =
      (before.flatMap positions ++ earlier.zipIdx.map fun one => (index, one.1, one.2)) ++
        (index, variant, earlier.length) ::
          (((later.zipIdx (earlier.length + 1)).map fun one => (index, one.1, one.2)) ++
            after.flatMap positions) := by
    rw [indexes, List.flatMap_append, List.flatMap_cons, own]
    simp only [List.append_assoc, List.cons_append]
  exact ⟨_, _, listed, by simp [List.length_flatMap, positions]⟩

/-- A numbered variant has its holder at its number. -/
theorem exists_ofVariant {table : ResolvedTable} {index : SecondaryIndex} {variant : Variant}
    {position number : Nat} (numbered : Numbered table index variant position number) :
    ∃ front back, ofTable table = front ++ ofVariant index variant position number :: back ∧
      front.length + 1 = number := by
  obtain ⟨front, back, listed, rfl⟩ := exists_listed numbered
  rw [ofTable, listed, List.zipIdx_append, List.zipIdx_cons, List.map_append, List.map_cons,
    Nat.zero_add]
  exact ⟨_, _, rfl, by simp⟩

variable (table : ResolvedTable)

theorem numbers_ofTable :
    (ofTable table).map number = List.range' 1 (ofTable table).length := by
  rw [ofTable, List.map_map, List.length_map, List.length_zipIdx]
  have shifted : (List.range' 0 (table.capabilities.indexes.flatMap positions).length).map
      (1 + ·) = List.range' 1 (table.capabilities.indexes.flatMap positions).length :=
    List.map_add_range' ..
  rw [← shifted, ← List.zipIdx_map_snd, List.map_map]
  refine List.map_congr_left fun numbered _ => ?_
  exact Nat.add_comm _ _

/-- Every holder has a local slice of its own. -/
theorem slices_nodup : ((ofTable table).map slice).Nodup := by
  have named : (ofTable table).map slice = ((ofTable table).map number).map sliceName := by
    rw [List.map_map]
    rfl
  rw [named, numbers_ofTable]
  exact List.Nodup.map sliceName_injective List.nodup_range'

end Holder

/-- The parts of a program are what it declares, pushes, sorts and publishes. -/
structure Parts where
  declarations : List (String × String)
  pushes : List Push
  sorts : List SortCall
  publications : List (String × String)

/-- A program takes its snapshot, declares its slices, fills them in one loop, sorts and publishes
them, and calls the hook of the table if there is one. -/
def Parts.program (table : ResolvedTable) (parts : Parts) : List Command :=
  [.snapshot (Snapshot.ofTable table).function] ++
    parts.declarations.map (fun declared => .declare declared.1 declared.2) ++
    [.loop (parts.pushes.any Push.keyed) parts.pushes] ++
    parts.sorts.map .sort ++
    parts.publications.map (fun published => .publish published.1 published.2) ++
    if table.capabilities.hasAfterLoad then [.hook table.name "table"] else []

/-- These are the parts for the holders of a table. -/
def Parts.ofTable (table : ResolvedTable) : Parts where
  declarations := (Holder.ofTable table).map fun holder => (holder.slice, holder.typeName)
  pushes := (Holder.ofTable table).map Holder.push
  sorts := ((Holder.ofTable table).filter Holder.sorted).map (Holder.sortCall table.name)
  publications := (Holder.ofTable table).map fun holder => (holder.storage, holder.slice)

/-- The slice of a variant is declared once, pushed to once behind the probe of its own position,
sorted once with this position if its index has a sort method, and published once. -/
structure Once (table : ResolvedTable) (parts : Parts) (index : SecondaryIndex) (variant : Variant)
    (position number : Nat) : Prop where
  declared : parts.declarations.filter (fun declared => declared.1 = sliceName number) =
    [(sliceName number, variant.holderType index.pattern)]
  pushed : parts.pushes.filter (fun push => push.slice = sliceName number) =
    [⟨index.pattern.probeMethod, position, sliceName number, index.pattern = .keySlice⟩]
  sorted : parts.sorts.filter (fun call => call.slice = sliceName number) =
    if index.hasSort then
      [⟨table.name, index.pattern.sortMethod, sliceName number, position⟩] else []
  published : parts.publications.filter (fun published => published.2 = sliceName number) =
    [(variant.storageVariable index.pattern, sliceName number)]

/-- The program of a table has no slices but those of its variants, in the order of their numbers,
and each of them once. -/
structure Laid (table : ResolvedTable) (parts : Parts) : Prop where
  program : hookProgram table = parts.program table
  declared : parts.declarations.map Prod.fst = (List.range' 1
    (table.capabilities.indexes.flatMap SecondaryIndex.variants).length).map sliceName
  pushed : parts.pushes.map Push.slice = parts.declarations.map Prod.fst
  sorted : (parts.sorts.map SortCall.slice).Sublist (parts.declarations.map Prod.fst)
  published : parts.publications.map Prod.snd = parts.declarations.map Prod.fst
  once : ∀ {index variant position number}, Numbered table index variant position number →
    Once table parts index variant position number

/-- Among things with different names only one thing has the name of one of them. -/
theorem filter_named {Thing Name : Type} [DecidableEq Name] {name : Thing → Name}
    {front back : List Thing} {thing : Thing}
    (distinct : ((front ++ thing :: back).map name).Nodup) :
    (front ++ thing :: back).filter (fun other => name other = name thing) = [thing] := by
  have apart : ∀ other ∈ front ++ back, name other ≠ name thing := by
    rw [List.map_append, List.map_cons, List.nodup_middle, ← List.map_append] at distinct
    intro other inside same
    exact (List.nodup_cons.mp distinct).1 (same ▸ List.mem_map_of_mem inside)
  rw [List.filter_append, List.filter_cons_of_pos (by simp),
    List.filter_eq_nil_iff.mpr fun other inside => by
      simpa using apart other (List.mem_append_left _ inside),
    List.filter_eq_nil_iff.mpr fun other inside => by
      simpa using apart other (List.mem_append_right _ inside)]
  rfl

section Layout

variable {table : ResolvedTable}

theorem length_ofTable : (Holder.ofTable table).length =
    (table.capabilities.indexes.flatMap SecondaryIndex.variants).length := by
  simp [Holder.ofTable, Holder.positions, List.length_flatMap]

/-- The holder of a numbered variant is the only one with its slice. -/
theorem filter_slice {index : SecondaryIndex} {variant : Variant} {position number : Nat}
    (numbered : Numbered table index variant position number) :
    (Holder.ofTable table).filter (fun holder => holder.slice = sliceName number) =
      [Holder.ofVariant index variant position number] := by
  obtain ⟨front, back, split, _⟩ := Holder.exists_ofVariant numbered
  have distinct := Holder.slices_nodup table
  rw [split] at distinct ⊢
  have own := filter_named distinct
  exact own

theorem once_ofTable {index : SecondaryIndex} {variant : Variant} {position number : Nat}
    (numbered : Numbered table index variant position number) :
    Once table (Parts.ofTable table) index variant position number := by
  have own := filter_slice numbered
  refine ⟨?_, ?_, ?_, ?_⟩
  · rw [Parts.ofTable, List.filter_map]
    exact congrArg (List.map fun holder => (holder.slice, holder.typeName)) own
  · rw [Parts.ofTable, List.filter_map]
    exact congrArg (List.map Holder.push) own
  · rw [Parts.ofTable, List.filter_map, List.filter_comm]
    change (((Holder.ofTable table).filter fun holder =>
      holder.slice = sliceName number).filter Holder.sorted).map (Holder.sortCall table.name) = _
    have hooked : (Holder.ofVariant index variant position number).sorted = index.hasSort := rfl
    rw [own, List.filter_singleton, hooked]
    cases index.hasSort <;> rfl
  · rw [Parts.ofTable, List.filter_map]
    exact congrArg (List.map fun holder => (holder.storage, holder.slice)) own

theorem laid_ofTable (sliced : Holder.ofTable table ≠ []) : Laid table (Parts.ofTable table) where
  program := by
    obtain ⟨none, _⟩ | ⟨_, body⟩ := afterLoadBody_cases table
    · exact absurd none sliced
    · rw [hookProgram, body]
      have hooks : (if table.capabilities.hasAfterLoad then [Statement.hook table.name "table"]
          else []).map Statement.command =
            if table.capabilities.hasAfterLoad then [Command.hook table.name "table"] else [] := by
        split <;> rfl
      simp only [List.map_append, List.map_map, hooks, Parts.program, Parts.ofTable, List.any_map]
      rfl
  declared := by
    rw [← length_ofTable, ← Holder.numbers_ofTable, Parts.ofTable, List.map_map, List.map_map]
    rfl
  pushed := by
    rw [Parts.ofTable, List.map_map, List.map_map]
    rfl
  sorted := by
    rw [Parts.ofTable, List.map_map, List.map_map]
    exact List.filter_sublist.map _
  published := by
    rw [Parts.ofTable, List.map_map, List.map_map]
    rfl
  once := once_ofTable

end Layout

end Tablewright.Emission
