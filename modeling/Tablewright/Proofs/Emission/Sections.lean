import Mathlib.Data.List.Sort
import Tablewright.Emission
import Tablewright.Proofs.Text.SnakeCase

namespace Tablewright.Emission

section Readings

/-- This function is what stands between a lead and a tail, if a line has both. -/
def between? (lead tail line : String) : Option String :=
  if lead.toList.isPrefixOf line.toList ∧
      tail.toList.isSuffixOf (line.toList.drop lead.toList.length) then
    let inner := line.toList.drop lead.toList.length
    some (String.ofList (inner.take (inner.length - tail.toList.length)))
  else none

/-- This function reads what lines hold between a lead and a tail. A line is read as a whole, also
where a name in it has a line feed. -/
def readings (lead tail : String) (lines : List String) : List String :=
  lines.filterMap (between? lead tail)

theorem between_found (lead middle tail : String) :
    between? lead tail (lead ++ middle ++ tail) = some middle := by
  simp [between?]

variable (table : ResolvedTable)

/-- The alias of a map names the type of its keys. -/
theorem between_mapType :
    between? ("pub type " ++ table.name ++ "Table = HashMap<") (", Arc<" ++ table.name ++ ">>;")
      (renderMapType table) = some table.key.mapType := by
  have found := between_found ("pub type " ++ table.name ++ "Table = HashMap<") table.key.mapType
    (", Arc<" ++ table.name ++ ">>;")
  have same : renderMapType table = "pub type " ++ table.name ++ "Table = HashMap<" ++
      table.key.mapType ++ (", Arc<" ++ table.name ++ ">>;") := by
    simp [renderMapType, mapTypeName, ← String.toList_inj]
  rw [same, found]

end Readings

theorem parenthesis_functionSuffix (name : String) :
    '(' ∉ (Naming.functionSuffix name).toList :=
  Text.parenthesis_snakeCase name

theorem parenthesis_accessorName (pattern : Pattern) (variant : Variant) :
    '(' ∉ (variant.accessorName pattern).toList := by
  unfold Variant.accessorName
  split <;> exact Text.parenthesis_snakeCase _

/-- A slice is a variant of an index. Others get it from its accessor, and it is kept in its
static. -/
structure Slice where
  pattern : Pattern
  accessor : String
  typeName : String
  storage : String
  deriving DecidableEq, Repr

namespace Slice

def ofVariant (pattern : Pattern) (variant : Variant) : Slice :=
  ⟨pattern, variant.accessorName pattern, variant.holderType pattern,
    variant.storageVariable pattern⟩

/-- The slices of a table stand in pattern order, then in the order of their variants. -/
def ofTable (table : ResolvedTable) : List Slice :=
  table.capabilities.indexes.flatMap fun index => index.variants.map (ofVariant index.pattern)

/-- This function is the snapshot that the accessor of a slice takes. -/
def snapshot (slice : Slice) : Snapshot :=
  ⟨slice.accessor, slice.typeName, slice.storage⟩

/-- A key slice holds keys of a table, and a value slice holds its shared rows. -/
def elementType (table : ResolvedTable) : Pattern → String
  | .keySlice => table.key.mapType
  | .valueSlice => "Arc<" ++ table.name ++ ">"

def renderType (table : ResolvedTable) (slice : Slice) : String :=
  "pub type " ++ slice.typeName ++ " = Vec<" ++ elementType table slice.pattern ++ ">;"

variable (table : ResolvedTable)

theorem snapshots_ofTable : Snapshot.ofVariants table = (ofTable table).map snapshot := by
  rw [Snapshot.ofVariants, ofTable, List.map_flatMap]
  congr 1
  funext index
  rw [List.map_map]
  rfl

/-- The positions of holders are counted twice, and what is counted stays in its order. -/
theorem holders_ofTable {α : Type} (name : Pattern → String → String → α) :
    ((Holder.ofTable table).map fun holder =>
      name holder.pattern holder.typeName holder.storage) =
        (ofTable table).map fun slice => name slice.pattern slice.typeName slice.storage := by
  have outer : ((Holder.ofTable table).map fun holder =>
      name holder.pattern holder.typeName holder.storage) =
        ((table.capabilities.indexes.flatMap Holder.positions).zipIdx.map Prod.fst).map
          fun numbered => name numbered.1.pattern (numbered.2.1.holderType numbered.1.pattern)
            (numbered.2.1.storageVariable numbered.1.pattern) := by
    rw [Holder.ofTable, List.map_map, List.map_map]
    rfl
  rw [outer, List.zipIdx_map_fst, ofTable, List.map_flatMap, List.map_flatMap]
  congr 1
  funext index
  have inner : Holder.positions index =
      index.variants.zipIdx.map fun numbered => (index, numbered.1, numbered.2) := rfl
  rw [inner, List.map_map, List.map_map]
  conv_rhs => rw [← List.zipIdx_map_fst 0 index.variants, List.map_map]
  rfl

/-- Holders and slices have the same statics in the same order. -/
theorem storages_ofTable :
    (Holder.ofTable table).map Holder.storage = (ofTable table).map storage :=
  holders_ofTable table fun _ _ storage => storage

end Slice

section Bodies

variable (table : ResolvedTable)

/-- A hook runs after slices are published, or by itself where there are none. -/
theorem afterLoadBody_cases :
    (Holder.ofTable table = [] ∧ afterLoadBody table =
      if table.capabilities.hasAfterLoad then
        [.hook table.name ("get_all_" ++ Naming.functionSuffix table.name ++ "()")] else []) ∨
    (Holder.ofTable table ≠ [] ∧ afterLoadBody table =
      [.snapshot (Naming.functionSuffix table.name)] ++
        (Holder.ofTable table).map .declare ++ [.scan (Holder.ofTable table)] ++
        ((Holder.ofTable table).filter Holder.sorted).map (.sort table.name) ++
        (Holder.ofTable table).map .publish ++
        if table.capabilities.hasAfterLoad then [.hook table.name "table"] else []) := by
  unfold afterLoadBody
  cases Holder.ofTable table with
  | nil => exact .inl ⟨rfl, rfl⟩
  | cons holder rest => exact .inr ⟨List.cons_ne_nil _ _, rfl⟩

end Bodies

section Sections

theorem inSection_push (artifact : Artifact) (fragment : Fragment) (kind : Section) :
    (artifact.push fragment).inSection kind =
      artifact.inSection kind ++ if fragment.kind = kind then [fragment.text] else [] := by
  unfold Artifact.inSection Artifact.push
  rw [List.filter_append, List.map_append]
  by_cases same : fragment.kind = kind <;> simp [same]

theorem pushAll_eq (artifact : Artifact) (fragments : List Fragment) :
    artifact.pushAll fragments =
      { artifact with fragments := artifact.fragments ++ fragments } := by
  unfold Artifact.pushAll
  induction fragments generalizing artifact with
  | nil => simp
  | cons fragment rest hypothesis =>
      rw [List.foldl_cons, hypothesis, Artifact.push, List.append_assoc]
      rfl

theorem inSection_pushAll (artifact : Artifact) (fragments : List Fragment) (kind : Section) :
    (artifact.pushAll fragments).inSection kind = artifact.inSection kind ++
      (fragments.filter fun fragment => fragment.kind = kind).map Fragment.text := by
  unfold Artifact.inSection
  rw [pushAll_eq, List.filter_append, List.map_append]

/-- This function lists what a table adds to a section of the primary artifact. -/
def primaryTexts (table : ResolvedTable) : Section → List String
  | .mapTypes => [renderMapType table]
  | .storage => [renderStatic table.storageVariable (mapTypeName table)]
  | .loaders => [Text.ofLines (Loader.ofTable table).lines]
  | .getKey => if table.key.explicit then [Text.ofLines (keyMethodLines table)] else []
  | .accessors => [Text.ofLines (accessorLines table)]
  | .getAll => [Text.ofLines (snapshotLines table)]
  | _ => []

theorem primaryFragments_texts (table : ResolvedTable) (kind : Section) :
    ((primaryFragments table).filter fun fragment => fragment.kind = kind).map Fragment.text =
      primaryTexts table kind := by
  unfold primaryFragments
  cases explicit : table.key.explicit <;> cases kind <;> simp [primaryTexts, explicit]

variable (options : EmitOptions) (tables : List ResolvedTable)

theorem inSection_primary (kind : Section) :
    (primary options tables).inSection kind =
      (tables.flatMap fun table => primaryTexts table kind) ++
        if kind = .loadAll then [Text.ofLines (loadAllLines tables)] else [] := by
  simp only [← primaryFragments_texts]
  rw [primary, inSection_push, inSection_pushAll, List.filter_flatMap, List.map_flatMap]
  simp [Artifact.inSection, primaryArtifact, loadAllFragment, eq_comm]

/-- This function lists what a table adds to a section of the secondary artifact. -/
def secondaryTexts (table : ResolvedTable) : Section → List String
  | .sliceTypes => (Slice.ofTable table).map (Slice.renderType table)
  | .sliceStorage =>
      (Slice.ofTable table).map fun slice => renderStatic slice.storage slice.typeName
  | .afterLoad => [Text.ofLines (afterLoadLines table)]
  | _ => []

theorem secondaryFragments_texts (table : ResolvedTable) (kind : Section) :
    ((secondaryFragments table).filter fun fragment => fragment.kind = kind).map Fragment.text =
      secondaryTexts table kind := by
  have fragments : (Holder.ofTable table).flatMap (holderFragments table) =
      (Slice.ofTable table).flatMap fun slice => [⟨.sliceTypes, slice.renderType table⟩,
        ⟨.sliceStorage, renderStatic slice.storage slice.typeName⟩] := by
    have same := Slice.holders_ofTable table fun pattern typeName storage =>
      ([⟨.sliceTypes, "pub type " ++ typeName ++ " = Vec<" ++ Slice.elementType table pattern ++
          ">;"⟩,
        ⟨.sliceStorage, renderStatic storage typeName⟩] : List Fragment)
    rw [List.flatMap_def, List.flatMap_def]
    exact congrArg List.flatten same
  unfold secondaryFragments
  rw [fragments]
  cases kind <;>
    simp [secondaryTexts, List.filter_flatMap, List.map_flatMap, ← List.map_eq_flatMap]

theorem inSection_secondary (kind : Section) :
    (secondary options tables).inSection kind =
      tables.flatMap fun table => secondaryTexts table kind := by
  simp only [← secondaryFragments_texts]
  rw [secondary, inSection_pushAll, List.filter_flatMap, List.map_flatMap]
  simp [Artifact.inSection, secondaryArtifact]

theorem inSection_loadAll :
    (primary options tables).inSection .loadAll = [Text.ofLines (loadAllLines tables)] := by
  simp [inSection_primary, primaryTexts]

/-- Only tables with explicit keys have a key method. -/
theorem inSection_getKey :
    (primary options tables).inSection .getKey =
      (tables.filter fun table => table.key.explicit).map fun table =>
        Text.ofLines (keyMethodLines table) := by
  rw [inSection_primary, if_neg (by decide), List.append_nil]
  induction tables with
  | nil => rfl
  | cons table rest hypothesis =>
      rw [List.flatMap_cons, hypothesis, List.filter_cons, primaryTexts]
      split <;> rfl

end Sections

/-- This table has two sorted key slices of its own names, and one slice of its rows. -/
def monsterTable : ResolvedTable where
  entry := { name := "Monster", csv := "monster.csv", depend := ["Item"] }
  storageVariable := "TABLE_MONSTER"
  key := ⟨⟨"id", "i32", .integer, KeyKind.ofTypeName_i32⟩,
    [⟨"level", "i64", .integer, by decide⟩], true⟩
  capabilities :=
    { keySlice := some (.custom .keySlice ["BossIds", "EliteIds"] true)
      valueSlice := some (.defaultFor "Monster" .valueSlice false)
      hasAfterLoad := true }

end Tablewright.Emission
