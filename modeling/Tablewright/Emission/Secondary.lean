import Tablewright.Emission.Primary

namespace Tablewright.Emission

def secondaryArtifact (options : EmitOptions) : Artifact where
  description := "Secondary indexes and post-load hooks."
  imports :=
    ["use std::sync::\x7bArc, LazyLock, PoisonError, RwLock\x7d;",
      "",
      "use " ++ options.base ++ "::tools::\x7bKey2, Key3\x7d;",
      "",
      "use super::" ++ options.primaryModule ++ "::*;",
      "use super::*;"]

/-- A holder is one slice while it is built. The position counts the variants of its pattern
from zero, and the number counts the slices of the table from one. -/
structure Holder where
  pattern : Pattern
  position : Nat
  number : Nat
  typeName : String
  storage : String
  sorted : Bool
  deriving DecidableEq, Repr

namespace Holder

def slice (holder : Holder) : String :=
  "slice_" ++ toString holder.number

def positions (index : SecondaryIndex) : List (SecondaryIndex × Variant × Nat) :=
  index.variants.zipIdx.map fun numbered => (index, numbered.1, numbered.2)

def ofTable (table : ResolvedTable) : List Holder :=
  (table.capabilities.indexes.flatMap positions).zipIdx.map fun numbered =>
    let (index, variant, position) := numbered.1
    { pattern := index.pattern
      position
      number := numbered.2 + 1
      typeName := variant.holderType index.pattern
      storage := variant.storageVariable index.pattern
      sorted := index.hasSort }

def elementType (table : ResolvedTable) (holder : Holder) : String :=
  match holder.pattern with
  | .keySlice => table.key.mapType
  | .valueSlice => "Arc<" ++ table.name ++ ">"

def renderType (table : ResolvedTable) (holder : Holder) : String :=
  "pub type " ++ holder.typeName ++ " = Vec<" ++ holder.elementType table ++ ">;"

end Holder

inductive Statement
  | snapshot (suffix : String)
  | declare (holder : Holder)
  | scan (holders : List Holder)
  | sort (table : String) (holder : Holder)
  | publish (holder : Holder)
  | hook (table : String) (argument : String)
  deriving DecidableEq, Repr

namespace Statement

def pushLines (holder : Holder) : List String :=
  let value := match holder.pattern with
    | .keySlice => "key.clone()"
    | .valueSlice => "Arc::clone(row)"
  ["        if row." ++ holder.pattern.probeMethod ++ "(" ++ toString holder.position ++ ") \x7b",
    "            " ++ holder.slice ++ ".push(" ++ value ++ ");",
    "        \x7d"]

def scanHeader (holders : List Holder) : String :=
  if holders.any fun holder => holder.pattern = .keySlice then
    "    for (key, row) in table.iter() \x7b"
  else
    "    for row in table.values() \x7b"

def lines : Statement → List String
  | .snapshot suffix => ["    let table = get_all_" ++ suffix ++ "();"]
  | .declare holder =>
      ["    let mut " ++ holder.slice ++ " = " ++ holder.typeName ++
        "::with_capacity(table.len());"]
  | .scan holders => [scanHeader holders] ++ holders.flatMap pushLines ++ ["    \x7d"]
  | .sort table holder =>
      ["    " ++ table ++ "::" ++ holder.pattern.sortMethod ++ "(&mut " ++ holder.slice ++
        ", " ++ toString holder.position ++ ");"]
  | .publish holder =>
      ["    *" ++ holder.storage ++
        ".write().unwrap_or_else(PoisonError::into_inner) = Arc::new(" ++ holder.slice ++
        ");"]
  | .hook table argument => ["    " ++ table ++ "::after_load(&" ++ argument ++ ");"]

end Statement

def afterLoadBody (table : ResolvedTable) : List Statement :=
  let suffix := Naming.functionSuffix table.name
  let hook argument :=
    if table.capabilities.hasAfterLoad then [Statement.hook table.name argument] else []
  match Holder.ofTable table with
  | [] => hook ("get_all_" ++ suffix ++ "()")
  | holders =>
      [.snapshot suffix] ++ holders.map .declare ++ [.scan holders] ++
        (holders.filter Holder.sorted).map (.sort table.name) ++ holders.map .publish ++
        hook "table"

def afterLoadComment (table : ResolvedTable) : String :=
  match Holder.ofTable table with
  | [] => "/// Runs the post-load hook of \x60" ++ table.name ++ "\x60."
  | _ => "/// Rebuilds the secondary indexes of \x60" ++ table.name ++ "\x60."

def afterLoadLines (table : ResolvedTable) : List String :=
  [afterLoadComment table,
    "pub fn after_load_" ++ Naming.functionSuffix table.name ++ "() \x7b"] ++
    (afterLoadBody table).flatMap Statement.lines ++ ["\x7d"]

def holderFragments (table : ResolvedTable) (holder : Holder) : List Fragment :=
  [⟨.sliceTypes, holder.renderType table⟩,
    ⟨.sliceStorage, renderStatic holder.storage holder.typeName⟩]

def secondaryFragments (table : ResolvedTable) : List Fragment :=
  (Holder.ofTable table).flatMap (holderFragments table) ++
    [⟨.afterLoad, Text.ofLines (afterLoadLines table)⟩]

end Tablewright.Emission
