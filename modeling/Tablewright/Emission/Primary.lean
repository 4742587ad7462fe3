import Tablewright.Emission.Artifact
import Tablewright.Emission.KeyExpression
import Tablewright.Emission.Options
import Tablewright.Table
import Tablewright.Text.Quoted

namespace Tablewright.Emission

def primaryArtifact (options : EmitOptions) : Artifact where
  description := "Table storage, loaders and accessors."
  imports :=
    ["use std::collections::HashMap;",
      "use std::sync::\x7bArc, LazyLock, PoisonError, RwLock\x7d;",
      "",
      "use " ++ options.base ++ "::tools::\x7bload_rows, Key2, Key3, TableError\x7d;",
      "",
      "use super::" ++ options.secondaryModule ++ "::*;",
      "use super::*;"]

def renderStatic (storage typeName : String) : String :=
  "pub(super) static " ++ storage ++ ": LazyLock<RwLock<Arc<" ++ typeName ++ ">>> =\n" ++
    "    LazyLock::new(|| RwLock::new(Arc::default()));"

def mapTypeName (table : ResolvedTable) : String :=
  table.name ++ "Table"

def renderMapType (table : ResolvedTable) : String :=
  "pub type " ++ mapTypeName table ++ " = HashMap<" ++ table.key.mapType ++ ", Arc<" ++
    table.name ++ ">>;"

structure Loader where
  table : String
  suffix : String
  excel : String
  csv : String
  mapType : String
  rowKey : RowKey
  storage : String
  deriving DecidableEq, Repr

namespace Loader

def ofTable (table : ResolvedTable) : Loader where
  table := table.name
  suffix := Naming.functionSuffix table.name
  excel := table.entry.excel
  csv := table.entry.csv
  mapType := mapTypeName table
  rowKey := Emission.rowKey table.key
  storage := table.storageVariable

def lines (loader : Loader) : List String :=
  ["/// Loads \x60" ++ loader.table ++ "\x60 rows and publishes them.",
    "pub fn load_" ++ loader.suffix ++ "() -> Result<(), TableError> \x7b",
    "    let rows: Vec<" ++ loader.table ++ "> = load_rows(" ++ Text.quoted loader.excel ++ ", " ++
      Text.quoted loader.csv ++ ")?;",
    "    let mut table = " ++ loader.mapType ++ "::with_capacity(rows.len());",
    "    for row in rows \x7b",
    "        table.insert(" ++ loader.rowKey.render ++ ", Arc::new(row));",
    "    \x7d",
    "    *" ++ loader.storage ++
      ".write().unwrap_or_else(PoisonError::into_inner) = Arc::new(table);",
    "    after_load_" ++ loader.suffix ++ "();",
    "    Ok(())",
    "\x7d"]

end Loader

def keyMethodLines (table : ResolvedTable) : List String :=
  ["impl " ++ table.name ++ " \x7b",
    "    pub fn get_key(&self) -> " ++ table.key.mapType ++ " \x7b",
    "        " ++ (keyMethodBody table.key).render,
    "    \x7d",
    "\x7d"]

def accessorLines (table : ResolvedTable) : List String :=
  let lookup := accessorLookup table.key
  ["pub fn get_" ++ Naming.functionSuffix table.name ++ "(" ++
      renderParameters (accessorParameters table.key) ++ ") -> Option<Arc<" ++ table.name ++
      ">> \x7b"] ++
    (lookup.renderBinding?.map fun binding => "    " ++ binding).toList ++
    ["    " ++ table.storageVariable ++
        ".read().unwrap_or_else(PoisonError::into_inner).get(" ++ lookup.renderArgument ++
        ").cloned()",
      "\x7d"]

structure Snapshot where
  function : String
  typeName : String
  storage : String
  deriving DecidableEq, Repr

namespace Snapshot

def lines (snapshot : Snapshot) : List String :=
  ["pub fn " ++ snapshot.function ++ "() -> Arc<" ++ snapshot.typeName ++ "> \x7b",
    "    Arc::clone(&" ++ snapshot.storage ++
      ".read().unwrap_or_else(PoisonError::into_inner))",
    "\x7d"]

def ofTable (table : ResolvedTable) : Snapshot where
  function := "get_all_" ++ Naming.functionSuffix table.name
  typeName := mapTypeName table
  storage := table.storageVariable

def ofVariant (pattern : Pattern) (variant : Variant) : Snapshot where
  function := variant.accessorName pattern
  typeName := variant.holderType pattern
  storage := variant.storageVariable pattern

def ofVariants (table : ResolvedTable) : List Snapshot :=
  table.capabilities.indexes.flatMap fun index => index.variants.map (ofVariant index.pattern)

end Snapshot

def snapshotLines (table : ResolvedTable) : List String :=
  (Snapshot.ofTable table).lines ++
    (Snapshot.ofVariants table).flatMap fun snapshot => "" :: snapshot.lines

def primaryFragments (table : ResolvedTable) : List Fragment :=
  [⟨.mapTypes, renderMapType table⟩,
    ⟨.storage, renderStatic table.storageVariable (mapTypeName table)⟩,
    ⟨.loaders, Text.ofLines (Loader.ofTable table).lines⟩] ++
    (if table.key.explicit then [⟨.getKey, Text.ofLines (keyMethodLines table)⟩] else []) ++
    [⟨.accessors, Text.ofLines (accessorLines table)⟩,
      ⟨.getAll, Text.ofLines (snapshotLines table)⟩]

/-- A line in the body of `load_all` is a comment on dependencies or the call of a loader. -/
inductive LoadLine
  | dependencies (table : String) (names : List String)
  | call (suffix : String)
  deriving DecidableEq, Repr

namespace LoadLine

def render : LoadLine → String
  | .dependencies table names =>
      "    // " ++ table ++ " depends on: " ++ Text.joined ", " names
  | .call suffix => "    load_" ++ suffix ++ "()?;"

def ofTable (table : ResolvedTable) : List LoadLine :=
  (if table.entry.depend.isEmpty then []
    else [.dependencies table.name table.entry.depend]) ++
    [.call (Naming.functionSuffix table.name)]

end LoadLine

def loadAllLines (tables : List ResolvedTable) : List String :=
  ["/// Loads every table.", "pub fn load_all() -> Result<(), TableError> \x7b"] ++
    (tables.flatMap LoadLine.ofTable).map LoadLine.render ++
    ["    Ok(())", "\x7d"]

def loadAllFragment (tables : List ResolvedTable) : Fragment :=
  ⟨.loadAll, Text.ofLines (loadAllLines tables)⟩

end Tablewright.Emission
