import Tablewright.Diagnostic
import Tablewright.Json.Value
import Tablewright.Table

namespace Tablewright.Json

def listOf {α : Type} (encode : α → Value) (values : List α) : Value :=
  .list (values.map encode)

def ofEntry (entry : TableEntry) : Value :=
  .object
    ([("name", .text entry.name), ("csv", .text entry.csv), ("excel", .text entry.excel),
      ("depend", listOf .text entry.depend)] ++
      entry.origin.toList.map fun origin => ("origin", .text origin.text))

def ofKeyField (field : KeyField) : Value :=
  .object
    [("name", .text field.name), ("kind", .text field.kind.label),
      ("rust_type", .text field.typeName)]

def ofKey (key : KeySchema) : Value :=
  .object [("fields", listOf ofKeyField key.fields), ("explicit", .truth key.explicit)]

def ofVariant (variant : Variant) : Value :=
  .object [("name", .text variant.name), ("custom", .truth variant.custom)]

def ofIndex (index : SecondaryIndex) : Value :=
  .object
    [("pattern", .text index.pattern.label), ("variants", listOf ofVariant index.variants),
      ("has_sort", .truth index.hasSort)]

def ofCapabilities (capabilities : Capabilities) : Value :=
  .object
    [("key_slice", .optional ofIndex capabilities.keySlice),
      ("value_slice", .optional ofIndex capabilities.valueSlice),
      ("has_after_load", .truth capabilities.hasAfterLoad)]

def ofTable (table : ResolvedTable) : Value :=
  .object
    [("entry", ofEntry table.entry), ("storage_var", .text table.storageVariable),
      ("key", ofKey table.key), ("capabilities", ofCapabilities table.capabilities)]

def ofDiagnostic (diagnostic : Diagnostic) : Value :=
  .object
    [("severity", .text diagnostic.severity.label), ("code", .text diagnostic.code),
      ("subject", .text diagnostic.subject), ("message", .text diagnostic.message)]

def ofReport (tables : List ResolvedTable) (diagnostics : Diagnostics) : Value :=
  .object
    [("tables", listOf ofTable tables),
      ("diagnostics", .object [("items", listOf ofDiagnostic diagnostics)])]

end Tablewright.Json
