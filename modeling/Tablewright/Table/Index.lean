import Tablewright.Naming

namespace Tablewright

inductive Pattern
  | keySlice
  | valueSlice
  deriving DecidableEq, Repr

namespace Pattern

def all : List Pattern :=
  [.keySlice, .valueSlice]

def label : Pattern → String
  | .keySlice => "key_slice"
  | .valueSlice => "value_slice"

def probeMethod : Pattern → String
  | .keySlice => "key_slice"
  | .valueSlice => "value_slice"

def namesMethod : Pattern → String
  | .keySlice => "key_slice_name"
  | .valueSlice => "value_slice_name"

def sortMethod : Pattern → String
  | .keySlice => "key_slice_sort"
  | .valueSlice => "value_slice_sort"

def holderEnding : Pattern → String
  | .keySlice => "KeySlice"
  | .valueSlice => "ValueSlice"

def storageLead : Pattern → String
  | .keySlice => "SLICE_KEY"
  | .valueSlice => "SLICE_VALUE"

end Pattern

def afterLoadMethod : String := "after_load"

/-- A variant is one slice of an index. The default variant has the name of its table, and
custom variants have names of their own. -/
structure Variant where
  name : String
  custom : Bool
  deriving DecidableEq, Repr

namespace Variant

def holderType (variant : Variant) (pattern : Pattern) : String :=
  variant.name ++ pattern.holderEnding

def storageVariable (variant : Variant) (pattern : Pattern) : String :=
  pattern.storageLead ++ "_" ++ Text.upperSnakeCase variant.name

/-- The accessor of a custom variant is named after the variant, and the accessor of the
default variant after its holder type. -/
def accessorName (variant : Variant) (pattern : Pattern) : String :=
  if variant.custom then Text.snakeCase variant.name
  else Text.snakeCase (variant.holderType pattern)

end Variant

structure SecondaryIndex where
  pattern : Pattern
  variants : List Variant
  hasSort : Bool
  deriving DecidableEq, Repr

namespace SecondaryIndex

def defaultFor (table : String) (pattern : Pattern) (hasSort : Bool) : SecondaryIndex :=
  ⟨pattern, [⟨table, false⟩], hasSort⟩

def custom (pattern : Pattern) (names : List String) (hasSort : Bool) : SecondaryIndex :=
  ⟨pattern, names.map fun name => ⟨name, true⟩, hasSort⟩

end SecondaryIndex

structure Capabilities where
  keySlice : Option SecondaryIndex := none
  valueSlice : Option SecondaryIndex := none
  hasAfterLoad : Bool := false
  deriving DecidableEq, Repr

namespace Capabilities

def index (capabilities : Capabilities) : Pattern → Option SecondaryIndex
  | .keySlice => capabilities.keySlice
  | .valueSlice => capabilities.valueSlice

def setIndex (capabilities : Capabilities) (index : SecondaryIndex) : Capabilities :=
  match index.pattern with
  | .keySlice => { capabilities with keySlice := some index }
  | .valueSlice => { capabilities with valueSlice := some index }

def indexes (capabilities : Capabilities) : List SecondaryIndex :=
  capabilities.keySlice.toList ++ capabilities.valueSlice.toList

def hasSecondary (capabilities : Capabilities) : Bool :=
  capabilities.keySlice.isSome || capabilities.valueSlice.isSome

end Tablewright.Capabilities
