import Tablewright.Settings
import Tablewright.Toml.Document

namespace Tablewright

open Toml

namespace FormatterSettings

/-- This function reads one setting by its name. A value of the wrong kind is refused, and
unknown names are ignored. -/
def withEntry (settings : FormatterSettings) : String × Value → Option FormatterSettings
  | ("enabled", value) =>
      match value with
      | .truth enabled => some { settings with enabled }
      | _ => none
  | ("program", value) =>
      match value with
      | .text program => some { settings with program }
      | _ => none
  | ("edition", value) =>
      match value with
      | .text edition => some { settings with edition }
      | _ => none
  | _ => some settings

def names : List String :=
  ["enabled", "program", "edition"]

/-- The settings are a table or an array of the first of them. A moment stands for a table
without known names. -/
def ofValue : Value → Option FormatterSettings
  | .table _ entries => entries.foldlM withEntry {}
  | .array elements => (names.zip elements).foldlM withEntry {}
  | .moment => some {}
  | _ => none

end FormatterSettings

namespace Settings

/-- This function reads one setting by its name. A value of the wrong kind is refused, and
unknown names are ignored. -/
def withEntry (settings : Settings) : String × Value → Option Settings
  | ("base", value) =>
      match value with
      | .text base => some { settings with base }
      | _ => none
  | ("prefix", value) =>
      match value with
      | .text lead => some { settings with lead }
      | _ => none
  | ("primary_output", value) =>
      match value with
      | .text primaryOutput => some { settings with primaryOutput }
      | _ => none
  | ("secondary_output", value) =>
      match value with
      | .text secondaryOutput => some { settings with secondaryOutput }
      | _ => none
  | ("key_marker", value) =>
      match value with
      | .text marker => some { settings with marker }
      | _ => none
  | ("out_dir", value) =>
      match value with
      | .text folder => some { settings with outputDirectory := some (.ofText folder) }
      | _ => none
  | ("formatter", value) =>
      (FormatterSettings.ofValue value).map fun formatter => { settings with formatter }
  | _ => some settings

/-- This function reads settings from the entries of a document. What is missing keeps its
default. -/
def ofEntries (entries : Entries) : Option Settings :=
  entries.foldlM withEntry {}

def ofText (text : String) : Option Settings :=
  (Toml.read text).bind ofEntries

end Tablewright.Settings
