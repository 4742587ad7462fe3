namespace Tablewright

inductive Level
  | error
  | warn
  | info
  | debug
  | trace
  deriving DecidableEq, Repr

namespace Level

def label : Level → String
  | .error => "ERROR"
  | .warn => "WARN"
  | .info => "INFO"
  | .debug => "DEBUG"
  | .trace => "TRACE"

def rank : Level → Nat
  | .error => 1
  | .warn => 2
  | .info => 3
  | .debug => 4
  | .trace => 5

end Level

inductive Area
  | annotations
  | discovery
  | sources
  | resolution
  | probing
  | introspection
  | emission
  | build
  | formatting
  | rotation
  | commandLine
  deriving DecidableEq, Repr

def Area.target : Area → String
  | .annotations => "tablegen_introspect::annotations"
  | .discovery => "tablegen_introspect::discover"
  | .sources => "tablegen_introspect::source"
  | .resolution => "tablegen_introspect::resolver"
  | .probing => "tablegen_introspect::probe"
  | .introspection => "tablegen_introspect"
  | .emission => "tablegen_generate::emitter"
  | .build => "tablegen::driver::build"
  | .formatting => "tablegen::driver::format"
  | .rotation => "tablegen::driver::rotate"
  | .commandLine => "tablegen"

inductive FieldValue
  | text (value : String)
  | number (value : Nat)
  | truth (value : Bool)
  deriving DecidableEq, Repr

/-- An event has named fields in the order of its record. Of its other fields the names are kept
and not the values. -/
structure Event where
  level : Level
  area : Area
  fields : List (String × FieldValue)
  others : List String := []
  deriving DecidableEq, Repr

def Event.named (level : Level) (area : Area) (name : String)
    (fields : List (String × FieldValue)) : Event :=
  { level, area, fields := ("event", .text name) :: fields }

def Event.hasField (event : Event) (name : String) : Bool :=
  event.fields.any (·.1 = name) || event.others.contains name

abbrev Journal := List Event

end Tablewright
