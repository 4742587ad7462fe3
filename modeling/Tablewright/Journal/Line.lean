import Tablewright.Journal
import Tablewright.Json.Value

namespace Tablewright

def FieldValue.json : FieldValue → Json.Value
  | .text value => .text value
  | .number value => .number value
  | .truth value => .truth value

namespace Event

def json (event : Event) : Json.Value :=
  .object
    [("level", .text event.level.label),
      ("fields", .object (event.fields.map fun field => (field.1, field.2.json))),
      ("target", .text event.area.target)]

def line (event : Event) : String :=
  Json.compact event.json

end Event

end Tablewright
