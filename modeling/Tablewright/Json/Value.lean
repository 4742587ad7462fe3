import Tablewright.Text.Pieces

namespace Tablewright.Json

inductive Value
  | null
  | truth (value : Bool)
  | number (value : Nat)
  | text (value : String)
  | list (elements : List Value)
  | object (members : List (String × Value))

namespace Value

def optional {α : Type} (encode : α → Value) : Option α → Value
  | none => .null
  | some value => encode value

end Value

def fourDigits (code : Nat) : List Char :=
  ['0', '0', Nat.digitChar (code / 16), Nat.digitChar (code % 16)]

def escape (character : Char) : List Char :=
  if character == '"' then ['\\', '"']
  else if character == '\\' then ['\\', '\\']
  else if character == '\x08' then ['\\', 'b']
  else if character == '\t' then ['\\', 't']
  else if character == '\n' then ['\\', 'n']
  else if character == '\x0C' then ['\\', 'f']
  else if character == '\r' then ['\\', 'r']
  else if character < ' ' then ['\\', 'u'] ++ fourDigits character.toNat
  else [character]

def quote (text : String) : String :=
  String.ofList ('"' :: text.toList.flatMap escape ++ ['"'])

def lineStart (depth : Nat) : String :=
  String.ofList ('\n' :: List.replicate (2 * depth) ' ')

def block (opening closing : String) (depth : Nat) : List String → String
  | [] => opening ++ closing
  | items =>
      opening ++
        Text.joined "," (items.map fun item => lineStart (depth + 1) ++ item) ++
        lineStart depth ++ closing

mutual

/-- This function writes a value over several lines. Every depth is indented by two blanks. -/
def indented (depth : Nat) : Value → String
  | .null => "null"
  | .truth value => if value then "true" else "false"
  | .number value => Nat.repr value
  | .text value => quote value
  | .list elements => block "[" "]" depth (indentedElements (depth + 1) elements)
  | .object members => block "\x7b" "\x7d" depth (indentedMembers (depth + 1) members)

def indentedElements (depth : Nat) : List Value → List String
  | [] => []
  | element :: rest => indented depth element :: indentedElements depth rest

def indentedMembers (depth : Nat) : List (String × Value) → List String
  | [] => []
  | (name, value) :: rest =>
      (quote name ++ ": " ++ indented depth value) :: indentedMembers depth rest

end

mutual

def compact : Value → String
  | .null => "null"
  | .truth value => if value then "true" else "false"
  | .number value => Nat.repr value
  | .text value => quote value
  | .list elements => "[" ++ Text.joined "," (compactElements elements) ++ "]"
  | .object members => "\x7b" ++ Text.joined "," (compactMembers members) ++ "\x7d"

def compactElements : List Value → List String
  | [] => []
  | element :: rest => compact element :: compactElements rest

def compactMembers : List (String × Value) → List String
  | [] => []
  | (name, value) :: rest => (quote name ++ ":" ++ compact value) :: compactMembers rest

end

end Tablewright.Json
