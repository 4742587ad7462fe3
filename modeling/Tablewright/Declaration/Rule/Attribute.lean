import Tablewright.Declaration.Grammar

namespace Tablewright.Declaration.Rule

open Reading

def startsSimpleSegment (tokens : List Token) : Bool :=
  startsName tokens || startsAnyOfWords ["super", "self", "Self", "crate"] tokens

def simpleSegments : Nat → Reading (List Segment)
  | 0 => fail
  | fuel + 1 => do
      if ← look startsSimpleSegment then
        let first ← anyWord
        if ← optionalSign "::" then
          return { name := first } :: (← simpleSegments fuel)
        return [{ name := first }]
      fail

def simplePath : Reading Path := do
  let rooted ← optionalSign "::"
  return ⟨rooted, ← simpleSegments ((← tokens).length + 1)⟩

def attributePath : Reading Path := do
  if ← optionalWord "unsafe" then
    return ⟨false, [{ name := "unsafe" }]⟩
  simplePath

def attributeValue (grammar : Grammar) : Reading (Option String) := do
  let found ← tokens
  if startsLiteral found && (second found).isEmpty && startsTextLiteral found then
    literal
  else if starts "#" found && startsGroup .square (second found) then
    fail
  else
    match ← grammar.expression true with
    | .text value => return some value
    | _ => return none

def startsValue (tokens : List Token) : Bool :=
  starts "=" tokens && !startsAny ["==", "=>"] tokens

def attributeContent (grammar : Grammar) : Reading Attribute := do
  let path ← attributePath
  match ← tokens with
  | .group _ _ _ _ :: _ => return ⟨path, .list (← anyGroup).2⟩
  | _ =>
      if ← look startsValue then
        sign "="
        return ⟨path, .value (← attributeValue grammar)⟩
      return ⟨path, .bare⟩

def attributes (grammar : Grammar) : Reading (List Attribute) :=
  repeated (starts "#") do
    sign "#"
    inside .square (attributeContent grammar)

def innerAttributes (grammar : Grammar) : Reading (List Attribute) :=
  repeated (fun found => starts "#" found && starts "!" (second found)) do
    sign "#"
    sign "!"
    inside .square (attributeContent grammar)

def block (grammar : Grammar) : Reading (List Statement) :=
  inside .brace grammar.body

def attributedBlock (grammar : Grammar) : Reading (List Statement) :=
  inside .brace do
    discard (innerAttributes grammar)
    grammar.body

def optionalLabel : Reading Unit := do
  if ← optionalLifetime then
    sign ":"

end Tablewright.Declaration.Rule
