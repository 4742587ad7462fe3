import Tablewright.Declaration.Rule.Type

namespace Tablewright.Declaration.Rule

open Reading

/-- This step reads the sign of a range. It tells whether the range has its upper end. -/
def rangeSign : Reading Bool := do
  let found ← tokens
  if starts "..=" found then
    sign "..="
    return true
  if starts ".." found && !starts "..." found then
    sign ".."
    return false
  fail

def patternRangeSign : Reading Bool := do
  if ← optionalSign "..." then
    return true
  rangeSign

def endsPatternRange (tokens : List Token) : Bool :=
  tokens.isEmpty || startsAny ["|", "=", ",", ";"] tokens ||
    (starts ":" tokens && !starts "::" tokens) || startsWord "if" tokens

def optionalRangeEnd (grammar : Grammar) : Reading Bool := do
  let found ← tokens
  if endsPatternRange found then
    return false
  if startsLiteral found then
    discard literal
  else if startsName found || startsAny ["::", "<"] found ||
      startsAnyOfWords pathKeywords found then
    discard (qualifiedPath grammar true)
  else if startsWord "const" found then
    word "const"
    discard (attributedBlock grammar)
  else
    fail
  return true

def patternRangeRest (grammar : Grammar) : Reading PatternTree := do
  let line := (← get).lineOf (← tokens)
  let closed ← patternRangeSign
  if ← optionalRangeEnd grammar then
    return .other
  if closed then
    fail
  return .openRange line

def patternRange (grammar : Grammar) : Reading PatternTree := do
  let line := (← get).lineOf (← tokens)
  let closed ← rangeSign
  if ← optionalRangeEnd grammar then
    return .openRange line
  if closed then
    fail
  return .rest

def startsAlternative (tokens : List Token) : Bool :=
  starts "|" tokens && !starts "||" tokens && !starts "|=" tokens

/-- This step reads a pattern with alternatives. A bar may stand in front. -/
def alternatives (grammar : Grammar) : Reading PatternTree := do
  let leading ← optionalSign "|"
  let first ← grammar.pattern
  let others ← repeated startsAlternative do
    sign "|"
    grammar.pattern
  return if leading || !others.isEmpty then .other else first

/-- This step reads the name or index of a field. It tells whether it is a name. -/
def member : Reading Bool := do
  match ← tokens with
  | .literal text _ :: rest =>
      if Literal.isWhole text && Literal.isIndex text.toList then
        moveTo rest
        return false
      fail
  | _ =>
      discard name
      return true

def fieldPattern (grammar : Grammar) : Reading Unit := do
  let boxed ← optionalWord "box"
  let byReference ← optionalWord "ref"
  let mutable ← optionalWord "mut"
  if boxed || byReference || mutable then
    discard name
  else
    let named ← member
    if !named || (← look (starts ":")) then
      sign ":"
      discard (alternatives grammar)

/-- This step reads the fields of a record pattern. Two points end them. -/
def fieldPatterns (grammar : Grammar) : Nat → Reading Unit
  | 0 => return
  | fuel + 1 => do
      if ← isDone then
        return
      discard (attributes grammar)
      if ← optionalSign ".." then
        return
      fieldPattern grammar
      if !(← isDone) then
        sign ","
        fieldPatterns grammar fuel

def pathPattern (grammar : Grammar) : Reading PatternTree := do
  let (qualified, path) ← qualifiedPath grammar true
  let found ← tokens
  if !qualified && starts "!" found && !starts "!=" found && path.isPlain then
    sign "!"
    discard anyGroup
    return .other
  else if startsGroup .brace found then
    inside .brace do
      fieldPatterns grammar ((← tokens).length + 1)
    return .other
  else if startsGroup .parenthesis found then
    discard (inside .parenthesis (commaList (alternatives grammar)))
    return .other
  else if starts ".." found then
    patternRangeRest grammar
  else
    return .other

def literalPattern (grammar : Grammar) : Reading PatternTree := do
  discard (optionalRangeEnd grammar)
  if ← look (starts "..") then
    patternRangeRest grammar
  else
    return .other

def namePattern (grammar : Grammar) : Reading PatternTree := do
  discard (optionalWord "ref")
  discard (optionalWord "mut")
  if !(← optionalWord "self") then
    discard name
  if ← optionalSign "@" then
    discard grammar.pattern
  return .other

/-- This step reads a pattern for a slice. An open range does not stand there by itself. -/
def slicePattern (grammar : Grammar) : Reading PatternTree := do
  discard (inside .square (commaList do
    match ← alternatives grammar with
    | .openRange line => throw line
    | _ => return))
  return .other

def startsPathPattern (tokens : List Token) : Bool :=
  let next := second tokens
  (startsName tokens &&
      (startsAny ["::", "!", ".."] next || startsGroup .brace next ||
        startsGroup .parenthesis next)) ||
    (startsWord "self" tokens && starts "::" next) || startsAny ["::", "<"] tokens ||
    startsAnyOfWords ["Self", "super", "crate"] tokens

def pattern (grammar : Grammar) : Reading PatternTree := do
  let found ← tokens
  if startsPathPattern found then
    pathPattern grammar
  else if startsWord "_" found then
    word "_"
    return .other
  else if startsWord "box" found then
    word "box"
    discard grammar.pattern
    return .other
  else if starts "-" found || startsLiteral found || startsWord "const" found then
    literalPattern grammar
  else if startsAnyOfWords ["ref", "mut", "self"] found || startsName found then
    namePattern grammar
  else if starts "&" found then
    sign "&"
    discard (optionalWord "mut")
    discard grammar.pattern
    return .other
  else if startsGroup .parenthesis found then
    discard (inside .parenthesis (commaList (alternatives grammar)))
    return .other
  else if startsGroup .square found then
    slicePattern grammar
  else if starts ".." found && !starts "..." found then
    patternRange grammar
  else
    fail

end Tablewright.Declaration.Rule
