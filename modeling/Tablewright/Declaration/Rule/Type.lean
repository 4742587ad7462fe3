import Tablewright.Declaration.Rule.Path

namespace Tablewright.Declaration.Rule

open Reading

def optionalConvention : Reading Unit := do
  if ← optionalWord "extern" then
    if ← look startsTextLiteral then
      discard literal

def openArgument : Reading Unit := do
  let found ← tokens
  if startsName found || startsWord "_" found then
    discard anyWord
    sign ":"
  sign "..."
  discard (optionalSign ",")

/-- This step reads an argument of a function type. The first of them may be the receiver. -/
def functionTypeArgument (grammar : Grammar) (first : Bool) : Reading Unit := do
  discard (attributes grammar)
  let startsMutableSelf (found : List Token) : Bool :=
    startsWord "mut" found && startsWord "self" (second found)
  let mutable ← look fun found => first && startsMutableSelf found
  if mutable then
    word "mut"
  let found ← tokens
  let isName := startsName found || startsWord "_" found
  let isSelf := !isName && first && startsWord "self" found
  let named := (isName || isSelf) && starts ":" (second found) && !starts "::" (second found)
  if named then
    discard anyWord
    sign ":"
  let next ← tokens
  if first && !(named && isSelf) && startsMutableSelf next then
    word "mut"
    word "self"
  else if mutable && !named then
    word "self"
  else
    discard (grammar.type true)

def functionTypeArguments (grammar : Grammar) : Nat → (first : Bool) → Reading Unit
  | 0, _ => return
  | fuel + 1, first => do
      if ← isDone then
        return
      discard (attributes grammar)
      let found ← tokens
      if starts "..." found ||
          ((startsName found || startsWord "_" found) && starts ":" (second found) &&
            starts "..." (third found)) then
        openArgument
      else
        functionTypeArgument grammar first
        if !(← isDone) then
          sign ","
          functionTypeArguments grammar fuel false

def functionType (grammar : Grammar) : Reading TypeTree := do
  discard (optionalBinder grammar)
  discard (optionalWord "unsafe")
  optionalConvention
  word "fn"
  inside .parenthesis do
    functionTypeArguments grammar ((← tokens).length + 1) true
  resultType grammar false
  return .other

def traitObject (grammar : Grammar) (sums : Bool) : Reading Unit := do
  let start ← tokens
  discard (optionalWord "dyn")
  boundSum grammar .traitObject sums start

/-- What stands in parentheses is a whole type, a relaxed bound, or a type that may be the first
of several bounds. -/
inductive EnclosedType
  | whole (type : TypeTree)
  | relaxed
  | first (type : TypeTree)

def enclosedContent (grammar : Grammar) : Reading EnclosedType := do
  let found ← tokens
  if found.isEmpty then
    return .whole (.tuple 0)
  if startsLifetime found then
    traitObject grammar true
    return .whole (.enclosed .other)
  if starts "?" found then
    traitBound grammar false
    return .relaxed
  let first ← grammar.type true
  if ← optionalSign "," then
    let others ← commaList (grammar.type true)
    return .whole (.tuple (others.length + 1))
  return .first first

/-- A type in parentheses can be the first of several bounds when it is a path or a single
bound. -/
def isBound : TypeTree → Bool
  | .path qualified _ => !qualified
  | .bounds single => single
  | _ => false

def enclosedType (grammar : Grammar) (sums : Bool) : Reading TypeTree := do
  match ← inside .parenthesis (enclosedContent grammar) with
  | .whole type => return type
  | .relaxed => return .bounds (← furtherBounds grammar).isEmpty
  | .first type =>
      if sums && isBound type && (← look (starts "+")) then
        discard (furtherBounds grammar)
        return .bounds false
      return .enclosed type

def boundsAfterPath (grammar : Grammar) : Nat → Reading Unit
  | 0 => return
  | fuel + 1 => do
      if ← optionalSign "+" then
        if ← look (startsBound false) then
          discard (bound grammar false false)
          boundsAfterPath grammar fuel

def pathType (grammar : Grammar) (sums binder : Bool) : Reading TypeTree := do
  let (qualified, path) ← qualifiedPath grammar false
  if qualified then
    return .path true path
  let found ← tokens
  if starts "!" found && !starts "!=" found && path.isPlain then
    sign "!"
    discard anyGroup
    return .other
  let goesOn := sums && starts "+" found
  if goesOn then
    boundsAfterPath grammar (found.length + 1)
  if binder || goesOn then
    return .bounds (!goesOn)
  return .path false path

def elementsType (grammar : Grammar) : Reading TypeTree :=
  inside .square do
    let element ← grammar.type true
    if ← optionalSign ";" then
      discard (grammar.expression true)
      return .array element
    return .slice element

def pointerType (grammar : Grammar) : Reading TypeTree := do
  sign "*"
  if !(← optionalWord "const") then
    word "mut"
  discard (grammar.type false)
  return .other

def referenceType (grammar : Grammar) : Reading TypeTree := do
  sign "&"
  discard optionalLifetime
  discard (optionalWord "mut")
  return .reference (← grammar.type false)

def pathKeywords : List String :=
  ["super", "self", "Self", "crate"]

def startsAfterBinder (tokens : List Token) : Bool :=
  startsName tokens || startsAnyOfWords (["fn", "unsafe", "extern"] ++ pathKeywords) tokens

def startsBuiltin (tokens : List Token) : Bool :=
  startsWord "builtin" tokens && starts "#" (second tokens)

def builtinForm : Reading Unit := do
  word "builtin"
  sign "#"
  discard name
  skipGroup .parenthesis

def type (grammar : Grammar) (sums : Bool) : Reading TypeTree := do
  let binder ← optionalBinder grammar
  let found ← tokens
  if binder && !startsAfterBinder found then
    fail
  else if startsGroup .parenthesis found then
    enclosedType grammar sums
  else if startsAnyOfWords ["fn", "unsafe", "extern"] found then
    functionType grammar
  else if startsBuiltin found then
    builtinForm
    return .other
  else if startsName found || startsAnyOfWords pathKeywords found ||
      startsAny ["::", "<"] found then
    pathType grammar sums binder
  else if startsWord "dyn" found then
    word "dyn"
    discard (optionalSign "*")
    boundSum grammar .traitObject sums found
    return .other
  else if startsGroup .square found then
    elementsType grammar
  else if starts "*" found then
    pointerType grammar
  else if starts "&" found then
    referenceType grammar
  else if starts "!" found then
    sign "!"
    return .other
  else if startsWord "impl" found then
    word "impl"
    boundSum grammar .opaqueType sums found
    return .other
  else if startsWord "_" found then
    word "_"
    return .other
  else if startsLifetime found then
    traitObject grammar true
    return .other
  else
    fail

def declaredParameter (grammar : Grammar) : Reading Unit := do
  discard (attributes grammar)
  if !(← optionalWord "_") then
    genericParameter grammar

def generics (grammar : Grammar) : Reading Unit := do
  if ← optionalSign "<" then
    discard (separated (starts ">") "," (declaredParameter grammar))
    sign ">"

def startsGenerics (tokens : List Token) : Bool :=
  let next := second tokens
  let after := third tokens
  starts "<" tokens &&
    (startsAny [">", "#"] next ||
      ((startsLifetime next || startsName next) &&
        (startsAny [">", ",", "="] after || (starts ":" after && !starts "::" after))) ||
      startsWord "const" next)

def endsClause (tokens : List Token) : Bool :=
  tokens.isEmpty || startsGroup .brace tokens || startsAny [",", ";", "="] tokens ||
    (starts ":" tokens && !starts "::" tokens)

def condition (grammar : Grammar) : Reading Unit := do
  let found ← tokens
  if startsLifetime found && starts ":" (second found) then
    lifetime
    sign ":"
    discard (joined (fun rest => endsClause rest || starts ":" rest) "+" lifetime)
  else
    discard (optionalBinder grammar)
    discard (grammar.type true)
    sign ":"
    discard (joined endsClause "+" (bound grammar false true))

/-- This step reads the conditions of a declaration. They do not start with parameters. -/
def conditions (grammar : Grammar) : Reading Unit := do
  if ← optionalWord "where" then
    if ← look startsGenerics then
      fail
    discard (joined endsClause "," (condition grammar))

end Tablewright.Declaration.Rule
