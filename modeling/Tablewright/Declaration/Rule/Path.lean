import Tablewright.Declaration.Rule.Attribute

namespace Tablewright.Declaration.Rule

open Reading

def constantArgument (grammar : Grammar) : Reading Unit := do
  let found ← tokens
  if startsLiteral found then
    discard literal
  else if startsName found then
    discard name
  else if startsGroup .brace found then
    discard (attributedBlock grammar)
  else
    fail

def argumentBinding (grammar : Grammar) : Reading Unit := do
  if ← optionalSign "=" then
    let value ← tokens
    if startsLiteral value || startsGroup .brace value then
      constantArgument grammar
    else
      discard (grammar.type true)
  else if ← optionalSign ":" then
    discard (joined (startsAny [",", ">"]) "+" (grammar.bound false true))

def genericArgument (grammar : Grammar) : Reading Unit := do
  let found ← tokens
  if startsLifetime found && !starts "+" (second found) then
    lifetime
  else if startsLiteral found || startsGroup .brace found then
    constantArgument grammar
  else
    match ← grammar.type true with
    | .path false ⟨false, [_]⟩ => argumentBinding grammar
    | _ => return

def angledArguments (grammar : Grammar) : Reading Nat := do
  sign "<"
  let found ← separated (starts ">") "," (genericArgument grammar)
  sign ">"
  return found.length

def resultType (grammar : Grammar) (sums : Bool) : Reading Unit := do
  if ← optionalSign "->" then
    discard (grammar.type sums)

def roundedArguments (grammar : Grammar) : Reading Unit := do
  discard (inside .parenthesis (commaList (grammar.type true)))
  resultType grammar false

def startsRounded (tokens : List Token) : Bool :=
  startsGroup .parenthesis tokens ||
    (starts "::" tokens && startsGroup .parenthesis (third tokens))

def optionalRoundedArguments (grammar : Grammar) (path : Path) : Reading Unit := do
  if path.takesArguments && (← look startsRounded) then
    discard (optionalSign "::")
    roundedArguments grammar

/-- This step reads a segment of a path. In an expression the angle bracket of arguments needs a
separator before it. -/
def segment (grammar : Grammar) (inExpression : Bool) : Reading Segment := do
  if ← look (startsAnyOfWords ["super", "self", "crate", "try"]) then
    return { name := ← anyWord }
  let word ← if ← look (startsWord "Self") then anyWord else name
  let found ← tokens
  if (!inExpression && starts "<" found && !startsAny ["<=", "<<="] found) ||
      (starts "::" found && starts "<" (third found)) then
    discard (optionalSign "::")
    return ⟨word, .angled (← angledArguments grammar)⟩
  return { name := word }

def path (grammar : Grammar) (inExpression : Bool) : Reading Path := do
  let rooted ← optionalSign "::"
  let first ← segment grammar inExpression
  let others ← repeated
    (fun found => starts "::" found && !startsGroup .parenthesis (third found)) do
      sign "::"
      segment grammar inExpression
  return ⟨rooted, first :: others⟩

/-- This step reads a path that may start at a type between angle brackets. It tells whether the
path does so. -/
def qualifiedPath (grammar : Grammar) (inExpression : Bool) : Reading (Bool × Path) := do
  if ← optionalSign "<" then
    discard (grammar.type true)
    if ← optionalWord "as" then
      discard (path grammar false)
    sign ">"
    sign "::"
    let first ← segment grammar inExpression
    let others ← repeated (starts "::") do
      sign "::"
      segment grammar inExpression
    return (true, ⟨false, first :: others⟩)
  return (false, ← path grammar inExpression)

def genericParameter (grammar : Grammar) : Reading Unit := do
  discard (attributes grammar)
  let found ← tokens
  if startsLifetime found then
    lifetime
    if ← optionalSign ":" then
      discard (joined (fun rest => rest.isEmpty || startsAny [",", ">"] rest) "+" lifetime)
  else if startsName found then
    discard name
    if ← optionalSign ":" then
      discard (joined (fun rest => rest.isEmpty || startsAny [",", ">", "="] rest) "+"
        (grammar.bound false true))
    if ← optionalSign "=" then
      discard (grammar.type true)
  else if startsWord "const" found then
    word "const"
    discard name
    sign ":"
    discard (grammar.type true)
    if ← optionalSign "=" then
      constantArgument grammar
  else
    fail

def optionalBinder (grammar : Grammar) : Reading Bool := do
  if ← optionalWord "for" then
    sign "<"
    discard (separated (starts ">") "," (genericParameter grammar))
    sign ">"
    return true
  return false

def capture : Reading Unit := do
  word "use"
  sign "<"
  discard (separated (starts ">") "," do
    let found ← tokens
    if startsLifetime found then
      lifetime
    else if startsName found || startsWord "Self" found then
      discard anyWord
    else
      fail)
  sign ">"

def traitBound (grammar : Grammar) (constants : Bool) : Reading Unit := do
  let binder ← optionalBinder grammar
  let found ← tokens
  if startsGroup .square found then
    inside .square (word "const")
    if !constants then
      failAt found
  else if startsWord "const" found then
    word "const"
    if !constants then
      failAt found
  if !binder then
    discard (optionalSign "?")
  optionalRoundedArguments grammar (← path grammar false)

def bound (grammar : Grammar) (captures constants : Bool) : Reading BoundTree := do
  let found ← tokens
  if startsLifetime found then
    lifetime
    return .lifetime
  if startsWord "use" found then
    capture
    if captures then
      return .capture
    failAt found
  if startsGroup .parenthesis found then
    inside .parenthesis (traitBound grammar constants)
  else
    traitBound grammar constants
  return .trait

def startsBound (constants : Bool) (tokens : List Token) : Bool :=
  startsAnyWord tokens || startsAny ["::", "?"] tokens || startsLifetime tokens ||
    startsGroup .parenthesis tokens ||
    (constants && (startsGroup .square tokens || startsWord "const" tokens))

/-- The bounds of an opaque type may be captures and constant bounds, those of a trait object may
not. -/
inductive BoundOwner
  | opaqueType
  | traitObject
  deriving DecidableEq

def boundSumUpTo (grammar : Grammar) (owner : BoundOwner) (sums : Bool) :
    Nat → Reading (List BoundTree)
  | 0 => return []
  | fuel + 1 => do
      let isOpaque := owner == .opaqueType
      let first ← bound grammar isOpaque isOpaque
      if sums then
        if ← optionalSign "+" then
          if ← look (startsBound isOpaque) then
            return first :: (← boundSumUpTo grammar owner sums fuel)
      return [first]

/-- This step reads the bounds of a type. One of them has to name a trait, and the failure is at
the given tokens otherwise. -/
def boundSum (grammar : Grammar) (owner : BoundOwner) (sums : Bool) (start : List Token) :
    Reading Unit := do
  let bounds ← boundSumUpTo grammar owner sums ((← tokens).length + 1)
  if !bounds.contains .trait then
    failAt start

def furtherBounds (grammar : Grammar) : Reading (List BoundTree) :=
  repeated (starts "+") do
    sign "+"
    bound grammar false false

end Tablewright.Declaration.Rule
