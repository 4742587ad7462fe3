import Tablewright.Declaration.Rule.Statement

namespace Tablewright.Declaration.Rule

open Reading

/-- A visibility in parentheses is one keyword, or a path after a keyword. Anything else in
parentheses belongs to a type. -/
def restriction : Reading Unit := do
  let start ← get
  match start.tokens with
  | .group .parenthesis _ _ body :: rest =>
      if startsAnyOfWords ["crate", "self", "super"] body then
        if (second body).isEmpty then
          moveTo rest
      else if startsWord "in" body then
        inside .parenthesis do
          word "in"
          discard simplePath
  | _ => return

/-- This step reads a visibility. It tells whether there is one. -/
def visibility : Reading Bool := do
  if ← optionalWord "pub" then
    restriction
    return true
  return false

def receiver (grammar : Grammar) : Reading Unit := do
  let byReference ← optionalSign "&"
  if byReference then
    discard optionalLifetime
  discard (optionalWord "mut")
  word "self"
  if !byReference then
    if ← optionalSign ":" then
      discard (grammar.type true)

inductive ParameterForm
  | receiver
  | opened
  | plain
  deriving DecidableEq

def startsReceiver (tokens : List Token) : Bool :=
  let referred :=
    if starts "&" tokens then
      if startsLifetime (second tokens) then third tokens else second tokens
    else tokens
  let word := if startsWord "mut" referred then second referred else referred
  startsWord "self" word && !starts "::" (second word)

def parameter (grammar : Grammar) : Reading ParameterForm := do
  let found ← tokens
  if starts "..." found then
    sign "..."
    return .opened
  if startsReceiver found then
    receiver grammar
    return .receiver
  if startsName found && starts "<" (second found) then
    discard (grammar.type true)
    return .plain
  discard grammar.pattern
  sign ":"
  if ← optionalSign "..." then
    return .opened
  discard (grammar.type true)
  return .plain

def receiverLine (cursor : Cursor) (found : List Token) : Nat :=
  cursor.lineOf (found.dropWhile fun token => !startsWord "self" [token])

/-- This step reads the parameters of a function. The receiver is the first of them. -/
def parameters (grammar : Grammar) : Nat → (first : Bool) → Reading Unit
  | 0, _ => return
  | fuel + 1, first => do
      if ← isDone then
        return
      discard (attributes grammar)
      let line := receiverLine (← get) (← tokens)
      let form ← parameter grammar
      if form = .receiver ∧ !first then
        throw line
      if !(← isDone) then
        sign ","
        if form ≠ .opened then
          parameters grammar fuel false

/-- This step reads the signature of a function, and gives its name. One modifier stands in
foreign blocks only. -/
def signature (grammar : Grammar) (foreign : Bool) : Reading String := do
  discard (optionalWord "const")
  discard (optionalWord "async")
  if !(← optionalWord "unsafe") && foreign then
    discard (optionalWord "safe")
  optionalConvention
  word "fn"
  let found ← name
  generics grammar
  inside .parenthesis do
    parameters grammar ((← tokens).length + 1) true
  resultType grammar true
  conditions grammar
  return found

def function? (grammar : Grammar) (foreign : Bool) : Reading (Option FunctionDeclaration) := do
  let name ← signature grammar foreign
  if ← optionalSign ";" then
    return none
  return some ⟨name, ← attributedBlock grammar⟩

end Tablewright.Declaration.Rule
