import Tablewright.Declaration.Rule.Expression

namespace Tablewright.Declaration.Rule

open Reading

/-- These tokens start a function, after modifiers. One modifier stands in foreign blocks only. -/
def startsFunction (foreign : Bool) (tokens : List Token) : Bool :=
  let without (word : String) (found : List Token) : List Token :=
    if startsWord word found then found.drop 1 else found
  let later := without "async" (without "const" tokens)
  let modified :=
    if foreign && startsWord "safe" later then later.drop 1 else without "unsafe" later
  let rest :=
    if startsWord "extern" modified then
      let convention := modified.drop 1
      if startsTextLiteral convention then convention.drop 1 else convention
    else modified
  startsWord "fn" rest

def startsConstantItem (tokens : List Token) : Bool :=
  let next := second tokens
  startsWord "const" tokens &&
    !(startsGroup .brace next || startsAnyOfWords ["static", "move"] next || starts "|" next ||
      (startsWord "async" next &&
        !startsAnyOfWords ["unsafe", "extern", "fn"] (third tokens)))

def startsStaticItem (tokens : List Token) : Bool :=
  let next := second tokens
  startsWord "static" tokens && (startsWord "mut" next || startsName next)

def startsItem (tokens : List Token) : Bool :=
  let next := second tokens
  startsAnyOfWords ["pub", "extern", "use", "fn", "mod", "type", "struct", "enum", "trait",
    "impl", "macro"] tokens ||
    (startsWord "crate" tokens && !starts "::" next) || startsStaticItem tokens ||
    startsConstantItem tokens ||
    (startsWord "unsafe" tokens && !startsGroup .brace next) ||
    (startsWord "async" tokens && startsAnyOfWords ["unsafe", "extern", "fn"] next) ||
    (startsWord "union" tokens && startsName next) ||
    (startsWord "auto" tokens && startsWord "trait" next) ||
    (startsWord "default" tokens && startsAnyOfWords ["unsafe", "impl"] next)

/-- A macro call at the start of a statement declares a name, is a statement of its own, or
belongs to an expression. -/
inductive MacroPlace
  | item
  | statement (rest : List Token)
  | expression

/-- This step looks for a macro call at the start of a statement, and does not move. A call with
braces is a statement of its own, unless an access follows it. -/
def macroPlace : Reading MacroPlace := do
  let start ← tokens
  match ← attempt simplePath with
  | none => return .expression
  | some _ =>
      let found ← tokens
      moveTo start
      let next := second found
      let after := third found
      if !starts "!" found then
        return .expression
      else if startsName next || startsWord "try" next then
        return .item
      else if startsGroup .brace next &&
          !((starts "." after && !starts ".." after) || starts "?" after) then
        return .statement after
      else
        return .expression

/-- This step reads the introduction of a variable. A block for the other case does not follow a
value that ends with a brace. -/
def letStatement (grammar : Grammar) : Reading Unit := do
  word "let"
  discard grammar.pattern
  if ← optionalSign ":" then
    discard (grammar.type true)
  if ← optionalSign "=" then
    let before ← tokens
    discard (grammar.expression true)
    let after ← tokens
    let last := before.drop (before.length - after.length - 1)
    if !startsGroup .brace last && startsWord "else" after then
      word "else"
      discard (block grammar)
  sign ";"

def needsEnd : Expression → Bool
  | .macroCall _ bracket _ => bracket ≠ .brace
  | found => !isBlock found

/-- This step reads an expression that is a statement. It tells whether an end is missing. -/
def expressionStatement (grammar : Grammar) : Reading (Statement × Bool) := do
  let found ← grammar.boundary
  let ended ← optionalSign ";"
  match found with
  | .macroCall _ bracket _ =>
      if ended || bracket = .brace then
        return (.other, false)
      return (.expression found, true)
  | _ => return (.expression found, !ended && needsEnd found)

/-- This step reads a statement. It tells whether an end is missing. -/
def statement (grammar : Grammar) : Reading (Statement × Bool) := do
  discard (attributes grammar)
  match ← macroPlace with
  | .statement rest =>
      moveTo rest
      discard (optionalSign ";")
      return (.other, false)
  | .item =>
      discard grammar.item
      return (.other, false)
  | .expression =>
      let found ← tokens
      if startsWord "let" found then
        letStatement grammar
        return (.other, false)
      else if startsItem found then
        discard grammar.item
        return (.other, false)
      else
        expressionStatement grammar

def statementsUpTo (grammar : Grammar) : Nat → Reading (List Statement)
  | 0 => return []
  | fuel + 1 => do
      if ← optionalSign ";" then
        return .expression .other :: (← statementsUpTo grammar fuel)
      if ← isDone then
        return []
      let (first, endMissing) ← statement grammar
      if ← isDone then
        return [first]
      if endMissing then
        fail
      return first :: (← statementsUpTo grammar fuel)

def body (grammar : Grammar) : Reading (List Statement) := do
  statementsUpTo grammar ((← tokens).length + 1)

end Tablewright.Declaration.Rule
