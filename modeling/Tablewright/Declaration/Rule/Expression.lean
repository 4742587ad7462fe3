import Tablewright.Declaration.Rule.Pattern

namespace Tablewright.Declaration.Rule

open Reading

def operatorTable : List (String × Precedence) :=
  [("+=", .assign), ("-=", .assign), ("*=", .assign), ("/=", .assign), ("%=", .assign),
   ("^=", .assign), ("&=", .assign), ("|=", .assign), ("<<=", .assign), (">>=", .assign),
   ("&&", .and), ("||", .or), ("<<", .shift), (">>", .shift), ("==", .compare),
   ("<=", .compare), ("!=", .compare), (">=", .compare), ("+", .sum), ("-", .sum),
   ("*", .product), ("/", .product), ("%", .product), ("^", .bitXor), ("&", .bitAnd),
   ("|", .bitOr), ("<", .compare), (">", .compare)]

def operator? (tokens : List Token) : Option (String × Precedence) :=
  operatorTable.find? fun operator => starts operator.1 tokens

def startsAssignment (tokens : List Token) : Bool :=
  starts "=" tokens && !starts "=>" tokens

def precedenceAt (tokens : List Token) : Precedence :=
  match operator? tokens with
  | some (_, precedence) => precedence
  | none =>
      if startsAssignment tokens then .assign
      else if starts ".." tokens then .range
      else if startsWord "as" tokens then .cast
      else .jump

def isRange : Expression → Bool
  | .range _ => true
  | _ => false

def isComparison : Expression → Bool
  | .comparison => true
  | _ => false

def isBlock : Expression → Bool
  | .block => true
  | _ => false

def rightSideUpTo (grammar : Grammar) (records : Bool) (precedence : Precedence) :
    Nat → Expression → Reading Unit
  | 0, _ => return
  | fuel + 1, right => do
      let found ← tokens
      let next := precedenceAt found
      if precedence.rank < next.rank || (next == precedence && precedence == .assign) then
        let larger ← grammar.operators right records next
        if (← tokens).length < found.length then
          rightSideUpTo grammar records precedence fuel larger

def rightSide (grammar : Grammar) (records : Bool) (precedence : Precedence) : Reading Unit := do
  let right ← grammar.operand records
  rightSideUpTo grammar records precedence ((← tokens).length + 1) right

def endsRange (records : Bool) (tokens : List Token) : Bool :=
  tokens.isEmpty || startsAny [",", ";"] tokens || (starts "." tokens && !starts ".." tokens) ||
    startsAny ["?", "=>"] tokens || (!records && startsGroup .brace tokens) ||
    startsAny ["=", "+", "/", "%", "^", ">", "<=", "!=", "-=", "*=", "&=", "|=", "<<="] tokens ||
    startsWord "as" tokens

def rangeRest (grammar : Grammar) (records : Bool) : Reading Expression := do
  let line := (← get).lineOf (← tokens)
  let closed ← rangeSign
  if closed || !(← look (endsRange records)) then
    rightSide grammar records .range
  return .range line

def endsConversion (tokens : List Token) : Bool :=
  !((starts "." tokens && !starts ".." tokens) || starts "?" tokens ||
    startsGroup .square tokens || startsGroup .parenthesis tokens)

/-- This step adds to an operand all operators down to a precedence. A range is no left operand,
and comparisons do not follow one another. -/
def operatorsUpTo (grammar : Grammar) (records : Bool) (base : Precedence) :
    Nat → Expression → Reading Expression
  | 0, left => return left
  | fuel + 1, left => do
      let found ← tokens
      if isRange left then
        return left
      match operator? found with
      | some (text, precedence) =>
          if precedence.rank < base.rank then
            return left
          if precedence == .compare && isComparison left then
            fail
          sign text
          rightSide grammar records precedence
          operatorsUpTo grammar records base fuel
            (if precedence == .compare then .comparison else .other)
      | none =>
          if base.rank ≤ Precedence.assign.rank && startsAssignment found then
            sign "="
            rightSide grammar records .assign
            operatorsUpTo grammar records base fuel .other
          else if base.rank ≤ Precedence.range.rank && starts ".." found then
            operatorsUpTo grammar records base fuel (← rangeRest grammar records)
          else if startsWord "as" found then
            word "as"
            discard (grammar.type false)
            if !(← look endsConversion) then
              fail
            operatorsUpTo grammar records base fuel .other
          else
            return left

def operators (grammar : Grammar) (left : Expression) (records : Bool) (base : Precedence) :
    Reading Expression := do
  operatorsUpTo grammar records base ((← tokens).length + 1) left

/-- This step reads the indexes of a number with a point, as behind a nested tuple. It tells
whether a name or index has to follow. -/
def pointedIndex (text : String) : Reading Bool := do
  let parts := Text.pieces (· == '.') text.toList
  let (indexes, goesOn) :=
    if parts.getLast? = some [] then (parts.dropLast, true) else (parts, false)
  if indexes.all Literal.isIndex then
    moveTo (second (← tokens))
    return goesOn
  fail

def memberAccess (grammar : Grammar) (receiver : Expression) : Reading Expression := do
  if ← optionalWord "await" then
    return .other
  let found ← tokens
  if startsName found then
    let method ← name
    let turbofish ← optionalSign "::"
    if turbofish then
      discard (angledArguments grammar)
    if turbofish || (← look (startsGroup .parenthesis)) then
      let arguments ← inside .parenthesis (commaList (grammar.expression true))
      return .methodCall receiver method arguments.length
    return .other
  discard member
  return .other

def access (grammar : Grammar) (receiver : Expression) : Reading Expression := do
  sign "."
  match ← tokens with
  | .literal text _ :: _ =>
      if Literal.isDecimal text then
        if ← pointedIndex text then
          memberAccess grammar .other
        else
          return .other
      else
        memberAccess grammar receiver
  | _ => memberAccess grammar receiver

def trailersUpTo (grammar : Grammar) : Nat → Expression → Reading Expression
  | 0, operand => return operand
  | fuel + 1, operand => do
      let found ← tokens
      if startsGroup .parenthesis found then
        discard (inside .parenthesis (commaList (grammar.expression true)))
        trailersUpTo grammar fuel .other
      else if starts "." found && !starts ".." found && !isRange operand then
        trailersUpTo grammar fuel (← access grammar operand)
      else if startsGroup .square found then
        discard (inside .square (grammar.expression true))
        trailersUpTo grammar fuel .other
      else if starts "?" found && !isRange operand then
        sign "?"
        trailersUpTo grammar fuel .other
      else
        return operand

def trailers (grammar : Grammar) (operand : Expression) : Reading Expression := do
  trailersUpTo grammar ((← tokens).length + 1) operand

def fieldValue (grammar : Grammar) : Reading Unit := do
  discard (attributes grammar)
  let named ← member
  if !named || (← look (starts ":")) then
    sign ":"
    discard (grammar.expression true)

/-- This step reads the fields of a record value. Two points end them, with a value for all other
fields. -/
def fieldValues (grammar : Grammar) : Nat → Reading Unit
  | 0 => return
  | fuel + 1 => do
      if ← isDone then
        return
      if ← optionalSign ".." then
        if !(← isDone) then
          discard (grammar.expression true)
        return
      fieldValue grammar
      if !(← isDone) then
        sign ","
        fieldValues grammar fuel

def pathExpression (grammar : Grammar) (records : Bool) : Reading Expression := do
  let (qualified, path) ← qualifiedPath grammar true
  let found ← tokens
  if !qualified && starts "!" found && !starts "!=" found && path.isPlain then
    sign "!"
    let (bracket, body) ← anyGroup
    return .macroCall path bracket body
  if records && startsGroup .brace found then
    inside .brace do
      fieldValues grammar ((← tokens).length + 1)
  return .other

def enclosedExpression (grammar : Grammar) : Reading Expression :=
  inside .parenthesis do
    if ← isDone then
      return .other
    let first ← grammar.expression true
    if ← isDone then
      return .enclosed first
    sign ","
    discard (commaList (grammar.expression true))
    return .other

def arrayExpression (grammar : Grammar) : Reading Expression :=
  inside .square do
    if ← isDone then
      return .array []
    let first ← grammar.expression true
    if ← isDone then
      return .array [first]
    if ← optionalSign ";" then
      discard (grammar.expression true)
      return .other
    sign ","
    return .array (first :: (← commaList (grammar.expression true)))

def startsExpression (tokens : List Token) : Bool :=
  (startsAnyWord tokens && !startsWord "as" tokens) || startsGroup .parenthesis tokens || startsGroup .square tokens ||
    startsGroup .brace tokens || startsLiteral tokens ||
    (starts "!" tokens && !starts "!=" tokens) ||
    (starts "-" tokens && !startsAny ["-=", "->"] tokens) ||
    (starts "*" tokens && !starts "*=" tokens) || (starts "|" tokens && !starts "|=" tokens) ||
    (starts "&" tokens && !starts "&=" tokens) || starts ".." tokens ||
    (starts "<" tokens && !startsAny ["<=", "<<="] tokens) || starts "::" tokens ||
    startsLifetime tokens || starts "#" tokens

def optionalExpression (grammar : Grammar) : Reading (Option Expression) := do
  if ← look startsExpression then
    return some (← grammar.expression true)
  return none

/-- This step reads the end of a loop. A named loop after it needs parentheses. -/
def breakExpression (grammar : Grammar) (records : Bool) : Reading Expression := do
  word "break"
  let found ← tokens
  if startsLifetime found && starts ":" (second found) then
    discard (grammar.expression true)
    failAt found
  discard optionalLifetime
  let next ← tokens
  if startsExpression next && (records || !startsGroup .brace next) then
    discard (grammar.expression true)
  return .other

def closureParameter (grammar : Grammar) : Reading Unit := do
  discard (attributes grammar)
  discard grammar.pattern
  if ← optionalSign ":" then
    discard (grammar.type true)

def closure (grammar : Grammar) (records : Bool) : Reading Expression := do
  discard (optionalBinder grammar)
  for modifier in ["const", "static", "async", "move"] do
    discard (optionalWord modifier)
  sign "|"
  discard (separated (starts "|") "," (closureParameter grammar))
  sign "|"
  if ← optionalSign "->" then
    discard (grammar.type true)
    discard (block grammar)
  else
    discard (grammar.expression records)
  return .other

def conditional (grammar : Grammar) : Nat → Reading Expression
  | 0 => fail
  | fuel + 1 => do
      word "if"
      discard (grammar.expression false)
      discard (block grammar)
      if ← optionalWord "else" then
        let found ← tokens
        if startsWord "if" found then
          conditional grammar fuel
        else if startsGroup .brace found then
          discard (block grammar)
          return .block
        else
          fail
      else
        return .block

def whileLoop (grammar : Grammar) : Reading Expression := do
  word "while"
  discard (grammar.expression false)
  discard (attributedBlock grammar)
  return .block

def forLoop (grammar : Grammar) : Reading Expression := do
  word "for"
  discard (alternatives grammar)
  word "in"
  discard (grammar.expression false)
  discard (attributedBlock grammar)
  return .block

def keywordBlock (grammar : Grammar) (keyword : String) : Reading Expression := do
  word keyword
  discard (attributedBlock grammar)
  return .block

def startsBlockLike (tokens : List Token) : Bool :=
  startsAnyOfWords ["if", "while", "loop", "match", "unsafe"] tokens ||
    (startsWord "for" tokens && !startsGenerics (second tokens)) ||
    (startsAnyOfWords ["try", "const"] tokens && startsGroup .brace (second tokens)) ||
    startsGroup .brace tokens || startsLifetime tokens

def startsClosure (tokens : List Token) : Bool :=
  let next := second tokens
  starts "|" tokens || startsAnyOfWords ["move", "static"] tokens ||
    (startsWord "for" tokens && startsGenerics next) ||
    (startsWord "const" tokens && !startsGroup .brace next) ||
    (startsWord "async" tokens && (starts "|" next || startsWord "move" next))

def startsPathExpression (tokens : List Token) : Bool :=
  startsName tokens || startsAny ["::", "<"] tokens || startsAnyOfWords pathKeywords tokens ||
    (startsWord "try" tokens && startsAny ["!", "::"] (second tokens))

def startsLaterBlock (tokens : List Token) : Bool :=
  let next := second tokens
  startsWord "async" tokens &&
    (startsGroup .brace next || (startsWord "move" next && startsGroup .brace (third tokens)))

def arm (grammar : Grammar) : Reading Unit := do
  discard (attributes grammar)
  discard (alternatives grammar)
  if ← optionalWord "if" then
    discard (grammar.expression true)
  sign "=>"
  let body ← grammar.boundary
  if isBlock body || (← isDone) then
    discard (optionalSign ",")
  else
    sign ","

def matchExpression (grammar : Grammar) : Reading Expression := do
  word "match"
  discard (grammar.expression false)
  inside .brace do
    discard (innerAttributes grammar)
    discard (untilDone (arm grammar))
  return .block

def letCondition (grammar : Grammar) (records : Bool) : Reading Expression := do
  word "let"
  discard (alternatives grammar)
  sign "="
  let left ← grammar.operand records
  discard (grammar.operators left records .compare)
  return .other

def labelled (grammar : Grammar) : Reading Expression := do
  optionalLabel
  let found ← tokens
  if startsWord "while" found then
    whileLoop grammar
  else if startsWord "for" found then
    forLoop grammar
  else if startsWord "loop" found then
    keywordBlock grammar "loop"
  else if startsGroup .brace found then
    discard (attributedBlock grammar)
    return .block
  else
    fail

def atom (grammar : Grammar) (records : Bool) : Reading Expression := do
  let found ← tokens
  if startsLiteral found then
    match ← literal with
    | some value => return .text value
    | none => return .other
  else if startsLaterBlock found then
    word "async"
    discard (optionalWord "move")
    discard (block grammar)
    return .other
  else if startsWord "try" found && startsGroup .brace (second found) then
    word "try"
    discard (block grammar)
    return .block
  else if startsClosure found then
    closure grammar records
  else if startsBuiltin found then
    builtinForm
    return .other
  else if startsPathExpression found then
    pathExpression grammar records
  else if startsGroup .parenthesis found then
    enclosedExpression grammar
  else if startsWord "break" found then
    breakExpression grammar records
  else if startsWord "continue" found then
    word "continue"
    discard optionalLifetime
    return .other
  else if startsWord "return" found then
    word "return"
    return .returned (← optionalExpression grammar)
  else if startsWord "become" found then
    word "become"
    discard (grammar.expression true)
    return .other
  else if startsGroup .square found then
    arrayExpression grammar
  else if startsWord "let" found then
    letCondition grammar records
  else if startsWord "if" found then
    conditional grammar (found.length + 1)
  else if startsWord "while" found then
    whileLoop grammar
  else if startsWord "for" found then
    forLoop grammar
  else if startsWord "loop" found then
    keywordBlock grammar "loop"
  else if startsWord "match" found then
    matchExpression grammar
  else if startsWord "yield" found then
    word "yield"
    discard (optionalExpression grammar)
    return .other
  else if startsWord "unsafe" found then
    keywordBlock grammar "unsafe"
  else if startsWord "const" found then
    keywordBlock grammar "const"
  else if startsGroup .brace found then
    discard (attributedBlock grammar)
    return .block
  else if starts ".." found then
    rangeRest grammar records
  else if startsWord "_" found then
    word "_"
    return .other
  else if startsLifetime found then
    labelled grammar
  else
    fail

def reference (grammar : Grammar) (records : Bool) : Reading Expression := do
  sign "&"
  let found ← tokens
  if startsWord "raw" found && startsAnyOfWords ["mut", "const"] (second found) then
    word "raw"
    discard anyWord
    discard (grammar.operand records)
    return .other
  discard (optionalWord "mut")
  return .reference (← grammar.operand records)

/-- This step reads an operand with its signs in front. Attributes do not stand before a range
without a lower end. -/
def operand (grammar : Grammar) (records : Bool) : Reading Expression := do
  let attributed := !(← attributes grammar).isEmpty
  let found ← tokens
  if starts "&" found then
    reference grammar records
  else if startsAny ["*", "!", "-"] found then
    moveTo (second found)
    discard (grammar.operand records)
    return .other
  else
    match ← trailers grammar (← atom grammar records) with
    | .range line => if attributed then throw line else return .range line
    | found => return found

def expression (grammar : Grammar) (records : Bool) : Reading Expression := do
  operators grammar (← operand grammar records) records .jump

def boundary (grammar : Grammar) : Reading Expression := do
  discard (attributes grammar)
  let found ← tokens
  let first ← if startsBlockLike found then atom grammar true else operand grammar true
  if isBlock first then
    let next ← tokens
    if (starts "." next && !starts ".." next) || starts "?" next then
      operators grammar (← trailers grammar first) true .jump
    else
      return first
  else
    operators grammar first true .jump

end Tablewright.Declaration.Rule
