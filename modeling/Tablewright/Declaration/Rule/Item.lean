import Tablewright.Declaration.Rule.Function

namespace Tablewright.Declaration.Rule

open Reading

/-- This step reads a macro call as an item. It needs a sign at its end unless it has braces. -/
def macroItem (named : Bool) : Reading Unit := do
  discard simplePath
  sign "!"
  if named then
    if (← look startsName) || (← look (startsWord "try")) then
      discard anyWord
  let (bracket, _) ← anyGroup
  if bracket ≠ .brace then
    sign ";"

def startsMacroItem (tokens : List Token) : Bool :=
  startsName tokens || startsAnyOfWords ["self", "super", "crate"] tokens || starts "::" tokens

def nameOrUnderscore : Reading Unit := do
  if !(← optionalWord "_") then
    discard name

def crateImport : Reading Unit := do
  discard visibility
  word "extern"
  word "crate"
  if !(← optionalWord "self") then
    discard name
  if ← optionalWord "as" then
    nameOrUnderscore
  sign ";"

def imports (grammar : Grammar) (rooted : Bool) : Reading Unit := do
  let found ← tokens
  if startsName found || startsAnyOfWords ["self", "super", "crate", "try"] found then
    discard anyWord
    if ← optionalSign "::" then
      grammar.imports false
    else if ← optionalWord "as" then
      nameOrUnderscore
  else if starts "*" found then
    sign "*"
  else if startsGroup .brace found then
    discard (inside .brace (commaList do
      let atRoot ← if rooted then optionalSign "::" else pure false
      grammar.imports (rooted && !atRoot)))
  else
    fail

def importItem (grammar : Grammar) : Reading Unit := do
  discard visibility
  word "use"
  let rooted ← optionalSign "::"
  imports grammar (!rooted)
  sign ";"

def staticItem (grammar : Grammar) : Reading Unit := do
  discard visibility
  word "static"
  discard (optionalWord "mut")
  discard name
  if ← optionalSign "=" then
    discard (grammar.expression true)
  else
    sign ":"
    discard (grammar.type true)
    if ← optionalSign ";" then
      return
    sign "="
    discard (grammar.expression true)
  sign ";"

def constantItem (grammar : Grammar) : Reading Unit := do
  word "const"
  nameOrUnderscore
  generics grammar
  sign ":"
  discard (grammar.type true)
  if ← optionalSign "=" then
    discard (grammar.expression true)
  conditions grammar
  sign ";"

inductive ConditionPlace
  | before
  | after
  | both
  deriving DecidableEq

def endsTypeBounds (tokens : List Token) : Bool :=
  startsWord "where" tokens || startsAny ["=", ";"] tokens

def typeItem (grammar : Grammar) (defaults : Bool) (place : ConditionPlace) : Reading Unit := do
  discard visibility
  if defaults then
    discard (optionalWord "default")
  word "type"
  discard name
  generics grammar
  if ← optionalSign ":" then
    discard (separated endsTypeBounds "+" (bound grammar false true))
  let hadConditions ← look (startsWord "where")
  if place ≠ .after then
    conditions grammar
  if ← optionalSign "=" then
    discard (grammar.type true)
  if place = .after ∨ (place = .both ∧ !hadConditions) then
    conditions grammar
  sign ";"

def macroDeclaration : Reading Unit := do
  discard visibility
  word "macro"
  discard name
  if ← look (startsGroup .parenthesis) then
    discard anyGroup
  skipGroup .brace

mutual

/-- This step reads the type of a field. Only a field without a name may have a record there. -/
def fieldType (grammar : Grammar) (unnamed : Bool) : Nat → Reading TypeTree
  | 0 => fail
  | depth + 1 => do
      let found ← tokens
      if unnamed && (startsWord "struct" found ||
          (startsWord "union" found && startsGroup .brace (second found))) then
        discard anyWord
        discard (inside .brace (commaList (namedField grammar depth)))
        return .other
      grammar.type true

def namedField (grammar : Grammar) : Nat → Reading Field
  | 0 => fail
  | depth + 1 => do
      let attributes ← attributes grammar
      discard visibility
      let found ← tokens
      let line := (← get).lineOf found
      let unnamed := startsWord "_" found
      let name ← if unnamed then anyWord else name
      sign ":"
      return ⟨attributes, some name, line, ← fieldType grammar unnamed depth⟩

end

def placedField (grammar : Grammar) : Reading Field := do
  let attributes ← attributes grammar
  discard visibility
  let line := (← get).lineOf (← tokens)
  return ⟨attributes, none, line, ← grammar.type true⟩

def namedFields (grammar : Grammar) : Reading (List Field) := do
  let depth := Token.countAll (← tokens) + 2
  inside .brace (commaList (namedField grammar depth))

def placedFields (grammar : Grammar) : Reading (List Field) :=
  inside .parenthesis (commaList (placedField grammar))

def structFields (grammar : Grammar) : Reading (List Field) := do
  let conditioned ← look (startsWord "where")
  conditions grammar
  let found ← tokens
  if !conditioned && startsGroup .parenthesis found then
    let fields ← placedFields grammar
    conditions grammar
    sign ";"
    return fields
  if startsGroup .brace found then
    namedFields grammar
  else
    sign ";"
    return []

def structItem (grammar : Grammar) : Reading StructDeclaration := do
  discard visibility
  word "struct"
  let found ← name
  generics grammar
  return ⟨found, ← structFields grammar⟩

def enumerationCase (grammar : Grammar) : Reading Unit := do
  discard (attributes grammar)
  discard visibility
  discard name
  let found ← tokens
  if startsGroup .brace found then
    discard (namedFields grammar)
  else if startsGroup .parenthesis found then
    discard (placedFields grammar)
  if ← optionalSign "=" then
    discard (grammar.expression true)

def enumeration (grammar : Grammar) : Reading Unit := do
  discard visibility
  word "enum"
  discard name
  generics grammar
  conditions grammar
  discard (inside .brace (commaList (enumerationCase grammar)))

def unionDeclaration (grammar : Grammar) : Reading Unit := do
  discard visibility
  word "union"
  discard name
  generics grammar
  conditions grammar
  discard (namedFields grammar)

def members {α : Type} (grammar : Grammar) (step : Reading α) : Reading (List α) :=
  inside .brace do
    discard (innerAttributes grammar)
    untilDone step

def innerModule (grammar : Grammar) : Reading Unit := do
  discard visibility
  discard (optionalWord "unsafe")
  word "mod"
  if !(← optionalWord "try") then
    discard name
  if !(← optionalSign ";") then
    discard (members grammar do
      discard (attributes grammar)
      grammar.item)

def foreignItem (grammar : Grammar) : Reading Unit := do
  discard (attributes grammar)
  let (visible, found) ← ahead visibility
  if startsFunction true found then
    discard visibility
    discard (function? grammar true)
  else if startsWord "static" found ||
      (startsAnyOfWords ["unsafe", "safe"] found && startsWord "static" (second found)) then
    discard visibility
    if !(← optionalWord "unsafe") then
      discard (optionalWord "safe")
    word "static"
    discard (optionalWord "mut")
    discard name
    sign ":"
    discard (grammar.type true)
    if ← optionalSign "=" then
      discard (grammar.expression true)
    sign ";"
  else if startsWord "type" found then
    typeItem grammar false .both
  else if !visible && startsMacroItem found then
    macroItem false
  else
    failAt found

def foreignBlock (grammar : Grammar) : Reading Unit := do
  discard (optionalWord "unsafe")
  word "extern"
  if ← look startsTextLiteral then
    discard literal
  discard (members grammar (foreignItem grammar))

def traitItem (grammar : Grammar) : Reading Unit := do
  discard (attributes grammar)
  let visible ← visibility
  let defaulted ← optionalWord "default"
  let found ← tokens
  if startsFunction false found then
    discard (function? grammar false)
  else if startsWord "const" found then
    let next := second found
    if startsName next || startsWord "_" next then
      constantItem grammar
    else if startsAnyOfWords ["async", "unsafe", "extern", "fn"] next then
      discard (function? grammar false)
    else
      failAt next
  else if startsWord "type" found then
    typeItem grammar false .after
  else if !visible && !defaulted && startsMacroItem found then
    macroItem false
  else
    fail

def traitRest (grammar : Grammar) : Reading Unit := do
  if ← optionalSign ":" then
    discard (separated (fun found => startsWord "where" found || startsGroup .brace found) "+"
      (bound grammar false true))
  conditions grammar
  discard (members grammar (traitItem grammar))

def traitDeclaration (grammar : Grammar) : Reading Unit := do
  discard visibility
  discard (optionalWord "unsafe")
  discard (optionalWord "auto")
  word "trait"
  discard name
  generics grammar
  traitRest grammar

def traitOrAlias (grammar : Grammar) : Reading Unit := do
  discard visibility
  word "trait"
  discard name
  generics grammar
  let found ← tokens
  if startsGroup .brace found || starts ":" found || startsWord "where" found then
    traitRest grammar
  else
    sign "="
    discard (separated (fun rest => startsWord "where" rest || starts ";" rest) "+"
      (bound grammar false false))
    conditions grammar
    sign ";"

def implementationItem (grammar : Grammar) : Reading (Option FunctionDeclaration) := do
  discard (attributes grammar)
  let (visible, after) ← ahead visibility
  let defaulted := startsWord "default" after && !starts "!" (second after)
  let found := if defaulted then second after else after
  if startsFunction false found then
    discard visibility
    discard (optionalWord "default")
    function? grammar false
  else if startsWord "const" found then
    discard visibility
    discard (optionalWord "default")
    constantItem grammar
    return none
  else if startsWord "type" found then
    typeItem grammar true .after
    return none
  else if !visible && !defaulted && startsMacroItem found then
    macroItem false
    return none
  else
    failAt found

def isTraitName : TypeTree → Bool
  | .path qualified _ => !qualified
  | _ => false

/-- This step reads an implementation. One that is visible, constant, or of something else than a
trait declares nothing. -/
def implementation (grammar : Grammar) : Reading Item := do
  let visible ← visibility
  discard (optionalWord "default")
  discard (optionalWord "unsafe")
  word "impl"
  if ← look startsGenerics then
    generics grammar
  let head ← tokens
  let constant :=
    startsWord "const" head || (starts "?" head && startsWord "const" (second head))
  if constant then
    discard (optionalSign "?")
    word "const"
  let mark ← tokens
  let negative := starts "!" mark && !startsGroup .brace (second mark)
  if negative then
    sign "!"
  let first ← grammar.type true
  let ofTrait ← optionalWord "for"
  if !ofTrait && negative then
    failAt mark
  let self ← if ofTrait then grammar.type true else pure first
  conditions grammar
  let functions ← members grammar (implementationItem grammar)
  if visible || constant || (ofTrait && !isTraitName first) then
    return .other
  return .implementation ⟨self, functions.filterMap id⟩

def externItem (grammar : Grammar) (found : List Token) : Reading Unit := do
  let next := second found
  if startsWord "crate" next then
    crateImport
  else if startsGroup .brace next || (startsTextLiteral next && startsGroup .brace (second next))
  then
    foreignBlock grammar
  else if startsTextLiteral next then
    failAt (second next)
  else
    failAt next

def unsafeItem (grammar : Grammar) (found : List Token) : Reading Item := do
  let next := second found
  if startsWord "trait" next || (startsWord "auto" next && startsWord "trait" (second next)) then
    traitDeclaration grammar
    return .other
  else if startsWord "impl" next then
    implementation grammar
  else if startsWord "extern" next then
    foreignBlock grammar
    return .other
  else if startsWord "mod" next then
    innerModule grammar
    return .other
  else
    failAt next

def item (grammar : Grammar) : Reading Item := do
  let (visible, found) ← ahead visibility
  let next := second found
  let plain (step : Reading Unit) : Reading Item := do
    step
    return .other
  if startsFunction false found then
    plain do
      discard visibility
      discard (function? grammar false)
  else if startsWord "extern" found then
    plain (externItem grammar found)
  else if startsWord "use" found then
    plain (importItem grammar)
  else if startsWord "static" found then
    plain (staticItem grammar)
  else if startsWord "const" found then
    plain do
      discard visibility
      constantItem grammar
  else if startsWord "unsafe" found then
    unsafeItem grammar found
  else if startsWord "mod" found then
    plain (innerModule grammar)
  else if startsWord "type" found then
    plain (typeItem grammar false .before)
  else if startsWord "struct" found then
    return .struct (← structItem grammar)
  else if startsWord "enum" found then
    plain (enumeration grammar)
  else if startsWord "union" found && startsName next then
    plain (unionDeclaration grammar)
  else if startsWord "trait" found then
    plain (traitOrAlias grammar)
  else if startsWord "auto" found && startsWord "trait" next then
    plain (traitDeclaration grammar)
  else if startsWord "impl" found || (startsWord "default" found && !starts "!" next) then
    implementation grammar
  else if startsWord "macro" found then
    plain macroDeclaration
  else if !visible && startsMacroItem found then
    plain (macroItem true)
  else
    failAt found

def file (grammar : Grammar) : Reading (List Item) := do
  discard (innerAttributes grammar)
  untilDone do
    discard (attributes grammar)
    item grammar

end Tablewright.Declaration.Rule
