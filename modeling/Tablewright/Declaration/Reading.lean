import Tablewright.Declaration.Literal
import Tablewright.Declaration.Token

namespace Tablewright.Declaration

/-- A cursor has the tokens that are left. Its last line stands for the end of the tokens. The
stray line is the line of the first token that is left over inside brackets. -/
structure Cursor where
  tokens : List Token
  lastLine : Nat
  stray : Option Nat := none

namespace Cursor

def lineOf (cursor : Cursor) (tokens : List Token) : Nat :=
  match tokens with
  | first :: _ => first.line
  | [] => cursor.lastLine

end Cursor

abbrev Reading := StateT Cursor (Except Nat)

/-- This function drops the first token. A lifetime counts as one token. -/
def second : List Token → List Token
  | .mark '\'' true _ :: .word _ _ :: rest => rest
  | _ :: rest => rest
  | [] => []

def third (tokens : List Token) : List Token :=
  second (second tokens)

def startsAnyWord : List Token → Bool
  | .word _ _ :: _ => true
  | _ => false

def startsWord (word : String) : List Token → Bool
  | .word text _ :: _ => text == word
  | _ => false

def keywords : List String :=
  ["_", "abstract", "as", "async", "await", "become", "box", "break", "const", "continue",
   "crate", "do", "dyn", "else", "enum", "extern", "false", "final", "fn", "for", "if", "impl",
   "in", "let", "loop", "macro", "match", "mod", "move", "mut", "override", "priv", "pub", "ref",
   "return", "Self", "self", "static", "struct", "super", "trait", "true", "try", "type",
   "typeof", "unsafe", "unsized", "use", "virtual", "where", "while", "yield"]

def startsName : List Token → Bool
  | .word text _ :: _ => text ∉ keywords
  | _ => false

def startsSign : List Char → List Token → Bool
  | [], _ => true
  | [sign], .mark character _ _ :: _ => character == sign
  | sign :: rest, .mark character joint _ :: others =>
      character == sign && joint && startsSign rest others
  | _, _ => false

def starts (sign : String) (tokens : List Token) : Bool :=
  startsSign sign.toList tokens

def startsAny (signs : List String) (tokens : List Token) : Bool :=
  signs.any (starts · tokens)

def startsAnyOfWords (words : List String) (tokens : List Token) : Bool :=
  words.any (startsWord · tokens)

def startsGroup (bracket : Bracket) : List Token → Bool
  | .group found _ _ _ :: _ => found == bracket
  | _ => false

def startsLifetime : List Token → Bool
  | .mark '\'' true _ :: .word _ _ :: _ => true
  | _ => false

def startsLiteral : List Token → Bool
  | .literal _ _ :: _ => true
  | .word text _ :: _ => text == "true" || text == "false"
  | .mark '-' _ _ :: .literal text _ :: _ => Literal.isNumber text
  | _ => false

def startsTextLiteral : List Token → Bool
  | .literal text _ :: _ => (Literal.textValue? text).isSome
  | _ => false

namespace Reading

def tokens : Reading (List Token) := do
  return (← get).tokens

def look (test : List Token → Bool) : Reading Bool := do
  return test (← get).tokens

def isDone : Reading Bool :=
  look List.isEmpty

def failAt {α : Type} (found : List Token) : Reading α := do
  throw ((← get).lineOf found)

def fail {α : Type} : Reading α := do
  failAt (← tokens)

def moveTo (rest : List Token) : Reading Unit :=
  modify fun cursor => { cursor with tokens := rest }

/-- This step reads ahead. It gives the tokens after what it read, and does not move. -/
def ahead {α : Type} (step : Reading α) : Reading (α × List Token) := fun cursor =>
  match step cursor with
  | .ok (value, next) => .ok ((value, next.tokens), cursor)
  | .error line => .error line

def attempt {α : Type} (step : Reading α) : Reading (Option α) := fun cursor =>
  match step cursor with
  | .ok (value, next) => .ok (some value, next)
  | .error _ => .ok (none, cursor)

def word (expected : String) : Reading Unit := do
  match ← tokens with
  | .word text _ :: rest => if text == expected then moveTo rest else fail
  | _ => fail

def optionalWord (expected : String) : Reading Bool := do
  if ← look (startsWord expected) then
    word expected
    return true
  return false

def anyWord : Reading String := do
  match ← tokens with
  | .word text _ :: rest =>
      moveTo rest
      return text
  | _ => fail

def name : Reading String := do
  if ← look startsName then anyWord else fail

def sign (expected : String) : Reading Unit := do
  let found ← tokens
  if starts expected found then moveTo (found.drop expected.length) else fail

def optionalSign (expected : String) : Reading Bool := do
  if ← look (starts expected) then
    sign expected
    return true
  return false

def lifetime : Reading Unit := do
  let found ← tokens
  if startsLifetime found then moveTo (second found) else fail

def optionalLifetime : Reading Bool := do
  if ← look startsLifetime then
    lifetime
    return true
  return false

/-- This step reads a literal. It gives the value of a text. -/
def literal : Reading (Option String) := do
  match ← tokens with
  | .literal text _ :: rest =>
      moveTo rest
      return Literal.textValue? text
  | found =>
      if startsLiteral found then
        moveTo (if startsAnyWord found then found.drop 1 else found.drop 2)
        return none
      else fail

/-- This step reads what stands between brackets. The first token that is left over there is
stray. -/
def inside {α : Type} (bracket : Bracket) (step : Reading α) : Reading α := fun cursor =>
  match cursor.tokens with
  | .group found _ lastLine body :: rest =>
      if found = bracket then
        match step ⟨body, lastLine, cursor.stray⟩ with
        | .ok (value, inner) =>
            .ok (value, ⟨rest, cursor.lastLine, inner.stray <|> inner.tokens.head?.map Token.line⟩)
        | .error line => .error line
      else fail cursor
  | _ => fail cursor

def anyGroup : Reading (Bracket × List Token) := do
  match ← tokens with
  | .group bracket _ _ body :: rest =>
      moveTo rest
      return (bracket, body)
  | _ => fail

def skipGroup (bracket : Bracket) : Reading Unit := do
  if ← look (startsGroup bracket) then discard anyGroup else fail

/-- This step repeats a step as long as a test holds. The fuel is the number of tokens, of which
every step takes one or more. -/
def repeatedUpTo {α : Type} (goesOn : List Token → Bool) (step : Reading α) :
    Nat → Reading (List α)
  | 0 => return []
  | fuel + 1 => do
      if ← look goesOn then
        let first ← step
        return first :: (← repeatedUpTo goesOn step fuel)
      return []

def repeated {α : Type} (goesOn : List Token → Bool) (step : Reading α) : Reading (List α) := do
  repeatedUpTo goesOn step ((← tokens).length + 1)

def untilDone {α : Type} (step : Reading α) : Reading (List α) :=
  repeated (fun found => !found.isEmpty) step

/-- This step reads a list with a sign between its members. The list ends where a test holds, and
its last member may have a sign behind it. -/
def separatedUpTo {α : Type} (ends : List Token → Bool) (separator : String)
    (step : Reading α) : Nat → Reading (List α)
  | 0 => return []
  | fuel + 1 => do
      if ← look ends then
        return []
      let first ← step
      if ← look ends then
        return [first]
      sign separator
      return first :: (← separatedUpTo ends separator step fuel)

def separated {α : Type} (ends : List Token → Bool) (separator : String)
    (step : Reading α) : Reading (List α) := do
  separatedUpTo ends separator step ((← tokens).length + 1)

def commaList {α : Type} (step : Reading α) : Reading (List α) :=
  separated List.isEmpty "," step

def joinedUpTo {α : Type} (ends : List Token → Bool) (joint : String) (step : Reading α) :
    Nat → Reading (List α)
  | 0 => return []
  | fuel + 1 => do
      if ← look ends then
        return []
      let first ← step
      if ← optionalSign joint then
        return first :: (← joinedUpTo ends joint step fuel)
      return [first]

def joined {α : Type} (ends : List Token → Bool) (joint : String) (step : Reading α) :
    Reading (List α) := do
  joinedUpTo ends joint step ((← tokens).length + 1)

end Tablewright.Declaration.Reading
