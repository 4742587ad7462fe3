import Tablewright.Declaration.Rule.Item
import Tablewright.Declaration.TokenTree

namespace Tablewright.Declaration

def Grammar.deeper (grammar : Grammar) : Grammar where
  type := Rule.type grammar
  bound := Rule.bound grammar
  pattern := Rule.pattern grammar
  expression := Rule.expression grammar
  operand := Rule.operand grammar
  operators := Rule.operators grammar
  boundary := Rule.boundary grammar
  body := Rule.body grammar
  item := Rule.item grammar
  imports := Rule.imports grammar

def Grammar.ofDepth : Nat → Grammar
  | 0 => .flat
  | depth + 1 => (ofDepth depth).deeper

/-- Few steps go deeper without a token in between, so this depth is enough for tokens. -/
def depthFor (tokens : List Token) : Nat :=
  4 * Token.countAll tokens + 8

/-- This function reads tokens to their end. A token that is left over is an error at its line,
after all other errors. -/
def readAll {α : Type} (step : Grammar → Reading α) (tokens : List Token) (lastLine : Nat) :
    Except Nat α :=
  match step (.ofDepth (depthFor tokens)) ⟨tokens, lastLine, none⟩ with
  | .error line => .error line
  | .ok (value, cursor) =>
      match cursor.stray, cursor.tokens with
      | some line, _ => .error line
      | none, left :: _ => .error left.line
      | none, [] => .ok value

def expressionsOf (tokens : List Token) : Option (List Expression) :=
  (readAll (fun grammar => Reading.commaList (grammar.expression true)) tokens 1).toOption

def byteOrderMark : Char := '\uFEFF'

def withoutMark (text : List Char) : List Char :=
  if text.head? = some byteOrderMark then text.drop 1 else text

def withoutBlanks : Nat → List Char → List Char
  | 0, text => text
  | fuel + 1, text =>
      match Lexeme.blankLength? text with
      | some length => withoutBlanks fuel (text.drop length)
      | none => text

/-- The first line of a file may name its interpreter. It does so when it starts with two signs
after which no attribute follows. The line end stays. -/
def withoutInterpreter (text : List Char) : List Char :=
  match text with
  | '#' :: '!' :: rest =>
      if (withoutBlanks rest.length rest).head? = some '[' then text
      else text.dropWhile (· ≠ '\n')
  | _ => text

/-- This function reads the items of a declaration file, or finds the line where that fails. The
end of the file counts as its first line. -/
def read (text : String) : Except Nat (List Item) := do
  let tokens ← tokensOf (withoutMark (withoutInterpreter (withoutMark text.toList)))
  readAll Rule.file tokens 1

end Tablewright.Declaration
