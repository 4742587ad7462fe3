import Tablewright.Text.Pieces

namespace Tablewright.Declaration

inductive Bracket
  | parenthesis
  | square
  | brace
  deriving DecidableEq, Repr

/-- A token is a word, a punctuation mark, a literal, or a group of tokens between brackets. Each
has the line where it starts, and a group also the line where it ends. A mark is joint when
another mark follows at once. -/
inductive Token
  | word (text : String) (line : Nat)
  | mark (character : Char) (joint : Bool) (line : Nat)
  | literal (text : String) (line : Nat)
  | group (bracket : Bracket) (firstLine lastLine : Nat) (body : List Token)
  deriving Repr

namespace Token

def line : Token → Nat
  | .word _ line | .mark _ _ line | .literal _ line | .group _ line _ _ => line

mutual

def count : Token → Nat
  | .group _ _ _ body => countAll body + 1
  | _ => 1

def countAll : List Token → Nat
  | [] => 0
  | token :: rest => token.count + countAll rest

end

mutual

def mentions (phrase : List Char) : Token → Bool
  | .word text _ | .literal text _ => Text.contains phrase text.toList
  | .mark _ _ _ => false
  | .group _ _ _ body => anyMentions phrase body

def anyMentions (phrase : List Char) : List Token → Bool
  | [] => false
  | token :: rest => token.mentions phrase || anyMentions phrase rest

end

end Tablewright.Declaration.Token
