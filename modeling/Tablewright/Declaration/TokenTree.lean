import Tablewright.Declaration.Lexeme
import Tablewright.Text.Quoted

namespace Tablewright.Declaration

structure OpenGroup where
  bracket : Bracket
  line : Nat
  before : List Token

/-- Documentation is an attribute with the text as its value. This function lists its tokens. -/
def documentationTokens (inner : Bool) (text : String) (firstLine lastLine : Nat) :
    List Token :=
  [.mark '#' false firstLine] ++ (if inner then [.mark '!' false firstLine] else []) ++
    [.group .square firstLine lastLine
      [.word "doc" firstLine, .mark '=' false firstLine,
        .literal (Text.quoted text) firstLine]]

/-- This function puts lexemes into groups. The groups that are open stand from the innermost to
the outermost, and the tokens of the innermost from the last to the first. A bracket that closes
no group of its kind is wrong. At the end all groups are closed, unless the scan stopped
before. -/
def groupTokens (stop : Option Nat) :
    List PlacedLexeme → List OpenGroup → List Token → Except Nat (List Token)
  | [], pending, tokens =>
      match stop, pending with
      | some line, _ => .error line
      | none, innermost :: _ => .error innermost.line
      | none, [] => .ok tokens.reverse
  | ⟨lexeme, firstLine, lastLine⟩ :: rest, pending, tokens =>
      match lexeme with
      | .opening bracket => groupTokens stop rest (⟨bracket, firstLine, tokens⟩ :: pending) []
      | .closing bracket =>
          match pending with
          | [] => .error firstLine
          | innermost :: outer =>
              if innermost.bracket = bracket then
                groupTokens stop rest outer
                  (.group bracket innermost.line firstLine tokens.reverse :: innermost.before)
              else .error firstLine
      | .documentation inner text =>
          groupTokens stop rest pending
            ((documentationTokens inner text firstLine lastLine).reverse ++ tokens)
      | .word text => groupTokens stop rest pending (.word text firstLine :: tokens)
      | .mark character joint =>
          groupTokens stop rest pending (.mark character joint firstLine :: tokens)
      | .literal text => groupTokens stop rest pending (.literal text firstLine :: tokens)

def tokensOf (text : List Char) : Except Nat (List Token) :=
  let scan := Lexeme.scan text
  groupTokens scan.stop scan.lexemes [] []

end Tablewright.Declaration
