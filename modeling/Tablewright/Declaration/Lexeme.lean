import Tablewright.Declaration.Lexeme.Number
import Tablewright.Declaration.Token

namespace Tablewright.Declaration

inductive Lexeme
  | opening (bracket : Bracket)
  | closing (bracket : Bracket)
  | documentation (inner : Bool) (text : String)
  | word (text : String)
  | mark (character : Char) (joint : Bool)
  | literal (text : String)

structure PlacedLexeme where
  lexeme : Lexeme
  firstLine : Nat
  lastLine : Nat

namespace Lexeme

def punctuation : List Char :=
  "~!@#$%^&*-=+|;:,<.>/?'".toList

def startsMark (text : List Char) : Bool :=
  text.head?.any (punctuation.contains ·) && !startsWith "//" text && !startsWith "/*" text

/-- A raw name has this mark in front. It can spell a keyword as a name. -/
def rawMark : String := "r#"

def wordsWithoutRawForm : List String :=
  ["_", "super", "self", "Self", "crate"]

def wordLength? (text : List Char) : Option Nat :=
  if startsWith rawMark text then
    match nameLength (text.drop 2) with
    | 0 => none
    | length =>
        if String.ofList ((text.drop 2).take length) ∈ wordsWithoutRawForm then none
        else some (length + 2)
  else
    match nameLength text with
    | 0 => none
    | length => some length

/-- These phrases start literals. No word starts with one of them. -/
def literalLeads : List String :=
  ["r\"", "r#\"", "r##", "b\"", "b'", "br\"", "br#", "c\"", "cr\"", "cr#"]

def isLifetime (text : List Char) : Bool :=
  match text with
  | '\'' :: rest =>
      match wordLength? rest with
      | none => false
      | some length =>
          match (rest.drop length).head? with
          | some '\'' => false
          | some '#' => startsWith rawMark rest
          | _ => true
  | _ => false

def damagedLiteral : String := "(/*ERROR*/)"

def bracket? (text : List Char) : Option Lexeme :=
  match text with
  | '(' :: _ => if startsWith damagedLiteral text then none else some (.opening .parenthesis)
  | '[' :: _ => some (.opening .square)
  | '\x7b' :: _ => some (.opening .brace)
  | ')' :: _ => some (.closing .parenthesis)
  | ']' :: _ => some (.closing .square)
  | '\x7d' :: _ => some (.closing .brace)
  | _ => none

def mark? (text : List Char) : Option Lexeme :=
  if startsMark text then
    match text with
    | '\'' :: _ => if isLifetime text then some (.mark '\'' true) else none
    | character :: rest => some (.mark character (startsMark rest))
    | [] => none
  else none

def word? (text : List Char) : Option Nat :=
  if literalLeads.any (startsWith · text) then none else wordLength? text

def read? (text : List Char) : Option (Lexeme × Nat) :=
  match documentation? text with
  | some found => some (.documentation found.inner found.text, found.length)
  | none =>
    match bracket? text with
    | some found => some (found, 1)
    | none =>
      match textLiteralLength text <|> numberLength text with
      | some length => some (.literal (String.ofList (text.take length)), length)
      | none =>
        match mark? text with
        | some found => some (found, 1)
        | none =>
          match word? text with
          | some length => some (.word (String.ofList (text.take length)), length)
          | none =>
            if startsWith damagedLiteral text then
              some (.literal damagedLiteral, damagedLiteral.length)
            else none

def lineEnds (text : List Char) : Nat :=
  text.count '\n'

/-- A scan gives the lexemes of a text in their order. It may stop at a line where no lexeme
starts. -/
structure Scan where
  lexemes : List PlacedLexeme
  stop : Option Nat

/-- This function scans a text from a line on. Every step takes one character or more. -/
def scanFrom : (fuel line : Nat) → List Char → Scan
  | 0, _, _ | _, _, [] => ⟨[], none⟩
  | fuel + 1, line, text =>
      match blankLength? text with
      | some length =>
          scanFrom fuel (line + lineEnds (text.take length)) (text.drop length)
      | none =>
          match read? text with
          | none => ⟨[], some line⟩
          | some (lexeme, length) =>
              let next := line + lineEnds (text.take length)
              let others := scanFrom fuel next (text.drop length)
              ⟨⟨lexeme, line, line + lineEnds (text.take (length - 1))⟩ :: others.lexemes,
                others.stop⟩

def scan (text : List Char) : Scan :=
  scanFrom text.length 1 text

end Tablewright.Declaration.Lexeme
