import Tablewright.Toml.Number

namespace Tablewright.Toml

open Scanning

def isKeyChar (character : Char) : Bool :=
  character.isAlphanum || character == '-' || character == '_'

def keyName : Scanning String := do
  match ← peek with
  | some '"' =>
      phrase "\""
      return String.ofList (← shortText '"')
  | some '\'' =>
      phrase "'"
      return String.ofList (← shortText '\'')
  | _ => return String.ofList (← oneOrMore isKeyChar)

def keyNames : Nat → Scanning (List String)
  | 0 => failure
  | fuel + 1 => do
      blanks
      let first ← keyName
      blanks
      if ← optionalPhrase "." then
        return first :: (← keyNames fuel)
      return [first]

def maxDepth : Nat := 80

structure Key where
  path : List String
  name : String

def key : Scanning Key := do
  let names ← keyNames ((← get).length + 1)
  match names.getLast? with
  | some name => if names.length < maxDepth then return ⟨names.dropLast, name⟩ else failure
  | none => failure

def elements (value : Scanning Value) : Nat → Scanning (List Value)
  | 0 => failure
  | fuel + 1 => do
      gap
      if ← optionalPhrase "]" then
        return []
      let first ← value
      gap
      if ← optionalPhrase "," then
        return first :: (← elements value fuel)
      phrase "]"
      return [first]

def assignment (value : Scanning Value) : Scanning (Key × Value) := do
  let target ← key
  phrase "="
  blanks
  let found ← value
  blanks
  return (target, found)

def inlineEntries (value : Scanning Value) : Nat → Entries → Scanning Entries
  | 0, _ => failure
  | fuel + 1, entries => do
      let (target, found) ← assignment value
      match entries.addAt target.path target.name found with
      | none => failure
      | some changed =>
          if ← optionalPhrase "," then
            inlineEntries value fuel changed
          else
            phrase "\x7d"
            return changed

def inlineTable (value : Scanning Value) : Scanning Value := do
  blanks
  if ← optionalPhrase "\x7d" then
    return .table .inline []
  return .table .inline (← inlineEntries value ((← get).length + 1) [])

def scalar : Scanning Value := do
  match ← peek with
  | some '"' | some '\'' => return .text (← anyText)
  | some 't' =>
      phrase "true"
      return .truth true
  | some 'f' =>
      phrase "false"
      return .truth false
  | some _ => moment <|> decimal <|> special <|> whole
  | none => failure

def valueOfDepth : Nat → Scanning Value
  | 0 => scalar
  | depth + 1 => do
      if ← optionalPhrase "[" then
        return .array (← elements (valueOfDepth depth) ((← get).length + 1))
      if ← optionalPhrase "\x7b" then
        inlineTable (valueOfDepth depth)
      else
        scalar

def value : Scanning Value :=
  valueOfDepth (maxDepth - 1)

/-- A document is read up to some line. The section is the table that assignments go to. -/
structure Progress where
  root : Entries
  sectionPath : List String

def header (root : Entries) : Scanning Progress := do
  let member ← optionalPhrase "[["
  if !member then
    phrase "["
  let target ← key
  phrase (if member then "]]" else "]")
  restOfLine
  let change := if member then Entries.openMember target.name else Entries.openTable target.name
  match root.updateAt target.path change with
  | some changed => return ⟨changed, target.path ++ [target.name]⟩
  | none => failure

def assignmentLine (progress : Progress) : Scanning Progress := do
  let (target, found) ← assignment value
  restOfLine
  match progress.root.updateAt progress.sectionPath fun entries =>
      entries.addAt target.path target.name found with
  | some changed => return { progress with root := changed }
  | none => failure

def lines : Nat → Progress → Scanning Entries
  | 0, progress => return progress.root
  | fuel + 1, progress => do
      blanks
      match ← peek with
      | none => return progress.root
      | some '#' =>
          optionalComment
          lineEnd
          lines fuel progress
      | some '[' => lines fuel (← header progress.root)
      | some character =>
          if character == '\n' || character == '\r' then
            newline
            lines fuel progress
          else
            lines fuel (← assignmentLine progress)

def byteOrderMark : Char := '\uFEFF'

def read (text : String) : Option Entries :=
  let characters := text.toList
  let body := if characters.head? = some byteOrderMark then characters.drop 1 else characters
  ((lines (body.length + 1) ⟨[], []⟩).run body).map Prod.fst

end Tablewright.Toml
