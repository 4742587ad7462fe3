import Tablewright.Journal
import Tablewright.Journal.FieldPattern
import Tablewright.Text.Alphanumeric
import Tablewright.Text.ByteCut
import Tablewright.Text.Pieces
import Tablewright.Text.WhiteSpace

namespace Tablewright

/-- The events of a scope have targets that start with a lead, and have a field. What is left out
is no condition. A directive may also be about spans, which this program does not record. -/
inductive DirectiveScope
  | events (lead field : Option String)
  | spans
  deriving DecidableEq, Repr

/-- A directive sets the finest level for the events of its scope. The level zero admits
nothing. -/
structure Directive where
  scope : DirectiveScope
  rank : Nat
  deriving DecidableEq, Repr

abbrev Filter := List Directive

inductive FilterFault
  | malformed
  | cut
  deriving DecidableEq, Repr

namespace Directive

def levelNames : List String :=
  ["off", "error", "warn", "info", "debug", "trace"]

def number? (text : List Char) : Option Nat :=
  let digits := if text.head? = some '+' then text.drop 1 else text
  if digits ≠ [] ∧ digits.all Char.isDigit then
    some (digits.foldl (fun total digit => total * 10 + (digit.toNat - '0'.toNat)) 0)
  else none

def rank? (text : List Char) : Option Nat :=
  match number? text with
  | some value => if value < levelNames.length then some value else none
  | none => levelNames.idxOf? (String.ofList (text.map Char.toLower))

def rankOrFinest (text : List Char) : Except FilterFault Nat :=
  match text, rank? text with
  | [], _ => .ok Level.trace.rank
  | _, some rank => .ok rank
  | _, none => .error .malformed

def behind (text : List Char) (start : Nat) : Except FilterFault (List Char) :=
  match Text.cutAtByte? text start with
  | some (_, back) => .ok back
  | none => .error .cut

def between (text : List Char) (start stop : Nat) : Except FilterFault (List Char) := do
  match Text.cutAtByte? (← behind text start) (stop - start) with
  | some (front, _) => .ok front
  | none => .error .cut

def mayStart (character : Char) : Bool :=
  "-:_".toList.contains character || Text.isAlphanumeric character

def ending (text : List Char) (scope : DirectiveScope) (start : Nat) :
    List Char → Except FilterFault Directive
  | [] => .ok ⟨scope, Level.trace.rank⟩
  | '=' :: _ => do return ⟨scope, ← rankOrFinest (← behind text (start + 1))⟩
  | _ => .error .malformed

/-- A field has a name, and may have a value behind an equals sign. Values are known of spans
only. -/
def scopeOfField (lead : Option String) (field : List Char) :
    Except FilterFault DirectiveScope :=
  let name := field.takeWhile (· ≠ '=')
  match field.drop name.length with
  | [] =>
      if field = [] then .error .malformed
      else .ok (.events lead (some (String.ofList name)))
  | _ :: value =>
      if FieldPattern.isValue (value.takeWhile (· ≠ '=')) then .ok .spans
      else .error .malformed

def ofField (text : List Char) (lead : Option String) (isSpan : Bool) (start : Nat)
    (rest : List Char) : Except FilterFault Directive := do
  let field := rest.takeWhile (· ≠ '}')
  let stop := start + Text.byteCount field
  match rest.drop field.length with
  | [] => throw .malformed
  | _ :: after =>
      let scope ← scopeOfField lead (← between text start stop)
      match after with
      | ']' :: after => ending text (if isSpan then .spans else scope) (stop + 2) after
      | _ => throw .malformed

/-- This function reads a directive after its opening bracket. It names a span, a field or
both. -/
def ofSpan (text : List Char) (lead : Option String) (start : Nat) (rest : List Char) :
    Except FilterFault Directive := do
  let name := rest.takeWhile fun character => character ≠ ']' && character ≠ '{'
  let stop := start + Text.byteCount name
  match rest.drop name.length with
  | ']' :: after =>
      let _name ← between text start stop
      ending text .spans (stop + 1) after
  | '{' :: after =>
      let name ← between text start stop
      ofField text lead (name ≠ []) (stop + 1) after
  | _ => throw .malformed

/-- A directive is a level, or has a target, a span with a field, and a level. Each of these three
may be left out. -/
def ofText (text : List Char) : Except FilterFault Directive := do
  let trimmed := Text.trim text
  let target := trimmed.takeWhile fun character => character ≠ '=' && character ≠ '['
  let stop := Text.byteCount target
  let lead : Except FilterFault (Option String) := do
    return some (String.ofList (← between text 0 stop))
  if !(target.head?.all mayStart) then
    throw .malformed
  match target, trimmed.drop target.length with
  | [], '[' :: rest => ofSpan text none 1 rest
  | [], _ => throw .malformed
  | _, '[' :: rest => ofSpan text (← lead) (stop + 1) rest
  | _, [] =>
      match rank? text with
      | some rank => return ⟨.events none none, rank⟩
      | none => return ⟨.events (some (String.ofList text)) none, Level.trace.rank⟩
  | _, rest => ending text (.events (← lead) none) stop rest

def concerns (directive : Directive) (event : Event) : Bool :=
  match directive.scope with
  | .events lead field =>
      lead.all (fun lead => lead.toList.isPrefixOf event.area.target.toList) &&
        field.all event.hasField
  | .spans => false

/-- This function tells whether a directive decides before another about the same event. The one
with the longer lead does, then the one with a field, then the one with the greater field. Of
equals both decide before each other. -/
def outranks (directive other : Directive) : Bool :=
  match directive.scope, other.scope with
  | .events lead field, .events otherLead otherField =>
      let size := (lead.map String.length).getD 0
      let otherSize := (otherLead.map String.length).getD 0
      otherSize < size || (size = otherSize &&
        match field, otherField with
        | _, none => true
        | none, some _ => false
        | some name, some otherName => !decide (name < otherName))
  | _, _ => true

end Directive

namespace Filter

/-- A filter has directives with commas between them. Without a directive it admits errors. -/
def ofText (text : String) : Except FilterFault Filter :=
  match (Text.pieces (· == ',') text.toList).filter (· ≠ []) with
  | [] => .ok [⟨.events none none, Level.error.rank⟩]
  | parts => parts.mapM Directive.ofText

/-- This function finds the directive that decides about an event. The latest of equals
decides. -/
def deciding? (filter : Filter) (event : Event) : Option Directive :=
  (filter.filter fun directive => directive.concerns event).foldl (fun best directive =>
    if best.all directive.outranks then some directive else best) none

def admits (filter : Filter) (event : Event) : Bool :=
  (filter.deciding? event).any fun directive => event.level.rank ≤ directive.rank

end Tablewright.Filter
