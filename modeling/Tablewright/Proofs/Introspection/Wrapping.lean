import Tablewright.Declaration.Rule.Statement
import Tablewright.Proofs.Introspection.Literals

namespace Tablewright

open Declaration

namespace Declaration

open Reading

theorem Reading.sign_apply {expected : String} {cursor : Cursor}
    (found : starts expected cursor.tokens = true) :
    sign expected cursor =
      .ok ((), { cursor with tokens := cursor.tokens.drop expected.length }) := by
  change (if starts expected cursor.tokens then moveTo (cursor.tokens.drop expected.length)
    else fail : Reading Unit) cursor = _
  rw [if_pos found]
  rfl

theorem Reading.optionalSign_apply (expected : String) (cursor : Cursor) :
    optionalSign expected cursor =
      .ok (if starts expected cursor.tokens then
        (true, { cursor with tokens := cursor.tokens.drop expected.length })
      else (false, cursor)) := by
  -- the look ahead does not move the cursor, so one test decides for both sides
  change (if starts expected cursor.tokens then (do sign expected; return true)
    else return false : Reading Bool) cursor = _
  by_cases found : starts expected cursor.tokens = true
  · rw [if_pos found, if_pos found]
    exact congrArg (Except.map fun step : Unit × Cursor => (true, step.2)) (sign_apply found)
  · rw [if_neg found, if_neg found]
    rfl

theorem Rule.expressionStatement_ok {grammar : Grammar} {cursor next rest : Cursor}
    {value : Expression} {signed : Bool} (found : grammar.boundary cursor = .ok (value, next))
    (ended : optionalSign ";" next = .ok (signed, rest))
    (plain : ∀ path bracket body, value ≠ .macroCall path bracket body) :
    Rule.expressionStatement grammar cursor =
      .ok ((.expression value, !signed && Rule.needsEnd value), rest) := by
  simp only [Rule.expressionStatement, bind, StateT.bind, Except.bind, found, ended]
  cases value with
  | macroCall path bracket body => exact absurd rfl (plain path bracket body)
  | _ => rfl

/-- An expression that is no macro call is read as the same statement whether a sign ends it or
not. The sign is passed over. -/
theorem Rule.expressionStatement_of_boundary {grammar : Grammar} {cursor next : Cursor}
    {value : Expression} (found : grammar.boundary cursor = .ok (value, next))
    (plain : ∀ path bracket body, value ≠ .macroCall path bracket body) :
    ∃ endMissing, Rule.expressionStatement grammar cursor =
      .ok ((.expression value, endMissing), if starts ";" next.tokens then
        { next with tokens := next.tokens.drop 1 } else next) := by
  have ended := optionalSign_apply ";" next
  by_cases signed : starts ";" next.tokens = true
  · rw [if_pos signed] at ended ⊢
    exact ⟨_, Rule.expressionStatement_ok found ended plain⟩
  · rw [if_neg signed] at ended ⊢
    exact ⟨_, Rule.expressionStatement_ok found ended plain⟩

end Declaration

namespace Probe

/-- A wrapper stands around an expression and passes its elements on. -/
inductive Wrapper
  | returned
  | reference
  | enclosed
  | grouped
  | copied
  deriving DecidableEq, Repr

/-- This function puts a wrapper around an expression. -/
def Wrapper.around : Wrapper → Expression → Expression
  | .returned, inner => .returned (some inner)
  | .reference, inner => .reference inner
  | .enclosed, inner => .enclosed inner
  | .grouped, inner => .grouped inner
  | .copied, inner => .methodCall inner "to_vec" 0

/-- This function puts wrappers around an expression. The first one is the outermost. -/
def wrapped (wrappers : List Wrapper) (inner : Expression) : Expression :=
  wrappers.foldr Wrapper.around inner

/-- A core has elements of its own. It is an array, or a call of the macro `vec` whose body reads
as expressions with commas between them. -/
inductive Core : Expression → List Expression → Prop
  | array (elements : List Expression) : Core (.array elements) elements
  | vector (bracket : Bracket) {body : List Token} {elements : List Expression}
      (parsed : expressionsOf body = some elements) :
      Core (.macroCall ⟨false, [⟨"vec", .none⟩]⟩ bracket body) elements

/-- An expression carries elements when it is made of wrappers around a core with them. -/
def Carries (value : Expression) (elements : List Expression) : Prop :=
  ∃ wrappers core, Core core elements ∧ value = wrapped wrappers core

section Wrapping

variable {value core : Expression} {elements : List Expression} {texts : List String}

theorem Core.carries (holds : Core core elements) : Carries core elements :=
  ⟨[], core, holds, rfl⟩

theorem Carries.around (carries : Carries value elements) (wrapper : Wrapper) :
    Carries (wrapper.around value) elements := by
  obtain ⟨wrappers, core, holds, rfl⟩ := carries
  exact ⟨wrapper :: wrappers, core, holds, rfl⟩

theorem literalSequence_around (wrapper : Wrapper) (value : Expression) :
    literalSequence (wrapper.around value) = literalSequence value := by
  cases wrapper <;> rfl

theorem literalSequence_wrapped (wrappers : List Wrapper) (inner : Expression) :
    literalSequence (wrapped wrappers inner) = literalSequence inner := by
  induction wrappers with
  | nil => rfl
  | cons wrapper rest hypothesis =>
      calc literalSequence (wrapper.around (wrapped rest inner))
          = literalSequence (wrapped rest inner) := literalSequence_around wrapper _
        _ = literalSequence inner := hypothesis

theorem literalSequence_core (holds : Core core elements) :
    literalSequence core = literalTexts elements := by
  cases holds with
  | array => rfl
  | @vector bracket body elements parsed =>
      have named : Path.isName ⟨false, [⟨"vec", .none⟩]⟩ listMacro = true := by decide
      rw [literalSequence, if_pos named, parsed, Option.bind_some]

theorem literalSequence_carries (carries : Carries value elements) :
    literalSequence value = literalTexts elements := by
  obtain ⟨wrappers, core, holds, rfl⟩ := carries
  rw [literalSequence_wrapped, literalSequence_core holds]

/-- One element that is no text is enough to refuse them all. -/
theorem literalTexts_eq_none {element : Expression} (among : element ∈ elements)
    (other : ∀ text, element ≠ .text text) : literalTexts elements = none := by
  rw [Option.eq_none_iff_forall_ne_some]
  intro texts found
  obtain rfl := literalTexts_eq_some_iff.mp found
  obtain ⟨text, -, rfl⟩ := List.mem_map.mp among
  exact other text rfl

/-- What lists texts carries them as its elements. -/
theorem Lists.carries (lists : Lists value texts) : Carries value (texts.map .text) := by
  induction lists with
  | array texts => exact (Core.array _).carries
  | @vector path bracket body texts named parsed =>
      obtain rfl : path = ⟨false, [⟨"vec", .none⟩]⟩ := of_decide_eq_true named
      exact (Core.vector bracket parsed).carries
  | returned _ hypothesis => exact hypothesis.around .returned
  | reference _ hypothesis => exact hypothesis.around .reference
  | enclosed _ hypothesis => exact hypothesis.around .enclosed
  | grouped _ hypothesis => exact hypothesis.around .grouped
  | copied _ hypothesis => exact hypothesis.around .copied

/-- What carries no elements is no sequence of texts. -/
theorem literalSequence_eq_none (bare : ∀ elements, ¬ Carries value elements) :
    literalSequence value = none := by
  rw [Option.eq_none_iff_forall_ne_some]
  intro texts found
  exact bare _ (literalSequence_eq_some_iff.mp found).carries

theorem literalNames_single_iff {body : List Statement} {names : List String} :
    literalNames body = some names ↔
      ∃ value, body = [.expression value] ∧ literalSequence value = some names ∧ names ≠ [] ∧
        ∀ name ∈ names, Naming.isIdentifier name = true := by
  rw [literalNames_eq_some_iff]
  constructor
  · rintro ⟨⟨value, single, lists⟩, nonempty, identifiers⟩
    exact ⟨value, single, literalSequence_eq_some_iff.mpr lists, nonempty, identifiers⟩
  · rintro ⟨value, single, found, nonempty, identifiers⟩
    exact ⟨⟨value, single, literalSequence_eq_some_iff.mp found⟩, nonempty, identifiers⟩

theorem literalNames_wrapped (wrappers : List Wrapper) (inner : Expression) :
    literalNames [.expression (wrapped wrappers inner)] = literalNames [.expression inner] := by
  rw [literalNames, literalNames, literalSequence_wrapped]

end Wrapping

/-- An expression with elements behind any wrappers gives the texts of its elements in their order
if they are texts, and nothing if one of them is not. An expression without elements gives nothing.
Names are read from a body exactly if it is one expression that gives identifiers only, and at
least one. So wrappers make no difference, and neither does a sign behind the expression. -/
theorem names_through_wrappers :
    (∀ value elements, Carries value elements →
      (∀ texts, elements = texts.map .text → literalSequence value = some texts) ∧
      ∀ element ∈ elements, (∀ text, element ≠ .text text) → literalSequence value = none) ∧
    (∀ value, (∀ elements, ¬ Carries value elements) → literalSequence value = none) ∧
    (∀ body names, literalNames body = some names ↔
      ∃ value, body = [.expression value] ∧ literalSequence value = some names ∧ names ≠ [] ∧
        ∀ name ∈ names, Naming.isIdentifier name = true) ∧
    (∀ wrappers inner,
      literalSequence (wrapped wrappers inner) = literalSequence inner ∧
      literalNames [.expression (wrapped wrappers inner)] = literalNames [.expression inner]) ∧
    ∀ (grammar : Grammar) (cursor next : Cursor) (value : Expression),
      grammar.boundary cursor = .ok (value, next) →
      (∀ path bracket body, value ≠ .macroCall path bracket body) →
      ∃ endMissing, Rule.expressionStatement grammar cursor =
        .ok ((.expression value, endMissing), if starts ";" next.tokens then
          { next with tokens := next.tokens.drop 1 } else next) := by
  refine ⟨?_, ?_, ?_, ?_, ?_⟩
  · intro value elements carries
    rw [literalSequence_carries carries]
    exact ⟨fun texts same => literalTexts_eq_some_iff.mpr same,
      fun element among other => literalTexts_eq_none among other⟩
  · exact fun value bare => literalSequence_eq_none bare
  · exact fun body names => literalNames_single_iff
  · exact fun wrappers inner =>
      ⟨literalSequence_wrapped wrappers inner, literalNames_wrapped wrappers inner⟩
  · exact fun grammar cursor next value found plain =>
      Rule.expressionStatement_of_boundary found plain

/-- Two names stand behind four wrappers. One call among the elements of a macro leaves no names,
and neither does another method. The sign behind an expression is passed over. -/
theorem names_through_wrappers_nested :
    let names := ["ByLevel", "ByQuality"]
    let literal := Expression.array [.text "ByLevel", .text "ByQuality"]
    let returned := Expression.returned
      (some (.reference (.enclosed (.methodCall literal "to_vec" 0))))
    let mixed := Expression.reference (.macroCall ⟨false, [⟨"vec", .none⟩]⟩ .square
      [.literal "\"A\"" 1, .mark ',' false 1, .word "other" 1, .group .parenthesis 1 1 []])
    let renamed := Expression.methodCall literal "to_owned" 0
    let alone := Expression.returned (some (.array [.text "A"]))
    literalSequence returned = some names ∧
      literalNames [.expression returned] = some names ∧
      literalSequence mixed = none ∧ (∀ elements, ¬ Carries renamed elements) ∧
      literalSequence renamed = none ∧
      ∃ endMissing, Rule.expressionStatement (.ofDepth 8)
        ⟨[.word "return" 1, .group .square 1 1 [.literal "\"A\"" 1], .mark ';' false 1], 1, none⟩ =
          .ok ((.expression alone, endMissing), ⟨[], 1, none⟩) := by
  intro names literal returned mixed renamed alone
  obtain ⟨sequences, others, bodies, -, signs⟩ := names_through_wrappers
  have around : returned = wrapped [.returned, .reference, .enclosed, .copied] literal := rfl
  have carries : Carries returned [.text "ByLevel", .text "ByQuality"] :=
    ⟨_, literal, .array _, around⟩
  have listed : literalSequence returned = some names := (sequences _ _ carries).1 names rfl
  have read : literalNames [.expression returned] = some names :=
    (bodies _ _).mpr ⟨returned, rfl, listed, by decide, by decide⟩
  have parsed : Carries mixed [.text "A", .other] :=
    (Core.vector .square rfl).carries.around .reference
  have refused : literalSequence mixed = none :=
    (sequences _ _ parsed).2 .other (by simp) (fun _ => Expression.noConfusion)
  have bare : ∀ elements, ¬ Carries renamed elements := by
    rintro elements ⟨outer, core, holds, same⟩
    cases outer with
    | nil => cases holds <;> simp [renamed, wrapped] at same
    | cons wrapper rest => cases wrapper <;> simp [renamed, wrapped, Wrapper.around] at same
  exact ⟨listed, read, refused, bare, others _ bare,
    signs _ _ ⟨[.mark ';' false 1], 1, none⟩ alone rfl (fun _ _ _ => Expression.noConfusion)⟩

end Probe

end Tablewright
