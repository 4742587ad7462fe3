import Tablewright.Introspection.Probe

namespace Tablewright.Probe

open Declaration

/-- An expression lists texts when it is a sequence of them, or passes such a sequence on. -/
inductive Lists : Expression → List String → Prop
  | array (texts : List String) : Lists (.array (texts.map .text)) texts
  | vector {path : Path} {bracket : Bracket} {body : List Token} {texts : List String}
      (named : path.isName listMacro = true)
      (elements : expressionsOf body = some (texts.map .text)) :
      Lists (.macroCall path bracket body) texts
  | returned {value : Expression} {texts : List String} (inner : Lists value texts) :
      Lists (.returned (some value)) texts
  | reference {target : Expression} {texts : List String} (inner : Lists target texts) :
      Lists (.reference target) texts
  | enclosed {value : Expression} {texts : List String} (inner : Lists value texts) :
      Lists (.enclosed value) texts
  | grouped {value : Expression} {texts : List String} (inner : Lists value texts) :
      Lists (.grouped value) texts
  | copied {receiver : Expression} {texts : List String} (inner : Lists receiver texts) :
      Lists (.methodCall receiver listMethod 0) texts

/-- A body is literal when it is one expression that lists identifiers, and at least one. -/
structure LiteralBody (body : List Statement) (names : List String) : Prop where
  single : ∃ value, body = [.expression value] ∧ Lists value names
  nonempty : names ≠ []
  identifiers : ∀ name ∈ names, Naming.isIdentifier name = true

theorem literalTexts_cons (element : Expression) (rest : List Expression) :
    literalTexts (element :: rest) =
      match element with
      | .text value => (literalTexts rest).map (value :: ·)
      | _ => none := by
  unfold literalTexts
  rw [List.mapM_cons]
  cases element with
  | text value => exact Option.map_eq_bind.symm
  | _ => rfl

/-- Texts are read exactly if every element is one. -/
theorem literalTexts_eq_some_iff {elements : List Expression} {texts : List String} :
    literalTexts elements = some texts ↔ elements = texts.map .text := by
  induction elements generalizing texts with
  | nil => cases texts <;> simp [literalTexts]
  | cons element rest hypothesis =>
      rw [literalTexts_cons]
      cases texts with
      | nil => cases element <;> simp
      | cons first others =>
          cases element <;> simp [hypothesis]
          exact and_comm

/-- A sequence is read exactly if the expression lists it. -/
theorem literalSequence_eq_some_iff {value : Expression} {texts : List String} :
    literalSequence value = some texts ↔ Lists value texts := by
  constructor
  · intro found
    induction value using literalSequence.induct generalizing texts with
    | case1 value hypothesis => exact .returned (hypothesis found)
    | case2 elements =>
        obtain rfl := literalTexts_eq_some_iff.mp found
        exact .array texts
    | case3 target hypothesis => exact .reference (hypothesis found)
    | case4 inner hypothesis => exact .enclosed (hypothesis found)
    | case5 inner hypothesis => exact .grouped (hypothesis found)
    | case6 receiver hypothesis =>
        rw [literalSequence, if_pos rfl] at found
        exact .copied (hypothesis found)
    | case7 receiver method other =>
        rw [literalSequence, if_neg other] at found
        cases found
    | case8 path bracket body named =>
        rw [literalSequence, if_pos named] at found
        obtain ⟨elements, parsed, read⟩ := Option.bind_eq_some_iff.mp found
        obtain rfl := literalTexts_eq_some_iff.mp read
        exact .vector named parsed
    | case9 path bracket body other =>
        rw [literalSequence, if_neg other] at found
        cases found
    | case10 value =>
        rw [literalSequence] at found
        · cases found
        all_goals assumption
  · intro lists
    induction lists with
    | array texts => exact literalTexts_eq_some_iff.mpr rfl
    | vector named elements =>
        simp [literalSequence, named, elements, literalTexts_eq_some_iff]
    | returned _ hypothesis => exact hypothesis
    | reference _ hypothesis => exact hypothesis
    | enclosed _ hypothesis => exact hypothesis
    | grouped _ hypothesis => exact hypothesis
    | copied _ hypothesis => simpa [literalSequence] using hypothesis

/-- Names are read from a body exactly if it is literal. -/
theorem literalNames_eq_some_iff {body : List Statement} {names : List String} :
    literalNames body = some names ↔ LiteralBody body names := by
  constructor
  · intro found
    unfold literalNames at found
    split at found
    case h_1 value =>
      obtain ⟨listed, read, accepted⟩ := Option.bind_eq_some_iff.mp found
      split at accepted
      case isTrue fits =>
        obtain rfl := Option.some.inj accepted
        rw [Bool.and_eq_true, List.all_eq_true] at fits
        refine ⟨⟨value, rfl, literalSequence_eq_some_iff.mp read⟩, ?_, fits.2⟩
        simpa using fits.1
      case isFalse => cases accepted
    case h_2 => cases found
  · rintro ⟨⟨value, rfl, lists⟩, nonempty, identifiers⟩
    have fits : (!names.isEmpty && names.all Naming.isIdentifier) = true := by
      simpa [nonempty] using identifiers
    rw [literalNames, literalSequence_eq_some_iff.mpr lists, Option.bind_some, if_pos fits]

end Tablewright.Probe
