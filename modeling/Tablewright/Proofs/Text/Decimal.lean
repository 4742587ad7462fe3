import Mathlib.Logic.Function.Basic
import Tablewright.Proofs.Text.Joined

namespace Tablewright.Text

theorem isDigit_of_repr {number : Nat} {character : Char}
    (inside : character ∈ number.repr.toList) : character.isDigit = true :=
  Nat.isDigit_of_mem_toDigits (by decide) (by decide) (Nat.toList_repr ▸ inside)

/-- A natural number is what its decimal digits stand for. -/
theorem natural_injective : Function.Injective Nat.repr := by
  intro first second same
  have digits : Nat.toDigits 10 first = Nat.toDigits 10 second := by
    rw [← Nat.toList_repr, ← Nat.toList_repr, same]
  rw [← Nat.ofDigitChars_ten_toDigits (n := first), digits, Nat.ofDigitChars_ten_toDigits]

/-- No natural number is written with a sign. -/
theorem repr_ne_signed (number : Nat) (digits : String) : number.repr ≠ "-" ++ digits := by
  intro same
  have sign : '-' ∈ number.repr.toList := by simp [same]
  exact absurd (isDigit_of_repr sign) (by decide)

theorem integer_injective : Function.Injective Int.repr := by
  intro first second same
  rw [Int.repr_eq_if, Int.repr_eq_if] at same
  split at same
  case isTrue positive =>
    split at same
    case isTrue =>
      have naturals := natural_injective same
      omega
    case isFalse => exact absurd same (repr_ne_signed _ _)
  case isFalse =>
    split at same
    case isTrue => exact absurd same.symm (repr_ne_signed _ _)
    case isFalse =>
      have naturals := natural_injective ((String.append_right_inj _).mp same)
      omega

/-- Decimal digits and signs are no underscores. -/
theorem whole_integer (number : Int) : Whole number.repr := by
  have digits : ∀ natural : Nat, '_' ∉ natural.repr.toList :=
    fun natural inside => absurd (isDigit_of_repr inside) (by decide)
  rw [Whole, Int.repr_eq_if]
  split
  · exact digits _
  · rw [String.toList_append, List.mem_append, not_or]
    exact ⟨by decide, digits _⟩

end Tablewright.Text
