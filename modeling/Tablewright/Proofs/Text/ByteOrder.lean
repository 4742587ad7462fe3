import Mathlib.Data.String.Basic
import Mathlib.Tactic.SplitIfs

namespace Tablewright.Text

/-- These are the bytes of a text in their order. -/
def bytes (text : String) : List UInt8 :=
  text.toUTF8.data.toList

theorem bytes_eq_flatMap (text : String) :
    bytes text = text.toList.flatMap String.utf8EncodeChar := by
  have encoded : text.toUTF8 = text.toList.utf8Encode := String.utf8Encode_toList.symm
  rw [bytes, encoded, List.utf8Encode, List.toList_data_toByteArray]

theorem byte_inj {first second : Nat} (small : first < 256) (otherSmall : second < 256) :
    UInt8.ofNat first = UInt8.ofNat second ↔ first = second := by
  rw [← UInt8.toNat_inj, UInt8.toNat_ofNat_of_lt' small, UInt8.toNat_ofNat_of_lt' otherSmall]

theorem byte_lt_iff {first second : Nat} (small : first < 256) (otherSmall : second < 256) :
    UInt8.ofNat first < UInt8.ofNat second ↔ first < second :=
  UInt8.ofNat_lt_iff_lt small otherSmall

/-- The bytes of a smaller character come first, whatever follows them. A larger character with
more bytes has a larger first byte. -/
theorem utf8EncodeChar_lt {left right : Char} (before : left < right) (behind others : List UInt8) :
    String.utf8EncodeChar left ++ behind < String.utf8EncodeChar right ++ others := by
  have smaller : left.val.toNat < right.val.toNat := before
  have bounded : right.val.toNat < 0x110000 := by
    rcases right.valid with low | high
    · omega
    · omega
  have third : ∀ code, code / 4096 = code / 64 / 64 := by omega
  have fourth : ∀ code, code / 262144 = code / 64 / 64 / 64 := by omega
  unfold String.utf8EncodeChar
  generalize left.val.toNat = code at *
  generalize right.val.toNat = otherCode at *
  dsimp only
  rw [third, fourth, third, fourth]
  split_ifs <;>
    simp (disch := omega) only [List.cons_append, List.nil_append, List.cons_lt_cons_iff,
      byte_lt_iff, byte_inj] <;> omega

theorem flatMap_utf8EncodeChar_lt {left right : List Char} (before : left < right) :
    left.flatMap String.utf8EncodeChar < right.flatMap String.utf8EncodeChar := by
  have ascending : List.Lex (· < ·) left right := before
  induction ascending with
  | @nil first rest =>
      rw [List.flatMap_cons]
      cases written : String.utf8EncodeChar first with
      | nil => exact absurd written String.utf8EncodeChar_ne_nil
      | cons => exact List.nil_lt_cons _ _
  | rel smaller =>
      rw [List.flatMap_cons, List.flatMap_cons]
      exact utf8EncodeChar_lt smaller _ _
  | cons rest hypothesis =>
      rw [List.flatMap_cons, List.flatMap_cons]
      exact List.append_left_lt (hypothesis rest)

/-- Texts that ascend have bytes that ascend. -/
theorem bytes_lt {left right : String} (before : left < right) : bytes left < bytes right := by
  rw [bytes_eq_flatMap, bytes_eq_flatMap]
  exact flatMap_utf8EncodeChar_lt (String.lt_iff_toList_lt.mp before)

end Tablewright.Text
