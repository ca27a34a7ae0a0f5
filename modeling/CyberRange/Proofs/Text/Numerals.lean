import CyberRange.Proofs.Text.Words
import Mathlib.Data.List.Basic

namespace CyberRange.Text

/-! Numbers in decimal: their digits are no blanks, and give the number back. -/

variable {c : Char} {width value : Nat}

theorem isBlank_of_isDigit (digit : c.isDigit = true) : isBlank c = false := by
  have bounds : 48 ≤ c.toNat ∧ c.toNat ≤ 57 := Char.isDigit_iff_toNat.mp digit
  simp [isBlank, isSpace]
  omega

/-- The number that a row of digits stands for. -/
def number (letters : List Char) : Nat :=
  Nat.ofDigitChars 10 letters 0

theorem isDigit_of_mem_zeroPadded (member : c ∈ (zeroPadded width value).toList) :
    c.isDigit = true := by
  rw [zeroPadded, String.toList_ofList] at member
  rcases List.mem_append.mp member with zero | digit
  · rw [List.eq_of_mem_replicate zero]
    rfl
  · exact Nat.isDigit_of_mem_toDigits (by decide) (by decide) digit

theorem zeroPadded_ne_empty (width value : Nat) : zeroPadded width value ≠ "" := by
  rw [zeroPadded, ← String.toList_inj.ne, String.toList_ofList]
  exact List.append_ne_nil_of_right_ne_nil _ Nat.toDigits_ne_nil

theorem isWord_zeroPadded (width value : Nat) : IsWord (zeroPadded width value) where
  filled := zeroPadded_ne_empty width value
  unblank _ member := isBlank_of_isDigit (isDigit_of_mem_zeroPadded member)

/-- Zeros in front do not change a number. -/
theorem number_zeroPadded (width value : Nat) : number (zeroPadded width value).toList = value := by
  rw [number, zeroPadded, String.toList_ofList, Nat.ofDigitChars_append,
    Nat.ofDigitChars_replicate_zero, Nat.mul_zero, Nat.ofDigitChars_ten_toDigits]

/-- A whole number is a sign or none, and digits. -/
theorem of_mem_toString_int {value : Int} (member : c ∈ (toString value).toList) :
    c = '-' ∨ c.isDigit = true := by
  have digits (size : Nat) (inside : c ∈ size.repr.toList) : c.isDigit = true := by
    rw [Nat.repr_eq_ofList_toDigits, String.toList_ofList] at inside
    exact Nat.isDigit_of_mem_toDigits (by decide) (by decide) inside
  rw [Int.toString_eq_repr, Int.repr_eq_if] at member
  split at member
  · exact .inr (digits _ member)
  · rw [String.toList_append, List.mem_append] at member
    exact member.imp (fun sign => by simpa using sign) (digits _)

theorem toString_int_ne_empty (value : Int) : toString value ≠ "" := by
  have filled (size : Nat) : size.repr ≠ "" := by
    rw [Nat.repr_eq_ofList_toDigits, ← String.toList_inj.ne, String.toList_ofList]
    exact Nat.toDigits_ne_nil
  rw [Int.toString_eq_repr, Int.repr_eq_if]
  split
  · exact filled _
  · simp

theorem isWord_toString_int (value : Int) : IsWord (toString value) where
  filled := toString_int_ne_empty value
  unblank c member := by
    rcases of_mem_toString_int member with rfl | digit
    · decide
    · exact isBlank_of_isDigit digit

end CyberRange.Text
