import Mathlib.Data.List.Basic
import Standby.Text.Numeral

/-!
# Decimal numerals are read back

The digits of a number are digits that write the number, without a zero in front.
-/
namespace Standby.Text

/-- The digits of a number write the number. -/
theorem decimalValue_toDigits (number : Nat) : decimalValue (Nat.toDigits 10 number) = number := by
  have same (digits : List Char) : decimalValue digits = Nat.ofDigitChars 10 digits 0 := by
    simp only [decimalValue, Nat.ofDigitChars, Nat.mul_comm 10]
    rfl
  rw [same]
  exact Nat.ofDigitChars_toDigits (by decide) (by decide)

/-- The digits of a number are digits. -/
theorem isDigit_of_mem_toDigits {c : Char} {number : Nat} (member : c ∈ Nat.toDigits 10 number) :
    c.isDigit = true := Nat.isDigit_of_mem_toDigits (by decide) (by decide) member

/-- The first digit of a number that is not zero is not zero. -/
theorem head?_toDigits {number : Nat} (positive : 0 < number) :
    (Nat.toDigits 10 number).head? ≠ some '0' := by
  induction number using Nat.strongRecOn with
  | _ number ih =>
    rw [Nat.toDigits_eq_if (by decide)]
    split
    · rename_i single
      have all : ∀ digit < 10, 0 < digit → [digit.digitChar].head? ≠ some '0' := by decide
      exact all number single positive
    · rw [List.head?_append_of_ne_nil _ Nat.toDigits_ne_nil]
      exact ih (number / 10) (by omega) (by omega)

/-- A number begins with a digit or a minus. -/
theorem head_decimalText (value : Int) :
    ∃ c tail, decimalText value = c :: tail ∧ (c = '-' ∨ c.isDigit = true) := by
  cases value with
  | ofNat number =>
    cases digits : Nat.toDigits 10 number with
    | nil => exact absurd digits Nat.toDigits_ne_nil
    | cons c tail =>
      have digit : c.isDigit = true := isDigit_of_mem_toDigits (digits ▸ List.mem_cons_self)
      exact ⟨c, tail, digits, .inr digit⟩
  | negSucc number => exact ⟨'-', _, rfl, .inl rfl⟩

end Standby.Text
