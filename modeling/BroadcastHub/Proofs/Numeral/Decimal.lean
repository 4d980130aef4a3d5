import Mathlib.Data.List.Basic
import BroadcastHub.Numeral.Decimal

/-!
# Decimal forms

A number has one decimal form: ASCII digits, the first of which is a zero only
if the number is zero.  It is what the program writes for a number, and reading
it gives the number back.
-/

namespace BroadcastHub.Numeral

/-- A text is the decimal form of a number. -/
structure IsDecimal (text : String) (number : Nat) : Prop where
  some_digit : text.toList ≠ []
  all_digits : ∀ char ∈ text.toList, char.isDigit
  unpadded : text.toList.head? = some '0' → text = "0"
  value : Nat.ofDigitChars 10 text.toList 0 = number

theorem foldl_digits (digits : List Char) (start : Nat) :
    digits.foldl (fun value digit => value * 10 + (digit.toNat - 48)) start =
      Nat.ofDigitChars 10 digits start := by
  unfold Nat.ofDigitChars
  congr 1
  funext value digit
  rw [Nat.mul_comm]
  rfl

theorem ofDigits?_eq_some_iff {digits : List Char} {value : Nat} :
    ofDigits? digits = some value ↔
      digits ≠ [] ∧ (∀ digit ∈ digits, digit.isDigit) ∧
        Nat.ofDigitChars 10 digits 0 = value := by
  unfold ofDigits?
  rw [foldl_digits]
  split
  · rename_i wrong
    constructor
    · intro none
      cases none
    · intro ⟨some_digit, all_digits, _⟩
      cases wrong with
      | inl empty => exact False.elim (some_digit (List.isEmpty_iff.mp empty))
      | inr other => exact False.elim (other (List.all_eq_true.mpr all_digits))
  · rename_i right
    have ⟨some_digit, all_digits⟩ := not_or.mp right
    rw [Option.some.injEq]
    constructor
    · intro same
      refine ⟨fun empty => some_digit (List.isEmpty_iff.mpr empty), ?_, same⟩
      exact List.all_eq_true.mp (not_not.mp all_digits)
    · exact fun numeral => numeral.2.2

/-! ### What is written -/

theorem isDigit_of_mem_toDigits {number : Nat} :
    ∀ char ∈ Nat.toDigits 10 number, char.isDigit :=
  fun _ => Nat.isDigit_of_mem_toDigits (by decide) (by decide)

theorem head?_toDigits_ne_zero {number : Nat} (positive : 0 < number) :
    (Nat.toDigits 10 number).head? ≠ some '0' := by
  have single_digit :
      ∀ digit < 10, 0 < digit → [Nat.digitChar digit].head? ≠ some '0' := by
    decide
  induction number using Nat.strongRecOn with
  | ind number ih =>
      by_cases small : number < 10
      · rw [Nat.toDigits_of_lt_base small]
        exact single_digit number small positive
      · have longer : 10 ≤ number := Nat.le_of_not_lt small
        have front := ih (number / 10) (by omega) (by omega)
        rw [Nat.toDigits_of_base_le (by decide) longer,
          List.head?_append_of_ne_nil _ Nat.toDigits_ne_nil]
        exact front

theorem isDecimal_repr (number : Nat) : IsDecimal (Nat.repr number) number where
  some_digit := by
    rw [Nat.toList_repr]
    exact Nat.toDigits_ne_nil
  all_digits := by
    rw [Nat.toList_repr]
    exact isDigit_of_mem_toDigits
  unpadded starts := by
    rw [Nat.toList_repr] at starts
    have zero : number = 0 :=
      Nat.eq_zero_of_not_pos fun positive =>
        head?_toDigits_ne_zero positive starts
    rw [zero]
    rfl
  value := by
    rw [Nat.toList_repr, Nat.ofDigitChars_ten_toDigits]

theorem IsDecimal.ofDigits?_eq
    {text : String} {number : Nat} (decimal : IsDecimal text number) :
    ofDigits? text.toList = some number :=
  ofDigits?_eq_some_iff.mpr ⟨decimal.some_digit, decimal.all_digits,
    decimal.value⟩

end BroadcastHub.Numeral
