import Mathlib.Data.List.Forall2
import BroadcastHub.Text.Utf8

/-!
# Letters and their octets

Letters without regard to case, and the octets of characters.  A character of
ASCII is one octet.
-/

namespace BroadcastHub.Text

/-! ### Case -/

theorem toLower_eq_iff
    {char letter : Char} (lower : letter.isLower ∨ letter.isDigit) :
    char.toLower = letter ↔ char = letter ∨ char = letter.toUpper := by
  change (decide ('a'.val ≤ letter.val) && decide (letter.val ≤ 'z'.val)) =
    true ∨
    (decide ('0'.val ≤ letter.val) && decide (letter.val ≤ '9'.val)) =
      true at lower
  unfold Char.toLower Char.toUpper
  simp only [Char.ext_iff]
  simp only [Bool.and_eq_true, decide_eq_true_eq, ge_iff_le, Char.reduceVal,
    UInt32.reduceSub, UInt32.le_iff_toNat_le, UInt32.reduceToNat] at lower ⊢
  split
  · split <;> simp only [← UInt32.toNat_inj, UInt32.toNat_add,
      UInt32.reduceToNat] <;> omega
  · split
    · simp only [← UInt32.toNat_inj, UInt32.toNat_add, UInt32.reduceToNat]
      omega
    · simp only [← UInt32.toNat_inj]
      omega

theorem map_toLower_eq_iff
    {chars letters : List Char}
    (lower : ∀ letter ∈ letters, letter.isLower ∨ letter.isDigit) :
    chars.map Char.toLower = letters ↔
      List.Forall₂ (fun char letter => char = letter ∨ char = letter.toUpper)
        chars letters := by
  induction letters generalizing chars with
  | nil => simp
  | cons letter letters ih =>
      have ⟨first, rest⟩ := List.forall_mem_cons.mp lower
      cases chars with
      | nil => simp
      | cons char chars => simp [toLower_eq_iff first, ih rest]

/-! ### Octets -/

theorem utf8_eq_flatMap (text : String) :
    utf8 text = text.toList.flatMap String.utf8EncodeChar := by
  have octets : text.toByteArray =
      (text.toList.flatMap String.utf8EncodeChar).toByteArray := by
    rw [← List.utf8Encode, ← String.toByteArray_ofList, String.ofList_toList]
  rw [utf8, octets, List.data_toByteArray]

def octetOf (char : Char) : UInt8 := UInt8.ofNat char.toNat

theorem toNat_octetOf {char : Char} (ascii : char.toNat < 128) :
    (octetOf char).toNat = char.toNat := by
  have fits : char.toNat < 256 := by omega
  exact UInt8.toNat_ofNat_of_lt' fits

theorem utf8_ofList_of_ascii
    {chars : List Char} (ascii : ∀ char ∈ chars, char.toNat < 128) :
    utf8 (String.ofList chars) = chars.map octetOf := by
  rw [utf8_eq_flatMap, String.toList_ofList]
  induction chars with
  | nil => rfl
  | cons char chars ih =>
      have ⟨first, rest⟩ := List.forall_mem_cons.mp ascii
      have single : String.utf8EncodeChar char = [octetOf char] :=
        if_pos (Nat.le_of_lt_succ first)
      rw [List.flatMap_cons, ih rest, single]
      rfl

end BroadcastHub.Text
