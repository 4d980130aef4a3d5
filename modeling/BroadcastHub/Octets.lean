/-!
# Octet strings

An octet string is a list of octets.  Two operations carry the wire format:
cutting a fixed number of octets off the front, which says nothing while too few
are there, and reading or writing a number with its most significant octet
first.
-/

namespace BroadcastHub

abbrev Octets := List UInt8

namespace Octets

/-- The first `count` octets and what follows them, once that many are there. -/
def splitExactly (count : Nat) (octets : Octets) : Option (Octets × Octets) :=
  if (octets.take count).length =
    count then some (octets.take count, octets.drop count)
  else none

/-- The number written with its most significant octet first. -/
def toNat (octets : Octets) : Nat :=
  octets.foldl (fun value octet => value * 256 + octet.toNat) 0

/-- The `width` least significant octets of a number, most significant first. -/
def ofNat : (width value : Nat) → Octets
  | 0, _ => []
  | width + 1, value => ofNat width (value / 256) ++ [UInt8.ofNat value]

/-- A cut succeeds exactly when it divides the string after `count` octets. -/
theorem splitExactly_eq_some_iff {count : Nat} {octets front rest : Octets} :
    splitExactly count octets = some (front, rest) ↔
      octets = front ++ rest ∧ front.length = count := by
  unfold splitExactly
  constructor
  · intro cut
    split at cut
    · rename_i enough
      simp only [Option.some.injEq, Prod.mk.injEq] at cut
      obtain ⟨rfl, rfl⟩ := cut
      exact ⟨(List.take_append_drop count octets).symm, enough⟩
    · cases cut
  · rintro ⟨rfl, rfl⟩
    simp

/-- A cut fails exactly while fewer than `count` octets are there. -/
theorem splitExactly_eq_none_iff {count : Nat} {octets : Octets} :
    splitExactly count octets = none ↔ octets.length < count := by
  unfold splitExactly
  split
  · rename_i enough
    simp only [List.length_take] at enough
    simp; omega
  · rename_i short
    simp only [List.length_take] at short
    simp; omega

theorem length_of_splitExactly {count : Nat} {octets front rest : Octets}
    (cut : splitExactly count octets = some (front, rest)) :
    octets.length = count + rest.length := by
  obtain ⟨rfl, rfl⟩ := splitExactly_eq_some_iff.mp cut
  simp

theorem toNat_append_singleton (octets : Octets) (last : UInt8) :
    toNat (octets ++ [last]) = toNat octets * 256 + last.toNat := by
  simp [toNat]

theorem toNat_ofNat (width value : Nat) :
    toNat (ofNat width value) = value % Nat.pow 256 width := by
  induction width generalizing value with
  | zero => simp [ofNat, toNat, Nat.mod_one]
  | succ width ih =>
      rw [ofNat, toNat_append_singleton, ih, UInt8.toNat_ofNat']
      show value / 256 % Nat.pow 256 width * 256 + value % 256 =
        value % (Nat.pow 256 width * 256)
      rw [Nat.mul_comm (Nat.pow 256 width) 256, Nat.mod_mul]
      omega

@[simp] theorem length_ofNat (width value : Nat) :
    (ofNat width value).length = width := by
  induction width generalizing value with
  | zero => rfl
  | succ width ih => simp [ofNat, ih]

end Octets

end BroadcastHub
