/-!
# Powers of two and ten

Powers of two bound the numbers that a width holds; powers of ten scale
decimals.  The bounds that occur are given in full.
-/

namespace BroadcastHub.Numeral

/-- Two to a power, the first number that this many bits cannot hold. -/
def twoTo (exponent : Nat) : Nat := Nat.pow 2 exponent

def tenTo (exponent : Nat) : Nat := Nat.pow 10 exponent

@[simp] theorem twoTo_16 : twoTo 16 = 65536 := rfl

@[simp] theorem twoTo_31 : twoTo 31 = 2147483648 := rfl

@[simp] theorem twoTo_53 : twoTo 53 = 9007199254740992 := rfl

@[simp] theorem twoTo_61 : twoTo 61 = 2305843009213693952 := rfl

@[simp] theorem twoTo_63 : twoTo 63 = 9223372036854775808 := rfl

@[simp] theorem twoTo_64 : twoTo 64 = 18446744073709551616 := rfl

end BroadcastHub.Numeral
