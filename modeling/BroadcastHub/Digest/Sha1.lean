import BroadcastHub.Octets

/-!
# SHA-1

The digest is a fold over the 64-octet blocks of the padded message.  Each block
is expanded to eighty words, and each word takes part in one round on five words
of state.
-/

namespace BroadcastHub.Digest

/-- The five words that the rounds work on. -/
structure Sha1State where
  a : UInt32
  b : UInt32
  c : UInt32
  d : UInt32
  e : UInt32
deriving DecidableEq, Repr

namespace Sha1State

/-- The state before the first block. -/
def initial : Sha1State :=
  ⟨0x67452301, 0xEFCDAB89, 0x98BADCFE, 0x10325476, 0xC3D2E1F0⟩

/-- The sum of two states, word by word. -/
def add (first second : Sha1State) : Sha1State :=
  ⟨first.a + second.a, first.b + second.b, first.c + second.c,
    first.d + second.d, first.e + second.e⟩

def octets (state : Sha1State) : Octets :=
  [state.a, state.b, state.c, state.d, state.e].flatMap fun word =>
    Octets.ofNat 4 word.toNat

end Sha1State

/-- The word turned left by a number of bits between 1 and 31. -/
def rotateLeft (word : UInt32) (bits : UInt32) : UInt32 :=
  (word <<< bits) ||| (word >>> (32 - bits))

/-- The message with a final bit, zeros, and its length in bits, filling whole
blocks. -/
def padded (message : Octets) : Octets :=
  let zeros := (119 - message.length % 64) % 64
  message ++ 0x80 :: List.replicate zeros 0 ++ Octets.ofNat 8
    (message.length * 8)

/-- The big-endian words of octets whose number is a multiple of four. -/
def words : Octets → List UInt32
  | first :: second :: third :: fourth :: rest =>
      UInt32.ofNat (Octets.toNat [first, second, third, fourth]) :: words rest
  | _ => []

/-- Extends a schedule, given from its last word on, by `count` words. -/
def extendSchedule : (count : Nat) → (latestFirst : List UInt32) → List UInt32
  | 0, latestFirst => latestFirst
  | count + 1, latestFirst =>
      let back (distance : Nat) : UInt32 := latestFirst.getD (distance - 1) 0
      extendSchedule count
        (rotateLeft (back 3 ^^^ back 8 ^^^ back 14 ^^^ back 16) 1 ::
          latestFirst)

/-- The eighty words of a block. -/
def schedule (block : Octets) : List UInt32 :=
  (extendSchedule 64 (words block).reverse).reverse

/-- The mixing of three words in a round, and the round's constant. -/
def mixing (round : Nat) (b c d : UInt32) : UInt32 × UInt32 :=
  if round < 20 then ((b &&& c) ||| (b.complement &&& d), 0x5A827999)
  else if round < 40 then (b ^^^ c ^^^ d, 0x6ED9EBA1)
  else if round < 60 then ((b &&& c) ||| (b &&& d) ||| (c &&& d), 0x8F1BBCDC)
  else (b ^^^ c ^^^ d, 0xCA62C1D6)

def round (state : Sha1State) (position : Nat) (word : UInt32) : Sha1State :=
  let (mixed, constant) := mixing position state.b state.c state.d
  ⟨rotateLeft state.a 5 + mixed + state.e + constant + word, state.a,
    rotateLeft state.b 30, state.c, state.d⟩

def rounds (state : Sha1State) : (position : Nat) → List UInt32 → Sha1State
  | _, [] => state
  | position, word :: rest =>
      rounds (round state position word) (position + 1) rest

/-- Takes `count` blocks into the state. -/
def absorb (state : Sha1State) : (count : Nat) → Octets → Sha1State
  | 0, _ => state
  | count + 1, octets =>
      absorb (state.add (rounds state 0 (schedule (octets.take 64)))) count
        (octets.drop 64)

/-- The digest of a message. -/
def sha1 (message : Octets) : Octets :=
  let blocks := padded message
  (absorb .initial (blocks.length / 64) blocks).octets

end BroadcastHub.Digest
