import BroadcastHub.Fault
import BroadcastHub.Octets

/-!
# Frame headers on the wire

A frame starts with two octets (final bit, three reserved bits, opcode; mask
bit, length), a length field of two or eight more octets if the length asks for
it, and the four octets of the mask. `Header.read?` reads the header of a
client's frame from the front of what has arrived and checks each rule as soon
as the octets that it names are there.
-/

namespace BroadcastHub.Wire

/-- What a frame is, as its low four header bits say. -/
inductive Opcode
  | continuation
  | text
  | binary
  | close
  | ping
  | pong
  /-- A code without a meaning. -/
  | unassigned (code : Nat)
deriving DecidableEq, Repr

namespace Opcode

/-- The opcode that a four-bit code stands for. -/
def ofCode : Nat → Opcode
  | 0 => continuation
  | 1 => text
  | 2 => binary
  | 8 => close
  | 9 => ping
  | 10 => pong
  | code => unassigned code

/-- The four-bit code of an opcode. -/
def code : Opcode → Nat
  | continuation => 0
  | text => 1
  | binary => 2
  | close => 8
  | ping => 9
  | pong => 10
  | unassigned code => code

/-- Control frames are those whose code has bit 3 set. -/
def isControl (opcode : Opcode) : Bool := 8 ≤ opcode.code

@[simp] theorem code_ofCode (code : Nat) : (ofCode code).code = code := by
  unfold ofCode
  split <;> rfl

end Opcode

/-- The octets that a client adds bit by bit, in turn, to the octets of a
payload. -/
structure Mask where
  first : UInt8
  second : UInt8
  third : UInt8
  fourth : UInt8
deriving DecidableEq, Repr

namespace Mask

/-- The octet that meets the payload octet at a position. -/
def octetAt (mask : Mask) (position : Nat) : UInt8 :=
  match position % 4 with
  | 0 => mask.first
  | 1 => mask.second
  | 2 => mask.third
  | _ => mask.fourth

/-- Adds the mask to a payload, or takes it off again. -/
def apply (mask : Mask) (payload : Octets) : Octets :=
  payload.mapIdx fun position octet => octet ^^^ mask.octetAt position

@[simp] theorem length_apply (mask : Mask) (payload : Octets) :
    (mask.apply payload).length = payload.length := by
  simp [apply]

@[simp] theorem apply_apply (mask : Mask) (payload : Octets) :
    mask.apply (mask.apply payload) = payload := by
  apply List.ext_getElem
  · simp
  · intro position _ _
    simp only [apply, List.getElem_mapIdx]
    rw [UInt8.xor_assoc, UInt8.xor_self, UInt8.xor_zero]

end Mask

def longestControlPayload : Nat := 125

/-- The header of a client's frame. -/
structure Header where
  /-- Whether the frame ends its message. -/
  final : Bool
  opcode : Opcode
  mask : Mask
  /-- The declared number of payload octets. -/
  payloadLength : Nat
deriving DecidableEq, Repr

/-- The payload length that the low seven bits of the second octet and the
length field after it declare, and the octets behind that field; nothing while
the field is incomplete. -/
def declaredLength (short : Nat) (rest : Octets) : Option (Nat × Octets) :=
  if short = 126 then
    (Octets.splitExactly 2 rest).map fun (field, rest) =>
      (Octets.toNat field, rest)
  else if short = 127 then
    (Octets.splitExactly 8 rest).map fun (field, rest) =>
      (Octets.toNat field, rest)
  else
    some (short, rest)

namespace Header

/-- The header at the front of the octets, and the octets behind it.  Nothing
while it is incomplete and breaks no rule so far. -/
def read? (limit : Nat) : Octets → Except Fault (Option (Header × Octets))
  | first :: second :: rest =>
      if first.toNat / 16 % 8 ≠ 0 then .error (.protocol .reservedBits)
      else if second.toNat < 128 then .error (.protocol .unmasked)
      else
        let final := decide (128 ≤ first.toNat)
        let opcode := Opcode.ofCode (first.toNat % 16)
        match declaredLength (second.toNat % 128) rest with
        | none => .ok none
        | some (length, rest) =>
            if opcode.isControl ∧
              (final = false ∨ longestControlPayload < length) then
              .error (.protocol .invalidControl)
            else if limit < length then .error (.messageTooLarge length)
            else
              match rest with
              | first :: second :: third :: fourth :: rest =>
                  .ok (some (⟨final, opcode, ⟨first, second, third, fourth⟩,
                    length⟩, rest))
              | _ => .ok none
  | _ => .ok none

end Header

end BroadcastHub.Wire
