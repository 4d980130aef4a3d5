import BroadcastHub.Frame
import BroadcastHub.Numeral.Power
import BroadcastHub.Wire.Header

/-!
# Writing server frames

The server writes every frame whole, without a mask, and with the shortest of
the three length forms that can hold its payload's length.
-/

namespace BroadcastHub.Wire

/-- How a header writes the length of the payload. -/
inductive LengthForm
  /-- In the low seven bits of the second octet. -/
  | inline
  /-- In two octets, announced by 126. -/
  | two
  /-- In eight octets, announced by 127. -/
  | eight
deriving DecidableEq, Repr

namespace LengthForm

/-- The first length that a form cannot hold. -/
def bound : LengthForm → Nat
  | inline => 126
  | two => Numeral.twoTo 16
  | eight => Numeral.twoTo 64

/-- The shortest form that holds a length. -/
def shortest (length : Nat) : LengthForm :=
  if length < 126 then .inline else if length < Numeral.twoTo 16 then .two
    else .eight

/-- The low seven bits of the second octet. -/
def announced (form : LengthForm) (length : Nat) : Nat :=
  match form with
  | inline => length
  | two => 126
  | eight => 127

def field (form : LengthForm) (length : Nat) : Octets :=
  match form with
  | inline => []
  | two => Octets.ofNat 2 length
  | eight => Octets.ofNat 8 length

end LengthForm

/-- The opcode of a frame that is sent whole. -/
def opcodeOf : Frame → Opcode
  | .text _ => .text
  | .binary _ => .binary
  | .ping _ => .ping
  | .pong _ => .pong
  | .close => .close

/-- The octets in front of a server frame's payload. -/
def head (frame : Frame) : Octets :=
  let length := frame.payload.length
  let form := LengthForm.shortest length
  UInt8.ofNat (128 + (opcodeOf frame).code) :: UInt8.ofNat
    (form.announced length) ::
    form.field length

/-- A server frame on the wire. -/
def encode (frame : Frame) : Octets := head frame ++ frame.payload

end BroadcastHub.Wire
