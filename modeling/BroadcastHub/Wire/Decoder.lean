import BroadcastHub.Frame
import BroadcastHub.Wire.Header

/-!
# Reading client frames

A decoder turns the octets of one client into frames.  It holds back what has
arrived of an incomplete frame, takes the mask off a complete one, joins the
fragments of a message, and hands control frames over as they come, also between
fragments.  A header that breaks a rule is left in front of the buffer, so it is
refused again; a complete frame that breaks a rule is used up.
-/

namespace BroadcastHub.Wire

/-- A complete frame without its mask. -/
structure RawFrame where
  /-- Whether the frame ends its message. -/
  final : Bool
  opcode : Opcode
  payload : Octets
deriving DecidableEq, Repr

/-- A message that still misses fragments. -/
structure PartialMessage where
  kind : MessageKind
  /-- The octets of the fragments so far. -/
  content : Octets
deriving DecidableEq, Repr

/-- The first complete frame of a buffer and the octets behind it; nothing while
it is incomplete and breaks no rule so far. -/
def RawFrame.read? (limit : Nat) (buffer : Octets) :
    Except Fault (Option (RawFrame × Octets)) :=
  match Header.read? limit buffer with
  | .error fault => .error fault
  | .ok none => .ok none
  | .ok (some (header, rest)) =>
      match Octets.splitExactly header.payloadLength rest with
      | none => .ok none
      | some (payload, rest) =>
          .ok (some (⟨header.final, header.opcode, header.mask.apply payload⟩,
            rest))

theorem length_of_declaredLength {short length : Nat} {octets rest : Octets}
    (read : declaredLength short octets = some (length, rest)) :
    rest.length ≤ octets.length := by
  unfold declaredLength at read
  split at read
  · obtain ⟨⟨field, after⟩, cut, same⟩ := Option.map_eq_some_iff.mp read
    cases same
    have := Octets.length_of_splitExactly cut
    omega
  · split at read
    · obtain ⟨⟨field, after⟩, cut, same⟩ := Option.map_eq_some_iff.mp read
      cases same
      have := Octets.length_of_splitExactly cut
      omega
    · cases read
      exact Nat.le_refl _

theorem Header.length_of_read?
    {limit : Nat} {octets rest : Octets} {header : Header}
    (read : Header.read? limit octets = .ok (some (header, rest))) :
    rest.length < octets.length := by
  unfold Header.read? at read
  split at read
  · rename_i first second after
    split at read
    · cases read
    · split at read
      · cases read
      · simp only at read
        split at read
        · cases read
        · rename_i length tail declared
          have := length_of_declaredLength declared
          split at read
          · cases read
          · split at read
            · cases read
            · split at read
              · cases read
                simp at *
                omega
              · cases read
  · cases read

theorem RawFrame.length_of_read?
    {limit : Nat} {buffer rest : Octets} {frame : RawFrame}
    (read : RawFrame.read? limit buffer = .ok (some (frame, rest))) :
    rest.length < buffer.length := by
  unfold RawFrame.read? at read
  split at read
  · cases read
  · cases read
  · rename_i header after headerRead
    have shorter := Header.length_of_read? headerRead
    split at read
    · cases read
    · rename_i payload behind cut
      have := Octets.length_of_splitExactly cut
      cases read
      omega

/-- Completes a message whose last fragment has arrived. -/
def PartialMessage.complete (message : PartialMessage) : Except Fault Frame :=
  match message.kind with
  | .binary => .ok (.binary message.content)
  | .text =>
      match Text.ofUtf8? message.content with
      | some content => .ok (.text content)
      | none => .error (.protocol .invalidText)

/-- Ends the message with this fragment or keeps it for the next one. -/
def PartialMessage.extend (message : PartialMessage) (final : Bool) :
    Except Fault (Option Frame) × Option PartialMessage :=
  if final then (message.complete.map some, none) else (.ok none, some message)

/-- Takes one complete frame into the message that misses fragments.  Answers
the frame or message that is now whole, and what misses fragments afterwards. -/
def RawFrame.joinTo
    (limit : Nat) (unfinished : Option PartialMessage) (frame : RawFrame) :
    Except Fault (Option Frame) × Option PartialMessage :=
  match frame.opcode with
  | .close => (.ok (some .close), unfinished)
  | .ping => (.ok (some (.ping frame.payload)), unfinished)
  | .pong => (.ok (some (.pong frame.payload)), unfinished)
  | .text =>
      if unfinished.isSome then
        (.error (.protocol .interruptedMessage), unfinished)
      else PartialMessage.extend ⟨.text, frame.payload⟩ frame.final
  | .binary =>
      if unfinished.isSome then
        (.error (.protocol .interruptedMessage), unfinished)
      else PartialMessage.extend ⟨.binary, frame.payload⟩ frame.final
  | .continuation =>
      match unfinished with
      | none => (.error (.protocol .strayContinuation), none)
      | some message =>
          let total := message.content.length + frame.payload.length
          if limit < total then (.error (.messageTooLarge total), none)
          else PartialMessage.extend
            ⟨message.kind, message.content ++ frame.payload⟩ frame.final
  | .unassigned _ => (.error (.protocol .unknownOpcode), unfinished)

/-- What is known about a client's stream between two arrivals. -/
structure Decoder where
  /-- The longest payload of a frame and of a message. -/
  limit : Nat
  /-- The message that still misses fragments. -/
  unfinished : Option PartialMessage
deriving DecidableEq, Repr, Inhabited

/-- What a decoder finds at the front of a buffer. -/
inductive Found
  /-- The buffer holds no complete frame that would finish anything. -/
  | nothing
  | frame (frame : Frame)
  | fault (fault : Fault)
deriving DecidableEq, Repr

namespace Decoder

/-- A decoder at the start of a stream. -/
def fresh (limit : Nat) : Decoder := ⟨limit, none⟩

/-- Takes complete frames off the buffer until one finishes a message, is a
control frame, or breaks a rule. -/
def next (decoder : Decoder) (buffer : Octets) : Found × Decoder × Octets :=
  match _read : RawFrame.read? decoder.limit buffer with
  | .error fault => (.fault fault, decoder, buffer)
  | .ok none => (.nothing, decoder, buffer)
  | .ok (some (frame, rest)) =>
      match frame.joinTo decoder.limit decoder.unfinished with
      | (.error fault, unfinished) =>
          (.fault fault, { decoder with unfinished }, rest)
      | (.ok (some frame), unfinished) =>
          (.frame frame, { decoder with unfinished }, rest)
      | (.ok none, unfinished) => next { decoder with unfinished } rest
termination_by buffer.length
decreasing_by exact RawFrame.length_of_read? _read

/-- What reading a buffer to its end, or to the first fault, comes to. -/
structure Drained where
  /-- The frames, in the order in which they were finished. -/
  frames : List Frame
  fault : Option Fault
  decoder : Decoder
  /-- The octets left in the buffer. -/
  rest : Octets
deriving DecidableEq, Repr

theorem length_of_next
    {decoder after : Decoder} {buffer rest : Octets} {found : Found}
    (step : decoder.next buffer = (found, after, rest)) :
    rest.length ≤ buffer.length ∧
      (∀ frame, found = .frame frame → rest.length < buffer.length) := by
  fun_induction next decoder buffer with
  | case1 => cases step; simp
  | case2 => cases step; simp
  | case3 decoder buffer frame rest' read fault unfinished assembled =>
      have shorter := RawFrame.length_of_read? read
      cases step
      exact ⟨Nat.le_of_lt shorter, by simp⟩
  | case4 decoder buffer frame rest' read whole unfinished assembled =>
      have shorter := RawFrame.length_of_read? read
      cases step
      exact ⟨Nat.le_of_lt shorter, fun _ _ => shorter⟩
  | case5 decoder buffer frame rest' read unfinished assembled ih =>
      have shorter := RawFrame.length_of_read? read
      obtain ⟨notLonger, strictly⟩ := ih step
      exact ⟨by omega, fun whole same => by have := strictly whole same; omega⟩

/-- Reads until the buffer holds nothing complete or a rule is broken. -/
def drain (decoder : Decoder) (buffer : Octets) : Drained :=
  match _step : decoder.next buffer with
  | (.nothing, decoder, rest) => ⟨[], none, decoder, rest⟩
  | (.fault fault, decoder, rest) => ⟨[], some fault, decoder, rest⟩
  | (.frame frame, decoder, rest) =>
      let drained := drain decoder rest
      { drained with frames := frame :: drained.frames }
termination_by buffer.length
decreasing_by exact (length_of_next _step).2 _ rfl

end Decoder

end BroadcastHub.Wire
