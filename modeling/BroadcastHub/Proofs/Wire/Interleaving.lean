import BroadcastHub.Proofs.Wire.Chunks
import BroadcastHub.Proofs.Wire.ClientMessage

/-!
# Control frames between the pieces of messages

A client may put control frames anywhere, also between the pieces of a
message.  What it writes is therefore an interleaving of two sequences: the
frames of its messages and its control frames.  Each frame is kept together
with what it finishes: the last frame of a message finishes the message, a
control frame finishes itself, and every other frame finishes nothing.

The main statement is `drain_interleaved`: a decoder gives back exactly what
the frames finish, in the order of the frames that finish it.
-/

namespace BroadcastHub.Wire

/-- A list that consists of the elements of two others, those of each in their
own order. -/
inductive Interleaved {α : Type} : List α → List α → List α → Prop
  | nil : Interleaved [] [] []
  | left (element : α) {some others all : List α} :
      Interleaved some others all →
        Interleaved (element :: some) others (element :: all)
  | right (element : α) {some others all : List α} :
      Interleaved some others all →
        Interleaved some (element :: others) (element :: all)

theorem Interleaved.mem
    {α : Type} {some others all : List α}
    (interleaved : Interleaved some others all) {element : α}
    (member : element ∈ all) : element ∈ some ∨ element ∈ others := by
  induction interleaved with
  | nil => exact .inl member
  | left first _ induction =>
      rcases List.mem_cons.mp member with rfl | later
      · exact .inl List.mem_cons_self
      · exact (induction later).imp_left (List.mem_cons_of_mem first)
  | right first _ induction =>
      rcases List.mem_cons.mp member with rfl | later
      · exact .inr List.mem_cons_self
      · exact (induction later).imp_right (List.mem_cons_of_mem first)

/-- A frame of a client and what is whole with it. -/
structure WrittenFrame where
  frame : ClientFrame
  finished : Option Frame

inductive ControlKind
  | close
  | ping
  | pong

namespace ControlKind

def opcode : ControlKind → Opcode
  | close => .close
  | ping => .ping
  | pong => .pong

/-- What is meant by a control frame.  The payload of a close frame tells
nothing. -/
def frame (kind : ControlKind) (payload : Octets) : Frame :=
  match kind with
  | close => .close
  | ping => .ping payload
  | pong => .pong payload

end ControlKind

structure ClientControl where
  kind : ControlKind
  mask : Mask
  form : LengthForm
  payload : Octets

namespace ClientControl

/-- A control frame is always whole. -/
def written (control : ClientControl) : WrittenFrame where
  frame :=
    ⟨true, control.kind.opcode, control.mask, control.form, control.payload⟩
  finished := some (control.kind.frame control.payload)

/-- The rules for a control frame. -/
structure Fits (limit : Nat) (control : ClientControl) : Prop where
  held : control.payload.length < control.form.bound
  small : control.payload.length ≤ longestControlPayload
  short : control.payload.length ≤ limit

end ClientControl

namespace Piece

/-- The frames of the last pieces of a message.  It is whole with the last
one. -/
def written (message : Frame) (opcode : Opcode) (piece : Piece) :
    List Piece → List WrittenFrame
  | [] => [⟨piece.frame opcode true, some message⟩]
  | next :: rest =>
      ⟨piece.frame opcode false, none⟩ :: written message
        .continuation next rest

theorem map_frame_written
    (message : Frame) (opcode : Opcode) (piece : Piece) (rest : List Piece) :
    (piece.written message opcode rest).map WrittenFrame.frame =
      piece.frames opcode rest := by
  induction rest generalizing opcode piece with
  | nil => rfl
  | cons next rest induction => exact congrArg _ (induction .continuation next)

end Piece

namespace ClientMessage

def written (message : ClientMessage) : List WrittenFrame :=
  message.first.written message.message (opcodeOf message.message) message.rest

theorem map_frame_written (message : ClientMessage) :
    message.written.map WrittenFrame.frame = message.frames :=
  Piece.map_frame_written _ _ _ _

end ClientMessage

/-- Taken one after the other, frames turn one unfinished message into another
and finish what they are said to finish. -/
def Joins (limit : Nat) :
    Option PartialMessage → List WrittenFrame → Option PartialMessage → Prop
  | before, [], after => before = after
  | before, first :: rest, after =>
      ∃ between, first.frame.meant.joinTo limit before =
        (.ok first.finished, between) ∧
        Joins limit between rest after

namespace Joins

variable {limit : Nat}

theorem append
    {before between after : Option PartialMessage}
    {first second : List WrittenFrame}
    (joins : Joins limit before first between)
    (behind : Joins limit between second after) :
    Joins limit before (first ++ second) after := by
  induction first generalizing before with
  | nil =>
      cases joins
      exact behind
  | cons frame rest induction =>
      obtain ⟨next, taken, later⟩ := joins
      exact ⟨next, taken, induction later⟩

/-- What frames finish one by one is what they come to together. -/
theorem joinAll_eq
    {before after : Option PartialMessage} {written : List WrittenFrame}
    (joins : Joins limit before written after) :
    joinAll limit before
      ((written.map WrittenFrame.frame).map ClientFrame.meant) =
      some (written.filterMap WrittenFrame.finished, after) := by
  induction written generalizing before with
  | nil =>
      cases joins
      rfl
  | cons first rest induction =>
      obtain ⟨between, taken, later⟩ := joins
      simp only [List.map_cons, joinAll, taken, induction later,
        Option.map_some]
      cases same : first.finished with
      | none => rw [List.filterMap_cons_none same]; rfl
      | some whole => rw [List.filterMap_cons_some same]; rfl

theorem control (unfinished : Option PartialMessage) (control : ClientControl) :
    control.written.frame.meant.joinTo limit unfinished =
      (.ok control.written.finished, unfinished) := by
  obtain ⟨kind, mask, form, payload⟩ := control
  cases kind <;> rfl

theorem interleave
    {before after : Option PartialMessage} {messages all : List WrittenFrame}
    {controls : List ClientControl} (joins : Joins limit before messages after)
    (interleaved : Interleaved messages (controls.map ClientControl.written)
      all) :
    Joins limit before all after := by
  generalize isControls :
    controls.map ClientControl.written = others at interleaved
  induction interleaved generalizing before controls with
  | nil => exact joins
  | left first _ induction =>
      obtain ⟨between, taken, later⟩ := joins
      exact ⟨between, taken, induction later isControls⟩
  | right first _ induction =>
      obtain ⟨control_, rest, rfl, rfl, same⟩ :=
        List.map_eq_cons_iff.mp isControls
      exact ⟨before, control before control_, induction joins same⟩

/-- Pieces that come to one message finish it with the last of them: a frame
that is not final finishes nothing. -/
theorem of_joinAll
    {opcode : Opcode} {unfinished : Option PartialMessage} {message : Frame}
    {piece : Piece} {rest : List Piece} (isData : Piece.IsData opcode)
    (joined : joinAll limit unfinished
      ((piece.frames opcode rest).map ClientFrame.meant) =
      some ([message], none)) :
    Joins limit unfinished (piece.written message opcode rest) none := by
  induction rest generalizing piece opcode unfinished with
  | nil =>
      simp only [Piece.frames, List.map_cons, List.map_nil, joinAll] at joined
      split at joined
      · cases joined
      · rename_i finished after taken
        simp only [Option.map_some, List.append_nil, Option.some.injEq,
          Prod.mk.injEq, Option.toList_eq_singleton_iff] at joined
        obtain ⟨rfl, rfl⟩ := joined
        exact ⟨none, taken, rfl⟩
  | cons next rest induction =>
      simp only [Piece.frames, List.map_cons, joinAll] at joined
      split at joined
      · cases joined
      · rename_i finished between taken
        obtain rfl := Piece.joinTo_open isData taken
        obtain ⟨⟨others, last⟩, later, same⟩ := Option.map_eq_some_iff.mp joined
        cases same
        exact ⟨between, taken, induction (.inr (.inr rfl)) later⟩

theorem messages {messages : List ClientMessage}
    (fit : ∀ message ∈ messages, message.Fits limit) :
    Joins limit none (messages.flatMap ClientMessage.written) none := by
  induction messages with
  | nil => rfl
  | cons message rest induction =>
      have fits := fit message List.mem_cons_self
      rw [List.flatMap_cons]
      apply Joins.append (of_joinAll (ClientMessage.isData fits)
        (ClientMessage.joinAll_frames fits))
      exact induction fun other member =>
        fit other (List.mem_cons_of_mem message member)

end Joins

section

variable {limit : Nat} {messages : List ClientMessage}
  {controls : List ClientControl}

theorem ClientControl.fits_frame
    {control : ClientControl} (fits : control.Fits limit) :
    control.written.frame.Fits limit := by
  refine ⟨?_, fits.held, fun _ => ⟨rfl, fits.small⟩, fits.short⟩
  change control.kind.opcode.code < 16 ∧
    Opcode.ofCode control.kind.opcode.code = control.kind.opcode
  cases control.kind <;> decide

/-- The frames of messages and control frames that keep to the rules do so in
any interleaving. -/
theorem fits_of_interleaved {all : List WrittenFrame}
    (interleaved : Interleaved (messages.flatMap ClientMessage.written)
      (controls.map ClientControl.written) all)
    (fit : ∀ message ∈ messages, message.Fits limit)
    (controlsFit : ∀ control ∈ controls, control.Fits limit) :
    ∀ frame ∈ all.map WrittenFrame.frame, frame.Fits limit := by
  rintro _ isFrame
  obtain ⟨written, member, rfl⟩ := List.mem_map.mp isFrame
  rcases interleaved.mem member with ofMessage | ofControl
  · obtain ⟨message, isMessage, inside⟩ := List.mem_flatMap.mp ofMessage
    apply ClientMessage.fits_frames (fit message isMessage)
    rw [← message.map_frame_written]
    exact List.mem_map_of_mem inside
  · obtain ⟨control, isControl, rfl⟩ := List.mem_map.mp ofControl
    exact ClientControl.fits_frame (controlsFit control isControl)

/-- However a client cuts its messages into pieces and wherever it puts control
frames between them, a decoder gives back the messages and the control frames,
each when its last frame is complete, and keeps nothing back. -/
theorem drain_interleaved
    {all : List WrittenFrame}
    (interleaved : Interleaved (messages.flatMap ClientMessage.written)
      (controls.map ClientControl.written) all)
    (fit : ∀ message ∈ messages, message.Fits limit)
    (controlsFit : ∀ control ∈ controls, control.Fits limit) :
    (Decoder.fresh limit).drain
      (all.flatMap fun written => written.frame.octets) =
      ⟨all.filterMap WrittenFrame.finished, none, Decoder.fresh limit, []⟩ := by
  have joined := ((Joins.messages fit).interleave interleaved).joinAll_eq
  have drained := Decoder.drain_octets
    (fits_of_interleaved interleaved fit controlsFit) joined []
  have nothing :
      Decoder.drain ⟨limit, none⟩ [] = ⟨[], none, ⟨limit, none⟩, []⟩ :=
    Decoder.drain_fresh_nil limit
  rw [List.append_nil, List.flatMap_map, nothing, List.append_nil] at drained
  exact drained

/-- A text of one character in three pieces, of which one is empty and the
others cut the character, with a mask and a length form of its own for each. -/
def ClientMessage.cutCharacter : ClientMessage where
  message := .text "é"
  first := ⟨⟨1, 2, 3, 4⟩, .two, [0xC3]⟩
  rest := [⟨⟨0, 0, 0, 0⟩, .inline, []⟩, ⟨⟨255, 0, 0, 0⟩, .eight, [0xA9]⟩]

def ClientControl.pingAndClose : List ClientControl :=
  [⟨.ping, ⟨9, 9, 9, 9⟩, .two, [7, 8]⟩,
    ⟨.close, ⟨5, 6, 7, 8⟩, .inline, [3, 232]⟩]

theorem drain_cutCharacter :
    Interleaved ([ClientMessage.cutCharacter].flatMap ClientMessage.written)
      (ClientControl.pingAndClose.map ClientControl.written)
      (ClientMessage.cutCharacter.written.take 1 ++
        ClientControl.pingAndClose.map ClientControl.written ++
        ClientMessage.cutCharacter.written.drop 1) ∧
    (Decoder.fresh 2).drain
        ((ClientMessage.cutCharacter.written.take 1 ++
          ClientControl.pingAndClose.map ClientControl.written ++
          ClientMessage.cutCharacter.written.drop 1).flatMap
          fun written => written.frame.octets) =
      ⟨[.ping [7, 8], .close, .text "é"], none, Decoder.fresh 2, []⟩ := by
  have interleaved :
      Interleaved ([ClientMessage.cutCharacter].flatMap ClientMessage.written)
      (ClientControl.pingAndClose.map ClientControl.written)
      (ClientMessage.cutCharacter.written.take 1 ++
        ClientControl.pingAndClose.map ClientControl.written ++
        ClientMessage.cutCharacter.written.drop 1) :=
    .left _ (.right _ (.right _ (.left _ (.left _ .nil))))
  refine ⟨interleaved, drain_interleaved interleaved ?_ ?_⟩
  · intro message member
    rw [List.mem_singleton.mp member]
    exact ⟨rfl, by decide, by decide, by decide⟩
  · intro control member
    rcases List.mem_cons.mp member with rfl | later
    · exact ⟨by decide, by decide, by decide⟩
    · rw [List.mem_singleton.mp later]
      exact ⟨by decide, by decide, by decide⟩

end

end BroadcastHub.Wire
