import BroadcastHub.Proofs.Wire.ClientFrame

/-!
# Messages as clients write them

A client may cut a message into any pieces.  Each piece has a frame of its own,
with a mask and a length form of its own; only the first one tells the kind of
the message, and only the last one is final.

The main statement is `frames_drain`: while such messages are being written one
behind the other, a decoder has found just those of which nothing is missing.
-/

namespace BroadcastHub.Wire

structure Piece where
  mask : Mask
  form : LengthForm
  payload : Octets

namespace Piece

def frame (piece : Piece) (opcode : Opcode) (final : Bool) : ClientFrame :=
  ⟨final, opcode, piece.mask, piece.form, piece.payload⟩

/-- The frames of a piece and of those behind it. -/
def frames (opcode : Opcode) (piece : Piece) : List Piece → List ClientFrame
  | [] => [piece.frame opcode true]
  | next :: rest => piece.frame opcode false :: frames .continuation next rest

end Piece

/-- A message of a client, cut into pieces. -/
structure ClientMessage where
  message : Frame
  first : Piece
  rest : List Piece

namespace ClientMessage

def pieces (message : ClientMessage) : List Piece :=
  message.first :: message.rest

def frames (message : ClientMessage) : List ClientFrame :=
  message.first.frames (opcodeOf message.message) message.rest

/-- The message on the wire. -/
def octets (message : ClientMessage) : Octets :=
  message.frames.flatMap ClientFrame.octets

/-- The rules for a message. -/
structure Fits (limit : Nat) (message : ClientMessage) : Prop where
  isMessage : message.message.kind?.isSome = true
  cut : message.pieces.flatMap Piece.payload = message.message.payload
  held : ∀ piece ∈ message.pieces, piece.payload.length < piece.form.bound
  short : message.message.payload.length ≤ limit

/-- The messages of which nothing is missing in some octets. -/
def completed : List ClientMessage → Octets → List Frame
  | [], _ => []
  | message :: rest, octets =>
      if message.octets <+: octets then
        message.message :: completed rest (octets.drop message.octets.length)
      else []

end ClientMessage

/-! ### Pieces -/

namespace Piece

variable {limit : Nat} {opcode : Opcode} {piece : Piece} {rest : List Piece}

/-- Whether an opcode is one of those with which pieces begin. -/
def IsData (opcode : Opcode) : Prop :=
  opcode = .text ∨ opcode = .binary ∨ opcode = .continuation

theorem length_le_flatMap {pieces : List Piece} (member : piece ∈ pieces) :
    piece.payload.length ≤ (pieces.flatMap payload).length :=
  (List.sublist_flatten_of_mem (List.mem_map_of_mem member)).length_le

theorem fits_frame
    (isData : IsData opcode) (final : Bool)
    (held : piece.payload.length < piece.form.bound)
    (short : piece.payload.length ≤ limit) :
    (piece.frame opcode final).Fits limit := by
  refine ⟨?_, held, fun control => ?_, short⟩
  · rcases isData with rfl | rfl | rfl <;>
      exact ⟨by simp [frame, Opcode.code], rfl⟩
  · change opcode.isControl = true at control
    rcases isData with rfl | rfl | rfl <;> cases control

/-- The frames of pieces that are not too long keep to the rules. -/
theorem fits_frames (isData : IsData opcode)
    (held : ∀ other ∈ piece :: rest, other.payload.length < other.form.bound)
    (short : ∀ other ∈ piece :: rest, other.payload.length ≤ limit) :
    ∀ frame ∈ piece.frames opcode rest, frame.Fits limit := by
  induction rest generalizing piece opcode with
  | nil =>
      intro frame member
      rw [List.mem_singleton.mp member]
      exact fits_frame isData true (held piece List.mem_cons_self)
        (short piece List.mem_cons_self)
  | cons next rest induction =>
      intro frame member
      rcases List.mem_cons.mp member with rfl | later
      · exact fits_frame isData false (held piece List.mem_cons_self)
          (short piece List.mem_cons_self)
      · exact induction (.inr (.inr rfl))
          (fun other inside => held other (List.mem_cons_of_mem _ inside))
          (fun other inside => short other (List.mem_cons_of_mem _ inside))
          frame later

/-- Further pieces complete a message that misses fragments. -/
theorem joinAll_continued
    {kind : MessageKind} {content : Octets} {whole : Frame}
    (short : (content ++ (piece :: rest).flatMap payload).length ≤ limit)
    (complete : PartialMessage.complete
      ⟨kind, content ++ (piece :: rest).flatMap payload⟩ =
      .ok whole) :
    joinAll limit (some ⟨kind, content⟩)
      ((piece.frames .continuation rest).map ClientFrame.meant) =
      some ([whole], none) := by
  induction rest generalizing piece content with
  | nil =>
      rw [List.flatMap_singleton] at short complete
      rw [List.length_append] at short
      simp [frames, frame, ClientFrame.meant, joinAll, RawFrame.joinTo,
        PartialMessage.extend, Nat.not_lt.mpr short, complete, Except.map]
  | cons next rest induction =>
      rw [List.flatMap_cons, ← List.append_assoc] at short complete
      have here : ¬ limit < content.length + piece.payload.length := by
        rw [List.length_append, List.length_append] at short
        omega
      have later := induction short complete
      simp [frames, frame, ClientFrame.meant, joinAll, RawFrame.joinTo,
        PartialMessage.extend, here, later]

/-- A frame that is not final finishes nothing. -/
theorem joinTo_open
    (isData : IsData opcode) {unfinished after : Option PartialMessage}
    {finished : Option Frame}
    (joined : (piece.frame opcode false).meant.joinTo limit unfinished =
      (.ok finished, after)) :
    finished = none := by
  rcases isData with rfl | rfl | rfl
  case inl => cases unfinished <;> cases joined; rfl
  case inr.inl => cases unfinished <;> cases joined; rfl
  case inr.inr =>
    cases unfinished with
    | none => cases joined
    | some message =>
        change (if _ then _ else (Except.ok none, _)) = _ at joined
        split at joined
        · cases joined
        · cases joined
          rfl

/-- Nothing comes of pieces of which some octets are missing. -/
theorem frames_drain_begun
    (isData : IsData opcode) {unfinished : Option PartialMessage}
    {whole : Frame} (fit : ∀ frame ∈ piece.frames opcode rest, frame.Fits limit)
    (joined : joinAll limit unfinished
      ((piece.frames opcode rest).map ClientFrame.meant) =
      some ([whole], none))
    {begun missing : Octets}
    (cut : (piece.frames opcode rest).flatMap ClientFrame.octets =
      begun ++ missing)
    (isMissing : missing ≠ []) :
    (Decoder.drain ⟨limit, unfinished⟩ begun).frames = [] := by
  induction rest generalizing piece opcode unfinished begun with
  | nil =>
      have fits := fit (piece.frame opcode true) List.mem_cons_self
      change [piece.frame opcode true].flatMap ClientFrame.octets = _ at cut
      rw [List.flatMap_singleton] at cut
      rw [Decoder.drain_begun fits cut isMissing]
  | cons next rest induction =>
      have fits := fit (piece.frame opcode false) List.mem_cons_self
      have later := fun frame member =>
        fit frame (List.mem_cons_of_mem (piece.frame opcode false) member)
      change (piece.frame opcode false :: next.frames .continuation
        rest).flatMap ClientFrame.octets = _ at cut
      rw [List.flatMap_cons] at cut
      by_cases complete : (piece.frame opcode false).octets <+: begun
      · obtain ⟨behind, rfl⟩ := complete
        rw [List.append_assoc] at cut
        change joinAll limit unfinished ((piece.frame opcode false).meant ::
          (next.frames .continuation rest).map ClientFrame.meant) = _ at joined
        rw [joinAll] at joined
        split at joined
        · cases joined
        · rename_i finished after taken
          rw [joinTo_open isData taken] at joined taken
          obtain ⟨⟨others, last⟩, joinedLater, same⟩ :=
            Option.map_eq_some_iff.mp joined
          cases same
          rw [Decoder.drain_of_joined (ClientFrame.read?_octets fits behind)
            taken]
          exact induction (.inr (.inr rfl)) later joinedLater
            (List.append_cancel_left cut)
      · have written : begun <+: (piece.frame opcode false).octets := by
          have both : begun <+: (piece.frame opcode false).octets ++ _ :=
            ⟨missing, cut.symm⟩
          exact (List.prefix_or_prefix_of_prefix both
            (List.prefix_append _ _)).resolve_right complete
        obtain ⟨more, isMore⟩ := written
        rw [Decoder.drain_begun fits isMore.symm]
        rintro rfl
        rw [List.append_nil] at isMore
        exact complete ⟨[], (List.append_nil _).trans isMore.symm⟩

end Piece

namespace ClientMessage

variable {limit : Nat} {message : ClientMessage}

theorem isData (fits : message.Fits limit) :
    Piece.IsData (opcodeOf message.message) := by
  have isMessage := fits.isMessage
  cases same : message.message with
  | text content => exact .inl rfl
  | binary content => exact .inr (.inl rfl)
  | _ =>
      rw [same] at isMessage
      cases isMessage

theorem fits_frames (fits : message.Fits limit) :
    ∀ frame ∈ message.frames, frame.Fits limit := by
  refine Piece.fits_frames (isData fits) fits.held fun piece member => ?_
  have short := fits.short
  rw [← fits.cut] at short
  exact Nat.le_trans (Piece.length_le_flatMap member) short

theorem complete_payload
    {frame : Frame} {kind : MessageKind} (isKind : frame.kind? = some kind) :
    PartialMessage.complete ⟨kind, frame.payload⟩ = .ok frame := by
  cases frame with
  | text content =>
      cases isKind
      simp [PartialMessage.complete, Frame.payload]
  | binary content =>
      cases isKind
      rfl
  | _ => cases isKind

/-- The frames of a message come to that message. -/
theorem joinAll_frames (fits : message.Fits limit) :
    joinAll limit none (message.frames.map ClientFrame.meant) =
      some ([message.message], none) := by
  obtain ⟨kind, isKind⟩ := Option.isSome_iff_exists.mp fits.isMessage
  have complete := complete_payload isKind
  have short := fits.short
  rw [← fits.cut] at complete short
  have begins : ∀ (payload : Octets) (final : Bool),
      RawFrame.joinTo limit none ⟨final, opcodeOf message.message, payload⟩ =
        PartialMessage.extend ⟨kind, payload⟩ final := by
    intro payload final
    cases same : message.message with
    | text content =>
        rw [same] at isKind
        cases isKind
        rfl
    | binary content =>
        rw [same] at isKind
        cases isKind
        rfl
    | _ =>
        rw [same] at isKind
        cases isKind
  unfold frames pieces at *
  cases rest : message.rest with
  | nil =>
      rw [rest, List.flatMap_singleton] at complete
      simp [Piece.frames, Piece.frame, ClientFrame.meant, joinAll, begins,
        PartialMessage.extend, complete, Except.map]
  | cons next rest_ =>
      rw [rest, List.flatMap_cons] at complete short
      have later := Piece.joinAll_continued short complete
      simp [Piece.frames, Piece.frame, ClientFrame.meant, joinAll, begins,
        PartialMessage.extend, later]

theorem drain_octets (fits : message.Fits limit) (rest : Octets) :
    (Decoder.fresh limit).drain (message.octets ++ rest) =
      { (Decoder.fresh limit).drain rest with
        frames :=
          message.message :: ((Decoder.fresh limit).drain rest).frames } :=
  Decoder.drain_octets (fits_frames fits) (joinAll_frames fits) rest

/-- While messages are being written one behind the other, a decoder has found
those that are complete. -/
theorem frames_drain
    {messages : List ClientMessage}
    (fit : ∀ message ∈ messages, message.Fits limit) {octets : Octets}
    (written : octets <+: messages.flatMap ClientMessage.octets) :
    ((Decoder.fresh limit).drain octets).frames =
      completed messages octets := by
  induction messages generalizing octets with
  | nil =>
      rw [List.prefix_nil.mp written,
        Decoder.drain_of_nothing (Decoder.next_of_incomplete rfl)]
      rfl
  | cons message rest induction =>
      have fits := fit message List.mem_cons_self
      rw [List.flatMap_cons] at written
      unfold completed
      split
      · rename_i complete
        obtain ⟨behind, rfl⟩ := complete
        rw [List.drop_left, drain_octets fits]
        exact congrArg _ (induction (fun other member =>
          fit other (List.mem_cons_of_mem _ member))
            ((List.prefix_append_right_inj _).mp written))
      · rename_i incomplete
        have begun : octets <+: message.octets := by
          rcases List.prefix_or_prefix_of_prefix written
            (List.prefix_append _ _) with begun | whole
          · exact begun
          · exact absurd whole incomplete
        obtain ⟨missing, cut⟩ := begun
        refine Piece.frames_drain_begun (isData fits) (fits_frames fits)
          (joinAll_frames fits) cut.symm ?_
        rintro rfl
        rw [List.append_nil] at cut
        exact incomplete ⟨[], (List.append_nil _).trans cut.symm⟩

theorem kind_of_mem_completed
    {messages : List ClientMessage}
    (fit : ∀ message ∈ messages, message.Fits limit) {octets : Octets}
    {frame : Frame} (member : frame ∈ completed messages octets) :
    frame.kind?.isSome = true := by
  induction messages generalizing octets with
  | nil => cases member
  | cons message rest induction =>
      unfold completed at member
      split at member
      · rcases List.mem_cons.mp member with rfl | later
        · exact (fit message List.mem_cons_self).isMessage
        · exact induction (fun other inside =>
            fit other (List.mem_cons_of_mem message inside)) later
      · cases member

end ClientMessage

end BroadcastHub.Wire
