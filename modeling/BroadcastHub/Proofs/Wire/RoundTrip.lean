import BroadcastHub.Proofs.Server.Desks
import BroadcastHub.Proofs.Wire.ClientFrame

/-!
# From the encoder to the decoder

The server writes its frames without masks and a client has to mask what it
sends; apart from that both write a frame in the same way.  `Mask.cover` makes
of the octets of a server frame those of a client and looks at nothing but the
octets.

The main statement is `decoder_agrees_with_encoder`.  Whatever frames have been
encoded, a decoder reads them back once they are masked.  Also without masks
they can be told apart, since by `encode_append_cancel` a stream determines its
first frame and the place where that ends.
-/

namespace BroadcastHub

namespace Frame

/-- A machine word can hold the length of the payload. -/
def IsAddressable (frame : Frame) : Prop :=
  frame.payload.length < Numeral.twoTo 64

/-- A client may send the frame to a decoder with a limit. -/
structure IsAdmissible (limit : Nat) (frame : Frame) : Prop where
  addressable : frame.IsAddressable
  short : frame.payload.length ≤ limit
  control :
    frame.kind? = none → frame.payload.length ≤ Wire.longestControlPayload

end Frame

namespace Wire

/-- How many octets the length field has behind a second octet without a mask
bit. -/
def fieldWidth (second : UInt8) : Nat :=
  if second = 126 then 2 else if second = 127 then 8 else 0

/-- Sets the mask bit of a frame, puts the mask behind the length field and adds
it to the payload. -/
def Mask.cover (mask : Mask) : Octets → Octets
  | first :: second :: rest =>
      first :: (second ||| 128) ::
        (rest.take (fieldWidth second) ++
          (mask.octets ++ mask.conceal (rest.drop (fieldWidth second))))
  | fragment => fragment

/-- Octets that begin with these two and go on like this are one whole frame:
final, without a mask, and with a length field that no form that holds the
length could make shorter. -/
structure WrittenWhole
    (frame : Frame) (first second : UInt8) (rest : Octets) : Prop where
  final : 128 ≤ first.toNat
  reserved : first.toNat / 16 % 8 = 0
  opcode : Opcode.ofCode (first.toNat % 16) = opcodeOf frame
  unmasked : second.toNat < 128
  declared : declaredLength second.toNat rest =
    some (frame.payload.length, frame.payload)
  shortest : ∀ form : LengthForm, frame.payload.length < form.bound →
    rest.length ≤ (form.field frame.payload.length ++ frame.payload).length

/-! ### Lengths and opcodes -/

namespace LengthForm

theorem held_shortest {length : Nat} (addressable : length < Numeral.twoTo 64) :
    length < (shortest length).bound := by
  unfold shortest
  split
  · assumption
  · split <;> assumption

theorem length_field_shortest
    {length : Nat} {form : LengthForm} (held : length < form.bound) :
    ((shortest length).field length).length ≤ (form.field length).length := by
  unfold shortest
  split
  · exact Nat.zero_le _
  · rename_i notInline
    cases form with
    | inline => exact absurd held notInline
    | two =>
        exact Nat.le_of_eq
          (by rw [if_pos (show length < Numeral.twoTo 16 from held)])
    | eight => split <;> simp [field]

theorem fieldWidth_announced
    {form : LengthForm} {length : Nat} (held : length < form.bound) :
    fieldWidth (UInt8.ofNat (form.announced length)) =
      (form.field length).length := by
  cases form with
  | inline =>
      have small : length < 126 := held
      have apart : ∀ marker : UInt8, 126 ≤ marker.toNat →
          UInt8.ofNat length ≠ marker := by
        rintro marker large rfl
        rw [UInt8.toNat_ofNat'] at large
        omega
      simp [fieldWidth, announced, field, apart 126 (by decide),
        apart 127 (by decide)]
  | two => simp [fieldWidth, announced, field]
  | eight => simp [fieldWidth, announced, field]

end LengthForm

theorem set_maskBit :
    ∀ announced < 128, UInt8.ofNat announced ||| 128 =
      UInt8.ofNat (128 + announced) := by
  decide

theorem code_opcodeOf_lt (frame : Frame) : (opcodeOf frame).code < 16 := by
  cases frame <;> simp [opcodeOf, Opcode.code]

theorem ofCode_opcodeOf (frame : Frame) :
    Opcode.ofCode (opcodeOf frame).code = opcodeOf frame := by
  cases frame <;> rfl

theorem toNat_first (frame : Frame) :
    (UInt8.ofNat (128 + (opcodeOf frame).code)).toNat =
      128 + (opcodeOf frame).code := by
  have small := code_opcodeOf_lt frame
  rw [UInt8.toNat_ofNat']
  omega

theorem eq_of_opcodeOf_of_payload
    {frame other : Frame} (opcode : opcodeOf frame = opcodeOf other)
    (payload : frame.payload = other.payload) : frame = other := by
  cases frame with
  | text content =>
      cases other with
      | text another => rw [Text.utf8_injective payload]
      | _ => cases opcode
  | close =>
      cases other with
      | close => rfl
      | _ => cases opcode
  | _ content =>
      cases other <;> cases opcode
      cases payload
      rfl

/-! ### What is written -/

theorem encode_eq (frame : Frame) :
    encode frame =
      UInt8.ofNat (128 + (opcodeOf frame).code) ::
        UInt8.ofNat ((LengthForm.shortest frame.payload.length).announced
          frame.payload.length) ::
          ((LengthForm.shortest frame.payload.length).field
            frame.payload.length ++
            frame.payload) := rfl

/-- An encoded frame is written whole and as short as its length allows. -/
theorem exists_writtenWhole
    {frame : Frame} (addressable : frame.IsAddressable) :
    ∃ first second rest,
      encode frame = first :: second :: rest ∧
        WrittenWhole frame first second rest := by
  have held := LengthForm.held_shortest addressable
  have announced := LengthForm.announced_lt held
  have code := code_opcodeOf_lt frame
  have second :
      (UInt8.ofNat ((LengthForm.shortest frame.payload.length).announced
      frame.payload.length)).toNat =
        (LengthForm.shortest frame.payload.length).announced
          frame.payload.length := by
    rw [UInt8.toNat_ofNat']
    omega
  refine ⟨_, _, _, encode_eq frame, ?_⟩
  constructor
  case final =>
    rw [toNat_first]
    omega
  case reserved =>
    rw [toNat_first]
    omega
  case opcode =>
    have low :
        (128 + (opcodeOf frame).code) % 16 = (opcodeOf frame).code := by omega
    rw [toNat_first, low, ofCode_opcodeOf]
  case unmasked =>
    rw [second]
    exact announced
  case declared =>
    rw [second]
    exact declaredLength_field held frame.payload
  case shortest =>
    intro form fits
    rw [List.length_append, List.length_append]
    exact Nat.add_le_add_right (LengthForm.length_field_shortest fits) _

/-- A stream that begins with an encoded frame determines the frame and the
place where it ends. -/
theorem encode_append_cancel
    {frame other : Frame} {rest behind : Octets}
    (addressable : frame.IsAddressable) (otherwise : other.IsAddressable)
    (same : encode frame ++ rest = encode other ++ behind) :
    frame = other ∧ rest = behind := by
  have held := LengthForm.held_shortest addressable
  have heldToo := LengthForm.held_shortest otherwise
  have small := LengthForm.announced_lt held
  have smallToo := LengthForm.announced_lt heldToo
  rw [encode_eq, encode_eq] at same
  simp only [List.cons_append, List.cons.injEq, List.append_assoc] at same
  obtain ⟨first, second, later⟩ := same
  have opcode : opcodeOf frame = opcodeOf other := by
    have codes := congrArg UInt8.toNat first
    rw [toNat_first, toNat_first] at codes
    rw [← ofCode_opcodeOf frame, Nat.add_left_cancel codes, ofCode_opcodeOf]
  have announced := congrArg UInt8.toNat second
  rw [UInt8.toNat_ofNat', UInt8.toNat_ofNat', Nat.mod_eq_of_lt (by omega),
    Nat.mod_eq_of_lt (by omega)] at announced
  have declared := declaredLength_field held (frame.payload ++ rest)
  rw [announced, later, declaredLength_field heldToo] at declared
  obtain ⟨lengths, contents⟩ := Prod.mk.inj (Option.some.inj declared)
  obtain ⟨payload, ends⟩ := List.append_inj contents lengths
  exact ⟨(eq_of_opcodeOf_of_payload opcode.symm payload).symm, ends.symm⟩

/-- Different lists of frames are never written in the same way. -/
theorem flatMap_encode_injective
    {frames others : List Frame}
    (addressable : ∀ frame ∈ frames, frame.IsAddressable)
    (otherwise : ∀ frame ∈ others, frame.IsAddressable)
    (same : frames.flatMap encode = others.flatMap encode) :
    frames = others := by
  induction frames generalizing others with
  | nil =>
      cases others with
      | nil => rfl
      | cons other others => cases same
  | cons frame frames induction =>
      cases others with
      | nil => cases same
      | cons other others =>
          rw [List.flatMap_cons, List.flatMap_cons] at same
          obtain ⟨rfl, later⟩ :=
            encode_append_cancel (addressable frame List.mem_cons_self)
              (otherwise other List.mem_cons_self) same
          rw [induction (fun each member =>
            addressable each (List.mem_cons_of_mem _ member))
              (fun each member => otherwise each
                (List.mem_cons_of_mem _ member)) later]

/-! ### What is read -/

/-- The frame of a client that says the same as a server frame, in the same
form. -/
def Mask.frame (mask : Mask) (frame : Frame) : ClientFrame :=
  ⟨true, opcodeOf frame, mask, .shortest frame.payload.length, frame.payload⟩

theorem Mask.cover_encode
    (mask : Mask) {frame : Frame} (addressable : frame.IsAddressable) :
    mask.cover (encode frame) = (mask.frame frame).octets := by
  have held := LengthForm.held_shortest addressable
  have width := LengthForm.fieldWidth_announced held
  rw [encode_eq]
  simp only [cover, width, List.take_left, List.drop_left,
    set_maskBit _ (LengthForm.announced_lt held), ClientFrame.octets,
    Mask.frame, if_true, Nat.add_comm 128 (opcodeOf frame).code]

theorem Mask.fits_frame
    (mask : Mask) {limit : Nat} {frame : Frame}
    (admissible : frame.IsAdmissible limit) :
    (mask.frame frame).Fits limit where
  coded := ⟨code_opcodeOf_lt frame, ofCode_opcodeOf frame⟩
  held := LengthForm.held_shortest admissible.addressable
  control := by
    intro isControl
    refine ⟨rfl, admissible.control ?_⟩
    cases frame <;> first | rfl | cases isControl
  short := admissible.short

theorem joinTo_meant (limit : Nat) (mask : Mask) (frame : Frame) :
    (mask.frame frame).meant.joinTo limit none = (.ok (some frame), none) := by
  cases frame with
  | text content =>
      simp [Mask.frame, ClientFrame.meant, opcodeOf, RawFrame.joinTo,
        PartialMessage.extend, PartialMessage.complete, Frame.payload,
        Except.map]
  | _ => rfl

theorem joinAll_meant (limit : Nat) (sent : List (Frame × Mask)) :
    joinAll limit none
      ((sent.map fun each => each.2.frame each.1).map ClientFrame.meant) =
      some (sent.map Prod.fst, none) := by
  induction sent with
  | nil => rfl
  | cons each sent induction =>
      simp only [List.map_cons, joinAll, joinTo_meant, induction]
      rfl

/-- Masked frames are read back. -/
theorem drain_cover
    {limit : Nat} {sent : List (Frame × Mask)}
    (admissible : ∀ each ∈ sent, each.1.IsAdmissible limit) :
    (Decoder.fresh limit).drain
      (sent.flatMap fun each => each.2.cover (encode each.1)) =
      ⟨sent.map Prod.fst, none, Decoder.fresh limit, []⟩ := by
  have octets : (sent.flatMap fun each => each.2.cover (encode each.1)) =
      (sent.map fun each => each.2.frame each.1).flatMap
        ClientFrame.octets := by
    rw [List.flatMap_map, List.flatMap_def, List.flatMap_def]
    refine congrArg List.flatten (List.map_congr_left fun each member => ?_)
    exact each.2.cover_encode (admissible each member).addressable
  have fit :
      ∀ frame ∈ sent.map fun each => each.2.frame each.1, frame.Fits limit := by
    intro frame member
    obtain ⟨each, isSent, rfl⟩ := List.mem_map.mp member
    exact each.2.fits_frame (admissible each isSent)
  have nothing :
      (Decoder.fresh limit).drain [] = ⟨[], none, Decoder.fresh limit, []⟩ :=
    Decoder.drain_of_nothing (Decoder.next_of_incomplete rfl)
  have whole := Decoder.drain_octets fit (joinAll_meant limit sent) []
  rw [List.append_nil] at whole
  rw [octets]
  refine whole.trans ?_
  change { (Decoder.fresh limit).drain [] with
    frames := sent.map Prod.fst ++ ((Decoder.fresh limit).drain []).frames } = _
  rw [nothing, List.append_nil]

/-! ### Both together -/

/-- A link that encodes the frame it has accepted adds it at the end of what it
has written and encoded before. -/
theorem stream_encodeAccepted
    {link : Server.Link} {frame : Frame} (accepted : link.accepted = some frame)
    (through : link.encodeAccepted.2 = .through) :
    link.encodeAccepted.1.desk.written ++ link.encodeAccepted.1.encoded =
      link.desk.written ++ link.encoded ++ encode frame := by
  obtain ⟨onward, clear⟩ := Server.Link.encodeAccepted_onward link
  have before : link.desk.stream =
      link.desk.written ++ (link.encoded ++ encode frame) := by
    simp [Server.Desk.stream, Server.Link.desk, accepted]
  have after : link.encodeAccepted.1.desk.stream =
      link.encodeAccepted.1.desk.written ++ link.encodeAccepted.1.encoded := by
    simp [Server.Desk.stream, Server.Link.desk, clear through]
  rw [← after, onward.stream, before, List.append_nil, List.append_assoc]

/-- The encoder and the decoder agree.  Frames that a client may send are read
back, and nothing else, from what the encoder writes for them under any masks.
What is encoded is added at the end of what there is; every frame is written
whole; and no two lists of frames are written in the same way. -/
theorem decoder_agrees_with_encoder :
    (∀ (limit : Nat) (sent : List (Frame × Mask)),
      (∀ each ∈ sent, each.1.IsAdmissible limit) →
        (Decoder.fresh limit).drain
          (sent.flatMap fun each => each.2.cover (encode each.1)) =
          ⟨sent.map Prod.fst, none, Decoder.fresh limit, []⟩) ∧
    (∀ (link : Server.Link) (frame : Frame),
      link.accepted = some frame → link.encodeAccepted.2 = .through →
        link.encodeAccepted.1.desk.written ++ link.encodeAccepted.1.encoded =
          link.desk.written ++ link.encoded ++ encode frame) ∧
    (∀ frame : Frame, frame.IsAddressable → ∃ first second rest,
      encode frame = first :: second :: rest ∧
        WrittenWhole frame first second rest) ∧
    (∀ frames others : List Frame,
      (∀ frame ∈ frames, frame.IsAddressable) →
        (∀ frame ∈ others, frame.IsAddressable) →
        frames.flatMap encode = others.flatMap encode → frames = others) := by
  constructor
  case left => exact fun limit sent admissible => drain_cover admissible
  case right =>
    exact ⟨fun link frame => stream_encodeAccepted,
      fun frame => exists_writtenWhole,
      fun frames others => flatMap_encode_injective⟩

/-- A text, a heartbeat request, a message that is too long for the inline form,
and the end. -/
def farewell : List (Frame × Mask) :=
  [(.text "h\u00e9", ⟨1, 2, 3, 4⟩), (.ping [7], ⟨0, 0, 0, 0⟩),
    (.binary (List.replicate 126 9), ⟨255, 0, 255, 0⟩), (.close, ⟨5, 6, 7, 8⟩)]

theorem admissible_farewell : ∀ each ∈ farewell, each.1.IsAdmissible 126 := by
  have within : ∀ frame : Frame, frame.payload.length ≤ 3 →
      frame.IsAdmissible 126 := by
    intro frame short
    refine ⟨Nat.lt_of_le_of_lt short (by decide), by omega, fun _ => ?_⟩
    exact Nat.le_trans short (by decide)
  have long : (Frame.binary (List.replicate 126 9)).payload.length = 126 :=
    List.length_replicate
  intro each member
  simp only [farewell, List.mem_cons, List.not_mem_nil, or_false] at member
  rcases member with rfl | rfl | rfl | rfl
  · exact within _ (by decide)
  · exact within _ (by decide)
  · exact ⟨Nat.lt_of_le_of_lt (Nat.le_of_eq long) (by decide),
      Nat.le_of_eq long, by rintro ⟨⟩⟩
  · exact within _ (by decide)

theorem decoder_agrees_with_encoder_farewell :
    (∀ each ∈ farewell, each.1.IsAdmissible 126) ∧
    (Decoder.fresh 126).drain
      (farewell.flatMap fun each => each.2.cover (encode each.1)) =
      ⟨farewell.map Prod.fst, none, Decoder.fresh 126, []⟩ ∧
    (∀ each ∈ farewell, ∃ first second rest,
      encode each.1 = first :: second :: rest ∧
        WrittenWhole each.1 first second rest) := by
  obtain ⟨reads, -, whole, -⟩ := decoder_agrees_with_encoder
  refine ⟨admissible_farewell, reads 126 farewell admissible_farewell,
    fun each member => ?_⟩
  exact whole each.1 (admissible_farewell each member).addressable

end Wire

end BroadcastHub
