import BroadcastHub.Proofs.Wire.Arrival
import BroadcastHub.Wire.Encoder

/-!
# Frames as clients write them

A client masks each of its frames and may write the length of the payload in
any form that holds it.  `ClientFrame.Fits` collects what a single frame has
to keep to; `joinAll` tells what a list of frames comes to when each of them
is taken into the message that misses fragments.

The main statements are `drain_octets`, by which a decoder makes of frames
that arrive one behind the other what `joinAll` says, and `drain_begun`, by
which it makes nothing of a frame that has not arrived as a whole.
-/

namespace BroadcastHub.Wire

structure ClientFrame where
  final : Bool
  opcode : Opcode
  mask : Mask
  form : LengthForm
  payload : Octets
deriving DecidableEq, Repr

def Mask.octets (mask : Mask) : Octets :=
  [mask.first, mask.second, mask.third, mask.fourth]

/-- A payload as a client writes it: each octet is added bit by bit to that
octet of the mask whose turn it is by the position. -/
def Mask.conceal (mask : Mask) (payload : Octets) : Octets :=
  payload.mapIdx fun position octet =>
    octet ^^^ mask.octets.getD (position % 4) 0

theorem Mask.conceal_eq_apply (mask : Mask) (payload : Octets) :
    mask.conceal payload = mask.apply payload := by
  have meets : ∀ position,
      mask.octets.getD (position % 4) 0 = mask.octetAt position := by
    intro position
    have below : position % 4 < 4 := Nat.mod_lt _ (by decide)
    unfold Mask.octetAt
    generalize position % 4 = turn at below ⊢
    match turn, below with
    | 0, _ => rfl
    | 1, _ => rfl
    | 2, _ => rfl
    | 3, _ => rfl
  simp only [Mask.conceal, Mask.apply, meets]

namespace ClientFrame

/-- The frame on the wire. -/
def octets (frame : ClientFrame) : Octets :=
  UInt8.ofNat (frame.opcode.code + if frame.final then 128 else 0) ::
    UInt8.ofNat (128 + frame.form.announced frame.payload.length) ::
    (frame.form.field frame.payload.length ++
      (frame.mask.octets ++ frame.mask.conceal frame.payload))

def meant (frame : ClientFrame) : RawFrame :=
  ⟨frame.final, frame.opcode, frame.payload⟩

/-- The rules for a frame by itself, apart from what its opcode asks for. -/
structure Fits (limit : Nat) (frame : ClientFrame) : Prop where
  /-- The opcode is the one that four bits stand for. -/
  coded :
    frame.opcode.code < 16 ∧ Opcode.ofCode frame.opcode.code = frame.opcode
  held : frame.payload.length < frame.form.bound
  control : frame.opcode.isControl = true →
    frame.final = true ∧ frame.payload.length ≤ longestControlPayload
  short : frame.payload.length ≤ limit

end ClientFrame

/-- A length that its form holds is read back from the announcement and the
length field. -/
theorem declaredLength_field
    {form : LengthForm} {length : Nat} (held : length < form.bound)
    (rest : Octets) :
    declaredLength (form.announced length) (form.field length ++ rest) =
      some (length, rest) := by
  cases form with
  | inline =>
      have small : length < 126 := held
      have notTwo : length ≠ 126 := by omega
      have notEight : length ≠ 127 := by omega
      simp [declaredLength, LengthForm.announced, LengthForm.field, notTwo,
        notEight]
  | two =>
      have cut : Octets.splitExactly 2 (Octets.ofNat 2 length ++ rest) =
          some (Octets.ofNat 2 length, rest) :=
        Octets.splitExactly_eq_some_iff.mpr ⟨rfl, Octets.length_ofNat 2 length⟩
      have small : length < 65536 := held
      have same : length % Nat.pow 256 2 = length := Nat.mod_eq_of_lt small
      simp [declaredLength, LengthForm.announced, LengthForm.field, cut,
        Octets.toNat_ofNat, same]
  | eight =>
      have cut : Octets.splitExactly 8 (Octets.ofNat 8 length ++ rest) =
          some (Octets.ofNat 8 length, rest) :=
        Octets.splitExactly_eq_some_iff.mpr ⟨rfl, Octets.length_ofNat 8 length⟩
      have small : length < 18446744073709551616 := held
      have same : length % Nat.pow 256 8 = length := Nat.mod_eq_of_lt small
      simp [declaredLength, LengthForm.announced, LengthForm.field, cut,
        Octets.toNat_ofNat, same]

theorem LengthForm.announced_lt
    {form : LengthForm} {length : Nat} (held : length < form.bound) :
    form.announced length < 128 := by
  cases form with
  | inline => exact Nat.lt_trans held (by decide)
  | two => exact (by decide : 126 < 128)
  | eight => exact (by decide : 127 < 128)

namespace ClientFrame

/-- A frame that keeps to the rules is read as it was meant, whatever comes
behind it. -/
theorem read?_octets
    {limit : Nat} {frame : ClientFrame} (fits : frame.Fits limit)
    (rest : Octets) :
    RawFrame.read? limit (frame.octets ++ rest) =
      .ok (some (frame.meant, rest)) := by
  obtain ⟨small, canonical⟩ := fits.coded
  have announced := LengthForm.announced_lt fits.held
  have first : (UInt8.ofNat
      (frame.opcode.code + if frame.final then 128 else 0)).toNat =
      frame.opcode.code + if frame.final then 128 else 0 := by
    rw [UInt8.toNat_ofNat']
    split <;> omega
  have second : (UInt8.ofNat
      (128 + frame.form.announced frame.payload.length)).toNat =
      128 + frame.form.announced frame.payload.length := by
    rw [UInt8.toNat_ofNat']
    omega
  have reserved :
      (frame.opcode.code + if frame.final then 128 else 0) / 16 % 8 = 0 := by
    split <;> omega
  have code :
      (frame.opcode.code + if frame.final then 128 else 0) % 16 =
        frame.opcode.code := by
    split <;> omega
  have final :
      decide (128 ≤ frame.opcode.code + if frame.final then 128 else 0) =
        frame.final := by
    cases frame.final with
    | true => simp
    | false =>
        simp
        omega
  have declared := declaredLength_field fits.held
    (frame.mask.octets ++ (frame.mask.apply frame.payload ++ rest))
  have announcedMod :
      (128 + frame.form.announced frame.payload.length) % 128 =
        frame.form.announced frame.payload.length := by
    omega
  have lawful : ¬ (frame.opcode.isControl ∧ (frame.final = false ∨
      longestControlPayload < frame.payload.length)) := by
    rintro ⟨isControl, broken⟩
    obtain ⟨isFinal, short⟩ := fits.control isControl
    rcases broken with open_ | long
    · rw [isFinal] at open_
      cases open_
    · omega
  have cut : Octets.splitExactly frame.payload.length
      (frame.mask.apply frame.payload ++ rest) =
        some (frame.mask.apply frame.payload, rest) :=
    Octets.splitExactly_eq_some_iff.mpr ⟨rfl, Mask.length_apply _ _⟩
  have header : Header.read? limit (frame.octets ++ rest) =
      .ok (some (⟨frame.final, frame.opcode, frame.mask, frame.payload.length⟩,
        frame.mask.apply frame.payload ++ rest)) := by
    simp only [octets, Mask.conceal_eq_apply, List.cons_append,
      List.append_assoc, Header.read?, first, second, reserved, code, final,
      canonical, announcedMod, declared]
    rw [if_neg (by simp), if_neg (by omega), if_neg lawful,
      if_neg (Nat.not_lt.mpr fits.short)]
    rfl
  simp only [RawFrame.read?, header, cut, Mask.apply_apply, meant]

/-- The text `hello` under the mask 11 22 33 44, octet by octet. -/
example :
    RawFrame.read? 5
        [0x81, 0x85, 0x11, 0x22, 0x33, 0x44, 0x79, 0x47, 0x5f, 0x28, 0x7e] =
      .ok (some (⟨true, .text, [104, 101, 108, 108, 111]⟩, [])) := by
  rfl

/-- Nothing can be read from the beginning of a frame. -/
theorem read?_begun
    {limit : Nat} {frame : ClientFrame} (fits : frame.Fits limit)
    {begun missing : Octets} (cut : frame.octets = begun ++ missing)
    (isMissing : missing ≠ []) :
    RawFrame.read? limit begun = .ok none := by
  have whole := read?_octets fits []
  rw [List.append_nil, cut] at whole
  cases read : RawFrame.read? limit begun with
  | error fault =>
      rw [RawFrame.read?_append_of_error read] at whole
      cases whole
  | ok answer =>
      cases answer with
      | none => rfl
      | some found =>
          obtain ⟨early, rest⟩ := found
          rw [RawFrame.read?_append read] at whole
          have empty : rest ++ missing = [] := by
            simp only [Except.ok.injEq, Option.some.injEq, Prod.mk.injEq]
              at whole
            exact whole.2
          exact absurd (List.append_eq_nil_iff.mp empty).2 isMissing

end ClientFrame

/-- What frames come to that are taken one after the other into the message
that misses fragments: what they finish, and what misses fragments in the
end.  Nothing if one of them breaks a rule. -/
def joinAll (limit : Nat) :
    Option PartialMessage → List RawFrame →
      Option (List Frame × Option PartialMessage)
  | unfinished, [] => some ([], unfinished)
  | unfinished, frame :: frames =>
      match frame.joinTo limit unfinished with
      | (.error _, _) => none
      | (.ok finished, unfinished) =>
          (joinAll limit unfinished frames).map fun (others, last) =>
            (finished.toList ++ others, last)

namespace Decoder

variable {limit : Nat}

theorem drain_of_joined
    {unfinished after : Option PartialMessage} {buffer rest : Octets}
    {frame : RawFrame} {finished : Option Frame}
    (read : RawFrame.read? limit buffer = .ok (some (frame, rest)))
    (joined : frame.joinTo limit unfinished = (.ok finished, after)) :
    Decoder.drain ⟨limit, unfinished⟩ buffer =
      { Decoder.drain ⟨limit, after⟩ rest with
        frames :=
          finished.toList ++ (Decoder.drain ⟨limit, after⟩ rest).frames } := by
  have step := @next_of_complete ⟨limit, unfinished⟩ _ _ _ read
  rw [joined] at step
  cases finished with
  | none => exact drain_congr step
  | some whole => exact drain_of_frame step

theorem drain_of_refused
    {unfinished after : Option PartialMessage} {buffer rest : Octets}
    {frame : RawFrame} {fault : Fault}
    (read : RawFrame.read? limit buffer = .ok (some (frame, rest)))
    (refused : frame.joinTo limit unfinished = (.error fault, after)) :
    Decoder.drain ⟨limit, unfinished⟩ buffer =
      ⟨[], some fault, ⟨limit, after⟩, rest⟩ := by
  have step := @next_of_complete ⟨limit, unfinished⟩ _ _ _ read
  rw [refused] at step
  exact drain_of_fault step

/-- A decoder makes of frames what they come to. -/
theorem drain_octets
    {frames : List ClientFrame} (fit : ∀ frame ∈ frames, frame.Fits limit)
    {unfinished last : Option PartialMessage} {finished : List Frame}
    (joined : joinAll limit unfinished (frames.map ClientFrame.meant) =
      some (finished, last)) (rest : Octets) :
    Decoder.drain ⟨limit, unfinished⟩
        (frames.flatMap ClientFrame.octets ++ rest) =
      { Decoder.drain ⟨limit, last⟩ rest with
        frames := finished ++ (Decoder.drain ⟨limit, last⟩ rest).frames } := by
  induction frames generalizing unfinished finished with
  | nil =>
      cases joined
      rfl
  | cons frame frames induction =>
      have head := ClientFrame.read?_octets (fit frame (by simp))
        (frames.flatMap ClientFrame.octets ++ rest)
      have tail := fun {unfinished finished} =>
        @induction (fun other member => fit other (by simp [member]))
          unfinished finished
      simp only [List.map_cons, joinAll] at joined
      rw [List.flatMap_cons, List.append_assoc]
      cases taken : frame.meant.joinTo limit unfinished with
      | mk result behind =>
          rw [taken] at joined
          cases result with
          | error fault => cases joined
          | ok whole =>
              obtain ⟨⟨others, end_⟩, later, same⟩ :=
                Option.map_eq_some_iff.mp joined
              cases same
              rw [drain_of_joined head taken, tail later, List.append_assoc]

/-- A decoder makes nothing of the beginning of a frame. -/
theorem drain_begun
    {frame : ClientFrame} (fits : frame.Fits limit)
    {begun missing : Octets} (cut : frame.octets = begun ++ missing)
    (isMissing : missing ≠ []) (unfinished : Option PartialMessage) :
    Decoder.drain ⟨limit, unfinished⟩ begun =
      ⟨[], none, ⟨limit, unfinished⟩, begun⟩ :=
  drain_of_nothing
    (next_of_incomplete (ClientFrame.read?_begun fits cut isMissing))

end Decoder

end BroadcastHub.Wire
