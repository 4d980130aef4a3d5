import BroadcastHub.Proofs.Wire.ClientFrame
import Mathlib.Data.List.Induction

/-!
# What a decoder refuses

`Accepted` tells which frames a client may send one after the other, and
`Violates` when the octets behind them show that a rule is broken: a rule of
the header once the octets that it names are there, a rule about messages once
the frame is there as a whole.  Both speak of octets and messages only.

The main statement is `fault_drain_iff`: a fault is found exactly where
acceptable frames are followed by a violation.
-/

namespace BroadcastHub

/-- Whether octets can be the content of a message. -/
def MessageKind.Admits : MessageKind → Octets → Prop
  | .text, content => ∃ text, content = Text.utf8 text
  | .binary, _ => True

namespace Wire

/-- The opcode of a message's first frame. -/
def opcodeFor : MessageKind → Opcode
  | .text => .text
  | .binary => .binary

/-- A frame that may come while a message misses fragments or none does, and
the message that misses fragments afterwards. -/
inductive Takes (limit : Nat) :
    Option PartialMessage → RawFrame → Option PartialMessage → Prop where
  | control
      {unfinished : Option PartialMessage} {final : Bool} {opcode : Opcode}
      {payload : Octets}
      (control : opcode = .close ∨ opcode = .ping ∨ opcode = .pong) :
      Takes limit unfinished ⟨final, opcode, payload⟩ unfinished
  | whole
      {kind : MessageKind} {payload : Octets} (admits : kind.Admits payload) :
      Takes limit none ⟨true, opcodeFor kind, payload⟩ none
  | first {kind : MessageKind} {payload : Octets} :
      Takes limit none ⟨false, opcodeFor kind, payload⟩ (some ⟨kind, payload⟩)
  | more {kind : MessageKind} {content payload : Octets}
      (short : content.length + payload.length ≤ limit) :
      Takes limit (some ⟨kind, content⟩) ⟨false, .continuation, payload⟩
        (some ⟨kind, content ++ payload⟩)
  | last {kind : MessageKind} {content payload : Octets}
      (short : content.length + payload.length ≤ limit)
      (admits : kind.Admits (content ++ payload)) :
      Takes limit (some ⟨kind, content⟩) ⟨true, .continuation, payload⟩ none

/-- A frame that breaks a rule about messages. -/
inductive Misplaced (limit : Nat) :
    Option PartialMessage → RawFrame → Prop where
  | unassigned
      {unfinished : Option PartialMessage} {final : Bool} {code : Nat}
      {payload : Octets} :
      Misplaced limit unfinished ⟨final, .unassigned code, payload⟩
  | interrupting
      {message : PartialMessage} {final : Bool} {kind : MessageKind}
      {payload : Octets} :
      Misplaced limit (some message) ⟨final, opcodeFor kind, payload⟩
  | stray {final : Bool} {payload : Octets} :
      Misplaced limit none ⟨final, .continuation, payload⟩
  | tooLong {kind : MessageKind} {content payload : Octets} {final : Bool}
      (long : limit < content.length + payload.length) :
      Misplaced limit (some ⟨kind, content⟩) ⟨final, .continuation, payload⟩
  | invalid {payload : Octets} (invalid : ∀ text, payload ≠ Text.utf8 text) :
      Misplaced limit none ⟨true, .text, payload⟩
  | invalidWhole {content payload : Octets}
      (invalid : ∀ text, content ++ payload ≠ Text.utf8 text) :
      Misplaced limit (some ⟨.text, content⟩) ⟨true, .continuation, payload⟩

/-- Frames that may come one after the other. -/
inductive Accepted (limit : Nat) :
    Option PartialMessage → List ClientFrame → Option PartialMessage →
      Prop where
  | nil {unfinished : Option PartialMessage} :
      Accepted limit unfinished [] unfinished
  | cons {before after last : Option PartialMessage} {frame : ClientFrame}
      {frames : List ClientFrame} (fits : frame.Fits limit)
      (takes : Takes limit before frame.meant after)
      (rest : Accepted limit after frames last) :
      Accepted limit before (frame :: frames) last

/-- Octets whose beginning breaks a rule of the header. -/
inductive HeaderViolation (limit : Nat) : Octets → Prop where
  | reserved
      {first second : UInt8} {rest : Octets} (bits : first &&& 0x70 ≠ 0) :
      HeaderViolation limit (first :: second :: rest)
  | unmasked
      {first second : UInt8} {rest : Octets} (bit : second &&& 0x80 = 0) :
      HeaderViolation limit (first :: second :: rest)
  | control
      {first : UInt8} {form : LengthForm} {length : Nat} {rest : Octets}
      (held : length < form.bound) (control : first &&& 0x08 ≠ 0)
      (broken : first &&& 0x80 = 0 ∨ 125 < length) :
      HeaderViolation limit
        (first :: UInt8.ofNat (128 + form.announced length) ::
          (form.field length ++ rest))
  | tooLong
      {first : UInt8} {form : LengthForm} {length : Nat} {rest : Octets}
      (held : length < form.bound) (long : limit < length) :
      HeaderViolation limit
        (first :: UInt8.ofNat (128 + form.announced length) ::
          (form.field length ++ rest))

/-- Octets that show that a rule is broken. -/
inductive Violates (limit : Nat) (unfinished : Option PartialMessage) :
    Octets → Prop where
  | header {octets : Octets} (violation : HeaderViolation limit octets) :
      Violates limit unfinished octets
  | frame {frame : ClientFrame} {rest : Octets} (fits : frame.Fits limit)
      (misplaced : Misplaced limit unfinished frame.meant) :
      Violates limit unfinished (frame.octets ++ rest)

/-! ### Single frames -/

section

variable {limit : Nat} {unfinished after : Option PartialMessage}
  {frame : RawFrame}

theorem complete_of_admits {kind : MessageKind} {content : Octets}
    (admits : kind.Admits content) :
    ∃ whole, PartialMessage.complete ⟨kind, content⟩ = .ok whole := by
  cases kind with
  | text =>
      obtain ⟨text, rfl⟩ := admits
      exact ⟨.text text, by simp [PartialMessage.complete]⟩
  | binary => exact ⟨.binary content, rfl⟩

theorem complete_of_invalid
    {content : Octets} (invalid : ∀ text, content ≠ Text.utf8 text) :
    PartialMessage.complete ⟨.text, content⟩ =
      .error (.protocol .invalidText) := by
  cases read : Text.ofUtf8? content with
  | some text => exact absurd (Text.ofUtf8?_eq_some_iff.mp read) (invalid text)
  | none => simp [PartialMessage.complete, read]

theorem Takes.joined (takes : Takes limit unfinished frame after) :
    ∃ finished, frame.joinTo limit unfinished = (.ok finished, after) := by
  cases takes with
  | control control => rcases control with rfl | rfl | rfl <;> exact ⟨_, rfl⟩
  | @whole kind payload admits =>
      obtain ⟨whole, complete⟩ := complete_of_admits admits
      refine ⟨some whole, ?_⟩
      cases kind <;>
        simp [RawFrame.joinTo, opcodeFor, PartialMessage.extend, complete,
          Except.map]
  | @first kind payload =>
      refine ⟨none, ?_⟩
      cases kind <;> simp [RawFrame.joinTo, opcodeFor, PartialMessage.extend]
  | more short =>
      exact ⟨none, by simp [RawFrame.joinTo, PartialMessage.extend,
        Nat.not_lt.mpr short]⟩
  | last short admits =>
      obtain ⟨whole, complete⟩ := complete_of_admits admits
      exact ⟨some whole, by
        simp [RawFrame.joinTo, PartialMessage.extend, Nat.not_lt.mpr short,
          complete, Except.map]⟩

theorem Misplaced.refused (misplaced : Misplaced limit unfinished frame) :
    ∃ fault last, frame.joinTo limit unfinished = (.error fault, last) := by
  cases misplaced with
  | unassigned => exact ⟨_, _, rfl⟩
  | @interrupting message final kind payload => cases kind <;> exact ⟨_, _, rfl⟩
  | stray => exact ⟨_, _, rfl⟩
  | @tooLong kind content payload final long =>
      exact ⟨.messageTooLarge (content.length + payload.length), none, by
        simp [RawFrame.joinTo, long]⟩
  | invalid invalid =>
      exact ⟨.protocol .invalidText, none, by
        simp [RawFrame.joinTo, PartialMessage.extend,
          complete_of_invalid invalid, Except.map]⟩
  | @invalidWhole content payload invalid =>
      by_cases long : limit < content.length + payload.length
      · exact ⟨.messageTooLarge (content.length + payload.length), none, by
          simp [RawFrame.joinTo, long]⟩
      · exact ⟨.protocol .invalidText, none, by
          simp [RawFrame.joinTo, long, PartialMessage.extend,
            complete_of_invalid invalid, Except.map]⟩

theorem admits_or_invalid (kind : MessageKind) (content : Octets) :
    kind.Admits content ∨ kind = .text ∧ ∀ text, content ≠ Text.utf8 text := by
  cases kind with
  | binary => exact .inl trivial
  | text =>
      by_cases valid : ∃ text, content = Text.utf8 text
      · exact .inl valid
      · exact .inr ⟨rfl, fun text same => valid ⟨text, same⟩⟩

/-- A complete frame may come or breaks a rule. -/
theorem takes_or_misplaced
    (limit : Nat) (unfinished : Option PartialMessage) (frame : RawFrame) :
    (∃ after, Takes limit unfinished frame after) ∨
      Misplaced limit unfinished frame := by
  obtain ⟨final, opcode, payload⟩ := frame
  have data : ∀ kind : MessageKind,
      (∃ after, Takes limit unfinished ⟨final, opcodeFor kind, payload⟩ after) ∨
        Misplaced limit unfinished ⟨final, opcodeFor kind, payload⟩ := by
    intro kind
    cases unfinished with
    | some message => exact .inr .interrupting
    | none =>
        cases final with
        | false => exact .inl ⟨_, .first⟩
        | true =>
            rcases admits_or_invalid kind payload with admits | ⟨rfl, invalid⟩
            · exact .inl ⟨_, .whole admits⟩
            · exact .inr (.invalid invalid)
  cases opcode with
  | close => exact .inl ⟨_, .control (.inl rfl)⟩
  | ping => exact .inl ⟨_, .control (.inr (.inl rfl))⟩
  | pong => exact .inl ⟨_, .control (.inr (.inr rfl))⟩
  | text => exact data .text
  | binary => exact data .binary
  | unassigned code => exact .inr .unassigned
  | continuation =>
      cases unfinished with
      | none => exact .inr .stray
      | some message =>
          obtain ⟨kind, content⟩ := message
          by_cases long : limit < content.length + payload.length
          · exact .inr (.tooLong long)
          · cases final with
            | false => exact .inl ⟨_, .more (Nat.not_lt.mp long)⟩
            | true =>
                rcases admits_or_invalid kind (content ++ payload) with
                  admits | ⟨rfl, invalid⟩
                · exact .inl ⟨_, .last (Nat.not_lt.mp long) admits⟩
                · exact .inr (.invalidWhole invalid)

theorem takes_of_joined {finished : Option Frame}
    (joined : frame.joinTo limit unfinished = (.ok finished, after)) :
    Takes limit unfinished frame after := by
  rcases takes_or_misplaced limit unfinished frame with
    ⟨other, takes⟩ | misplaced
  · obtain ⟨whole, same⟩ := takes.joined
    rw [joined] at same
    cases same
    exact takes
  · obtain ⟨fault, last, refused⟩ := misplaced.refused
    rw [joined] at refused
    cases refused

theorem misplaced_of_refused {fault : Fault}
    (refused : frame.joinTo limit unfinished = (.error fault, after)) :
    Misplaced limit unfinished frame := by
  rcases takes_or_misplaced limit unfinished frame with
    ⟨other, takes⟩ | misplaced
  · obtain ⟨whole, joined⟩ := takes.joined
    rw [refused] at joined
    cases joined
  · exact misplaced

end

/-! ### Headers -/

set_option maxRecDepth 4096 in
theorem bits_iff (octet : UInt8) :
    (octet &&& 0x70 = 0 ↔ octet.toNat / 16 % 8 = 0) ∧
    (octet &&& 0x80 = 0 ↔ octet.toNat < 128) ∧
    (octet &&& 0x08 = 0 ↔ octet.toNat % 16 < 8) := by
  cases octet with
  | ofBitVec bits =>
      cases bits with
      | ofFin value =>
          revert value
          decide

end Wire

theorem Octets.toNat_lt (octets : Octets) :
    toNat octets < Nat.pow 256 octets.length := by
  induction octets using List.reverseRecOn with
  | nil => decide
  | append_singleton octets last induction =>
      rw [Octets.toNat_append_singleton, List.length_append]
      have small := last.toNat_lt
      show _ < Nat.pow 256 octets.length * 256
      omega

theorem Octets.ofNat_toNat (octets : Octets) :
    ofNat octets.length (toNat octets) = octets := by
  induction octets using List.reverseRecOn with
  | nil => rfl
  | append_singleton octets last induction =>
      have small := last.toNat_lt
      have high :
          (toNat octets * 256 + last.toNat) / 256 = toNat octets := by omega
      have low : UInt8.ofNat (toNat octets * 256 + last.toNat) = last := by
        apply UInt8.toNat_inj.mp
        rw [UInt8.toNat_ofNat']
        omega
      rw [toNat_append_singleton, List.length_append]
      show ofNat (octets.length + 1) _ = _
      rw [ofNat, high, low, induction]

namespace Wire

/-- A length that is declared is written in one of the forms. -/
theorem exists_form_of_declared
    {short length : Nat} {octets rest : Octets} (small : short < 128)
    (declared : declaredLength short octets = some (length, rest)) :
    ∃ form : LengthForm, short = form.announced length ∧ length < form.bound ∧
      octets = form.field length ++ rest := by
  unfold declaredLength at declared
  split at declared
  · obtain ⟨⟨field, after⟩, cut, same⟩ := Option.map_eq_some_iff.mp declared
    obtain ⟨whole, two⟩ := Octets.splitExactly_eq_some_iff.mp cut
    cases same
    refine ⟨.two, ‹_›, ?_, ?_⟩
    · have held := Octets.toNat_lt field
      rw [two] at held
      exact held
    · have written := Octets.ofNat_toNat field
      rw [two] at written
      rw [whole, LengthForm.field, written]
  · split at declared
    · obtain ⟨⟨field, after⟩, cut, same⟩ := Option.map_eq_some_iff.mp declared
      obtain ⟨whole, eight⟩ := Octets.splitExactly_eq_some_iff.mp cut
      cases same
      refine ⟨.eight, ‹_›, ?_, ?_⟩
      · have held := Octets.toNat_lt field
        rw [eight] at held
        exact held
      · have written := Octets.ofNat_toNat field
        rw [eight] at written
        rw [whole, LengthForm.field, written]
    · cases declared
      refine ⟨.inline, rfl, ?_, rfl⟩
      show short < 126
      omega

theorem toNat_second
    {form : LengthForm} {length : Nat} (held : length < form.bound) :
    (UInt8.ofNat (128 + form.announced length)).toNat =
      128 + form.announced length := by
  have small := LengthForm.announced_lt held
  rw [UInt8.toNat_ofNat']
  omega

/-- The header behind a length field that is complete. -/
theorem Header.read?_declared
    {limit : Nat} {first : UInt8} {form : LengthForm} {length : Nat}
    (bits : first &&& 0x70 = 0) (held : length < form.bound) (rest : Octets) :
    Header.read? limit
        (first :: UInt8.ofNat (128 + form.announced length) ::
          (form.field length ++ rest)) =
      if first &&& 0x08 ≠ 0 ∧ (first &&& 0x80 = 0 ∨ 125 < length) then
        .error (.protocol .invalidControl)
      else if limit < length then .error (.messageTooLarge length)
      else
        match rest with
        | one :: two :: three :: four :: rest =>
            .ok
              (some
                (⟨decide (128 ≤ first.toNat), Opcode.ofCode (first.toNat % 16),
              ⟨one, two, three, four⟩, length⟩, rest))
        | _ => .ok none := by
  obtain ⟨reserved, final, control⟩ := bits_iff first
  have second := toNat_second held
  have small := LengthForm.announced_lt held
  have short :
      (128 + form.announced length) % 128 = form.announced length := by omega
  have isControl : (Opcode.ofCode (first.toNat % 16)).isControl = true ↔
      first &&& 0x08 ≠ 0 := by
    rw [Opcode.isControl, Opcode.code_ofCode, decide_eq_true_iff, Ne, control]
    omega
  have isFinal : decide (128 ≤ first.toNat) = false ↔ first &&& 0x80 = 0 := by
    rw [decide_eq_false_iff_not, final]
    omega
  rw [Header.read?, if_neg (by rw [reserved.mp bits]; simp), if_neg (by omega)]
  rcases rest with _ | ⟨one, _ | ⟨two, _ | ⟨three, _ | ⟨four, rest⟩⟩⟩⟩ <;>
    simp only [second, short, declaredLength_field held, isControl, isFinal,
      longestControlPayload]

/-- What the octets of a stream say about a header. -/
inductive HeaderRead (limit : Nat) :
    Octets → Except Fault (Option (Header × Octets)) → Prop where
  | refused
      {octets : Octets} (violation : HeaderViolation limit octets)
      (fault : Fault) : HeaderRead limit octets (.error fault)
  | incomplete {octets : Octets} : HeaderRead limit octets (.ok none)
  | complete
      {first : UInt8} {form : LengthForm} {length : Nat} {mask : Mask}
      {rest : Octets} (bits : first &&& 0x70 = 0) (held : length < form.bound)
      (lawful : ¬ (first &&& 0x08 ≠ 0 ∧ (first &&& 0x80 = 0 ∨ 125 < length)))
      (short : length ≤ limit) :
      HeaderRead limit
        (first :: UInt8.ofNat (128 + form.announced length) ::
          (form.field length ++ (mask.octets ++ rest)))
        (.ok
          (some (⟨decide (128 ≤ first.toNat), Opcode.ofCode (first.toNat % 16),
            mask, length⟩,
          rest)))

theorem headerRead (limit : Nat) (octets : Octets) :
    HeaderRead limit octets (Header.read? limit octets) := by
  match octets with
  | [] => exact .incomplete
  | [_] => exact .incomplete
  | first :: second :: behind =>
      obtain ⟨reserved, -, -⟩ := bits_iff first
      obtain ⟨-, masked, -⟩ := bits_iff second
      have range := second.toNat_lt
      by_cases bits : first &&& 0x70 = 0
      swap
      · rw [Header.read?, if_pos (mt reserved.mpr bits)]
        exact .refused (.reserved bits) _
      by_cases bit : second &&& 0x80 = 0
      · rw [Header.read?, if_neg (not_not_intro (reserved.mp bits)),
          if_pos (masked.mp bit)]
        exact .refused (.unmasked bit) _
      have high : 128 ≤ second.toNat := Nat.not_lt.mp (mt masked.mpr bit)
      cases declared : declaredLength (second.toNat % 128) behind with
      | none =>
          rw [Header.read?, if_neg (not_not_intro (reserved.mp bits)),
            if_neg (Nat.not_lt.mpr high), declared]
          exact .incomplete
      | some found =>
          obtain ⟨length, rest⟩ := found
          obtain ⟨form, announced, held, rfl⟩ :=
            exists_form_of_declared (Nat.mod_lt _ (by decide)) declared
          have same : second = UInt8.ofNat (128 + form.announced length) := by
            apply UInt8.toNat_inj.mp
            rw [toNat_second held]
            omega
          subst same
          rw [Header.read?_declared bits held]
          split
          · rename_i broken
            exact .refused (.control held broken.1 broken.2) _
          · rename_i lawful
            split
            · rename_i long
              exact .refused (.tooLong held long) _
            · rename_i short
              split
              · rename_i one two three four rest
                exact @HeaderRead.complete limit first form length
                  ⟨one, two, three, four⟩ rest
                  bits held lawful (Nat.not_lt.mp short)
              · exact .incomplete

theorem HeaderViolation.refused {limit : Nat} {octets : Octets}
    (violation : HeaderViolation limit octets) :
    ∃ fault, Header.read? limit octets = .error fault := by
  have ofBits : ∀ {first second : UInt8} {rest : Octets}, first &&& 0x70 ≠ 0 →
      Header.read? limit (first :: second :: rest) =
        .error (.protocol .reservedBits) := by
    intro first second rest bits
    rw [Header.read?, if_pos (mt (bits_iff first).1.mpr bits)]
  cases violation with
  | reserved bits => exact ⟨_, ofBits bits⟩
  | @unmasked first second rest bit =>
      by_cases bits : first &&& 0x70 = 0
      · exact ⟨.protocol .unmasked, by
          rw [Header.read?, if_neg (not_not_intro ((bits_iff first).1.mp bits)),
            if_pos ((bits_iff second).2.1.mp bit)]⟩
      · exact ⟨_, ofBits bits⟩
  | @control first form length rest held control broken =>
      by_cases bits : first &&& 0x70 = 0
      · exact ⟨_, (Header.read?_declared bits held rest).trans
          (if_pos ⟨control, broken⟩)⟩
      · exact ⟨_, ofBits bits⟩
  | @tooLong first form length rest held long =>
      by_cases bits : first &&& 0x70 = 0
      · rw [Header.read?_declared bits held rest]
        split
        · exact ⟨_, rfl⟩
        · exact ⟨_, rfl⟩
      · exact ⟨_, ofBits bits⟩

/-! ### Frames -/

/-- A frame that has been read is one that a client writes. -/
theorem RawFrame.exists_client
    {limit : Nat} {buffer rest : Octets} {frame : RawFrame}
    (read : RawFrame.read? limit buffer = .ok (some (frame, rest))) :
    ∃ client : ClientFrame, client.Fits limit ∧ client.meant = frame ∧
      buffer = client.octets ++ rest := by
  unfold RawFrame.read? at read
  have header := headerRead limit buffer
  split at read
  · cases read
  · cases read
  · rename_i headerIs
    rw [headerIs] at header
    cases header with
    | @complete first form length mask after bits held lawful short =>
        split at read
        · cases read
        · rename_i payload behind cut
          obtain ⟨rfl, same⟩ := Octets.splitExactly_eq_some_iff.mp cut
          cases read
          obtain ⟨reserved, final, control⟩ := bits_iff first
          have range := first.toNat_lt
          subst same
          refine ⟨⟨_, _, mask, form, mask.apply payload⟩, ⟨?_, ?_, ?_, ?_⟩, rfl,
            ?_⟩
          · have small : first.toNat % 16 < 16 := Nat.mod_lt _ (by decide)
            exact ⟨by rw [Opcode.code_ofCode]; exact small, by
              rw [Opcode.code_ofCode]⟩
          · rw [Mask.length_apply]
            exact held
          · intro isControl
            have isSet : first &&& 0x08 ≠ 0 := by
              rw [Opcode.isControl, Opcode.code_ofCode,
                decide_eq_true_iff] at isControl
              rw [Ne, control]
              omega
            rw [Mask.length_apply, decide_eq_true_iff]
            constructor
            · apply Nat.not_lt.mp
              exact fun low => lawful ⟨isSet, .inl (final.mpr low)⟩
            · apply Nat.not_lt.mp
              exact fun long => lawful ⟨isSet, .inr long⟩
          · rw [Mask.length_apply]
            exact short
          · have firstIs :
              first = UInt8.ofNat ((Opcode.ofCode (first.toNat % 16)).code +
                if decide (128 ≤ first.toNat) then 128 else 0) := by
              have low := reserved.mp bits
              apply UInt8.toNat_inj.mp
              rw [UInt8.toNat_ofNat', Opcode.code_ofCode]
              simp only [decide_eq_true_eq]
              split <;> omega
            simp only [ClientFrame.octets, Mask.length_apply,
              Mask.conceal_eq_apply, Mask.apply_apply, ← firstIs,
              List.cons_append, List.append_assoc]

theorem Violates.refused
    {limit : Nat} {unfinished : Option PartialMessage} {octets : Octets}
    (violates : Violates limit unfinished octets) :
    ∃ fault, (Decoder.drain ⟨limit, unfinished⟩ octets).fault = some fault := by
  cases violates with
  | header violation =>
      obtain ⟨fault, header⟩ := violation.refused
      have read : RawFrame.read? limit octets = .error fault := by
        rw [RawFrame.read?, header]
      have step := @Decoder.next_of_error ⟨limit, unfinished⟩ _ _ read
      exact ⟨fault, by rw [Decoder.drain_of_fault step]⟩
  | frame fits misplaced =>
      obtain ⟨fault, last, refused⟩ := misplaced.refused
      exact ⟨fault, by
        rw [Decoder.drain_of_refused (ClientFrame.read?_octets fits _) refused]⟩

theorem Accepted.refused
    {limit : Nat} {unfinished last : Option PartialMessage}
    {frames : List ClientFrame}
    (accepted : Accepted limit unfinished frames last) {tail : Octets}
    (violates : Violates limit last tail) :
    ∃ fault, (Decoder.drain ⟨limit, unfinished⟩
      (frames.flatMap ClientFrame.octets ++ tail)).fault = some fault := by
  induction accepted with
  | nil => exact violates.refused
  | cons fits takes rest induction =>
      obtain ⟨fault, broken⟩ := induction violates
      obtain ⟨finished, joined⟩ := takes.joined
      refine ⟨fault, ?_⟩
      rw [List.flatMap_cons, List.append_assoc,
        Decoder.drain_of_joined (ClientFrame.read?_octets fits _) joined]
      exact broken

/-- Where a fault is found, acceptable frames are followed by a violation. -/
theorem exists_accepted_of_fault
    {limit : Nat} {fault : Fault} (stream : Octets)
    (unfinished : Option PartialMessage)
    (broken : (Decoder.drain ⟨limit, unfinished⟩ stream).fault = some fault) :
    ∃ frames last tail, Accepted limit unfinished frames last ∧
      Violates limit last tail ∧
      stream = frames.flatMap ClientFrame.octets ++ tail := by
  induction size :
    stream.length using Nat.strongRecOn generalizing stream unfinished with
  | ind size induction =>
      cases read : RawFrame.read? limit stream with
      | error fault =>
          have header := headerRead limit stream
          unfold RawFrame.read? at read
          split at read
          · rename_i headerIs
            rw [headerIs] at header
            cases header with
            | refused violation =>
                exact ⟨[], _, stream, .nil, .header violation, rfl⟩
          · cases read
          · split at read <;> cases read
      | ok answer =>
          cases answer with
          | none =>
              have step :=
                @Decoder.next_of_incomplete ⟨limit, unfinished⟩ _ read
              rw [Decoder.drain_of_nothing step] at broken
              cases broken
          | some found =>
              obtain ⟨frame, rest⟩ := found
              obtain ⟨client, fits, rfl, whole⟩ := RawFrame.exists_client read
              cases joined : client.meant.joinTo limit unfinished with
              | mk result after =>
                  cases result with
                  | error fault =>
                      refine ⟨[], _, stream, .nil, ?_, rfl⟩
                      rw [whole]
                      exact .frame fits (misplaced_of_refused joined)
                  | ok finished =>
                      have shorter := RawFrame.length_of_read? read
                      rw [Decoder.drain_of_joined read joined] at broken
                      obtain ⟨frames, last, tail, accepted, violates, same⟩ :=
                        induction rest.length (size ▸ shorter) rest after
                          broken rfl
                      refine ⟨client :: frames, last, tail,
                        .cons fits (takes_of_joined joined) accepted,
                        violates, ?_⟩
                      rw [whole, same, List.flatMap_cons, List.append_assoc]

/-- A fault is found in a stream exactly if the stream consists of acceptable
frames and of octets behind them that show a violation.  More octets neither
take a fault away nor bring one into what has come before them. -/
theorem fault_drain_iff (limit : Nat) (stream : Octets) :
    ((∃ fault, ((Decoder.fresh limit).drain stream).fault = some fault) ↔
      ∃ frames unfinished tail, Accepted limit none frames unfinished ∧
        Violates limit unfinished tail ∧
        stream = frames.flatMap ClientFrame.octets ++ tail) ∧
    (∀ more fault, ((Decoder.fresh limit).drain stream).fault = some fault →
      ((Decoder.fresh limit).drain (stream ++ more)).fault = some fault) ∧
    (∀ more, ((Decoder.fresh limit).drain (stream ++ more)).fault = none →
      ((Decoder.fresh limit).drain stream).fault = none) := by
  have stays :
      ∀ more fault, ((Decoder.fresh limit).drain stream).fault = some fault →
      ((Decoder.fresh limit).drain (stream ++ more)).fault = some fault := by
    intro more fault broken
    rw [Decoder.drain_append, Decoder.Drained.goOn, broken]
  refine ⟨⟨?_, ?_⟩, stays, ?_⟩
  · rintro ⟨fault, broken⟩
    exact exists_accepted_of_fault stream none broken
  · rintro ⟨frames, unfinished, tail, accepted, violates, rfl⟩
    exact accepted.refused violates
  · intro more sound
    cases broken : ((Decoder.fresh limit).drain stream).fault with
    | none => rfl
    | some fault =>
        rw [stays more fault broken] at sound
        cases sound

end Wire

end BroadcastHub
