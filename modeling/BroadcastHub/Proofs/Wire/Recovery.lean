import BroadcastHub.Proofs.Wire.Limits

/-!
# After a fault

A decoder may take several fragments before it finds a fault.  A header that
breaks a rule stays in front of the buffer and is refused again whatever arrives
behind it.  A complete frame that breaks a rule is used up and nothing else is,
and `Refuses` tells which message misses fragments then.  The main statement is
`fault_next`.
-/

namespace BroadcastHub.Wire

/-- A complete frame is refused while a message misses fragments or none does:
the fault, and the message that misses fragments afterwards. -/
inductive Refuses (limit : Nat) :
    Option PartialMessage → RawFrame → Fault → Option PartialMessage →
      Prop where
  /-- An opcode without a meaning leaves the message alone. -/
  | unassigned
      {unfinished : Option PartialMessage} {final : Bool} {code : Nat}
      {payload : Octets} :
      Refuses limit unfinished ⟨final, .unassigned code, payload⟩
        (.protocol .unknownOpcode) unfinished
  /-- So does a message that starts too early. -/
  | interrupting {message : PartialMessage} {final : Bool} {kind : MessageKind}
      {payload : Octets} :
      Refuses limit (some message) ⟨final, opcodeFor kind, payload⟩
        (.protocol .interruptedMessage) (some message)
  | stray {final : Bool} {payload : Octets} :
      Refuses limit none ⟨final, .continuation, payload⟩
        (.protocol .strayContinuation) none
  /-- A message that grows too long is dropped. -/
  | tooLong {kind : MessageKind} {content payload : Octets} {final : Bool}
      (long : limit < content.length + payload.length) :
      Refuses limit (some ⟨kind, content⟩) ⟨final, .continuation, payload⟩
        (.messageTooLarge (content.length + payload.length)) none
  | invalid {payload : Octets} (invalid : ∀ text, payload ≠ Text.utf8 text) :
      Refuses limit none ⟨true, .text, payload⟩ (.protocol .invalidText) none
  /-- So is one that turns out not to be a text. -/
  | invalidWhole
      {content payload : Octets}
      (short : content.length + payload.length ≤ limit)
      (invalid : ∀ text, content ++ payload ≠ Text.utf8 text) :
      Refuses limit (some ⟨.text, content⟩) ⟨true, .continuation, payload⟩
        (.protocol .invalidText) none

section

variable {limit : Nat} {unfinished kept : Option PartialMessage}
  {frame : RawFrame} {fault : Fault}

theorem Refuses.joined (refuses : Refuses limit unfinished frame fault kept) :
    frame.joinTo limit unfinished = (.error fault, kept) := by
  cases refuses with
  | unassigned => rfl
  | @interrupting message final kind payload => cases kind <;> rfl
  | stray => rfl
  | tooLong long => simp [RawFrame.joinTo, long]
  | invalid invalid =>
      simp [RawFrame.joinTo, PartialMessage.extend, complete_of_invalid invalid,
        Except.map]
  | invalidWhole short invalid =>
      simp [RawFrame.joinTo, Nat.not_lt.mpr short, PartialMessage.extend,
        complete_of_invalid invalid, Except.map]

theorem Misplaced.refuses (misplaced : Misplaced limit unfinished frame) :
    ∃ fault kept, Refuses limit unfinished frame fault kept := by
  cases misplaced with
  | unassigned => exact ⟨_, _, .unassigned⟩
  | interrupting => exact ⟨_, _, .interrupting⟩
  | stray => exact ⟨_, _, .stray⟩
  | tooLong long => exact ⟨_, _, .tooLong long⟩
  | invalid invalid => exact ⟨_, _, .invalid invalid⟩
  | @invalidWhole content payload invalid =>
      by_cases long : limit < content.length + payload.length
      · exact ⟨_, _, .tooLong long⟩
      · exact ⟨_, _, .invalidWhole (Nat.not_lt.mp long) invalid⟩

theorem joinTo_eq_error_iff :
    frame.joinTo limit unfinished = (.error fault, kept) ↔
      Refuses limit unfinished frame fault kept := by
  constructor
  · intro refused
    obtain ⟨other, left, refuses⟩ := (misplaced_of_refused refused).refuses
    have same := refuses.joined
    rw [refused] at same
    cases same
    exact refuses
  · exact Refuses.joined

/-- Only a fragment that is not the last one finishes nothing. -/
theorem final_of_joined
    (joined : frame.joinTo limit unfinished = (.ok none, kept)) :
    frame.final = false := by
  cases takes_of_joined joined with
  | control control => rcases control with rfl | rfl | rfl <;> cases joined
  | @whole kind payload admits =>
      obtain ⟨whole, complete⟩ := complete_of_admits admits
      cases kind <;>
        simp [RawFrame.joinTo, opcodeFor, PartialMessage.extend, complete,
          Except.map] at joined
  | first => rfl
  | more short => rfl
  | last short admits =>
      obtain ⟨whole, complete⟩ := complete_of_admits admits
      simp [RawFrame.joinTo, PartialMessage.extend, Nat.not_lt.mpr short,
        complete, Except.map] at joined

theorem headerViolation_of_read?
    {buffer : Octets} (read : RawFrame.read? limit buffer = .error fault) :
    HeaderViolation limit buffer := by
  have header := headerRead limit buffer
  unfold RawFrame.read? at read
  split at read
  · rename_i headerIs
    rw [headerIs] at header
    cases header with
    | refused violation => exact violation
  · cases read
  · split at read <;> cases read

end

namespace Decoder

/-- Fragments that a decoder takes one after the other without finding a
frame. -/
structure Swallows
    (limit : Nat) (before : Option PartialMessage)
    (fragments : List ClientFrame) (after : Option PartialMessage) : Prop where
  accepted : Accepted limit before fragments after
  unended : ∀ fragment ∈ fragments, fragment.final = false

/-- The decoder stands before a frame whose header breaks a rule.  It has the
message that it had, and whatever arrives and however often it is asked, it
finds the fault again and stays there. -/
structure StandsBefore
    (limit : Nat) (unfinished : Option PartialMessage) (fault : Fault)
    (decoder : Decoder) (rest : Octets) : Prop where
  broken : HeaderViolation limit rest
  same : decoder = ⟨limit, unfinished⟩
  again : ∀ {arrived behind : Octets} {later : Decoder},
    decoder.Reaches rest arrived later behind →
      later = decoder ∧ behind = rest ++ arrived ∧
        later.next behind = (.fault fault, later, behind)

/-- The decoder stands behind a complete frame that was refused, with the
message that is left.  Of the octets there it makes what a decoder with that
message makes of them: frames that begin right there are found. -/
structure StandsBehind
    (limit : Nat) (unfinished : Option PartialMessage) (fault : Fault)
    (frame : ClientFrame) (kept : Option PartialMessage) (decoder : Decoder)
    (rest : Octets) : Prop where
  fits : frame.Fits limit
  refused : Refuses limit unfinished frame.meant fault kept
  same : decoder = ⟨limit, kept⟩
  resumes :
    ∀ {frames : List ClientFrame} {finished : List Frame}
    {last : Option PartialMessage}, (∀ frame ∈ frames, frame.Fits limit) →
      joinAll limit kept (frames.map ClientFrame.meant) =
        some (finished, last) →
        ∀ more tail, rest ++ more = frames.flatMap ClientFrame.octets ++ tail →
          decoder.drain (rest ++ more) =
            { Decoder.drain ⟨limit, last⟩ tail with
              frames := finished ++ (Decoder.drain ⟨limit, last⟩ tail).frames }

/-- A decoder does not get past a header that breaks a rule. -/
theorem Reaches.stuck
    {first decoder : Decoder} {front arrived buffer : Octets} {fault : Fault}
    (read : RawFrame.read? first.limit front = .error fault)
    (reached : first.Reaches front arrived decoder buffer) :
    decoder = first ∧ buffer = front ++ arrived := by
  induction reached with
  | start => exact ⟨rfl, (List.append_nil _).symm⟩
  | arrive before chunk induction =>
      obtain ⟨same, all⟩ := induction
      exact ⟨same, by rw [all, List.append_assoc]⟩
  | ask before step induction =>
      obtain ⟨same, all⟩ := induction
      subst same
      subst all
      rw [next_of_error (RawFrame.read?_append_of_error read _)] at step
      cases step
      exact ⟨rfl, rfl⟩

theorem standsBefore_of_error
    {decoder : Decoder} {buffer : Octets} {fault : Fault}
    (read : RawFrame.read? decoder.limit buffer = .error fault) :
    StandsBefore decoder.limit decoder.unfinished fault decoder buffer where
  broken := headerViolation_of_read? read
  same := rfl
  again reached := by
    obtain ⟨rfl, rfl⟩ := reached.stuck read
    exact ⟨rfl, rfl, next_of_error (RawFrame.read?_append_of_error read _)⟩

theorem standsBehind_of_refused
    {limit : Nat} {unfinished kept : Option PartialMessage}
    {frame : ClientFrame} {fault : Fault} (fits : frame.Fits limit)
    (refused : frame.meant.joinTo limit unfinished = (.error fault, kept))
    (rest : Octets) :
    StandsBehind limit unfinished fault frame kept ⟨limit, kept⟩ rest where
  fits := fits
  refused := joinTo_eq_error_iff.mp refused
  same := rfl
  resumes fit joined more tail whole := by
    rw [whole]
    exact drain_octets fit joined tail

/-- What a fault leaves behind.  Behind fragments that the decoder has taken, it
stands before a frame whose header breaks a rule, or behind a complete frame
that breaks another one. -/
theorem fault_next
    {decoder after : Decoder} {buffer rest : Octets} {fault : Fault}
    (step : decoder.next buffer = (.fault fault, after, rest)) :
    ∃ fragments unfinished,
      Swallows decoder.limit decoder.unfinished fragments unfinished ∧
      ((StandsBefore decoder.limit unfinished fault after rest ∧
          buffer = fragments.flatMap ClientFrame.octets ++ rest) ∨
        ∃ frame kept,
          StandsBehind decoder.limit unfinished fault frame kept after rest ∧
          buffer = fragments.flatMap ClientFrame.octets ++
            (frame.octets ++ rest)) := by
  -- Each call of the decoder on itself has swallowed one fragment more.
  fun_induction next decoder buffer with
  | case1 decoder buffer fault read =>
      cases step
      exact ⟨[], _, ⟨.nil, List.forall_mem_nil _⟩,
        .inl ⟨standsBefore_of_error read, rfl⟩⟩
  | case2 | case4 => cases step
  | case3 decoder buffer frame rest read fault kept joined =>
      cases step
      obtain ⟨client, fits, rfl, whole⟩ := RawFrame.exists_client read
      exact ⟨[], _, ⟨.nil, List.forall_mem_nil _⟩,
        .inr ⟨client, kept, standsBehind_of_refused fits joined _, whole⟩⟩
  | case5 decoder buffer frame behind read unfinished joined induction =>
      obtain ⟨client, fits, rfl, whole⟩ := RawFrame.exists_client read
      obtain ⟨fragments, last, swallows, stands⟩ := induction step
      refine ⟨client :: fragments, last,
        ⟨.cons fits (takes_of_joined joined) swallows.accepted,
        List.forall_mem_cons.mpr ⟨final_of_joined joined, swallows.unended⟩⟩,
        ?_⟩
      simp only [whole, List.flatMap_cons, List.append_assoc,
        List.append_cancel_left_eq]
      exact stands

def bareText : Octets := [0x81, 0x01, 0x61]

theorem next_behind_begunText
    {rest behind : Octets} {found : Found} {after : Decoder}
    (step : Decoder.next ⟨2, some ⟨.text, [0x61]⟩⟩ rest =
      (found, after, behind)) :
    (fresh 2).next (begunText ++ rest) = (found, after, behind) := by
  rw [next_append, next_begunText]
  exact step

theorem fault_next_of_texts :
    (∃ fragments unfinished, Swallows 2 none fragments unfinished ∧
      StandsBefore 2 unfinished (.protocol .unmasked) ⟨2, some ⟨.text, [0x61]⟩⟩
      bareText ∧
      begunText ++ bareText =
        fragments.flatMap ClientFrame.octets ++ bareText) ∧
    ∃ fragments unfinished frame kept, Swallows 2 none fragments unfinished ∧
      StandsBehind 2 unfinished (.protocol .interruptedMessage) frame kept
        ⟨2, some ⟨.text, [0x61]⟩⟩ begunPing ∧
      begunText ++ (hastyText ++ begunPing) =
        fragments.flatMap ClientFrame.octets ++
          (frame.octets ++ begunPing) := by
  constructor
  · obtain ⟨fragments, unfinished, swallows, stands⟩ :=
      fault_next (next_behind_begunText
        (@next_of_error ⟨2, some ⟨.text, [0x61]⟩⟩ bareText _ rfl))
    rcases stands with ⟨before, whole⟩ | ⟨frame, kept, behind, -⟩
    · exact ⟨fragments, unfinished, swallows, before, whole⟩
    · have refused := behind.refused
      generalize frame.meant = raw at refused
      cases refused
  · obtain ⟨fragments, unfinished, swallows, stands⟩ :=
      fault_next (next_behind_begunText (next_hastyText begunPing))
    rcases stands with ⟨before, -⟩ | ⟨frame, kept, behind, whole⟩
    · obtain ⟨fault, refused⟩ := before.broken.refused
      cases refused
    · exact ⟨fragments, unfinished, frame, kept, swallows, behind, whole⟩

end Decoder

end BroadcastHub.Wire
