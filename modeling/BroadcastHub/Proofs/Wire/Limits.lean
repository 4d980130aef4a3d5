import BroadcastHub.Proofs.Wire.Rejection

/-!
# What a decoder holds at most

`Decoder.Reaches` tells where a decoder may come to, whatever arrives and
whenever it is asked for a frame, also after faults.  Wherever that is, no
message that misses fragments and no frame that is handed over is longer than
the limit, and a buffer in which nothing was found is shorter than a frame of
the longest kind.
-/

namespace BroadcastHub

/-- A message is no longer than the limit, a heartbeat's payload no longer than
a control frame may carry either. -/
def Frame.Within (limit : Nat) : Frame → Prop
  | text content => (Text.utf8 content).length ≤ limit
  | binary content => content.length ≤ limit
  | ping payload | pong payload => payload.length ≤ min 125 limit
  | close => True

namespace Wire

/-! ### Octets that hold no complete frame -/

theorem length_of_declaredLength_none {short : Nat} {octets : Octets}
    (read : declaredLength short octets = none) : octets.length < 8 := by
  unfold declaredLength at read
  split at read
  · have := Octets.splitExactly_eq_none_iff.mp (Option.map_eq_none_iff.mp read)
    omega
  · split at read
    · exact Octets.splitExactly_eq_none_iff.mp (Option.map_eq_none_iff.mp read)
    · cases read

theorem length_le_of_declaredLength {short length : Nat} {octets rest : Octets}
    (read : declaredLength short octets = some (length, rest)) :
    octets.length ≤ rest.length + 8 := by
  unfold declaredLength at read
  split at read
  · obtain ⟨⟨field, after⟩, cut, same⟩ := Option.map_eq_some_iff.mp read
    have := Octets.length_of_splitExactly cut
    cases same
    omega
  · split at read
    · obtain ⟨⟨field, after⟩, cut, same⟩ := Option.map_eq_some_iff.mp read
      have := Octets.length_of_splitExactly cut
      cases same
      omega
    · cases read
      omega

/-- A header has fourteen octets at most, so so many hold one or break a
rule. -/
theorem Header.length_of_incomplete {limit : Nat} {octets : Octets}
    (read : Header.read? limit octets = .ok none) : octets.length < 14 := by
  unfold Header.read? at read
  split at read
  case h_2 _ short =>
    match octets with
    | [] => simp
    | [_] => simp
    | first :: second :: rest => exact absurd rfl (short first second rest)
  split at read
  · cases read
  split at read
  · cases read
  simp only at read
  split at read
  · rename_i declared
    have := length_of_declaredLength_none declared
    simp only [List.length_cons]
    omega
  rename_i length tail declared
  have := length_le_of_declaredLength declared
  split at read
  · cases read
  split at read
  · cases read
  split at read
  · cases read
  rename_i incomplete
  simp only [List.length_cons]
  have : tail.length < 4 := by
    match tail with
    | [] | [_] | [_, _] | [_, _, _] => simp
    | one :: two :: three :: four :: rest =>
        exact absurd rfl (incomplete one two three four rest)
  omega

theorem Header.length_of_complete
    {limit : Nat} {octets rest : Octets} {header : Header}
    (read : Header.read? limit octets = .ok (some (header, rest))) :
    octets.length ≤ rest.length + 14 ∧ header.payloadLength ≤ limit := by
  have known := headerRead limit octets
  rw [read] at known
  cases known with
  | @complete first form length mask _ bits held lawful short =>
      have field : (form.field length).length ≤ 8 := by
        cases form <;> simp [LengthForm.field]
      refine ⟨?_, short⟩
      simp only [List.length_cons, List.length_append, Mask.octets,
        List.length_nil]
      omega

/-- Octets in which no frame is complete and no rule is broken are fewer than
those of the longest header and the longest payload. -/
theorem RawFrame.length_of_incomplete
    {limit : Nat} {buffer : Octets}
    (read : RawFrame.read? limit buffer = .ok none) :
    buffer.length < limit + 14 := by
  unfold RawFrame.read? at read
  split at read
  · cases read
  · rename_i header
    have := Header.length_of_incomplete header
    omega
  · rename_i header rest headerRead
    obtain ⟨whole, short⟩ := Header.length_of_complete headerRead
    split at read
    · rename_i cut
      have := Octets.splitExactly_eq_none_iff.mp cut
      omega
    · cases read

/-! ### Frames and messages -/

/-- The payload of a frame that has been read is no longer than the limit, nor
than a control frame may carry if it is one. -/
theorem RawFrame.short_of_read?
    {limit : Nat} {buffer rest : Octets} {frame : RawFrame}
    (read : RawFrame.read? limit buffer = .ok (some (frame, rest))) :
    frame.payload.length ≤ limit ∧
      (frame.opcode.isControl = true → frame.payload.length ≤ 125) := by
  obtain ⟨client, fits, rfl, -⟩ := RawFrame.exists_client read
  exact ⟨fits.short, fun control => (fits.control control).2⟩

theorem PartialMessage.within_of_complete
    {limit : Nat} {message : PartialMessage} {whole : Frame}
    (short : message.content.length ≤ limit)
    (complete : message.complete = .ok whole) : whole.Within limit := by
  unfold PartialMessage.complete at complete
  split at complete
  · cases complete
    exact short
  · split at complete
    · rename_i content read
      cases complete
      rw [Text.ofUtf8?_eq_some_iff.mp read] at short
      exact short
    · cases complete

variable {limit : Nat} {unfinished after : Option PartialMessage}
  {outcome : Except Fault (Option Frame)}

/-- What a step into a message leaves open and what it completes are no longer
than the limit. -/
structure Short (limit : Nat) (outcome : Except Fault (Option Frame))
    (after : Option PartialMessage) : Prop where
  unfinished : ∀ message, after = some message → message.content.length ≤ limit
  whole : ∀ frame, outcome = .ok (some frame) → frame.Within limit

theorem PartialMessage.short_extend
    {message : PartialMessage} {final : Bool}
    (short : message.content.length ≤ limit)
    (extended : message.extend final = (outcome, after)) :
    Short limit outcome after := by
  unfold PartialMessage.extend at extended
  split at extended
  · cases extended
    refine ⟨nofun, fun frame whole => ?_⟩
    cases complete : message.complete with
    | error fault =>
        rw [complete] at whole
        cases whole
    | ok other =>
        rw [complete] at whole
        cases whole
        exact within_of_complete short complete
  · cases extended
    refine ⟨fun other same => ?_, nofun⟩
    cases same
    exact short

theorem RawFrame.short_joinTo
    {frame : RawFrame} (short : frame.payload.length ≤ limit)
    (control : frame.opcode.isControl = true → frame.payload.length ≤ 125)
    (held : ∀ message, unfinished = some message →
      message.content.length ≤ limit)
    (joined : frame.joinTo limit unfinished = (outcome, after)) :
    Short limit outcome after := by
  unfold RawFrame.joinTo at joined
  split at joined
  case h_1 opcode =>
    cases joined
    exact ⟨held, fun frame whole => by cases whole; trivial⟩
  case h_2 opcode =>
    cases joined
    have small : frame.payload.length ≤ min 125 limit :=
      Nat.le_min.mpr ⟨control (by rw [opcode]; rfl), short⟩
    exact ⟨held, fun frame whole => by cases whole; exact small⟩
  case h_3 opcode =>
    cases joined
    have small : frame.payload.length ≤ min 125 limit :=
      Nat.le_min.mpr ⟨control (by rw [opcode]; rfl), short⟩
    exact ⟨held, fun frame whole => by cases whole; exact small⟩
  case h_4 | h_5 =>
    split at joined
    · cases joined
      exact ⟨held, nofun⟩
    · exact PartialMessage.short_extend short joined
  case h_6 =>
    split at joined
    · cases joined
      exact ⟨nofun, nofun⟩
    · simp only at joined
      split at joined
      · cases joined
        exact ⟨nofun, nofun⟩
      · rename_i message within
        refine PartialMessage.short_extend ?_ joined
        rw [List.length_append]
        exact Nat.not_lt.mp within
  case h_7 =>
    cases joined
    exact ⟨held, nofun⟩

namespace Decoder

/-- Where a decoder comes to from its buffer when octets have arrived behind it,
in any pieces, and it has been asked for frames at any times, also after
faults. -/
inductive Reaches (first : Decoder) (front : Octets) :
    Octets → Decoder → Octets → Prop
  | start : Reaches first front [] first front
  | arrive {arrived buffer : Octets} {decoder : Decoder}
      (before : Reaches first front arrived decoder buffer) (chunk : Octets) :
      Reaches first front (arrived ++ chunk) decoder (buffer ++ chunk)
  | ask {arrived buffer rest : Octets} {decoder after : Decoder} {found : Found}
      (before : Reaches first front arrived decoder buffer)
      (step : decoder.next buffer = (found, after, rest)) :
      Reaches first front arrived after rest

/-- The decoder has the limit, and holds no longer message. -/
structure Bounded (limit : Nat) (decoder : Decoder) : Prop where
  limit_eq : decoder.limit = limit
  unfinished : ∀ message, decoder.unfinished = some message →
    message.content.length ≤ limit

theorem Bounded.next
    {decoder after : Decoder} {buffer rest : Octets} {found : Found}
    (bounded : Bounded limit decoder)
    (step : decoder.next buffer = (found, after, rest)) :
    Bounded limit after ∧ ∀ frame, found = .frame frame →
      frame.Within limit := by
  have joins {frame : RawFrame} {outcome unfinished} {buffer rest : Octets}
      {decoder : Decoder} (bounded : Bounded limit decoder)
      (read : RawFrame.read? decoder.limit buffer = .ok (some (frame, rest)))
      (joined : frame.joinTo decoder.limit decoder.unfinished =
        (outcome, unfinished)) :
      Short limit outcome unfinished := by
    rw [bounded.limit_eq] at read joined
    obtain ⟨short, control⟩ := RawFrame.short_of_read? read
    exact RawFrame.short_joinTo short control bounded.unfinished joined
  fun_induction Decoder.next decoder buffer with
  | case1 | case2 =>
      cases step
      refine ⟨bounded, fun frame same => ?_⟩
      cases same
  | case3 decoder buffer frame behind read fault unfinished joined =>
      cases step
      refine ⟨⟨bounded.limit_eq, (joins bounded read joined).unfinished⟩,
        fun frame same => ?_⟩
      cases same
  | case4 decoder buffer frame behind read whole unfinished joined =>
      have short := joins bounded read joined
      cases step
      refine ⟨⟨bounded.limit_eq, short.unfinished⟩, fun frame same => ?_⟩
      cases same
      exact short.whole _ rfl
  | case5 decoder buffer frame behind read unfinished joined induction =>
      exact induction ⟨bounded.limit_eq, (joins bounded read joined).unfinished⟩
        step

theorem Reaches.bounded
    {first decoder : Decoder} {front arrived buffer : Octets}
    (reached : first.Reaches front arrived decoder buffer)
    (bounded : Bounded limit first) : Bounded limit decoder := by
  induction reached with
  | start => exact bounded
  | arrive before chunk induction => exact induction
  | ask before step induction => exact (induction.next step).1

theorem read?_of_nothing {decoder after : Decoder} {buffer rest : Octets}
    (step : decoder.next buffer = (.nothing, after, rest)) :
    RawFrame.read? after.limit rest = .ok none := by
  fun_induction next decoder buffer with
  | case2 decoder buffer read =>
      cases step
      exact read
  | case5 decoder buffer frame behind read unfinished joined induction =>
      exact induction step
  | _ => cases step

/-- What a decoder holds in any state that it reaches from the start of a
stream.  The message that misses fragments is no longer than the limit; nor is a
frame that is handed over; and when no frame is found, fewer octets are left in
the buffer than the longest header and payload have. -/
theorem memory_bounded
    {arrived buffer : Octets} {decoder : Decoder}
    (reached : (fresh limit).Reaches [] arrived decoder buffer) :
    (∀ message, decoder.unfinished = some message →
      message.content.length ≤ limit) ∧
    ∀ found after rest, decoder.next buffer = (found, after, rest) →
      (∀ frame, found = .frame frame → frame.Within limit) ∧
      (found = .nothing → rest.length < limit + 14) := by
  have bounded : Bounded limit decoder := reached.bounded ⟨rfl, nofun⟩
  refine ⟨bounded.unfinished, fun found after rest step => ?_⟩
  have onward := bounded.next step
  refine ⟨onward.2, fun nothing => ?_⟩
  subst nothing
  have incomplete := read?_of_nothing step
  rw [onward.1.limit_eq] at incomplete
  exact RawFrame.length_of_incomplete incomplete

def begunText : Octets := [0x01, 0x81, 0, 0, 0, 0, 0x61]

/-- A text that starts before the other one has ended. -/
def hastyText : Octets := [0x81, 0x81, 0, 0, 0, 0, 0x62]

/-- A ping that misses a part of its mask. -/
def begunPing : Octets := [0x89, 0x82, 0, 0]

theorem next_begunText :
    (fresh 2).next begunText = (.nothing, ⟨2, some ⟨.text, [0x61]⟩⟩, []) := by
  have read : RawFrame.read? 2 begunText =
      .ok (some (⟨false, .text, [0x61]⟩, [])) := rfl
  exact (@next_of_complete (fresh 2) _ _ _ read).trans (next_of_incomplete rfl)

theorem next_hastyText (rest : Octets) :
    Decoder.next ⟨2, some ⟨.text, [0x61]⟩⟩ (hastyText ++ rest) =
      (.fault (.protocol .interruptedMessage), ⟨2, some ⟨.text, [0x61]⟩⟩,
        rest) := by
  have read : RawFrame.read? 2 (hastyText ++ rest) =
      .ok (some (⟨true, .text, [0x62]⟩, rest)) := rfl
  exact @next_of_complete ⟨2, some ⟨.text, [0x61]⟩⟩ _ _ _ read

theorem memory_bounded_after_hastyText :
    (fresh 2).Reaches [] (begunText ++ hastyText ++ begunPing)
        ⟨2, some ⟨.text, [0x61]⟩⟩ begunPing ∧
      (PartialMessage.mk .text [0x61]).content.length ≤ 2 ∧
      begunPing.length < 2 + 14 := by
  have begun : (fresh 2).Reaches [] begunText ⟨2, some ⟨.text, [0x61]⟩⟩ [] :=
    .ask (.arrive .start begunText) next_begunText
  have passed : (fresh 2).Reaches [] (begunText ++ hastyText)
      ⟨2, some ⟨.text, [0x61]⟩⟩ [] :=
    .ask (.arrive begun hastyText) (next_hastyText [])
  have reached := passed.arrive begunPing
  obtain ⟨held, found⟩ := memory_bounded reached
  exact ⟨reached, held _ rfl, (found _ _ _ (next_of_incomplete rfl)).2 rfl⟩

end Decoder

end Wire

end BroadcastHub
