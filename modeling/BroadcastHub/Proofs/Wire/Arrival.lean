import BroadcastHub.Wire.Decoder

/-!
# Octets that arrive later

What a decoder has found at the front of a buffer does not depend on what
arrives behind it: a frame that is complete stays complete, and a rule that
is broken stays broken.  So a decoder that has come to its end goes on, when
more octets arrive, as if they had been there from the start.
-/

namespace BroadcastHub

theorem Octets.splitExactly_append
    {count : Nat} {octets front rest : Octets}
    (cut : splitExactly count octets = some (front, rest)) (more : Octets) :
    splitExactly count (octets ++ more) = some (front, rest ++ more) := by
  obtain ⟨same, long⟩ := splitExactly_eq_some_iff.mp cut
  apply splitExactly_eq_some_iff.mpr
  exact ⟨by rw [same, List.append_assoc], long⟩

namespace Wire

theorem declaredLength_append
    {short length : Nat} {octets rest : Octets}
    (read : declaredLength short octets = some (length, rest)) (more : Octets) :
    declaredLength short (octets ++ more) = some (length, rest ++ more) := by
  unfold declaredLength at read ⊢
  split at read
  · obtain ⟨⟨field, after⟩, cut, same⟩ := Option.map_eq_some_iff.mp read
    cases same
    rw [if_pos ‹_›, Octets.splitExactly_append cut]
    rfl
  · split at read
    · obtain ⟨⟨field, after⟩, cut, same⟩ := Option.map_eq_some_iff.mp read
      cases same
      rw [if_neg ‹_›, if_pos ‹_›, Octets.splitExactly_append cut]
      rfl
    · cases read
      rw [if_neg ‹_›, if_neg ‹_›]

namespace Header

/-- A header that is there stays there. -/
theorem read?_append
    {limit : Nat} {octets rest : Octets} {header : Header}
    (read : read? limit octets = .ok (some (header, rest))) (more : Octets) :
    read? limit (octets ++ more) = .ok (some (header, rest ++ more)) := by
  unfold read? at read
  split at read
  · rename_i first second behind
    simp only [List.cons_append, read?]
    split at read
    · cases read
    · split at read
      · cases read
      · rw [if_neg ‹_›, if_neg ‹_›]
        simp only at read ⊢
        split at read
        · cases read
        · rename_i length tail declared
          rw [declaredLength_append declared]
          simp only
          split at read
          · cases read
          · split at read
            · cases read
            · rw [if_neg ‹_›, if_neg ‹_›]
              split at read
              · cases read
                rfl
              · cases read
  · cases read

/-- A header that breaks a rule goes on breaking it. -/
theorem read?_append_of_error
    {limit : Nat} {octets : Octets} {fault : Fault}
    (read : read? limit octets = .error fault) (more : Octets) :
    read? limit (octets ++ more) = .error fault := by
  unfold read? at read
  split at read
  · rename_i first second behind
    simp only [List.cons_append, read?]
    split at read
    · rw [if_pos ‹_›]
      exact read
    · split at read
      · rw [if_neg ‹_›, if_pos ‹_›]
        exact read
      · rw [if_neg ‹_›, if_neg ‹_›]
        simp only at read ⊢
        split at read
        · cases read
        · rename_i length tail declared
          rw [declaredLength_append declared]
          simp only
          split at read
          · rw [if_pos ‹_›]
            exact read
          · split at read
            · rw [if_neg ‹_›, if_pos ‹_›]
              exact read
            · split at read
              · cases read
              · cases read
  · cases read

end Header

namespace RawFrame

theorem read?_append
    {limit : Nat} {buffer rest : Octets} {frame : RawFrame}
    (read : read? limit buffer = .ok (some (frame, rest))) (more : Octets) :
    read? limit (buffer ++ more) = .ok (some (frame, rest ++ more)) := by
  unfold read? at read
  split at read
  · cases read
  · cases read
  · rename_i header behind headerRead
    split at read
    · cases read
    · rename_i payload after cut
      cases read
      simp only [read?, Header.read?_append headerRead,
        Octets.splitExactly_append cut]

theorem read?_append_of_error
    {limit : Nat} {buffer : Octets} {fault : Fault}
    (read : read? limit buffer = .error fault) (more : Octets) :
    read? limit (buffer ++ more) = .error fault := by
  unfold read? at read
  split at read
  · rename_i headerRead
    cases read
    simp only [read?, Header.read?_append_of_error headerRead]
  · cases read
  · split at read
    · cases read
    · cases read

end RawFrame

namespace Decoder

theorem next_of_incomplete
    {decoder : Decoder} {buffer : Octets}
    (read : RawFrame.read? decoder.limit buffer = .ok none) :
    decoder.next buffer = (.nothing, decoder, buffer) := by
  rw [next]
  split
  · rename_i other
    rw [read] at other
    cases other
  · rfl
  · rename_i other
    rw [read] at other
    cases other

theorem next_of_error
    {decoder : Decoder} {buffer : Octets} {fault : Fault}
    (read : RawFrame.read? decoder.limit buffer = .error fault) :
    decoder.next buffer = (.fault fault, decoder, buffer) := by
  rw [next]
  split
  · rename_i other
    rw [read] at other
    cases other
    rfl
  · rename_i other
    rw [read] at other
    cases other
  · rename_i other
    rw [read] at other
    cases other

/-- A complete frame goes into the message that misses fragments, and only
a fragment that finishes nothing lets the decoder read on. -/
theorem next_of_complete
    {decoder : Decoder} {buffer rest : Octets} {frame : RawFrame}
    (read : RawFrame.read? decoder.limit buffer = .ok (some (frame, rest))) :
    decoder.next buffer =
      match frame.joinTo decoder.limit decoder.unfinished with
      | (.error fault, unfinished) =>
          (.fault fault, { decoder with unfinished }, rest)
      | (.ok (some whole), unfinished) =>
          (.frame whole, { decoder with unfinished }, rest)
      | (.ok none, unfinished) => next { decoder with unfinished } rest := by
  rw [next]
  split
  · rename_i other
    rw [read] at other
    cases other
  · rename_i other
    rw [read] at other
    cases other
  · rename_i other
    rw [read] at other
    cases other
    rfl

/-- What a decoder finds with more octets behind its buffer. -/
def goOn (more : Octets) : Found × Decoder × Octets → Found × Decoder × Octets
  | (.nothing, decoder, rest) => decoder.next (rest ++ more)
  | (.frame frame, decoder, rest) => (.frame frame, decoder, rest ++ more)
  | (.fault fault, decoder, rest) => (.fault fault, decoder, rest ++ more)

theorem next_append (decoder : Decoder) (buffer more : Octets) :
    decoder.next (buffer ++ more) = goOn more (decoder.next buffer) := by
  fun_induction next decoder buffer with
  | case1 decoder buffer fault read =>
      rw [next_of_error (RawFrame.read?_append_of_error read more)]
      rfl
  | case2 decoder buffer read => rfl
  | case3 decoder buffer frame rest read fault unfinished joined =>
      rw [next_of_complete (RawFrame.read?_append read more), joined]
      rfl
  | case4 decoder buffer frame rest read whole unfinished joined =>
      rw [next_of_complete (RawFrame.read?_append read more), joined]
      rfl
  | case5 decoder buffer frame rest read unfinished joined induction =>
      rw [next_of_complete (RawFrame.read?_append read more), joined]
      exact induction

theorem next_of_nothing
    {decoder after : Decoder} {buffer rest : Octets}
    (step : decoder.next buffer = (.nothing, after, rest)) :
    after.next rest = (.nothing, after, rest) := by
  have twice := next_append decoder buffer []
  rw [List.append_nil, step, goOn, List.append_nil] at twice
  exact twice.symm

theorem limit_of_next
    {decoder after : Decoder} {buffer rest : Octets} {found : Found}
    (step : decoder.next buffer = (found, after, rest)) :
    after.limit = decoder.limit := by
  fun_induction next decoder buffer with
  | case1 => cases step; rfl
  | case2 => cases step; rfl
  | case3 => cases step; rfl
  | case4 => cases step; rfl
  | case5 decoder buffer frame rest' read unfinished joined induction =>
      exact induction step

/-! ### Reading to the end -/

theorem drain_of_nothing
    {decoder after : Decoder} {buffer rest : Octets}
    (step : decoder.next buffer = (.nothing, after, rest)) :
    decoder.drain buffer = ⟨[], none, after, rest⟩ := by
  rw [drain]
  split <;> rename_i other <;> rw [step] at other <;> cases other
  rfl

theorem drain_of_fault
    {decoder after : Decoder} {buffer rest : Octets} {fault : Fault}
    (step : decoder.next buffer = (.fault fault, after, rest)) :
    decoder.drain buffer = ⟨[], some fault, after, rest⟩ := by
  rw [drain]
  split <;> rename_i other <;> rw [step] at other <;> cases other
  rfl

theorem drain_of_frame
    {decoder after : Decoder} {buffer rest : Octets} {frame : Frame}
    (step : decoder.next buffer = (.frame frame, after, rest)) :
    decoder.drain buffer =
      { after.drain rest with
        frames := frame :: (after.drain rest).frames } := by
  rw [drain]
  split <;> rename_i other <;> rw [step] at other <;> cases other
  rfl

theorem limit_drain (decoder : Decoder) (buffer : Octets) :
    (decoder.drain buffer).decoder.limit = decoder.limit := by
  fun_induction drain decoder buffer with
  | case1 decoder buffer after rest step => exact limit_of_next step
  | case2 decoder buffer fault after rest step => exact limit_of_next step
  | case3 decoder buffer frame after rest step drained induction =>
      exact induction.trans (limit_of_next step)

/-- Reading to the end comes to the same wherever the first find is the
same. -/
theorem drain_congr
    {first second : Decoder} {buffer other : Octets}
    (same : first.next buffer = second.next other) :
    first.drain buffer = second.drain other := by
  rcases step : second.next other with ⟨found, after, rest⟩
  rw [step] at same
  cases found with
  | nothing => rw [drain_of_nothing same, drain_of_nothing step]
  | frame frame => rw [drain_of_frame same, drain_of_frame step]
  | fault fault => rw [drain_of_fault same, drain_of_fault step]

/-- What reading has come to when more octets have arrived behind what was
left. -/
def Drained.goOn (more : Octets) (drained : Drained) : Drained :=
  match drained.fault with
  | some _ => { drained with rest := drained.rest ++ more }
  | none =>
      let later := drained.decoder.drain (drained.rest ++ more)
      { later with frames := drained.frames ++ later.frames }

/-- It makes no difference whether octets are there from the start or arrive
after what was there has been read. -/
theorem drain_append (decoder : Decoder) (buffer more : Octets) :
    decoder.drain (buffer ++ more) = (decoder.drain buffer).goOn more := by
  fun_induction drain decoder buffer with
  | case1 decoder buffer after rest step =>
      have longer := next_append decoder buffer more
      rw [step, Decoder.goOn] at longer
      rw [drain_congr longer]
      rfl
  | case2 decoder buffer fault after rest step =>
      have longer := next_append decoder buffer more
      rw [step, Decoder.goOn] at longer
      rw [drain_of_fault longer]
      rfl
  | case3 decoder buffer frame after rest step drained induction =>
      have longer := next_append decoder buffer more
      rw [step, Decoder.goOn] at longer
      rw [drain_of_frame longer, induction]
      simp only [drained, Drained.goOn]
      split <;> rfl

end Decoder

end Wire

end BroadcastHub
