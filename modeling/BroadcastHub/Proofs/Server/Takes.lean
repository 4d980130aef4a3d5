import BroadcastHub.Proofs.Server.Course
import BroadcastHub.Proofs.Wire.Arrival

/-!
# Taking from a link

Whether octets have been read from the pipe or not, and how often a task has
looked in vain, makes no difference to what is found in them: a link finds the
same frames as a decoder that is given everything at once.
-/

namespace BroadcastHub.Server

/-- What is to be found in what has arrived, with more octets behind it. -/
def Intake.found (intake : Intake) (more : Octets) : Wire.Decoder.Drained :=
  intake.decoder.drain (intake.unread ++ (intake.inbound.content ++ more))

/-- What taking does to what has arrived. -/
inductive Taking (before after : Intake) : Link.Arrival → Prop
  | frame
      {frame : Frame}
      (found : ∀ more, before.found more =
        { after.found more with
          frames := frame :: (after.found more).frames }) :
      Taking before after (.item (.ok frame))
  | nothing (same : ∀ more, before.found more = after.found more)
      (none : (after.found []).frames = []) : Taking before after .nothing
  | fault (fault : Fault) : Taking before after (.item (.error fault))
  | ended (closed : before.inbound.closed = true) : Taking before after .ended

namespace Link

theorem found_of_decodeNext
    {link after : Link} {found : Wire.Found}
    (step : link.decodeNext = (after, found)) (more : Octets) :
    link.decoder.next (link.unread ++ (link.inbound.content ++ more)) =
      Wire.Decoder.goOn (after.inbound.content ++ more)
        (found, after.decoder, after.unread) := by
  rw [Wire.Decoder.next_append]
  cases step
  rfl

theorem inbound_decodeNext
    {link after : Link} {found : Wire.Found}
    (step : link.decodeNext = (after, found)) :
    after.inbound = link.inbound := by
  cases step
  rfl

theorem found_of_frame
    {link after : Link} {frame : Frame}
    (step : link.decodeNext = (after, .frame frame)) (more : Octets) :
    link.intake.found more =
      { after.intake.found more with
        frames := frame :: (after.intake.found more).frames } :=
  Wire.Decoder.drain_of_frame (found_of_decodeNext step more)

theorem found_of_nothing
    {link after : Link} (step : link.decodeNext = (after, .nothing))
    (more : Octets) : link.intake.found more = after.intake.found more :=
  Wire.Decoder.drain_congr (found_of_decodeNext step more)

theorem frames_of_nothing
    {link after : Link} (step : link.decodeNext = (after, .nothing)) :
    (after.decoder.drain after.unread).frames = [] := by
  have again : link.decoder.next link.unread =
      (.nothing, after.decoder, after.unread) := by
    cases found : link.decoder.next link.unread with
    | mk found rest =>
        obtain ⟨decoder, unread⟩ := rest
        unfold decodeNext at step
        rw [found] at step
        cases step
        rfl
  rw [Wire.Decoder.drain_of_nothing (Wire.Decoder.next_of_nothing again)]

theorem found_readPipe (link : Link) (more : Octets) :
    link.readPipe.intake.found more = link.intake.found more := by
  simp [Intake.found, intake, readPipe, Pipe.clear]

theorem take_spec (link : Link) :
    Taking link.intake link.take.1.intake link.take.2 := by
  unfold take
  split
  · rename_i after frame first
    exact .frame (found_of_frame first)
  · rename_i after fault first
    exact .fault fault
  · rename_i after first
    have inbound := inbound_decodeNext first
    split
    · rename_i empty
      have none : after.inbound.content = [] := List.isEmpty_iff.mp empty
      split
      · rename_i closed
        have wasClosed : link.intake.inbound.closed = true := by
          rw [inbound] at closed
          exact closed
        split
        · exact .ended wasClosed
        · exact .fault _
      · refine .nothing (found_of_nothing first) ?_
        have content : after.intake.inbound.content = [] := none
        rw [Intake.found, content, List.append_nil, List.append_nil]
        exact frames_of_nothing first
    · have read : ∀ more, link.intake.found more =
        after.readPipe.intake.found more := fun more =>
        (found_of_nothing first more).trans (found_readPipe after more).symm
      split
      · rename_i last frame second
        refine .frame fun more => ?_
        rw [read]
        exact found_of_frame second more
      · rename_i last fault second
        exact .fault fault
      · rename_i last second
        have lastInbound := inbound_decodeNext second
        split
        · rename_i closed
          have wasClosed : link.intake.inbound.closed = true := by
            rw [lastInbound] at closed
            exact (congrArg Pipe.closed inbound).symm.trans closed
          split
          · exact .ended wasClosed
          · exact .fault _
        · refine .nothing (fun more =>
            (read more).trans (found_of_nothing second more)) ?_
          have content : last.intake.inbound.content = [] := by
            show last.inbound.content = []
            rw [lastInbound]
            rfl
          rw [Intake.found, content, List.append_nil, List.append_nil]
          exact frames_of_nothing second

end Link

theorem Socket.take_spec
    {socket after : Socket} {arrival : Link.Arrival} {intake : Intake}
    (taken : socket.take = (after, arrival))
    (isIntake : socket.intake? = some intake) :
    ∃ later, after.intake? = some later ∧ Taking intake later arrival := by
  cases socket with
  | scripted socket => cases isIntake
  | link link =>
      cases isIntake
      cases taken
      exact ⟨_, rfl, link.take_spec⟩

/-- A scripted socket gives away the first item that has arrived. -/
theorem Socket.take_inbox
    {socket after : Socket} {arrival : Link.Arrival}
    {inbox : List (Except Fault Frame)} (taken : socket.take = (after, arrival))
    (isInbox : socket.inbox? = some inbox) :
    (∃ item rest, arrival = .item item ∧ inbox = item :: rest ∧
      after.inbox? = some rest) ∨
      (∀ item, arrival ≠ .item item) ∧ inbox = [] ∧ after.inbox? = some [] := by
  cases socket with
  | link link => cases isInbox
  | scripted socket =>
      cases isInbox
      simp only [take] at taken
      split at taken
      · rename_i item rest waits
        cases taken
        exact .inl ⟨item, rest, rfl, waits, rfl⟩
      · rename_i empty
        cases taken
        refine .inr ⟨?_, empty, congrArg some empty⟩
        intro item
        split <;> rintro ⟨⟩

theorem Socket.inbox_of_item
    {socket after : Socket} {item : Except Fault Frame}
    {inbox : List (Except Fault Frame)}
    (taken : socket.take = (after, .item item))
    (isInbox : socket.inbox? = some inbox) :
    ∃ rest, after.inbox? = some rest ∧ inbox = item :: rest := by
  rcases Socket.take_inbox taken isInbox with
    ⟨other, rest, same, isRest, isAfter⟩ | ⟨none, -, -⟩
  · cases same
    exact ⟨rest, isAfter, isRest⟩
  · exact absurd rfl (none item)

end BroadcastHub.Server
