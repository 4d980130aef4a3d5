import BroadcastHub.Proofs.Server.Sockets

/-!
# What is on its way out

Everything that a link has accepted leaves it in the order in which it was
accepted: what has been written, what has been encoded and what waits to be
encoded make up one stream, to which an accepted frame is added at the end
and from which nothing is ever taken.
-/

namespace BroadcastHub.Server

namespace Desk

/-- All octets that have been accepted, written or not. -/
def stream (desk : Desk) : Octets :=
  desk.written ++ (desk.encoded ++ (desk.accepted.map Wire.encode).getD [])

/-- Some octets are added to the stream, and what has been written stays
written. -/
structure Onward (before after : Desk) (added : Octets) : Prop where
  stream : after.stream = before.stream ++ added
  written : before.written <+: after.written

namespace Onward

variable {first second third : Desk} {some_ more : Octets}

theorem refl (desk : Desk) : Onward desk desk [] where
  stream := (List.append_nil _).symm
  written := List.prefix_rfl

theorem trans
    (one : Onward first second some_) (two : Onward second third more) :
    Onward first third (some_ ++ more) where
  stream := by rw [two.stream, one.stream, List.append_assoc]
  written := one.written.trans two.written

end Onward

theorem written_prefix (desk : Desk) : desk.written <+: desk.stream :=
  List.prefix_append _ _

end Desk

namespace Link

variable (link : Link)

theorem flush_onward : link.desk.Onward link.flush.1.desk [] ∧
    link.flush.1.accepted = link.accepted ∧
    (link.flush.2 = .through → link.flush.1.encoded = []) := by
  unfold flush
  split
  · rename_i none
    exact ⟨.refl _, rfl, fun _ => List.isEmpty_iff.mp none⟩
  · split
    · exact ⟨.refl _, rfl, by rintro ⟨⟩⟩
    · refine ⟨⟨?_, ?_⟩, rfl, fun through => ?_⟩
      · simp only [Desk.stream, Desk.written, desk, Pipe.write, List.append_nil]
        rw [List.append_assoc, List.append_assoc, List.append_assoc,
          ← List.append_assoc (List.take _ _), List.take_append_drop]
      · exact ⟨link.encoded.take link.outbound.room, List.append_assoc ..⟩
      · simp only at through
        split at through
        · rename_i none
          exact List.isEmpty_iff.mp none
        · cases through

theorem encodeAccepted_onward :
    link.desk.Onward link.encodeAccepted.1.desk [] ∧
    (link.encodeAccepted.2 = .through →
      link.encodeAccepted.1.accepted = none) := by
  have flushed : ∀ (after : Link) (flow : Flow) (frame : Frame),
      (if enough ≤ link.encoded.length then link.flush else (link, .through)) =
        (after, flow) →
      link.desk.Onward after.desk [] ∧ after.accepted = link.accepted := by
    intro after flow frame same
    obtain ⟨onward, accepted, -⟩ := flush_onward link
    split at same
    · rw [same] at onward accepted
      exact ⟨onward, accepted⟩
    · cases same
      exact ⟨.refl _, rfl⟩
  unfold encodeAccepted
  split
  · rename_i none
    exact ⟨.refl _, fun _ => none⟩
  · rename_i frame accepted
    rcases same : (if enough ≤ link.encoded.length then link.flush
      else (link, .through)) with
      ⟨after, flow⟩
    obtain ⟨onward, kept⟩ := flushed after flow frame same
    cases flow with
    | through =>
        refine ⟨⟨?_, onward.written⟩, fun _ => rfl⟩
        rw [← onward.stream]
        simp [Desk.stream, Desk.written, desk, kept, accepted]
    | blocked => exact ⟨onward, by rintro ⟨⟩⟩
    | failed fault => exact ⟨onward, by rintro ⟨⟩⟩

/-- A frame that has been accepted is the end of the stream. -/
theorem place_onward (frame : Frame) :
    link.desk.Onward (link.place frame).1.desk
      (if (link.place frame).2 = .through then Wire.encode frame else []) := by
  obtain ⟨onward, accepted⟩ := encodeAccepted_onward link
  unfold place
  rcases same : link.encodeAccepted with ⟨after, flow⟩
  rw [same] at onward accepted
  cases flow with
  | through =>
      refine ⟨?_, onward.written⟩
      have whole : after.desk.stream = link.desk.stream :=
        onward.stream.trans (List.append_nil _)
      have none : after.accepted = none := accepted rfl
      rw [← whole]
      simp [Desk.stream, Desk.written, desk, none]
  | blocked => exact onward
  | failed fault => exact onward

theorem push_onward :
    link.desk.Onward link.push.1.desk [] ∧
    (link.push.2 = .through →
      link.push.1.desk.written = link.push.1.desk.stream) := by
  obtain ⟨onward, accepted⟩ := encodeAccepted_onward link
  unfold push
  rcases same : link.encodeAccepted with ⟨after, flow⟩
  rw [same] at onward accepted
  cases flow with
  | through =>
      obtain ⟨flushed, kept, none⟩ := flush_onward after
      refine ⟨onward.trans flushed, fun through => ?_⟩
      have encoded := none through
      have empty : after.flush.1.accepted = .none := kept.trans (accepted rfl)
      simp [Desk.stream, desk, encoded, empty]
  | blocked => exact ⟨onward, by rintro ⟨⟩⟩
  | failed fault => exact ⟨onward, by rintro ⟨⟩⟩

theorem conclude_onward (request : SinkRequest) :
    link.desk.Onward (link.conclude request).desk [] ∧
      (link.conclude request).desk.stream = link.desk.stream ∧
      (link.conclude request).desk.written = link.desk.written := by
  cases request with
  | frame frame => exact ⟨.refl _, rfl, rfl⟩
  | close =>
      refine ⟨⟨?_, List.prefix_rfl⟩, rfl, rfl⟩
      rw [List.append_nil]
      rfl

end Link

/-- What going on with a request does whose frame has been accepted. -/
inductive Flushing (before after : Desk) : Progress → Prop
  | stuck (onward : before.Onward after []) :
      Flushing before after (.underway .flushing)
  | through
      (onward : before.Onward after [])
      (written : after.written = after.stream) :
      Flushing before after (.done (.ok ()))
  | failed (fault : Fault) (onward : before.Onward after []) :
      Flushing before after (.done (.error fault))

/-- What going on with a request does whose frame has not been accepted. -/
inductive Placing (octets : Octets) (before after : Desk) : Progress → Prop
  | stuck (onward : before.Onward after []) :
      Placing octets before after (.underway .placing)
  | placed
      (middle : Desk) {progress : Progress}
      (onward : before.Onward middle octets)
      (flushing : Flushing middle after progress) :
      Placing octets before after progress
  | failed (fault : Fault) (onward : before.Onward after []) :
      Placing octets before after (.done (.error fault))

namespace Link

variable (link : Link) (request : SinkRequest)

theorem proceedFlushing_spec :
    Flushing link.desk (link.proceedFlushing request).1.desk
      (link.proceedFlushing request).2 := by
  obtain ⟨onward, whole⟩ := push_onward link
  unfold proceedFlushing
  split <;> rename_i after same <;> rw [same] at onward whole
  · obtain ⟨concluded, stream, written⟩ := conclude_onward after request
    refine .through (onward.trans concluded) ?_
    rw [written, stream]
    exact whole rfl
  · exact .stuck onward
  · exact .failed _ onward

theorem proceedPlacing_spec :
    Placing (Wire.encode (frameOf request)) link.desk
      (link.proceedPlacing request).1.desk (link.proceedPlacing request).2 := by
  have onward := place_onward link (frameOf request)
  unfold proceedPlacing
  split <;> rename_i after same <;> rw [same] at onward
  · exact .placed after.desk onward (proceedFlushing_spec after request)
  · exact .stuck onward
  · exact .failed _ onward

end Link

end BroadcastHub.Server
