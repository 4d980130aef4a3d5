import BroadcastHub.Proofs.Server.Partings
import BroadcastHub.Proofs.Server.Wires

/-!
# Clients receive whole frames

Whatever writes are given up and however little a pipe takes at a time, what a
client receives are whole frames one after the other, the last of them perhaps
not to its end.
-/

namespace BroadcastHub.Server

/-- What has reached a client, in its hands or still in its pipe. -/
def Link.reached (link : Link) : Octets :=
  link.received.reverse.flatten ++ link.outbound.content

end BroadcastHub.Server

namespace BroadcastHub.Scenario

open Server

/-- The calls whose frames make up what reaches a client. -/
structure WholeFrames (id : PeerId) (link : Link) (chronicle : List Entry)
    (placed : List Call) : Prop where
  /-- They are among the calls to the client's socket, in the order of the
  calls. -/
  isSublist : placed.Sublist (calls id chronicle)
  reached : link.reached <+: placed.flatMap Call.octets
  /-- A write that has succeeded has its whole frame there. -/
  whole : ∀ call ∈ successes id chronicle, ∃ earlier later,
    placed = earlier ++ call :: later ∧
    (earlier ++ [call]).flatMap Call.octets <+: link.reached

variable {manner : Manner} {holds : Play → Prop} {configuration : Configuration}
  {play : Play}

theorem Run.housed (run : Run manner holds configuration play) :
    Housed play.hub :=
  run.invariant (Housed.start configuration) fun _ _ _ turnover housed =>
    housed.turn turnover

theorem Run.attended (run : Run manner holds configuration play) :
    Attended play.hub :=
  run.invariant (Attended.start configuration)
    fun _ _ before turnover attended =>
    attended.turn before.housed turnover

theorem Run.wires (run : Run manner holds configuration play) :
    Wires play.hub :=
  run.invariant (Wires.start configuration) fun _ _ before turnover wires =>
    wires.turn before.housed turnover

theorem Run.partings
    {withFrames : Bool} (run : Run manner holds configuration play)
    (leaves : manner.LeavesParting withFrames) : Partings withFrames play.hub :=
  run.invariant (Partings.start configuration)
    fun _ _ before turnover partings =>
    partings.turn leaves before.housed before.attended turnover

/-- At any time of any run what has reached the client of a link is the
beginning of whole frames that were written to it, in that order.  All frames
whose writes have succeeded lie completely within.  Where close frames are left
to sessions, nothing comes after one. -/
theorem whole_frames
    (run : Run manner holds configuration play) {id : PeerId} {link : Link}
    (connected : (play.hub.peer id).socket = .link link) :
    ∃ placed, WholeFrames id link play.hub.chronicle placed ∧
      (manner.LeavesClosing → ∀ earlier call later,
        placed = earlier ++ call :: later →
        call.Closes → later = []) := by
  obtain ⟨placed, wired⟩ := run.wires id link connected
  have ledger := wired.ledger
  refine ⟨placed, ⟨ledger.isSublist, ?_, ledger.inside⟩, ?_⟩
  · rw [← ledger.stream]
    exact Desk.written_prefix link.desk
  · intro leaves earlier call later same closes
    exact (run.partings leaves.leavesParting).last_of_sublist ledger.isSublist
      same (call.parts_iff.mpr closes)

theorem Manner.leavesClosing_visits : Manner.visits.LeavesClosing := by
  rintro action (⟨room, limit, rfl⟩ | ⟨content, limit, rfl⟩)
  · exact id
  · rintro ⟨⟩

/-- After a first broadcast its frame has reached the client as a whole. -/
theorem whole_frames_of_greeting :
    ∃ link placed, (Play.greeted.hub.peer 0).socket = .link link ∧
      successes 0 Play.greeted.hub.chronicle = [(1, .frame (.binary [7]))] ∧
      link.reached = [130, 1, 7] ∧
      WholeFrames 0 link Play.greeted.hub.chronicle placed ∧
      ∀ earlier call later, placed = earlier ++ call :: later → call.Closes →
      later = [] := by
  have connected : (Play.greeted.hub.peer 0).socket = .link _ := rfl
  obtain ⟨placed, whole, last⟩ := whole_frames Run.greeted connected
  exact ⟨_, placed, connected, rfl, rfl, whole,
    last Manner.leavesClosing_visits⟩

end BroadcastHub.Scenario
