import BroadcastHub.Proofs.Server.Announcements
import BroadcastHub.Proofs.Server.Deliveries

/-!
# What becomes of a broadcast

In every run, whatever happens meanwhile, a broadcast has one delivery for
each session that is registered when it starts.  When its limit is over, each
recipient has the frame or is closed.
-/

namespace BroadcastHub.Server

def Happening.asks (task : TaskId) : Happening → Bool
  | .asked other _ _ => other = task
  | _ => false

/-- What can be said of a delivery at any time after its launch. -/
structure DeliveryOutcome
    (hub : Hub) (launch : Instant) (task : TaskId) (peer : PeerId)
    (frame : Frame) (limit : Span) : Prop where
  stands : (∃ stage, hub.task task = .deliver peer frame limit stage) ∨
    ∃ reached, hub.task task = .finished (.delivered reached)
  /-- The recipient's socket is asked at most once. -/
  asksOnce : hub.chronicle.countP (fun entry => entry.happening.asks task) ≤ 1
  asksForFrame :
    ∀ time other request, ⟨time, .asked task other request⟩ ∈ hub.chronicle →
      other = peer ∧ request = .frame frame
  reached : hub.task task = .finished (.delivered true) ↔
    ∃ time, ⟨time, .answered task peer (.frame frame) (.ok ())⟩ ∈ hub.chronicle
  lost : hub.task task = .finished (.delivered false) →
    (hub.peer peer).closed = true
  /-- A delivery that ends without having asked the socket has found the
  session closed, or has stood in line until its limit was over. -/
  attempted : ∀ reached, hub.task task = .finished (.delivered reached) →
    (∃ time, ⟨time, .asked task peer (.frame frame)⟩ ∈ hub.chronicle) ∨
    (∃ time, ⟨time, .wrote task peer frame (.error .closed)⟩ ∈ hub.chronicle) ∨
    ∃ time, launch.after limit ≤ time ∧
      ⟨time, .wrote task peer frame (.error (.writeTimeout limit))⟩ ∈
        hub.chronicle
  /-- The clock does not pass by the end of the limit before the delivery is
  over. -/
  inTime : hub.now ≤ (launch.after limit).tick ∨
    ∃ reached, hub.task task = .finished (.delivered reached)
  settled : launch.after limit ≤ hub.now → hub.ready = [] →
    ∃ reached, hub.task task = .finished (.delivered reached)
  noneLeft : launch.after limit ≤ hub.now → hub.ready = [] →
    (hub.peer peer).closed = true ∨
      ∃ time,
        ⟨time, .answered task peer (.frame frame) (.ok ())⟩ ∈ hub.chronicle

theorem countP_asks (task : TaskId) (chronicle : List Entry) :
    chronicle.countP (fun entry => entry.happening.asks task) =
      (deeds task chronicle).countP fun entry => entry.happening.asks task := by
  rw [deeds, List.countP_filter]
  apply List.countP_congr
  intro entry _
  cases same : entry.happening <;> simp [Happening.asks, Happening.isBy]

namespace WriteRecord

variable {task : TaskId} {id : PeerId} {frame : Frame} {span : Span}
  {due : Instant} {state : Writing ⊕ Except Fault Unit} {entries : List Entry}

theorem asksOnce (record : WriteRecord task id frame span due state entries) :
    entries.countP (fun entry => entry.happening.asks task) ≤ 1 := by
  cases record <;> simp [Happening.asks]

theorem asksForFrame (record : WriteRecord task id frame span due state entries)
    {time : Instant} {other : PeerId} {request : SinkRequest}
    (member : ⟨time, .asked task other request⟩ ∈ entries) :
    other = id ∧ request = .frame frame := by
  cases record <;> simp at member <;> exact ⟨member.2.1, member.2.2⟩

theorem answered_iff
    (record : WriteRecord task id frame span due state entries) :
    (∃ time, ⟨time, .answered task id (.frame frame) (.ok ())⟩ ∈ entries) ↔
      state = .inr (.ok ()) := by
  cases record <;> simp
  exact eq_comm

theorem attempted
    (record : WriteRecord task id frame span due state entries)
    {result : Except Fault Unit} (isOver : state = .inr result) :
    (∃ time, ⟨time, .asked task id (.frame frame)⟩ ∈ entries) ∨
    (∃ time, ⟨time, .wrote task id frame (.error .closed)⟩ ∈ entries) ∨
    ∃ time, due ≤ time ∧
      ⟨time, .wrote task id frame (.error (.writeTimeout span))⟩ ∈ entries := by
  cases record with
  | unstarted => cases isOver
  | queued isDue => cases isOver
  | underway time isDue => cases isOver
  | answered first last answers => exact .inl ⟨first, by simp⟩
  | cut first late => exact .inl ⟨first, by simp⟩
  | cutInLine late => exact .inr (.inr ⟨_, late, by simp⟩)
  | refused last => exact .inr (.inl ⟨last, by simp⟩)

end WriteRecord

namespace Delivery

variable {hub : Hub} {launch : Instant} {task : TaskId} {peer : PeerId}
  {frame : Frame} {limit : Span}

/-- The record of a delivery, and what its task is when the record ends. -/
theorem record (delivery : Delivery hub launch task peer frame limit) :
    ∃ state, WriteRecord task peer frame limit (launch.after limit) state
        (deeds task hub.chronicle) ∧
      ∀ reached, hub.task task = .finished (.delivered reached) ↔
        ∃ result, state = .inr result ∧ Except.isOk result = reached := by
  rcases delivery.state with
    ⟨stage, same, record, -⟩ | ⟨result, same, record, -⟩
  · refine ⟨_, record, fun reached => ⟨fun isOver => ?_, ?_⟩⟩
    · rw [same] at isOver
      cases isOver
    · rintro ⟨_, ⟨⟩, _⟩
  · refine ⟨_, record, fun reached => ⟨fun isOver => ?_, ?_⟩⟩
    · rw [same] at isOver
      cases isOver
      exact ⟨result, rfl, rfl⟩
    · rintro ⟨_, ⟨⟩, rfl⟩
      exact same

theorem mem_chronicle_iff
    {happening : Happening} (isBy : happening.isBy task = true)
    (time : Instant) :
    ⟨time, happening⟩ ∈ hub.chronicle ↔
      ⟨time, happening⟩ ∈ deeds task hub.chronicle := by
  rw [mem_deeds]
  exact ⟨fun member => ⟨member, isBy⟩, And.left⟩

theorem settled
    (delivery : Delivery hub launch task peer frame limit)
    (late : launch.after limit ≤ hub.now) (still : hub.ready = []) :
    ∃ result : Except Fault Unit,
      hub.task task = .finished (.delivered (Except.isOk result)) ∧
      (Except.isOk result = false → (hub.peer peer).closed = true) := by
  rcases delivery.state with
    ⟨stage, -, -, -, awake, -⟩ | ⟨result, same, -, lost⟩
  · have member := awake late
    rw [still] at member
    cases member
  · exact ⟨result, same, lost⟩

theorem reached_iff (delivery : Delivery hub launch task peer frame limit) :
    hub.task task = .finished (.delivered true) ↔
      ∃ time, ⟨time, .answered task peer (.frame frame) (.ok ())⟩ ∈
        hub.chronicle := by
  obtain ⟨state, record, finished_iff⟩ := delivery.record
  have isBy : (Happening.answered task peer (.frame frame) (.ok ())).isBy task =
      true := by
    simp [Happening.isBy]
  simp only [mem_chronicle_iff isBy]
  rw [finished_iff true, record.answered_iff]
  constructor
  · rintro ⟨result, rfl, isOk⟩
    cases result with
    | ok => rfl
    | error fault => cases isOk
  · rintro rfl
    exact ⟨_, rfl, rfl⟩

theorem outcome (delivery : Delivery hub launch task peer frame limit) :
    DeliveryOutcome hub launch task peer frame limit := by
  obtain ⟨state, record, finished_iff⟩ := delivery.record
  refine
    { stands := ?_
      asksOnce := ?_
      asksForFrame := fun time other request member => ?_
      reached := delivery.reached_iff
      lost := fun failed => ?_
      attempted := fun reached finished => ?_
      inTime := ?_
      settled := fun late still => ?_
      noneLeft := fun late still => ?_ }
  · rcases delivery.state with ⟨stage, same, -⟩ | ⟨result, same, -⟩
    · exact .inl ⟨stage, same⟩
    · exact .inr ⟨_, same⟩
  · rw [countP_asks]
    exact record.asksOnce
  · exact record.asksForFrame (mem_deeds.mpr ⟨member, by simp [Happening.isBy]⟩)
  · rcases delivery.state with ⟨stage, same, -⟩ | ⟨result, same, -, lost⟩
    · rw [same] at failed
      cases failed
    · rw [same] at failed
      cases isOk : Except.isOk result with
      | true =>
          rw [isOk] at failed
          cases failed
      | false => exact lost isOk
  · obtain ⟨result, isOver, -⟩ := (finished_iff reached).mp finished
    rcases record.attempted isOver with
      ⟨time, member⟩ | ⟨time, member⟩ | ⟨time, late, member⟩
    · exact .inl ⟨time, (mem_deeds.mp member).1⟩
    · exact .inr (.inl ⟨time, (mem_deeds.mp member).1⟩)
    · exact .inr (.inr ⟨time, late, (mem_deeds.mp member).1⟩)
  · rcases delivery.state with ⟨stage, -, -, inTime, -⟩ | ⟨result, same, -⟩
    · exact .inl inTime
    · exact .inr ⟨_, same⟩
  · obtain ⟨result, same, -⟩ := delivery.settled late still
    exact ⟨_, same⟩
  · obtain ⟨result, same, lost⟩ := delivery.settled late still
    cases isOk : Except.isOk result with
    | true =>
        rw [isOk] at same
        exact .inr (delivery.reached_iff.mp same)
    | false => exact .inl (lost isOk)

end Delivery

namespace Hub

variable (hub : Hub) (frame : Frame) (limit : Span)

theorem size_tasks_startDeliveries :
    (hub.startDeliveries frame limit).tasks.size =
      hub.nextTask + hub.registry.length := by
  obtain ⟨tasks, same, size, -⟩ := spawnDeliveries_eq
    (hub.note (.broadcast hub.nextTask hub.registry frame limit)) frame limit
    hub.registry
  rw [startDeliveries, same]
  exact size

theorem registry_startDeliveries :
    (hub.startDeliveries frame limit).registry = hub.registry := by
  obtain ⟨tasks, same, -⟩ := spawnDeliveries_eq
    (hub.note (.broadcast hub.nextTask hub.registry frame limit)) frame limit
    hub.registry
  rw [startDeliveries, same]
  rfl

theorem registry_goOn_delivery {task : TaskId} {peer : PeerId} {stage : Writing}
    (delivers : hub.task task = .deliver peer frame limit stage) :
    (hub.goOn task).registry = hub.registry := by
  have course := Course.goOn hub task
  rw [delivers] at course
  unfold registry Table.numbers
  rw [course.peers]
  apply List.filter_congr
  intro id _
  exact (course.peer id).registered (by rintro ⟨⟩)

end Hub

end BroadcastHub.Server

namespace BroadcastHub.Scenario

open Server

/-- Every broadcast is launched to exactly the sessions that are registered
at that moment, and all its deliveries have the outcome that they should
have; neither the broadcast nor its deliveries change the registry. -/
theorem broadcast_outcome
    {manner : Manner} {holds : Play → Prop} {configuration : Configuration}
    {play : Play} (run : Run manner holds configuration play) :
    (∀ frame limit,
      Launched (play.hub.startDeliveries frame limit) play.hub.nextTask
        play.hub.registry frame limit ∧
      (play.hub.startDeliveries frame limit).tasks.size =
        play.hub.nextTask + play.hub.registry.length ∧
      (play.hub.startDeliveries frame limit).registry = play.hub.registry) ∧
    (∀ after, Move manner play after → Announced play.hub after.hub) ∧
    (∀ entry ∈ play.hub.chronicle, ∀ first recipients frame limit,
      entry.happening = .broadcast first recipients frame limit →
      recipients.Nodup ∧
      ∀ position (below : position < recipients.length),
        DeliveryOutcome play.hub entry.time (first + position)
          recipients[position] frame limit) ∧
    ∀ task peer frame limit stage,
      play.hub.task task = .deliver peer frame limit stage →
      (play.hub.goOn task).registry = play.hub.registry := by
  have broadcasts : Broadcasts play.hub :=
    run.invariant (Broadcasts.start configuration) fun _ _ _ turnover =>
      Broadcasts.turn turnover
  refine ⟨fun frame limit => ?_, fun after move => move.announced, ?_, ?_⟩
  · exact ⟨Hub.launched_startDeliveries _ _ _,
      Hub.size_tasks_startDeliveries _ _ _, Hub.registry_startDeliveries _ _ _⟩
  · intro entry member first recipients frame limit same
    refine ⟨broadcasts.distinct entry member first recipients frame limit same,
      ?_⟩
    intro position below
    exact (broadcasts.delivery entry member first recipients frame limit
      same position below).outcome
  · intro task peer frame limit stage delivers
    exact Hub.registry_goOn_delivery _ _ _ delivers

/-- The delivery of a first broadcast is over, and has reached the client. -/
theorem broadcast_outcome_of_greeting :
    DeliveryOutcome Play.greeted.hub 0 1 0 (.binary [7]) (.ofMillis 1000) ∧
      Play.greeted.hub.task 1 = .finished (.delivered true) := by
  have chronicle : Play.greeted.hub.chronicle =
      [_, _, _, ⟨0, .broadcast 1 [0] (.binary [7]) (.ofMillis 1000)⟩, _] := rfl
  have announced :
      (⟨0, .broadcast 1 [0] (.binary [7]) (.ofMillis 1000)⟩ : Entry) ∈
      Play.greeted.hub.chronicle := by
    rw [chronicle]
    simp
  obtain ⟨-, -, outcome, -⟩ := broadcast_outcome Run.greeted
  exact ⟨(outcome _ announced 1 [0] _ _ rfl).2 0 (by decide), rfl⟩

end BroadcastHub.Scenario
