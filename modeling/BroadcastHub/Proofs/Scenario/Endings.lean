import BroadcastHub.Proofs.Scenario.Registration
import BroadcastHub.Proofs.Server.Farewells
import BroadcastHub.Proofs.Server.Hearing

/-!
# Ends of sessions in a run

When a session has ended, no more than its close frame is left, and that is
over within a limit.  Where sessions are taken out of the registry by their own
tasks only, whoever has been opened reads and is registered, or has ended.  So
when the registry is empty, all sessions have ended.
-/

namespace BroadcastHub.Server

open Scenario

/-- Whenever the session of a peer ended, its task has stood accordingly
since. -/
def LeavesInTime (hub : Hub) (id : PeerId) : Prop :=
  ∀ time exit, ⟨time, .left id exit⟩ ∈ hub.chronicle →
    ∃ task, Seated hub task id ∧ Parted hub task id time

/-- Where a session stands that only its own task takes out of the registry. -/
inductive Enrolled (hub : Hub) (id : PeerId) : Prop
  | unopened (unopened : Unopened hub id)
  | reading {task : TaskId} {alarm : Option Alarm} (seated : Seated hub task id)
      (isTask : hub.task task = .attend id (.reading alarm))
      (registered : (hub.peer id).registered = true)
  | left
      {task : TaskId} (seated : Seated hub task id)
      (isOver : hub.IsOver task id)
      (told : ∃ time exit, ⟨time, .left id exit⟩ ∈ hub.chronicle)

variable {manner : Manner} {outsider : Outsider} {before after : Hub}
  {task : TaskId} {id : PeerId}

/-- A session that reads goes on reading, or ends and has that written down. -/
theorem SessionTurn.reads_or_left {news : List Entry} {alarm : Option Alarm}
    (turn : SessionTurn outsider task id before after news)
    (isTask : before.task task = .attend id (.reading alarm)) :
    ((∃ alarm, after.task task = .attend id (.reading alarm)) ∧ Stays id news) ∨
      after.IsOver task id ∧ ∃ time exit, ⟨time, .left id exit⟩ ∈ news := by
  cases turn with
  | aside now quiet sameTask =>
      exact .inl ⟨⟨alarm, sameTask.trans isTask⟩, stays_of_quiet quiet⟩
  | ticks still silent forward whole passes tasks =>
      refine .inl ⟨⟨alarm, ?_⟩, by subst silent; rintro _ _ ⟨⟩⟩
      rw [Hub.task, tasks]
      exact isTask
  | ended now quiet wasOver =>
      exact absurd wasOver (Hub.not_isOver_of_reading isTask)
  | arrives now wasTask => cases isTask.symm.trans wasTask
  | reads now wasTask step =>
      cases step with
      | moves isOpen rung moved isReading awake silent =>
          exact .inl ⟨⟨_, isReading⟩, by subst silent; rintro _ _ ⟨⟩⟩
      | waits isOpen early found isReading silent =>
          exact .inl ⟨⟨_, isReading⟩, by subst silent; rintro _ _ ⟨⟩⟩
      | takes isOpen early found isReading awake did told =>
          exact .inl ⟨⟨_, isReading⟩, (did.accounts told).2.2⟩
      | @leaves exit last quiet ends isOver told =>
          refine .inr ⟨isOver, before.now, exit, ?_⟩
          rw [told]
          exact List.mem_append_right _ List.mem_cons_self

/-! ### Farewells -/

namespace LeavesInTime

theorem start
    (configuration : Configuration) (chance : Nat → Nat) (id : PeerId) :
    LeavesInTime { Hub.start configuration with chance } id := by
  rintro time exit ⟨⟩

/-- Every turnover leaves farewells within their limits. -/
theorem turn
    (inTime : LeavesInTime before id) (housed : Housed before)
    (attended : Attended before) (residence : Residence before id)
    (turnover : Turnover outsider before after) : LeavesInTime after id := by
  intro time exit told
  by_cases earlier : ⟨time, .left id exit⟩ ∈ before.chronicle
  · obtain ⟨task, seated, parted⟩ := inTime time exit earlier
    obtain ⟨news, passage, turn⟩ :=
      SessionTurn.ofTurnover attended seated turnover
    exact ⟨task, seated.turn passage turn, parted.turn seated.below turnover⟩
  · have isNew : ∃ time exit, ⟨time, .left id exit⟩ ∈ after.chronicle ∧
        ⟨time, .left id exit⟩ ∉ before.chronicle := ⟨time, exit, told, earlier⟩
    obtain ⟨task, isReady, rfl⟩ :=
      (Departs.quiet_or_goes turnover id).resolve_right
        fun none => none isNew
    obtain ⟨seated, alarm, isTask⟩ :=
      Departs.exists_reading (.inr isNew) housed attended residence isReady
    obtain ⟨news, passage, turn⟩ :=
      SessionTurn.ofTurnover attended seated turnover
    have isNews : ⟨time, .left id exit⟩ ∈ news := by
      rw [passage.chronicle] at told
      exact (List.mem_append.mp told).resolve_right earlier
    have now : time = before.now := passage.time _ isNews
    obtain ⟨-, stays⟩ | ⟨isOver, -⟩ := turn.reads_or_left isTask
    · exact absurd isNews (stays time exit)
    · rw [now]
      exact ⟨task, seated.turn passage turn,
        Hub.parted_goOn isTask seated.below isOver⟩

end LeavesInTime

/-! ### The registry -/

theorem Hub.registered_arrive
    (hub : Hub) (task : TaskId) (inside : id < hub.peers.size) :
    ((hub.arrive task id).peer id).registered = true := by
  have entered : ∀ middle : Hub,
      ((middle.enter task id).peer id).registered =
        (middle.peer id).registered := by
    intro middle
    exact peer_updatePeer_keeps
      ((middle.note (.joined id)).count Counters.noteOpened) id id fun _ => rfl
  have registered :
      ((hub.register id firstWindow).peer id).registered = true := by
    rw [register, peer_updatePeer_self hub id _ inside]
  rw [arrive_eq_enter, entered]
  split
  · have closes : Keeps Peer.registered (hub.register id firstWindow)
        ((hub.register id firstWindow).close id) := .close (fun _ _ => rfl) _ _
    rw [closes.peer]
    exact registered
  · exact registered

theorem Opens.registered
    {news : List Entry} (opens : Opens task id before after news)
    (seated : Seated before task id)
    (turnover : Turnover outsider before after) :
    (after.peer id).registered = true := by
  have begins : ∀ {later : Hub}, later.task task = before.task task →
      later.task task ≠ .attend id (.reading none) := by
    intro later same isReading
    rw [same, opens.wasTask] at isReading
    cases isReading
  cases turnover.task seated.below with
  | own =>
      have same :
          ({ before with ready := before.ready.erase task } : Hub).task task =
          .attend id .arriving := opens.wasTask
      rw [Hub.goOn, Hub.poll, same]
      exact Hub.registered_arrive _ task seated.inside
  | kept kept => exact absurd opens.isTask (begins kept.sameTask)
  | @tick later forward passes =>
      obtain ⟨ready, same, -⟩ := Hub.ring_eq { before with now := later }
      have isTask := opens.isTask
      rw [same] at isTask
      cases opens.wasTask.symm.trans isTask

end BroadcastHub.Server

namespace BroadcastHub.Scenario

open Server

/-- Whether nobody takes the sessions of others out of the registry. -/
def Manner.LeavesRegistry (manner : Manner) : Prop :=
  ∀ action, manner.allows action → ¬ action.Unregisters

variable {manner : Manner} {holds : Play → Prop} {configuration : Configuration}
  {before play : Play} {task : TaskId} {id : PeerId}

/-- A session that reads on stays in the registry. -/
theorem Move.registered_of_reading
    {after : Play} (move : Move manner before after)
    (leaves : manner.LeavesRegistry) (attended : Attended before.hub)
    {first later : Option Alarm} (seated : Seated before.hub task id)
    (isTask : before.hub.task task = .attend id (.reading first))
    (isReading : after.hub.task task = .attend id (.reading later)) :
    (after.hub.peer id).registered = (before.hub.peer id).registered := by
  obtain ⟨number, isReady, same⟩ | same :=
    move.view_or_goes lasting_registered seated.inside
      fun action allowed => ⟨fun _ _ _ => rfl,
        fun removes => absurd removes (leaves action allowed)⟩
  · rw [same] at isReading ⊢
    by_cases own : number = task
    · subst own
      rcases (Hub.goOn_reading isTask seated.inside seated.below).stands with
        ⟨-, registered⟩ | ⟨isOver, -⟩
      · exact registered
      · exact absurd isOver (Hub.not_isOver_of_reading isReading)
    · refine ((Course.goOn before.hub number).peer id).registered fun serves =>
        own ?_
      refine attended.sole serves ?_
      rw [isTask]
      rfl
  · exact same

/-- Moves keep sessions where they may stand. -/
theorem Move.enrolled
    {after : Play} (move : Move manner before after)
    (leaves : manner.LeavesRegistry) (housed : Housed before.hub)
    (attended : Attended before.hub) (enrolled : Enrolled before.hub id) :
    Enrolled after.hub id := by
  have turnover := Turnover.ofMove move
  cases enrolled with
  | unopened unopened =>
      obtain ⟨news, chronicle, ⟨waits, -⟩ | ⟨task, opens⟩⟩ :=
        unopened.turn housed attended turnover
      · exact .unopened waits
      · exact .reading opens.seated opens.isTask
          (opens.registered (attended.seated housed opens.wasTask) turnover)
  | reading seated isTask registered =>
      obtain ⟨news, passage, turn⟩ :=
        SessionTurn.ofTurnover attended seated turnover
      have later := seated.turn passage turn
      obtain ⟨⟨alarm, isReading⟩, -⟩ | ⟨isOver, time, exit, told⟩ :=
        turn.reads_or_left isTask
      · exact .reading later isReading
          ((move.registered_of_reading leaves attended seated isTask
            isReading).trans registered)
      · refine .left later isOver ⟨time, exit, ?_⟩
        rw [passage.chronicle]
        exact List.mem_append_left _ told
  | left seated isOver told =>
      obtain ⟨time, exit, told⟩ := told
      obtain ⟨news, passage, turn⟩ :=
        SessionTurn.ofTurnover attended seated turnover
      refine .left (seated.turn passage turn) (turn.of_isOver isOver).1
        ⟨time, exit, ?_⟩
      rw [passage.chronicle]
      exact List.mem_append_right _ told

theorem Run.leavesInTime
    (run : Run manner holds configuration play) (id : PeerId) :
    LeavesInTime play.hub id := by
  refine @Run.invariant manner holds configuration
    (fun hub => LeavesInTime hub id) play run
    (fun chance => .start configuration chance id) ?_
  intro _ _ before turnover inTime
  exact LeavesInTime.turn inTime before.housed before.attended
    (before.residence id) turnover

theorem Run.enrolled
    (run : Run manner holds configuration play) (leaves : manner.LeavesRegistry)
    (id : PeerId) : Enrolled play.hub id := by
  induction run with
  | start chance held => exact .unopened (.start configuration chance id)
  | move run move held induction =>
      exact move.enrolled leaves run.housed run.attended induction

theorem Run.left_of_joined
    (run : Run manner holds configuration play) (leaves : manner.LeavesRegistry)
    (empty : play.hub.registry = []) {opened : Instant}
    (joined : ⟨opened, .joined id⟩ ∈ play.hub.chronicle) :
    ∃ time exit, ⟨time, .left id exit⟩ ∈ play.hub.chronicle := by
  cases run.enrolled leaves id with
  | unopened unopened => exact absurd rfl (unopened.silent _ joined)
  | reading seated isTask registered =>
      have member := (Hub.mem_registry play.hub).mpr ⟨seated.inside, registered⟩
      rw [empty] at member
      cases member
  | left seated isOver told => exact told

end BroadcastHub.Scenario
