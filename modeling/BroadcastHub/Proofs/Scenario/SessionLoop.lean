import BroadcastHub.Proofs.Scenario.WholeFrames
import BroadcastHub.Proofs.Server.Loops

/-!
# The loop of a session in a run

In every run in which nobody else sets read deadlines, a session acts on
exactly what it takes, in the order of arrival, until it ends.  Its read
deadline runs from its opening or from the frame that it took last, and it is
given up at that deadline, neither before nor after.
-/

namespace BroadcastHub.Server

/-- Whether something that happened moves the read deadline of a session. -/
def Happening.isSign (id : PeerId) : Happening → Bool
  | .joined peer => peer = id
  | .took peer (.ok _) => peer = id
  | _ => false

/-- When a session was opened or took a frame last. -/
def lastSign (id : PeerId) : List Entry → Option Instant
  | [] => none
  | entry :: older =>
      if entry.happening.isSign id then some entry.time else lastSign id older

theorem Happening.paces_of_isSign {id : PeerId} {happening : Happening}
    (isSign : happening.isSign id = true) : happening.Paces id := by
  cases happening with
  | joined peer =>
      have same : peer = id := of_decide_eq_true isSign
      exact same
  | took peer item =>
      cases item with
      | error fault => cases isSign
      | ok frame =>
          have same : peer = id := of_decide_eq_true isSign
          exact same
  | _ => cases isSign

namespace LoopStory

variable {id : PeerId} {timing : Timing} {story : List Entry}
  {state : LoopState}

/-- The read deadline runs from the last sign of the client. -/
theorem deadline_eq
    (sofar : LoopStory id timing story state) {deadline : Instant}
    (isReading : state = .reading deadline) :
    ∃ time, lastSign id story = some time ∧
      deadline = time.after timing.heartbeat := by
  induction sofar with
  | start => cases isReading
  | @aside entry story state sofar quiet induction =>
      obtain ⟨time, isLast, same⟩ := induction isReading
      refine ⟨time, ?_, same⟩
      have noSign : ¬ entry.happening.isSign id = true :=
        fun isSign => quiet (Happening.paces_of_isSign isSign)
      rw [lastSign, if_neg noSign]
      exact isLast
  | @opened time story sofar =>
      cases isReading
      exact ⟨time, by simp [lastSign, Happening.isSign], rfl⟩
  | @message time deadline story frame envelope first recipients sofar =>
      cases isReading
      exact ⟨time, by simp [lastSign, Happening.isSign], rfl⟩
  | @heartbeat time deadline story frame sofar =>
      cases isReading
      exact ⟨time, by simp [lastSign, Happening.isSign], rfl⟩
  | ended sofar farewell => cases isReading

end LoopStory

/-- What can be said of a session at any time. -/
structure SessionLoop
    (timing : Timing) (hub : Hub) (id : PeerId) (state : LoopState) : Prop where
  story : LoopStory id timing hub.chronicle state
  /-- What has arrived has been taken, in that order, or waits. -/
  inOrder : ∀ inbox, (hub.peer id).socket.inbox? = some inbox →
    arrived id hub.chronicle = took id hub.chronicle ++ inbox
  reads_iff : (∃ deadline, state = .reading deadline) ↔
    ∃ task alarm, hub.task task = .attend id (.reading alarm)
  deadline : ∀ deadline, state = .reading deadline →
    (hub.peer id).readDeadline = deadline ∧
    ∃ time, lastSign id hub.chronicle = some time ∧
    deadline = time.after timing.heartbeat
  inTime : ∀ deadline, state = .reading deadline → hub.now ≤ deadline.tick
  /-- When nothing can go on, a session that reads has no reason to end and
  nothing to take. -/
  settled : ∀ deadline, state = .reading deadline → hub.ready = [] →
    hub.now < deadline ∧ (hub.peer id).closed = false ∧
      ∀ inbox, (hub.peer id).socket.inbox? = some inbox → inbox = []
  /-- Whenever it goes on, it makes one step, whose alarm is its deadline. -/
  step : ∀ task alarm, hub.task task = .attend id (.reading alarm) →
    (hub.alarmOf id alarm).due = (hub.peer id).readDeadline ∧
      ∃ news, (hub.goOn task).chronicle = news ++ hub.chronicle ∧
        ReadStep task id alarm hub (hub.goOn task) news
  closedFirst : ∀ task alarm, hub.task task = .attend id (.reading alarm) →
    (hub.peer id).closed = true →
      ∃ quiet, (∀ entry ∈ quiet, ¬ entry.happening.Paces id) ∧
        (hub.goOn task).chronicle =
          quiet ++ ⟨hub.now, .left id .socketClosed⟩ :: hub.chronicle
  expiredNext : ∀ task alarm, hub.task task = .attend id (.reading alarm) →
    (hub.peer id).closed = false → (hub.peer id).readDeadline ≤ hub.now →
    ∃ quiet, (∀ entry ∈ quiet, ¬ entry.happening.Paces id) ∧
      (hub.goOn task).chronicle =
        quiet ++ ⟨hub.now, .left id .deadlineExpired⟩ :: hub.chronicle

namespace Stands

variable {hub : Hub} {id : PeerId} {state : LoopState}

theorem reads_iff (stands : Stands hub id state) (attended : Attended hub) :
    (∃ deadline, state = .reading deadline) ↔
      ∃ task alarm, hub.task task = .attend id (.reading alarm) := by
  constructor
  · rintro ⟨deadline, rfl⟩
    cases stands with
    | reading seated isTask => exact ⟨_, _, isTask⟩
  · rintro ⟨task, alarm, isTask⟩
    have serves : (hub.task task).serves? = some id := by
      rw [isTask]
      rfl
    cases stands with
    | unopened unopened =>
        rcases unopened.tasks task serves with same | same <;>
          cases isTask.symm.trans same
    | reading => exact ⟨_, rfl⟩
    | ended seated isOver =>
        have isAttendant :=
          (attended task id serves).symm.trans seated.attendant
        cases isAttendant
        exact absurd isOver (Hub.not_isOver_of_reading isTask)

/-- Everything that can be said of a session follows from where it stands. -/
theorem sessionLoop
    {timing : Timing} (stands : Stands hub id state)
    (story : LoopStory id timing hub.chronicle state)
    (received : Received hub id) (attended : Attended hub)
    (housed : Housed hub) : SessionLoop timing hub id state := by
  have due : ∀ task alarm, hub.task task = .attend id (.reading alarm) →
      (hub.alarmOf id alarm).due = (hub.peer id).readDeadline := by
    intro task alarm isTask
    obtain ⟨deadline, rfl⟩ :=
      (stands.reads_iff attended).mpr ⟨task, alarm, isTask⟩
    cases stands with
    | @reading own set deadline seated isOwn deadline_eq due =>
        have serves : (hub.task task).serves? = some id := by
          rw [isTask]
          rfl
        have isAttendant :=
          (attended task id serves).symm.trans seated.attendant
        cases isAttendant
        cases isTask.symm.trans isOwn
        exact alarmOf_due fun set same => (due set same).trans deadline_eq.symm
  have steps : ∀ task alarm, hub.task task = .attend id (.reading alarm) →
      ∃ news, (hub.goOn task).chronicle = news ++ hub.chronicle ∧
        ReadStep task id alarm hub (hub.goOn task) news := by
    intro task alarm isTask
    obtain ⟨news, passage, step⟩ :=
      ReadStep.goOn (attended.seated housed isTask) isTask
    exact ⟨news, passage.chronicle, step⟩
  refine ⟨story, received, stands.reads_iff attended, ?_, ?_, ?_,
    fun task alarm isTask =>
    ⟨due task alarm isTask, steps task alarm isTask⟩, ?_, ?_⟩
  · intro deadline isReading
    obtain ⟨time, isLast, same⟩ := story.deadline_eq isReading
    subst isReading
    cases stands with
    | reading seated isTask deadline_eq =>
        exact ⟨deadline_eq, time, isLast, same⟩
  · rintro deadline rfl
    cases stands with
    | reading seated isTask deadline_eq due inTime => exact inTime
  · rintro deadline rfl still
    cases stands with
    | reading seated isTask deadline_eq due inTime pinged awake =>
        rcases awake with ready | sleeps
        · rw [still] at ready
          cases ready
        · obtain ⟨set, isSet, early⟩ := sleeps.alarm
          rw [due set isSet] at early
          exact ⟨early, sleeps.isOpen, sleeps.empty⟩
  · intro task alarm isTask isClosed
    obtain ⟨news, chronicle, step⟩ := steps task alarm isTask
    obtain ⟨-, quiet, isQuiet, told⟩ := step.of_closed isClosed
    exact ⟨quiet, isQuiet, by rw [chronicle, told, List.append_assoc]; rfl⟩
  · intro task alarm isTask isOpen isDue
    obtain ⟨news, chronicle, step⟩ := steps task alarm isTask
    rw [← due task alarm isTask] at isDue
    obtain ⟨quiet, isQuiet, told⟩ :=
      step.of_due isOpen isDue (due task alarm isTask)
    exact ⟨quiet, isQuiet, by rw [chronicle, told, List.append_assoc]; rfl⟩

end Stands

end BroadcastHub.Server

namespace BroadcastHub.Scenario

open Server

/-- Whether read deadlines are left to the sessions themselves and to their
clients' heartbeat requests. -/
structure Manner.LeavesDeadlines (manner : Manner) : Prop where
  extensions : ∀ id window, ¬ manner.allows (.extend id window)
  requests : ∀ id payload, ¬ manner.allows (.ping (some id) payload)

namespace Manner.LeavesDeadlines

variable {manner : Manner} {peers : Nat}

theorem not_setsDeadlines (leaves : manner.LeavesDeadlines) :
    ¬ (manner.outsider peers).setsDeadlines := by
  rintro ⟨action, allowed, sets⟩
  cases action with
  | extend id window => exact leaves.extensions id window allowed
  | _ => cases sets

theorem not_starts
    (leaves : manner.LeavesDeadlines) (id : PeerId) (payload : Octets) :
    ¬ (manner.outsider peers).starts (.pong (some id) payload .unstarted) := by
  rintro ⟨action, allowed, starts, -⟩
  cases action with
  | ping peer other =>
      obtain ⟨known, isKnown, same⟩ := starts
      cases same
      rcases isKnown with isNone | isPeer
      · cases isNone
      · exact leaves.requests id payload (isPeer ▸ allowed)
  | broadcast frame limit =>
      rcases starts with ⟨peer, same⟩ | ⟨deliveries, same⟩ <;> cases same
  | wait limit server =>
      rcases starts with same | ⟨serving, same⟩ <;> cases same
  | _ => cases starts

end Manner.LeavesDeadlines

variable {manner : Manner} {holds : Play → Prop} {configuration : Configuration}
  {play : Play}

theorem Run.configuration_eq (run : Run manner holds configuration play) :
    play.hub.configuration = configuration :=
  run.invariant (fun _ => rfl) fun _ _ _ turnover same =>
    turnover.configuration_eq.trans same

theorem Run.whole (run : Run manner holds configuration play) :
    Span.perMillisecond ∣ play.hub.now :=
  run.invariant (fun _ => Nat.dvd_zero _) fun _ _ _ turnover whole =>
    turnover.whole whole

theorem Run.prompt (run : Run manner holds configuration play) :
    Prompt play.hub :=
  run.invariant (Prompt.start configuration) fun _ _ _ turnover prompt =>
    prompt.turn turnover

theorem Run.received (run : Run manner holds configuration play) (id : PeerId) :
    Received play.hub id := by
  refine @Run.invariant manner holds configuration (fun hub => Received hub id)
    play run (fun chance => .start configuration chance id) ?_
  intro _ _ before turnover received
  exact Received.turn received before.housed before.attended turnover

theorem Run.looping
    (run : Run manner holds configuration play)
    (leaves : manner.LeavesDeadlines) (id : PeerId) : Looping play.hub id := by
  refine @Run.invariant manner holds configuration
    (fun hub => Looping hub id) play run
    (fun chance => .start configuration chance id) ?_
  intro _ _ before turnover looping
  exact Looping.turn looping before.housed before.attended before.prompt
    before.whole leaves.not_setsDeadlines (leaves.not_starts id) turnover

/-- At any time of any run the story of a session tells how far it has come and
what it does next. -/
theorem session_loop
    (run : Run manner holds configuration play)
    (leaves : manner.LeavesDeadlines) (id : PeerId) :
    ∃ state, SessionLoop configuration.timing play.hub id state := by
  obtain ⟨state, story, stands⟩ := run.looping leaves id
  rw [Hub.timing, run.configuration_eq] at story
  exact ⟨state, stands.sessionLoop story (run.received id) run.attended
    run.housed⟩

/-! ### A session that answers a heartbeat request -/

/-- Runs in which sessions are served and items arrive for them. -/
def Manner.hearings : Manner where
  allows action :=
    (∃ script, action = .serve script) ∨ ∃ id items, action = .arrive id items
  inOrder := False

theorem Manner.leavesDeadlines_hearings : Manner.hearings.LeavesDeadlines where
  extensions id window := by rintro (⟨script, same⟩ | ⟨peer, items, same⟩) <;>
    cases same
  requests id payload := by rintro (⟨script, same⟩ | ⟨peer, items, same⟩) <;>
    cases same

/-- A session with a scripted socket has been opened. -/
def Play.served : Play :=
  ((Play.start {}).perform (.serve {})).2.withHub fun hub => hub.goOn 0

/-- A heartbeat request and a message have arrived for that session, and it has
taken the request. -/
def Play.pinged : Play :=
  (Play.served.perform (.arrive 0 [.ok (.ping [1]), .ok (.text "a")])).2.withHub
    fun hub =>
    hub.goOn 0

theorem Run.served : Run .hearings (fun _ => True) {} .served := by
  have started : Run .hearings (fun _ => True) {} (Play.start {}) :=
    .start _ trivial
  have waiting :=
    started.move (.act (.inl ⟨{}, rfl⟩) rfl (by rintro _ ⟨⟩)) trivial
  exact waiting.move (.go (by decide) (by rintro ⟨⟩)) trivial

theorem Run.pinged : Run .hearings (fun _ => True) {} .pinged := by
  have heard := Run.served.move 
    (.act (.inr ⟨0, [.ok (.ping [1]), .ok (.text "a")], rfl⟩) rfl
      (by rintro _ ⟨⟩; decide)) trivial
  exact heard.move (.go (by decide) (by rintro ⟨⟩)) trivial

/-- The session has taken the request and started a reply, and the message
waits. -/
theorem session_loop_of_ping :
    took 0 Play.pinged.hub.chronicle = [.ok (.ping [1])] ∧
      Play.pinged.hub.task 1 = .pong (some 0) [1] .unstarted ∧
      (Play.pinged.hub.peer 0).socket.inbox? = some [.ok (.text "a")] ∧
      ∃ state, SessionLoop {} Play.pinged.hub 0 state := by
  refine ⟨rfl, rfl, rfl, ?_⟩
  exact session_loop Run.pinged Manner.leavesDeadlines_hearings 0

end BroadcastHub.Scenario
