import BroadcastHub.Proofs.Scenario.Farewell
import BroadcastHub.Proofs.Server.Meters
import BroadcastHub.Proofs.Server.Records

/-!
# Every event is accounted for

At every instant at which nothing can go on, the counters agree with the tasks:
sessions that are open or have ended, deliveries and heartbeat replies by what
they have come to.  A session that is closed on this side is open until its
close frame is dealt with, though it has been left before. When nothing but
deliveries and heartbeat replies has written to scripted sockets, these have
recorded as many frames as the counters say.
-/

namespace BroadcastHub.Server

/-- The counters agree with the tasks and with what scripted sockets have
recorded. -/
structure Accounted (hub : Hub) : Prop where
  active : hub.counters.active = hub.countTasks Task.isSession
  opened : hub.counters.opened =
    hub.counters.active + (Reason.all.map hub.counters.ended).sum
  timed : (Reason.all.map hub.counters.ended).sum = hub.counters.timed
  ended :
    ∀ reason, hub.counters.ended reason = hub.countTasks (Task.hasEnded reason)
  left : ∀ reason, hub.tally.left reason = hub.counters.ended reason +
    if reason = .socketClosed then hub.countTasks Task.isParting else 0
  deliveries : hub.counters.delivered + hub.counters.undelivered =
    hub.countTasks Task.isDelivered
  delivered : hub.counters.delivered = hub.countTasks (Task.hasDelivered true)
  undelivered :
    hub.counters.undelivered = hub.countTasks (Task.hasDelivered false)
  ponged : hub.counters.ponged = hub.countTasks (Task.hasReplied .answered)
  coalesced :
    hub.counters.coalesced = hub.countTasks (Task.hasReplied .coalesced)
  recorded : (∀ number, (hub.task number).hasSent = false) →
    (∀ id < hub.peers.size, ∃ socket, (hub.peer id).socket = .scripted socket) →
      hub.recorded = hub.counters.delivered + hub.counters.ponged

namespace Balanced

variable {hub : Hub}

/-- Sessions that have begun go on or have ended for one of the reasons. -/
theorem opened_eq (balanced : Balanced hub) : hub.counters.opened =
    hub.counters.active + (Reason.all.map hub.counters.ended).sum := by
  have split : hub.reading .opened =
      ((.active :: Reason.all.map .ended).map hub.reading).sum := by
    refine balanced.reading_eq_sum fun task => ?_
    cases task with
    | finished outcome =>
        cases outcome with
        | attended exit => cases exit <;> rfl
        | _ => rfl
    | attend id stage => cases stage <;> rfl
    | _ => rfl
  exact split

theorem timed_eq (balanced : Balanced hub) :
    hub.counters.timed = (Reason.all.map hub.counters.ended).sum := by
  have split :
      hub.reading .timed = ((Reason.all.map .ended).map hub.reading).sum := by
    refine balanced.reading_eq_sum fun task => ?_
    cases task with
    | finished outcome =>
        cases outcome with
        | attended exit => cases exit <;> rfl
        | _ => rfl
    | _ => rfl
  exact split

/-- Sessions that have been left have ended, unless their close frame is under
way. -/
theorem left_eq (balanced : Balanced hub) (reason : Reason) :
    hub.tally.left reason =
    hub.counters.ended reason +
      if reason = .socketClosed then hub.countTasks Task.isParting else 0 := by
  by_cases closed : reason = .socketClosed
  · subst closed
    have split : hub.countTasks (Task.wasLeft .socketClosed) =
        ([Task.hasEnded .socketClosed, Task.isParting].map
          hub.countTasks).sum := by
      refine hub.countTasks_eq_sum fun task => ?_
      cases task with
      | finished outcome => cases outcome <;> rfl
      | attend id stage => cases stage <;> rfl
      | _ => rfl
    have ended : hub.counters.ended .socketClosed =
        hub.countTasks (Task.hasEnded .socketClosed) :=
      balanced (.ended .socketClosed)
    rw [if_pos rfl, ended]
    exact (balanced (.left .socketClosed)).trans split
  · have same : ∀ task : Task, task.wasLeft reason = task.hasEnded reason := by
      intro task
      cases task with
      | finished outcome => cases outcome <;> rfl
      | attend id stage =>
          cases stage with
          | parting closing => exact decide_eq_false (Ne.symm closed)
          | _ => rfl
      | _ => rfl
    have ended :
        hub.counters.ended reason = hub.countTasks (Task.hasEnded reason) :=
      balanced (.ended reason)
    rw [if_neg closed, ended]
    exact (balanced (.left reason)).trans (Hub.countTasks_congr fun _ => same _)

theorem active_eq
    (balanced : Balanced hub)
    (begun : ∀ number, (hub.task number).isUnbegun = false) :
    hub.counters.active = hub.countTasks Task.isSession := by
  refine (balanced .active).trans (Hub.countTasks_congr fun number => ?_)
  have begunTask := begun number
  cases isTask : hub.task number with
  | attend id stage =>
      rw [isTask] at begunTask
      cases stage with
      | arriving => cases begunTask
      | _ => rfl
  | _ => rfl

theorem deliveries_eq (balanced : Balanced hub) :
    hub.counters.delivered + hub.counters.undelivered =
      hub.countTasks Task.isDelivered := by
  have split : hub.countTasks Task.isDelivered =
      ([Task.hasDelivered true, Task.hasDelivered false].map
        hub.countTasks).sum := by
    refine hub.countTasks_eq_sum fun task => ?_
    cases task with
    | finished outcome =>
        cases outcome with
        | delivered reached => cases reached <;> rfl
        | _ => rfl
    | _ => rfl
  rw [split]
  exact congrArg₂ (· + ·) (balanced .delivered) (balanced .undelivered)

/-- What has been written are broadcasts, heartbeat replies and frames on their
own. -/
theorem written_eq (balanced : Balanced hub) :
    hub.tally.written =
    hub.counters.delivered + hub.counters.ponged + hub.countTasks
      Task.hasSent := by
  have split : hub.countTasks Task.hasWritten =
      ([Task.hasDelivered true, Task.hasReplied .answered, Task.hasSent].map
        hub.countTasks).sum := by
    refine hub.countTasks_eq_sum fun task => ?_
    cases task with
    | finished outcome =>
        cases outcome with
        | delivered reached => cases reached <;> rfl
        | heartbeat result => cases result <;> rfl
        | sent result => cases result <;> rfl
        | _ => rfl
    | _ => rfl
  have delivered :
      hub.counters.delivered = hub.countTasks (Task.hasDelivered true) :=
    balanced .delivered
  have ponged : hub.counters.ponged =
      hub.countTasks (Task.hasReplied .answered) := balanced .ponged
  rw [delivered, ponged, Nat.add_assoc]
  exact (balanced .written).trans split

theorem accounted
    (balanced : Balanced hub)
    (begun : ∀ number, (hub.task number).isUnbegun = false)
    (recorded : Recorded hub) (housed : Housed hub) : Accounted hub where
  active := balanced.active_eq begun
  opened := balanced.opened_eq
  timed := balanced.timed_eq.symm
  ended reason := balanced (.ended reason)
  left := balanced.left_eq
  deliveries := balanced.deliveries_eq
  delivered := balanced .delivered
  undelivered := balanced .undelivered
  ponged := balanced .ponged
  coalesced := balanced .coalesced
  recorded only scripted := by
    have none : hub.countTasks Task.hasSent = 0 :=
      List.countP_eq_zero.mpr fun number _ => by
        rw [only number]
        exact Bool.false_ne_true
    rw [recorded.recorded_eq housed scripted, balanced.written_eq, none]
    rfl

end Balanced

end BroadcastHub.Server

namespace BroadcastHub.Scenario

open Server

variable {manner : Manner} {holds : Play → Prop} {configuration : Configuration}
  {play : Play}

theorem Run.balanced (run : Run manner holds configuration play) :
    Balanced play.hub :=
  run.invariant (Balanced.start configuration) fun _ _ _ turnover balanced =>
    balanced.turn turnover

theorem Run.recorded (run : Run manner holds configuration play) :
    Recorded play.hub :=
  run.invariant (Recorded.start configuration)
    fun _ _ before turnover recorded =>
    recorded.turn before.housed turnover

/-- Whenever nothing can go on, every event is accounted for. -/
theorem metrics_accounted (run : Run manner holds configuration play)
    (still : play.hub.ready = []) : Accounted play.hub :=
  run.balanced.accounted (run.prompt.begun still) run.recorded run.housed

/-! ### A close frame under way -/

/-- Runs in which clients are served, octets are broadcast and the session of
the first client is closed. -/
def Manner.closings : Manner where
  allows action := (∃ script, action = .serve script) ∨
    (∃ content limit, action = .broadcast (.binary content) limit) ∨
    action = .close 0
  inOrder := True

/-- A client is served whose socket takes a tenth of a second for a close frame,
and its session has been seen. -/
def Play.leisurely : Play :=
  let opened :=
    (((Play.start {}).perform (.serve { closeDelay := 100 })).2.goOn 0).goOn 0
  { opened with known := opened.known.update 0 fun known => { known with
    seen := true } }

/-- A broadcast has reached that client, and the session has been closed and
sends its close frame. -/
def Play.parting : Play :=
  let reached :=
    ((Play.leisurely.perform (.broadcast (.binary [1]) (.ofMillis 500))).2.goOn
      1).goOn 2
  (reached.perform (.close 0)).2.goOn 0

theorem Run.parting : Run .closings (fun _ => True) {} .parting := by
  have started : Run .closings (fun _ => True) {} (Play.start {}) :=
    .start _ trivial
  have served := started.move
    (.act (.inl ⟨{ closeDelay := 100 }, rfl⟩) rfl (by rintro _ ⟨⟩)) trivial
  have opened := served.move (.goOn 0 (by decide) fun _ => rfl) trivial
  have waiting := opened.move (.goOn 0 (by decide) fun _ => rfl) trivial
  have seen : Run .closings (fun _ => True) {} .leisurely :=
    waiting.move (.notice _ _) trivial
  have called := seen.move
    (.act (.inr (.inl ⟨[1], .ofMillis 500, rfl⟩)) rfl (by rintro _ ⟨⟩)) trivial
  have reached := called.move (.goOn 1 (by decide) fun _ => rfl) trivial
  have counted := reached.move (.goOn 2 (by decide) fun _ => rfl) trivial
  have closed :=
    counted.move (.act (.inr (.inr rfl)) rfl (by rintro _ ⟨⟩; decide)) trivial
  exact closed.move (.goOn 0 (by decide) fun _ => rfl) trivial

/-- While its close frame is under way, a session has been left and is not
counted among those that have ended. -/
theorem left_uncounted :
    ¬ ∀ {configuration : Configuration} {play : Play},
      Run .closings (fun _ => True) configuration play → play.hub.ready = [] →
        ∀ reason, play.hub.counters.ended reason =
          play.hub.tally.left reason := by
  intro claim
  have counted : 0 = 1 := claim Run.parting rfl .socketClosed
  cases counted

/-- That session is still counted among the open ones, and its socket has
recorded the broadcast. -/
theorem metrics_accounted_of_parting :
    Play.parting.hub.ready = [] ∧ Play.parting.hub.counters.active = 1 ∧
      Play.parting.hub.tally.left .socketClosed = 1 ∧
      Accounted Play.parting.hub ∧
      Play.parting.hub.recorded = 1 := by
  have accounted := metrics_accounted Run.parting rfl
  have first :
      ∀ number < 3, (Play.parting.hub.task number).hasSent = false := by decide
  have only : ∀ number, (Play.parting.hub.task number).hasSent = false := by
    intro number
    by_cases below : number < 3
    · exact first number below
    · have above : Play.parting.hub.tasks.size ≤ number := Nat.not_lt.mp below
      rw [Hub.task_of_size_le _ number above]
      rfl
  refine ⟨rfl, rfl, rfl, accounted, accounted.recorded only fun id below => ?_⟩
  obtain rfl := Nat.lt_one_iff.mp below
  exact ⟨_, rfl⟩

end BroadcastHub.Scenario
