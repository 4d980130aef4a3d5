import BroadcastHub.Proofs.Server.Pongs
import BroadcastHub.Proofs.Server.Sends

/-!
# What becomes of the wait for the end of a server

A wait looks at the registry once the server's task has ended, and again after
each pause.  It ends when it finds no session there, or when its limit is over.
So what it tells is what it has seen: that everything was over at some instant,
or that something was left when it looked for the last time, which is less than
a pause before the limit.  `Waits` puts this together with the clock, which does
not pass by the limit, and every turnover preserves it.
-/

namespace BroadcastHub.Server

open Scenario

theorem Instant.lt_after
    (now : Instant) {span : Span} (some_time : 0 < span.nanos) :
    now < now.after span := by
  have horizon : 0 < horizon.nanos := by decide
  unfold after
  split
  · exact Nat.lt_add_of_pos_right horizon
  · exact Nat.lt_add_of_pos_right some_time

/-- The server's task has ended and no session is registered. -/
def Hub.Drained (hub : Hub) (server : TaskId) : Prop :=
  (hub.task server).isFinished = true ∧ hub.registry = []

instance (hub : Hub) (server : TaskId) : Decidable (hub.Drained server) :=
  inferInstanceAs (Decidable (_ ∧ _))

/-- The limit of a wait that has begun. -/
def Draining.limit? : Draining → Option Alarm
  | unstarted => none
  | awaitingServer limit => some limit
  | pausing _ limit => some limit

/-! ### One turn of a wait -/

/-- What a wait becomes in its turn, when the server's task has `ended` or not
and everything is `drained` or not.  Where its limit ends it although everything
was over, it has paused since it looked for the last time. -/
inductive DrainStep
    (now : Instant) (ended drained : Prop) (server : TaskId) (span : Span)
    (limit : Alarm) (stage : Draining) : Task → Prop
  | drained (isDrained : drained) :
      DrainStep now ended drained server span limit stage
        (.finished (.drained true))
  | cut
      (late : limit.due ≤ now)
      (left : drained → ∃ pause, stage = .pausing pause limit ∧
        now < pause.due) :
      DrainStep now ended drained server span limit stage
        (.finished (.drained false))
  | awaits (early : now < limit.due) :
      DrainStep now ended drained server span limit stage
        (.drain server span (.awaitingServer limit))
  | pauses
      {pause : Alarm} (early : now < limit.due) (hasEnded : ended)
      (left : ¬ drained) (due : pause.due = now.after Hub.drainPause) :
      DrainStep now ended drained server span limit stage
        (.drain server span (.pausing pause limit))
  | rests
      {pause : Alarm} (early : now < limit.due)
      (same : stage = .pausing pause limit) :
      DrainStep now ended drained server span limit stage
        (.drain server span (.pausing pause limit))

/-- What a wait becomes in its turn in a hub. -/
def Hub.WaitStep
    (hub : Hub) (server : TaskId) (span : Span) (limit : Alarm)
    (stage : Draining) (next : Task) : Prop :=
  DrainStep hub.now ((hub.task server).isFinished = true) (hub.Drained server)
    server span limit stage next

section Turn

variable (hub : Hub) {task : TaskId} (inside : task < hub.tasks.size)
  (server : TaskId) (span : Span) (limit : Alarm)

include inside

/-- A wait ends with its limit, or goes on to a stage. -/
theorem Hub.task_boundDrain (next : Draining) :
    limit.due ≤ hub.now ∧
      (hub.boundDrain task server span limit next).task task =
        .finished (.drained false) ∨
    hub.now < limit.due ∧
      (hub.boundDrain task server span limit next).task task =
        .drain server span next := by
  unfold boundDrain
  split
  · rename_i rung
    exact .inl ⟨of_decide_eq_true rung, task_finish_self hub task _ inside⟩
  · rename_i early
    have early : ¬ limit.due ≤ hub.now :=
      fun late => early (decide_eq_true late)
    exact .inr ⟨Nat.not_le.mp early, task_setTask_self hub task _ inside⟩

namespace Hub.WaitStep

/-- A look at the registry after the server's task has ended. -/
theorem checkRegistry
    (stage : Draining) (finished : (hub.task server).isFinished = true) :
    hub.WaitStep server span limit stage
      ((hub.checkRegistry task server span limit).task task) := by
  unfold Hub.checkRegistry
  split
  · rename_i none
    rw [Hub.task_finish_self hub task _ inside]
    exact .drained ⟨finished, List.isEmpty_iff.mp none⟩
  · rename_i some
    have left : ¬ hub.Drained server :=
      fun drained => some (List.isEmpty_iff.mpr drained.2)
    rcases Hub.task_boundDrain hub.noteAlarm inside server span limit
        (.pausing ⟨hub.now.after Hub.drainPause, hub.alarmsSet⟩ limit) with
      ⟨late, same⟩ | ⟨early, same⟩ <;> rw [same]
    · exact .cut late fun drained => absurd drained left
    · exact .pauses early finished left rfl

theorem checkServer (stage : Draining) :
    hub.WaitStep server span limit stage
      ((hub.checkServer task server span limit).task task) := by
  unfold Hub.checkServer
  split
  · rename_i finished
    exact checkRegistry hub inside server span limit stage finished
  · rename_i unfinished
    rcases Hub.task_boundDrain hub inside server span limit
      (.awaitingServer limit) with
      ⟨late, same⟩ | ⟨early, same⟩ <;> rw [same]
    · exact .cut late fun drained => absurd drained.1 unfinished
    · exact .awaits early

/-- What a wait becomes that has its limit, or gets it now. -/
theorem pollDrain
    {stage : Draining}
    (looks : ∀ pause limit, stage = .pausing pause limit →
      (hub.task server).isFinished = true) :
    hub.WaitStep server span
      (stage.limit?.getD ⟨hub.now.after span, hub.alarmsSet⟩) stage
      ((hub.pollDrain task server span stage).task task) := by
  cases stage with
  | unstarted => exact checkServer hub.noteAlarm inside server span _ .unstarted
  | awaitingServer limit => exact checkServer hub inside server span limit _
  | pausing pause limit =>
      by_cases rung : pause.hasRung hub.now
      · have polled : hub.pollDrain task server span (.pausing pause limit) =
            hub.checkRegistry task server span limit := if_pos rung
        rw [polled]
        exact checkRegistry hub inside server span limit _
          (looks pause limit rfl)
      · have polled : hub.pollDrain task server span (.pausing pause limit) =
            hub.boundDrain task server span limit (.pausing pause limit) :=
          if_neg rung
        have resting : ¬ pause.due ≤ hub.now :=
          fun late => rung (decide_eq_true late)
        rw [polled]
        rcases Hub.task_boundDrain hub inside server span limit
          (.pausing pause limit) with
          ⟨late, same⟩ | ⟨early, same⟩ <;> rw [same]
        · exact .cut late fun _ => ⟨pause, rfl, Nat.not_le.mp resting⟩
        · exact .rests early rfl

end Hub.WaitStep

end Turn

/-! ### The whole wait -/

/-- How a wait stands that has been called for at an instant.  What it has to
tell in the end must have been so: `drained` holds of the instants at which
everything was over, `left` of those at which something was not. -/
inductive Waits
    (hub : Hub) (called : Instant) (task server : TaskId) (span : Span)
    (drained left : Instant → Prop) : Prop
  | unstarted (isTask : hub.task task = .drain server span .unstarted)
      (isReady : task ∈ hub.ready) (now : hub.now = called) :
      Waits hub called task server span drained left
  | begun
      {stage : Draining} {limit : Alarm}
      (isTask : hub.task task = .drain server span stage)
      (isLimit : stage.limit? = some limit)
      (due : limit.due = called.after span) (inTime : hub.now ≤ limit.due.tick)
      (awake : limit.due ≤ hub.now → task ∈ hub.ready)
      (looked : ∀ pause limit, stage = .pausing pause limit →
        (hub.task server).isFinished = true ∧
          ∃ look, left look ∧ pause.due = look.after Hub.drainPause) :
      Waits hub called task server span drained left
  | drained
      {look : Instant} (isTask : hub.task task = .finished (.drained true))
      (isDrained : drained look) (inTime : look ≤ (called.after span).tick) :
      Waits hub called task server span drained left
  | cut {look : Instant} (isTask : hub.task task = .finished (.drained false))
      (late : called.after span ≤ hub.now) (isLeft : left look)
      (lately : called.after span < look.after Hub.drainPause) :
      Waits hub called task server span drained left

theorem Turnover.isFinished
    {outsider : Outsider} {before after : Hub}
    (turnover : Turnover outsider before after) {task : TaskId}
    (inside : task < before.tasks.size)
    (finished : (before.task task).isFinished = true) :
    (after.task task).isFinished = true := by
  cases turnover.task inside with
  | own =>
      obtain ⟨outcome, ended⟩ := Task.exists_outcome finished
      rw [Hub.goOn_of_finished ended]
      exact finished
  | kept kept =>
      rw [kept.sameTask]
      exact finished
  | @tick later forward passes =>
      obtain ⟨ready, same, -⟩ := Hub.ring_eq { before with now := later }
      rw [same]
      exact finished

namespace Waits

variable {before after hub : Hub} {called : Instant} {task server : TaskId}
  {span : Span} {drained left : Instant → Prop}

theorem inside (waits : Waits hub called task server span drained left) :
    task < hub.tasks.size := by
  apply Hub.lt_size_of_task
  intro none
  cases waits with
  | unstarted isTask isReady now => cases isTask.symm.trans none
  | begun isTask isLimit due inTime awake looked => cases isTask.symm.trans none
  | drained isTask isDrained inTime => cases isTask.symm.trans none
  | cut isTask late isLeft lately => cases isTask.symm.trans none

theorem mono
    {more others : Instant → Prop}
    (grown : ∀ instant, drained instant → more instant)
    (othersGrown : ∀ instant, left instant → others instant)
    (waits : Waits hub called task server span drained left) :
    Waits hub called task server span more others := by
  cases waits with
  | unstarted isTask isReady now => exact .unstarted isTask isReady now
  | begun isTask isLimit due inTime awake looked =>
      refine .begun isTask isLimit due inTime awake fun pause limit same => ?_
      obtain ⟨finished, look, isLeft, pauses⟩ := looked pause limit same
      exact ⟨finished, look, othersGrown look isLeft, pauses⟩
  | drained isTask isDrained inTime =>
      exact .drained isTask (grown _ isDrained) inTime
  | cut isTask late isLeft lately =>
      exact .cut isTask late (othersGrown _ isLeft) lately

/-- A wait that has its limit, or gets it now, goes on. -/
theorem goOn
    {stage : Draining} {limit : Alarm}
    (isTask : hub.task task = .drain server span stage)
    (isLimit : stage.limit?.getD ⟨hub.now.after span, hub.alarmsSet⟩ = limit)
    (due : limit.due = called.after span) (inTime : hub.now ≤ limit.due.tick)
    (looked : ∀ pause limit, stage = .pausing pause limit →
      (hub.task server).isFinished = true ∧
        ∃ look, left look ∧ pause.due = look.after Hub.drainPause)
    (serverFinished : (hub.task server).isFinished = true →
      ((hub.goOn task).task server).isFinished = true)
    (isDrained : hub.Drained server → drained hub.now)
    (isLeft : ¬ hub.Drained server → left hub.now) :
    Waits (hub.goOn task) called task server span drained left := by
  have inside : task < hub.tasks.size := by
    apply Hub.lt_size_of_task
    intro none
    cases isTask.symm.trans none
  have step :
      hub.WaitStep server span limit stage ((hub.goOn task).task task) := by
    let start : Hub := { hub with ready := hub.ready.erase task }
    have same : start.task task = .drain server span stage := isTask
    have polled : hub.goOn task = start.pollDrain task server span stage := by
      rw [Hub.goOn, Hub.poll, same]
    rw [polled, ← isLimit]
    exact Hub.WaitStep.pollDrain start inside server span
      fun pause limit same =>
      (looked pause limit same).1
  have now : (hub.goOn task).now = hub.now := (Course.goOn hub task).now
  have pauseLasts : 0 < Hub.drainPause.nanos := by decide
  generalize isNext : (hub.goOn task).task task = next at step
  cases step with
  | drained drainedNow =>
      exact .drained isNext (isDrained drainedNow) (due ▸ inTime)
  | cut late lastLook =>
      rw [due] at late
      by_cases drainedNow : hub.Drained server
      · obtain ⟨pause, same, early⟩ := lastLook drainedNow
        obtain ⟨-, look, wasLeft, pauses⟩ := looked pause limit same
        exact .cut isNext (now ▸ late) wasLeft
          (Nat.lt_of_le_of_lt late (pauses ▸ early))
      · exact .cut isNext (now ▸ late) (isLeft drainedNow)
          (Nat.lt_of_le_of_lt late (Instant.lt_after hub.now pauseLasts))
  | awaits early =>
      refine .begun isNext rfl due (now ▸ inTime) (fun late => ?_)
        (by rintro _ _ ⟨⟩)
      exact absurd (now ▸ late) (Nat.not_le.mpr early)
  | pauses early hasEnded leftNow pauses =>
      refine .begun isNext rfl due (now ▸ inTime) (fun late => ?_) ?_
      · exact absurd (now ▸ late) (Nat.not_le.mpr early)
      · rintro _ _ ⟨⟩
        exact ⟨serverFinished hasEnded, hub.now, isLeft leftNow, pauses⟩
  | rests early same =>
      refine .begun isNext rfl due (now ▸ inTime) (fun late => ?_) ?_
      · exact absurd (now ▸ late) (Nat.not_le.mpr early)
      · rintro _ _ ⟨⟩
        obtain ⟨finished, look⟩ := looked _ _ same
        exact ⟨serverFinished finished, look⟩

/-- Nobody else's turn changes how a wait stands. -/
theorem kept (waits : Waits before called task server span drained left)
    (kept : Untouched task before after)
    (serverFinished : (before.task server).isFinished = true →
      (after.task server).isFinished = true) :
    Waits after called task server span drained left := by
  cases waits with
  | unstarted isTask isReady now =>
      exact .unstarted (kept.sameTask.trans isTask) (kept.ready isReady)
        (kept.now.trans now)
  | begun isTask isLimit due inTime awake looked =>
      refine .begun (kept.sameTask.trans isTask) isLimit due (kept.now ▸ inTime)
        (fun late => kept.ready (awake (kept.now ▸ late)))
        fun pause limit same => ?_
      obtain ⟨finished, look⟩ := looked pause limit same
      exact ⟨serverFinished finished, look⟩
  | drained isTask isDrained inTime =>
      exact .drained (kept.sameTask.trans isTask) isDrained inTime
  | cut isTask late isLeft lately =>
      exact .cut (kept.sameTask.trans isTask) (kept.now ▸ late) isLeft lately

/-- The clock does not pass by the limit of a wait. -/
theorem tick
    {later : Instant} (waits : Waits hub called task server span drained left)
    (forward : hub.now ≤ later) (still : task ∈ hub.ready → later = hub.now)
    (passes : ∀ alarm number, (alarm, number) ∈ hub.alarms →
      later ≤ max hub.now alarm.due.tick) :
    Waits { hub with now := later }.ring called task server span drained
      left := by
  have inside := waits.inside
  obtain ⟨ready, same, kept, rung⟩ := Hub.ring_eq { hub with now := later }
  rw [same]
  cases waits with
  | unstarted isTask isReady now =>
      exact .unstarted isTask (kept task isReady) ((still isReady).trans now)
  | @begun stage limit isTask isLimit due inTime awake looked =>
      have listed : limit ∈ (hub.task task).alarms := by
        rw [isTask]
        cases stage <;> cases isLimit
        · exact List.mem_cons_self
        · exact List.mem_cons_of_mem _ List.mem_cons_self
      have waiting : (limit, task) ∈ hub.alarms :=
        Hub.mem_alarms hub task inside listed
      refine .begun isTask isLimit due ?_ (fun late => ?_) looked
      · exact Nat.le_trans (passes limit task waiting)
          (Nat.max_le.mpr ⟨inTime, Nat.le_refl _⟩)
      · exact rung limit task waiting (decide_eq_true late)
  | drained isTask isDrained inTime => exact .drained isTask isDrained inTime
  | cut isTask late isLeft lately =>
      exact .cut isTask (Nat.le_trans late forward) isLeft lately

/-- Every turnover leaves a wait such that it tells only what it has seen, and
in time. -/
theorem turn
    {outsider : Outsider}
    (waits : Waits before called task server span drained left)
    (serverInside : server < before.tasks.size)
    (turnover : Turnover outsider before after)
    (isDrained : before.Drained server → drained before.now)
    (isLeft : ¬ before.Drained server → left before.now) :
    Waits after called task server span drained left := by
  have serverFinished := turnover.isFinished serverInside
  have still : task ∈ before.ready → after.now = before.now := turnover.now_eq
  cases turnover.task waits.inside with
  | kept kept => exact waits.kept kept serverFinished
  | @tick later forward passes =>
      refine waits.tick forward (fun isReady => ?_) passes
      obtain ⟨ready, same, -⟩ := Hub.ring_eq { before with now := later }
      rw [same] at still
      exact still isReady
  | own =>
      cases waits with
      | unstarted isTask isReady now =>
          refine goOn isTask rfl
            (congrArg (fun instant => Instant.after instant span) now) ?_
            (by rintro _ _ ⟨⟩) serverFinished isDrained isLeft
          exact Nat.le_trans (Instant.le_after _ _) (Instant.le_tick _)
      | begun isTask isLimit due inTime awake looked =>
          exact goOn isTask (by rw [isLimit]; rfl) due inTime looked
            serverFinished isDrained isLeft
      | drained isTask isDrained inTime =>
          rw [Hub.goOn_of_finished isTask]
          exact .drained isTask isDrained inTime
      | cut isTask late isLeft lately =>
          rw [Hub.goOn_of_finished isTask]
          exact .cut isTask late isLeft lately

end Waits

end BroadcastHub.Server
