import BroadcastHub.Proofs.Server.Beginnings
import BroadcastHub.Proofs.Server.Deliveries
import BroadcastHub.Proofs.Server.Lines

/-!
# What becomes of the write of a frame

The write of a frame is called for at some instant, by whatever task, and from
then on it has the limit that the task gives it.  `Sending` puts together what
the chronicle holds of the write, how far it is, and the clock, which does not
pass by the limit before the write is over.  It holds from the call on, and
every turnover preserves it.
-/

namespace BroadcastHub.Server

open Scenario

namespace Instant

theorem whole_after
    {now : Instant} {span : Span} (whole : Span.perMillisecond ∣ now)
    (wholeSpan : Span.perMillisecond ∣ span.nanos) :
    Span.perMillisecond ∣ now.after span := by
  have horizon : Span.perMillisecond ∣ horizon.nanos := Nat.dvd_mul_left _ _
  unfold after
  split
  · exact Nat.dvd_add whole horizon
  · exact Nat.dvd_add whole wholeSpan

theorem tick_of_whole
    {instant : Instant} (whole : Span.perMillisecond ∣ instant) :
    instant.tick = instant :=
  Nat.le_antisymm (tick_le_of_dvd whole (Nat.le_refl _)) (le_tick _)

end Instant

/-- Whether the write of a task's frame has been called for: it has begun, or
something is told of it. -/
def Hub.HasCalled (hub : Hub) (id : PeerId) (task : TaskId) : Prop :=
  (hub.posts id task).isSome = true ∨ deeds task hub.chronicle ≠ []

/-- The write of a frame to a peer, as a task asks for it. -/
structure Hub.Sends
    (hub : Hub) (task : TaskId) (id : PeerId) (frame : Frame) (span : Span) :
    Prop where
  writes : (hub.task task).writes? = some id
  frame : (hub.task task).frame? = some frame
  within : (hub.task task).span? hub.timing = some span

/-- How a write stands that has been called for at an instant. -/
structure Sending
    (hub : Hub) (called : Instant) (task : TaskId) (id : PeerId) (frame : Frame)
    (span : Span) : Prop where
  taskInside : task < hub.tasks.size
  state :
    (∃ stage, stage ≠ .unstarted ∧ hub.Sends task id frame span ∧
      hub.posts id task = stage.post? frame ∧
      WriteRecord task id frame span (called.after span) (.inl stage)
        (deeds task hub.chronicle) ∧
      hub.now ≤ (called.after span).tick ∧
      (called.after span ≤ hub.now → task ∈ hub.ready)) ∨
    ∃ result, (hub.task task).isFinished = true ∧
      WriteRecord task id frame span (called.after span) (.inr result)
        (deeds task hub.chronicle) ∧
      (result = .error .closed → (hub.peer id).closed = true)
  soFar : called ≤ hub.now
  times : ∀ entry ∈ deeds task hub.chronicle,
    called ≤ entry.time ∧ entry.time ≤ (called.after span).tick

namespace Task

variable {task other : Task}

theorem span?_of_follows (follows : task.Follows other) (timing : Timing) :
    other.span? timing = task.span? timing := by
  cases task <;> cases other <;> simp only [Follows] at follows
  case attend.attend => rfl
  case deliver.deliver => exact congrArg some follows.2.2
  case pong.pong => rfl
  case send.send => exact congrArg some follows.2.2
  all_goals rfl

end Task

theorem Writing.eq_of_post?
    {frame : Frame} {stage other : Writing} (begun : stage ≠ .unstarted)
    (same : stage.post? frame = other.post? frame) : other = stage := by
  cases stage with
  | unstarted => exact absurd rfl begun
  | queued limit =>
      cases other <;> cases same
      rfl
  | underway operation limit =>
      cases other <;> cases same
      rfl

theorem WriteRecord.post
    {task : TaskId} {id : PeerId} {frame : Frame} {span : Span} {due : Instant}
    {stage : Writing} {entries : List Entry}
    (record : WriteRecord task id frame span due (.inl stage) entries)
    (begun : stage ≠ .unstarted) :
    ∃ post, stage.post? frame = some post ∧ post.limit.due = due := by
  cases record with
  | unstarted => exact absurd rfl begun
  | queued isDue => exact ⟨_, rfl, isDue⟩
  | underway time isDue => exact ⟨_, rfl, isDue⟩

theorem Writing.limit_mem_alarms {frame : Frame} {stage : Writing} {post : Post}
    (same : stage.post? frame = some post) : post.limit ∈ stage.alarms := by
  cases stage <;> cases same
  · exact List.mem_cons_self
  · exact List.mem_cons_self

/-- A writer waits for its limit. -/
theorem Task.limit_mem_alarms {task : Task} {id : PeerId} {post : Post}
    (same : task.postAt id = some post) : post.limit ∈ task.alarms := by
  cases task with
  | attend peer stage =>
      cases stage with
      | parting closing =>
          obtain ⟨-, isPost⟩ := Option.ite_none_right_eq_some.mp same
          cases isPost
          exact List.mem_cons_self
      | _ => cases same
  | deliver peer frame limit stage =>
      exact Writing.limit_mem_alarms (Option.ite_none_right_eq_some.mp same).2
  | pong peer payload stage =>
      cases stage with
      | writing stage =>
          exact Writing.limit_mem_alarms
            (Option.ite_none_right_eq_some.mp same).2
      | _ => cases same
  | send peer frame limit stage =>
      exact Writing.limit_mem_alarms (Option.ite_none_right_eq_some.mp same).2
  | sendClose peer stage =>
      obtain ⟨-, isPost⟩ := Option.ite_none_right_eq_some.mp same
      cases stage <;> cases isPost
      exact List.mem_cons_self
  | _ => cases same

/-- A write that ends because its session is closed has found it so. -/
theorem FrameStep.closed_of_refused
    {now : Instant} {closed : Bool} {task : TaskId} {id : PeerId}
    {frame : Frame} {span : Span} {stage : Writing} {before after : Station}
    {told : List Happening}
    (step : FrameStep now closed task id frame span stage before told after
      (.finished (.error .closed))) : closed = true := by
  cases step with
  | refused isClosed => exact isClosed
  | refusedInTurn isClosed held => exact isClosed
  | answeredAtOnce early isOpen held started =>
      rcases Socket.answers_start started with same | same <;> cases same
  | answered proceeded =>
      rcases Socket.answers_proceed proceeded with same | same <;> cases same

/-- What a turnover leaves of a task that is not the one that goes on. -/
structure Untouched (task : TaskId) (before after : Hub) : Prop where
  tasks_le : before.tasks.size ≤ after.tasks.size
  sameTask : after.task task = before.task task
  deeds : deeds task after.chronicle = deeds task before.chronicle
  closed : ∀ id, (before.peer id).closed = true → (after.peer id).closed = true
  now : after.now = before.now
  configuration : after.configuration = before.configuration
  ready : task ∈ before.ready → task ∈ after.ready

inductive TaskTurn (task : TaskId) (before : Hub) : Hub → Prop
  | own : TaskTurn task before (before.goOn task)
  | kept {after : Hub} (kept : Untouched task before after) :
      TaskTurn task before after
  | tick {later : Instant} (forward : before.now ≤ later)
      (passes : ∀ alarm number, (alarm, number) ∈ before.alarms →
        later ≤ max before.now alarm.due.tick) :
      TaskTurn task before { before with now := later }.ring

theorem deeds_of_outside
    {outsider : Outsider} {before after : Hub} {news : List Entry}
    (isNews : News outsider.Brings before after news) (task : TaskId) :
    deeds task after.chronicle = deeds task before.chronicle := by
  rw [isNews.chronicle, deeds_append, deeds_of_others, List.nil_append]
  intro entry member
  have brings := isNews.brought entry member
  cases same :
    entry.happening <;> rw [same] at brings <;> first | rfl | cases brings

theorem deeds_of_goOn
    (hub : Hub) {number task : TaskId} (different : number ≠ task) :
    deeds task (hub.goOn number).chronicle = deeds task hub.chronicle := by
  obtain ⟨news, isNews⟩ := (Course.goOn hub number).news
  rw [isNews.chronicle, deeds_append, deeds_of_others, List.nil_append]
  intro entry member
  rw [← Bool.not_eq_true]
  intro isBy
  exact different (Broadcasts.isBy_of_brings (isNews.brought entry member)
    isBy).1.symm

/-- Nothing is told of a task that writes to a peer and leaves its writing side
alone. -/
theorem Aside.deeds_of_goOn
    {hub : Hub} {task : TaskId} {id : PeerId}
    (aside : Aside id hub (hub.goOn task))
    (writes : (hub.task task).writes? = some id) :
    deeds task (hub.goOn task).chronicle = deeds task hub.chronicle := by
  obtain ⟨told, chronicle, elsewhere⟩ := aside.chronicle
  obtain ⟨news, isNews⟩ := (Course.goOn hub task).news
  cases List.append_cancel_right (chronicle.symm.trans isNews.chronicle)
  rw [chronicle, deeds_append, deeds_of_others, List.nil_append]
  intro entry member
  have notAt := elsewhere entry member
  have brings := isNews.brought entry member
  cases same : entry.happening <;> rw [same] at notAt brings <;> try rfl
  all_goals
    exact absurd (Option.some.inj
      ((show (hub.task task).writes? = _ from brings.2).symm.trans
      writes)) notAt

theorem Turnover.task
    {outsider : Outsider} {before after : Hub}
    (turnover : Turnover outsider before after) {task : TaskId}
    (below : task < before.tasks.size) : TaskTurn task before after := by
  have closed :
      ∀ id, (before.peer id).closed = true → (after.peer id).closed = true :=
    fun _ => turnover.closed
  cases turnover with
  | outside outside =>
      obtain ⟨news, isNews, -⟩ := outside.news
      exact .kept
        { tasks_le := outside.tasks_le
          sameTask := outside.task task below
          deeds := deeds_of_outside isNews task
          closed
          now := outside.now
          configuration := outside.configuration
          ready := outside.ready task }
  | register added =>
      exact .kept
        { tasks_le := Nat.le_refl _
          sameTask := rfl
          deeds := rfl
          closed
          now := rfl
          configuration := rfl
          ready := fun member => member }
  | @serve socket opened_ added opened serves =>
      refine .kept
        { tasks_le := ?_
          sameTask := ?_
          deeds := rfl
          closed
          now := rfl
          configuration := rfl
          ready := fun member => List.mem_append_left _ member }
      · rw [Hub.size_tasks_spawn]
        exact Nat.le_succ _
      · rw [Hub.task_spawn]
        exact if_neg (Nat.ne_of_lt below)
  | @go number isReady =>
      by_cases same : number = task
      · rw [same]
        exact .own
      · have course := Course.goOn before number
        have other :
            (Doer.running number (before.task number)).task ≠ some task :=
          fun running => same (Option.some.inj running)
        exact .kept
          { tasks_le := course.tasks_le
            sameTask := course.task task below other
            deeds := deeds_of_goOn before same
            closed
            now := course.now
            configuration := course.configuration
            ready := fun member => course.ready task member other }
  | tick still forward whole passes => exact .tick forward passes

theorem Hub.Sends.inside
    {hub : Hub} {task : TaskId} {id : PeerId} {frame : Frame} {span : Span}
    (sends : hub.Sends task id frame span) : task < hub.tasks.size := by
  apply Hub.lt_size_of_task
  intro same
  have writes := sends.writes
  rw [same] at writes
  cases writes

/-! ### Writes begin at once -/

theorem Hub.begun_pollSend
    (hub : Hub) {task : TaskId} (below : task < hub.tasks.size) (id : PeerId)
    (frame : Frame) (span : Span) (stage : Writing) (peer : PeerId)
    (content : Frame) (limit : Span) :
    (hub.pollSend task id frame span stage).task task ≠
      .send peer content limit .unstarted := by
  have stays := WriteTurn.below_pollFrame hub below id frame span stage
  unfold pollSend
  split <;> rename_i polled <;> rw [polled] at stays
  · rw [task_finish_self _ _ _ stays]
    rintro ⟨⟩
  · rw [task_setTask_self _ _ _ stays]
    have begun := begun_pollFrame polled
    rintro ⟨⟩
    exact begun rfl

/-- Writes that have been asked for and have not begun are ready. -/
def PromptSends (hub : Hub) : Prop :=
  ∀ task id frame limit, hub.task task = .send id frame limit .unstarted →
    task ∈ hub.ready

namespace PromptSends

theorem start (configuration : Configuration) (chance : Nat → Nat) :
    PromptSends { Hub.start configuration with chance } := by
  intro task id frame limit isSend
  rw [Hub.task_of_size_le { Hub.start configuration with chance } task
    (Nat.zero_le task)] at isSend
  cases isSend

theorem goOn {hub : Hub} (prompt : PromptSends hub) (number : TaskId) :
    PromptSends (hub.goOn number) := by
  have course := Course.goOn hub number
  intro task id frame limit isSend
  by_cases inside : task < hub.tasks.size
  · by_cases own : number = task
    · exfalso
      subst own
      cases before : hub.task number with
      | send peer content span stage =>
          let start : Hub := { hub with ready := hub.ready.erase number }
          have same :
              start.task number = .send peer content span stage := before
          have polled : hub.goOn number = start.poll number := rfl
          rw [polled, Hub.poll, same] at isSend
          exact Hub.begun_pollSend start inside peer content span stage id frame
            limit isSend
      | _ =>
          rcases course.own number rfl with same | finished | follows
          · cases (same.symm.trans isSend).symm.trans before
          · rw [isSend] at finished
            cases finished
          · rw [isSend] at follows
            have follows : (hub.task number).Follows
                (.send id frame limit .unstarted) := follows
            rw [before] at follows
            cases follows
    · have other : (Doer.running number (hub.task number)).task ≠ some task :=
        fun same => own (Option.some.inj same)
      rw [course.task task inside other] at isSend
      exact course.ready task (prompt task id frame limit isSend) other
  · by_cases new : task < (hub.goOn number).tasks.size
    · exact (course.newTask task (Nat.not_lt.mp inside) new).2
    · rw [Hub.task_of_size_le _ task (Nat.not_lt.mp new)] at isSend
      cases isSend

/-- Every turnover leaves the writes that have not begun ready. -/
theorem turn
    {outsider : Outsider} {before after : Hub} (prompt : PromptSends before)
    (turnover : Turnover outsider before after) : PromptSends after := by
  cases turnover with
  | outside outside =>
      intro task id frame limit isSend
      by_cases inside : task < before.tasks.size
      · rw [outside.task task inside] at isSend
        exact outside.ready task (prompt task id frame limit isSend)
      · by_cases new : task < after.tasks.size
        · exact (outside.newTask task (Nat.not_lt.mp inside) new).2
        · rw [Hub.task_of_size_le _ task (Nat.not_lt.mp new)] at isSend
          cases isSend
  | register added => exact prompt
  | @serve socket opened_ added opened serves =>
      intro task id frame limit isSend
      rw [Hub.task_spawn] at isSend
      split at isSend
      · rcases serves with rfl | rfl <;> cases isSend
      · exact List.mem_append_left _ (prompt task id frame limit isSend)
  | go isReady => exact prompt.goOn _
  | @tick later still forward whole passes =>
      obtain ⟨ready, same, kept, -⟩ := Hub.ring_eq { before with now := later }
      rw [same]
      exact fun task id frame limit isSend =>
        kept task (prompt task id frame limit isSend)

end PromptSends

/-! ### Writes to closed sessions -/

/-- What can become of a write to a closed session that has not asked the
socket. -/
inductive Refusal (task : TaskId) (id : PeerId) (frame : Frame) (span : Span)
    (before after : Hub) : Prop
  | left (posts : (after.posts id task).isSome = (before.posts id task).isSome)
      (deeds : deeds task after.chronicle = deeds task before.chronicle)
  | refused (told : after.chronicle =
      ⟨before.now, .wrote task id frame (.error .closed)⟩ :: before.chronicle)
  /-- Its limit is over while it stands in line. -/
  | cut
      (waits : task ∈ (before.peer id).turn.waiting) {limit : Alarm}
      (inLine : before.posts id task = some (.inLine limit))
      (late : limit.due ≤ before.now)
      (told : after.chronicle =
        ⟨before.now, .wrote task id frame (.error (.writeTimeout span))⟩ ::
          before.chronicle)

/-- A write to a closed session does not ask its socket any more. -/
theorem Turnover.refused
    {outsider : Outsider} {before after : Hub} {task : TaskId} {id : PeerId}
    {frame : Frame} {span : Span} (turnover : Turnover outsider before after)
    (housed : Housed before) (lines : Lines before)
    (sends : before.Sends task id frame span)
    (isClosed : (before.peer id).closed = true)
    (unasked : (before.task task).operationAt id = none) :
    Refusal task id frame span before after := by
  cases turnover.task sends.inside with
  | own =>
      cases WriteTurn.goOn (fun peer writes =>
          housed.tasks task peer (Task.regards_of_writes writes)) id with
      | aside own aside =>
          refine .left (congrArg Option.isSome (aside.posts task)) ?_
          exact aside.deeds_of_goOn sends.writes
      | @frame frame span stage told station written isFrame within own step
          stationAfter chronicle ended posts =>
          cases sends.frame.symm.trans isFrame
          cases sends.within.symm.trans within
          have opened : ¬ (before.peer id).closed = false := by
            rw [isClosed]
            decide
          have idle : stage.operation? frame = none :=
            (Task.operationAt_of_post? own).symm.trans unasked
          cases step with
          | refused isClosed => exact .refused chronicle
          | refusedInTurn isClosed held => exact .refused chronicle
          | answeredAtOnce early isOpen held started =>
              exact absurd isOpen opened
          | cutAtOnce early isOpen held started late =>
              exact absurd isOpen opened
          | begun early isOpen held started due inTime =>
              exact absurd isOpen opened
          | cutInLine early waits late opens =>
              cases stage with
              | unstarted => exact absurd (opens rfl) opened
              | queued limit =>
                  exact .cut (((lines id).inLine task).mpr
                    ⟨⟨limit, own⟩, waits⟩) own late chronicle
              | underway operation limit => cases early
          | inLine early waits due inTime opens =>
              refine .left ?_ (by rw [chronicle]; rfl)
              cases stage with
              | unstarted => exact absurd (opens rfl) opened
              | queued limit =>
                  rw [Hub.posts, posts, if_pos rfl, Hub.posts, own]
                  rfl
              | underway operation limit => cases early
          | answered proceeded => cases idle
          | cut proceeded late => cases idle
          | goesOn proceeded inTime => cases idle
      | @close current next told station earlier asks own step stationAfter
          chronicle elsewhere ended posts =>
          have isFrame := sends.frame
          have isNone : current = none := by
            cases current with
            | none => rfl
            | some closing =>
                cases (Task.operationAt_of_closing own).symm.trans unasked
          rcases asks isNone with isTask | ⟨-, alarm, isTask⟩ <;>
          rw [isTask] at isFrame <;>
            cases isFrame
  | kept kept =>
      exact .left (by rw [Hub.posts, Hub.posts, kept.sameTask]) kept.deeds
  | @tick later forward passes =>
      obtain ⟨ready, same, -⟩ := Hub.ring_eq { before with now := later }
      rw [same]
      exact .left rfl rfl

namespace Sending

variable {before after hub : Hub} {called : Instant} {task : TaskId}
  {id : PeerId} {frame : Frame} {span : Span}

/-- What nobody touches stays as it is. -/
theorem kept
    (sending : Sending before called task id frame span)
    (kept : Untouched task before after) :
    Sending after called task id frame span where
  taskInside := Nat.lt_of_lt_of_le sending.taskInside kept.tasks_le
  state := by
    rw [Hub.posts, kept.sameTask, kept.deeds, kept.now]
    rcases sending.state with
      ⟨stage, begun, sends, post, record, inTime, awake⟩ | finished
    · refine .inl ⟨stage, begun, ?_, post, record, inTime,
        fun late => kept.ready (awake late)⟩
      obtain ⟨writes, isFrame, within⟩ := sends
      rw [← kept.sameTask] at writes isFrame within
      exact ⟨writes, isFrame, by
        rw [Hub.timing, kept.configuration]; exact within⟩
    · obtain ⟨result, isFinished, record, lost⟩ := finished
      exact .inr ⟨result, isFinished, record,
        fun same => kept.closed id (lost same)⟩
  soFar := kept.now ▸ sending.soFar
  times := kept.deeds ▸ sending.times

/-- A write that goes on, or has just been called for. -/
theorem ofStep
    {stage : Writing} {told : List Happening} {station : Station}
    {written : Written} (below : task < hub.tasks.size)
    (sends : hub.Sends task id frame span)
    (record : WriteRecord task id frame span (called.after span) (.inl stage)
      (deeds task hub.chronicle))
    (fresh : stage = .unstarted → called = hub.now) (soFar : called ≤ hub.now)
    (inTime : hub.now ≤ (called.after span).tick)
    (times : ∀ entry ∈ deeds task hub.chronicle,
      called ≤ entry.time ∧ entry.time ≤ (called.after span).tick)
    (step : FrameStep hub.now (hub.peer id).closed task id frame span stage
      (hub.station id) told station written)
    (chronicle : (hub.goOn task).chronicle =
      entriesAt hub.now told ++ hub.chronicle)
    (ended : ∀ result, written = .finished result →
      ((hub.goOn task).task task).isFinished = true)
    (posts : (hub.goOn task).posts id task = written.post? frame) :
    Sending (hub.goOn task) called task id frame span := by
  have course := Course.goOn hub task
  have grown := record.step (fun start => by rw [fresh start]) step
  have sameDeeds : deeds task (hub.goOn task).chronicle =
      entriesAt hub.now told ++ deeds task hub.chronicle := by
    rw [chronicle, deeds_append, deeds_entriesAt step.isBy]
  rw [← sameDeeds] at grown
  refine ⟨Nat.lt_of_lt_of_le below course.tasks_le, ?_, course.now ▸ soFar, ?_⟩
  · cases written with
    | finished result =>
        refine .inr ⟨result, ended result rfl, grown, fun same => ?_⟩
        rw [same] at step
        exact (course.peer id).closed step.closed_of_refused
    | pending next =>
        obtain ⟨begun, early⟩ := step.pending
        rw [grown.due_eq fun start => absurd start begun] at early
        refine .inl ⟨next, begun, ?_, posts, grown, course.now ▸ inTime,
          fun late => ?_⟩
        · rcases course.own task rfl with same | finished | follows
          · refine ⟨same ▸ sends.writes, same ▸ sends.frame, ?_⟩
            rw [same, Hub.timing, course.configuration]
            exact sends.within
          · have none : (hub.goOn task).posts id task = none :=
              Task.postAt_of_finished finished
            rw [posts] at none
            cases next with
            | unstarted => exact absurd rfl begun
            | queued limit => cases none
            | underway operation limit => cases none
          · refine ⟨(Task.writes?_of_follows follows).trans sends.writes,
              (Task.frame?_of_follows follows).trans sends.frame, ?_⟩
            rw [Task.span?_of_follows follows, Hub.timing, course.configuration]
            exact sends.within
        · rw [course.now] at late
          exact absurd late (Nat.not_le.mpr early)
  · intro entry member
    rw [sameDeeds] at member
    rcases List.mem_append.mp member with new | old
    · obtain ⟨happening, -, rfl⟩ := List.mem_map.mp new
      exact ⟨soFar, inTime⟩
    · exact times entry old

theorem goOn
    (housed : Housed hub) (sending : Sending hub called task id frame span) :
    Sending (hub.goOn task) called task id frame span := by
  have inside := sending.taskInside
  rcases sending.state with ⟨stage, begun, sends, post, record, inTime, -⟩ |
    ⟨result, finished, record, lost⟩
  · cases WriteTurn.goOn (fun peer writes =>
        housed.tasks task peer (Task.regards_of_writes writes)) id with
    | aside own aside =>
        have none : stage.post? frame = none := post.symm.trans own
        cases stage with
        | unstarted => exact absurd rfl begun
        | queued limit => cases none
        | underway operation limit => cases none
    | frame isFrame within own step stationAfter chronicle ended posts =>
        cases sends.frame.symm.trans isFrame
        cases sends.within.symm.trans within
        cases Writing.eq_of_post? begun (post.symm.trans own)
        refine ofStep inside sends record (fun start => absurd start begun)
          sending.soFar inTime sending.times step chronicle ended ?_
        rw [Hub.posts, posts, if_pos rfl]
    | @close current next told station earlier asks own step stationAfter
        chronicle elsewhere ended posts =>
        have same : stage.post? frame = current.map Closing.post :=
      post.symm.trans own
        cases stage with
        | unstarted => exact absurd rfl begun
        | queued limit => cases current <;> cases same
        | underway operation limit => cases current <;> cases same
  · obtain ⟨outcome, ended⟩ := Task.exists_outcome finished
    rw [Hub.goOn_of_finished ended]
    exact ⟨inside, .inr ⟨result, finished, record, lost⟩, sending.soFar,
      sending.times⟩

/-- The clock does not pass by the limit of a write. -/
theorem tick
    {later : Instant} (sending : Sending hub called task id frame span)
    (forward : hub.now ≤ later)
    (passes : ∀ alarm number, (alarm, number) ∈ hub.alarms →
      later ≤ max hub.now alarm.due.tick) :
    Sending { hub with now := later }.ring called task id frame span := by
  obtain ⟨ready, same, -, rung⟩ := Hub.ring_eq { hub with now := later }
  rw [same]
  refine ⟨sending.taskInside, ?_, Nat.le_trans sending.soFar forward,
    sending.times⟩
  rcases sending.state with
    ⟨stage, begun, sends, post, record, inTime, -⟩ | finished
  · obtain ⟨place, isPlace, due⟩ := record.post begun
    have waits : (place.limit, task) ∈ hub.alarms :=
      Hub.mem_alarms hub task sending.taskInside
        (Task.limit_mem_alarms (post.trans isPlace))
    refine .inl ⟨stage, begun, ⟨sends.writes, sends.frame, sends.within⟩, post,
      record, ?_, fun late => ?_⟩
    · have bound := passes place.limit task waits
      rw [due] at bound
      exact Nat.le_trans bound (Nat.max_le.mpr ⟨inTime, Nat.le_refl _⟩)
    · exact rung place.limit task waits (decide_eq_true (due ▸ late))
  · exact .inr finished

theorem turn
    {outsider : Outsider} (housed : Housed before)
    (sending : Sending before called task id frame span)
    (turnover : Turnover outsider before after) :
    Sending after called task id frame span := by
  cases turnover.task sending.taskInside with
  | own => exact goOn housed sending
  | kept kept => exact sending.kept kept
  | tick forward passes => exact sending.tick forward passes

/-- The limit of a write runs from the turnover in which it is called for. -/
theorem ofCall
    {outsider : Outsider} (housed : Housed before)
    (turnover : Turnover outsider before after)
    (sends : before.Sends task id frame span)
    (notYet : ¬ before.HasCalled id task)
    (hasCalled : after.HasCalled id task) :
    Sending after before.now task id frame span := by
  have below := sends.inside
  have silent : deeds task before.chronicle = [] :=
    Classical.not_not.mp fun told => notYet (.inr told)
  have idle : before.posts id task = none :=
    Option.not_isSome_iff_eq_none.mp fun begun => notYet (.inl begun)
  cases turnover.task below with
  | own =>
      cases WriteTurn.goOn (fun peer writes =>
          housed.tasks task peer (Task.regards_of_writes writes)) id with
      | aside own aside =>
          exfalso
          refine notYet (hasCalled.imp ?_ ?_)
          · rw [Hub.posts, aside.posts]
            exact fun begun => begun
          · rw [aside.deeds_of_goOn sends.writes]
            exact fun told => told
      | @frame frame_ span_ stage told station written isFrame within own step
          stationAfter chronicle ended posts =>
          cases sends.frame.symm.trans isFrame
          cases sends.within.symm.trans within
          have unstarted : stage = .unstarted := by
            cases stage with
            | unstarted => rfl
            | queued limit => cases idle.symm.trans own
            | underway operation limit => cases idle.symm.trans own
          subst unstarted
          refine ofStep below sends (silent ▸ .unstarted) (fun _ => rfl)
            (Nat.le_refl _) (Nat.le_trans (Instant.le_after _ _)
              (Instant.le_tick _)) ?_ step chronicle ended ?_
          · rw [silent]
            rintro _ ⟨⟩
          · rw [Hub.posts, posts, if_pos rfl]
      | @close current next told station earlier asks own step stationAfter
          chronicle elsewhere ended posts =>
          have isNone : current = none := by
            cases current with
            | none => rfl
            | some closing => cases idle.symm.trans own
          have isFrame := sends.frame
          rcases asks isNone with isTask | ⟨-, alarm, isTask⟩ <;>
          rw [isTask] at isFrame <;>
            cases isFrame
  | kept kept =>
      exfalso
      refine notYet (hasCalled.imp ?_ ?_)
      · rw [Hub.posts, kept.sameTask]
        exact fun begun => begun
      · rw [kept.deeds]
        exact fun told => told
  | tick forward passes =>
      exfalso
      obtain ⟨ready, same, -⟩ := Hub.ring_eq { before with now := _ }
      rw [same] at hasCalled
      exact notYet hasCalled

end Sending

end BroadcastHub.Server
