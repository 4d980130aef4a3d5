import Mathlib.Algebra.BigOperators.Group.List.Basic
import Mathlib.Algebra.GroupWithZero.Nat
import BroadcastHub.Proofs.Server.Credits
import BroadcastHub.Proofs.Server.Slots

/-!
# What the counters stand for

Every counter is the number of tasks that have come to something: sessions that
have begun and those that have ended, deliveries that have reached their
recipients, heartbeat replies that have been written.  The turn of a task moves
a counter by what the task counts afterwards and has not counted before, and
tasks that have just been started count nowhere.
-/

namespace BroadcastHub.Server

open Scenario

namespace Task

def isSession : Task → Bool
  | attend _ _ => true
  | _ => false

/-- A session that has begun and is not over. -/
def isOpen : Task → Bool
  | attend _ stage => stage ≠ .arriving
  | _ => false

/-- A session that has been left while its close frame is under way. -/
def isParting : Task → Bool
  | attend _ (.parting _) => true
  | _ => false

/-- A session that is over. -/
def isEnded : Task → Bool
  | finished (.attended _) => true
  | _ => false

/-- A session that is over for some reason. -/
def hasEnded (reason : Reason) : Task → Bool
  | finished (.attended exit) => exit.reason = reason
  | _ => false

/-- A session that has begun, over or not. -/
def wasOpened : Task → Bool
  | attend _ stage => stage ≠ .arriving
  | finished (.attended _) => true
  | _ => false

/-- A session that has been left for some reason, over or not. -/
def wasLeft (reason : Reason) : Task → Bool
  | attend _ (.parting _) => Reason.socketClosed = reason
  | finished (.attended exit) => exit.reason = reason
  | _ => false

def isDelivered : Task → Bool
  | finished (.delivered _) => true
  | _ => false

/-- A delivery that has reached its recipient, or has not. -/
def hasDelivered (reached : Bool) : Task → Bool
  | finished (.delivered result) => result = reached
  | _ => false

/-- A heartbeat request that has come to something. -/
def hasReplied (result : HeartbeatResult) : Task → Bool
  | finished (.heartbeat other) => other = result
  | _ => false

/-- A write on its own that has succeeded. -/
def hasSent : Task → Bool
  | finished (.sent result) => Except.isOk result
  | _ => false

def hasWritten : Task → Bool
  | finished (.delivered reached) => reached
  | finished (.heartbeat result) => result = .answered
  | finished (.sent result) => Except.isOk result
  | _ => false

end Task

/-- What is counted: the counters of a server, and what the chronicle tells of
ends. -/
inductive Meter
  | opened
  | active
  | ended (reason : Reason)
  | timed
  | delivered
  | undelivered
  | ponged
  | coalesced
  | written
  | left (reason : Reason)

namespace Meter

/-- The number that a meter shows. -/
def value (counters : Counters) (tally : Tally) : Meter → Nat
  | opened => counters.opened
  | active => counters.active
  | ended reason => counters.ended reason
  | timed => counters.timed
  | delivered => counters.delivered
  | undelivered => counters.undelivered
  | ponged => counters.ponged
  | coalesced => counters.coalesced
  | written => tally.written
  | left reason => tally.left reason

def counts : Meter → Task → Bool
  | opened => Task.wasOpened
  | active => Task.isOpen
  | ended reason => Task.hasEnded reason
  | timed => Task.isEnded
  | delivered => Task.hasDelivered true
  | undelivered => Task.hasDelivered false
  | ponged => Task.hasReplied .answered
  | coalesced => Task.hasReplied .coalesced
  | written => Task.hasWritten
  | left reason => Task.wasLeft reason

variable {meter : Meter} {task : Task}

theorem not_counts (unfinished : task.isFinished = false)
    (unbegun : ∀ id stage, task = .attend id stage → stage = .arriving) :
    meter.counts task = false := by
  cases task with
  | finished outcome => cases unfinished
  | attend id stage =>
      rw [unbegun id stage rfl]
      cases meter <;> rfl
  | _ => cases meter <;> rfl

theorem not_counts_of_isPlain (isPlain : task.isPlain = true) :
    meter.counts task = false := by
  cases task with
  | finished outcome =>
      cases outcome <;> try cases isPlain
      all_goals cases meter <;> rfl
  | attend id stage => cases isPlain
  | _ => cases meter <;> rfl

theorem not_counts_of_mayStart
    {starter : Task} (starts : starter.MayStart task) :
    meter.counts task = false := by
  refine not_counts ?_ ?_
  · cases starter <;> cases task <;> first | rfl | exact starts.elim
  · rintro id stage rfl
    cases starter <;> first | exact starts.2 | exact starts.elim

theorem not_counts_of_starts
    {manner : Manner} {peers : Nat}
    (starts : (manner.outsider peers).starts task) :
    meter.counts task = false := by
  obtain ⟨action, -, started, -⟩ := starts
  cases action <;> simp only [Action.Starts] at started
  case send id frame limit =>
    subst started
    cases meter <;> rfl
  case ping peer payload =>
    obtain ⟨known, -, rfl⟩ := started
    cases meter <;> rfl
  case broadcast frame limit =>
    rcases started with ⟨id, rfl⟩ | ⟨deliveries, rfl⟩ <;> cases meter <;> rfl
  case closeFrame id =>
    subst started
    cases meter <;> rfl
  case awaitClose id =>
    subst started
    cases meter <;> rfl
  case wait limit server =>
    rcases started with rfl | ⟨serving, rfl⟩ <;> cases meter <;> rfl

end Meter

/-- The turn of a task moves every meter by what becomes of the task. -/
theorem Credit.balance
    {counters after : Counters} {tally later : Tally} {own next : Task}
    (credit : Credit counters tally own next after later)
    (isOpen : own.isOpen = true → 0 < counters.active) (meter : Meter) :
    meter.value after later + (meter.counts own).toNat =
      meter.value counters tally + (meter.counts next).toNat := by
  have grows : ∀ (counts : Reason → Nat) (reason other : Reason),
      (if other = reason then counts other + 1 else counts other) + 0 =
        counts other + (decide (reason = other)).toNat := by
    intro counts reason other
    by_cases same : reason = other
    · simp [same]
    · simp [same, Ne.symm same]
  cases credit with
  | plain isPlain stays refused =>
      rw [Meter.not_counts_of_isPlain isPlain,
        Meter.not_counts_of_isPlain stays]
      cases meter <;> rfl
  | leaves alarm closing =>
      cases meter with
      | left reason => exact grows tally.left .socketClosed reason
      | _ => rfl
  | ends alarm exit =>
      cases meter with
      | active => exact Nat.sub_add_cancel (isOpen rfl)
      | ended reason => exact grows counters.ended exit.reason reason
      | left reason => exact grows tally.left exit.reason reason
      | _ => rfl
  | departs closing =>
      cases meter with
      | active => exact Nat.sub_add_cancel (isOpen rfl)
      | ended reason => exact grows counters.ended .socketClosed reason
      | _ => rfl
  | _ => cases meter <;> rfl

/-! ### Counting tasks -/

namespace Hub

variable {hub before after : Hub} {kind : Task → Bool}

/-- The number of tasks of some kind. -/
def countTasks (hub : Hub) (kind : Task → Bool) : Nat :=
  hub.tasks.numbers.countP fun number => kind (hub.task number)

/-- Whatever new tasks do not count leaves the count to those that were
there. -/
theorem countTasks_of_new
    (tasks_le : before.tasks.size ≤ after.tasks.size)
    (new : ∀ number, before.tasks.size ≤ number → number < after.tasks.size →
      kind (after.task number) = false) :
    after.countTasks kind = before.tasks.numbers.countP fun number =>
      kind (after.task number) := by
  obtain ⟨more, size⟩ := Nat.exists_eq_add_of_le tasks_le
  have rest : ((List.range more).map (before.tasks.size + ·)).countP
      (fun number => kind (after.task number)) = 0 := by
    refine List.countP_eq_zero.mpr fun number member => ?_
    obtain ⟨offset, below, rfl⟩ := List.mem_map.mp member
    rw [new _ (Nat.le_add_right _ _)
      (by rw [size]; exact Nat.add_lt_add_left (List.mem_range.mp below) _)]
    exact Bool.false_ne_true
  rw [countTasks, Table.numbers, Table.numbers, size, List.range_add,
    List.countP_append, rest, Nat.add_zero]

theorem countTasks_of_keep
    (tasks_le : before.tasks.size ≤ after.tasks.size)
    (kept : ∀ number < before.tasks.size,
      after.task number = before.task number)
    (new : ∀ number, before.tasks.size ≤ number → number < after.tasks.size →
      kind (after.task number) = false) :
    after.countTasks kind = before.countTasks kind := by
  rw [countTasks_of_new tasks_le new]
  refine List.countP_congr fun number member => ?_
  rw [kept number (List.mem_range.mp member)]

theorem countTasks_of_turn
    {task : TaskId} (below : task < before.tasks.size)
    (tasks_le : before.tasks.size ≤ after.tasks.size)
    (kept : ∀ number < before.tasks.size, number ≠ task →
      after.task number = before.task number)
    (new : ∀ number, before.tasks.size ≤ number → number < after.tasks.size →
      kind (after.task number) = false) :
    after.countTasks kind + (kind (before.task task)).toNat =
      before.countTasks kind + (kind (after.task task)).toNat := by
  rw [countTasks_of_new tasks_le new]
  exact countP_add_toNat List.nodup_range (List.mem_range.mpr below)
    fun number member different =>
      congrArg kind (kept number (List.mem_range.mp member) different)

/-- Tasks that are there count the same if they are of both kinds or of
neither. -/
theorem countTasks_congr {one other : Task → Bool}
    (same : ∀ number, one (hub.task number) = other (hub.task number)) :
    hub.countTasks one = hub.countTasks other :=
  List.countP_congr fun number _ => by rw [same number]

theorem countTasks_pos {task : TaskId} (below : task < hub.tasks.size)
    (isKind : kind (hub.task task) = true) : 0 < hub.countTasks kind :=
  List.countP_pos_iff.mpr ⟨task, List.mem_range.mpr below, isKind⟩

/-- If every task counts as often as in all parts together, so do all tasks. -/
theorem countTasks_eq_sum
    (hub : Hub) {whole : Task → Bool} {parts : List (Task → Bool)}
    (splits : ∀ task, (whole task).toNat =
      (parts.map fun part => (part task).toNat).sum) :
    hub.countTasks whole = (parts.map hub.countTasks).sum := by
  unfold countTasks
  induction hub.tasks.numbers with
  | nil => simp
  | cons number rest induction =>
      calc
        _ = rest.countP (fun number => whole (hub.task number)) +
          (whole (hub.task number)).toNat := by
          rw [List.countP_cons]
          cases whole (hub.task number) <;> rfl
        _ = (parts.map fun part =>
          rest.countP (fun number => part (hub.task number)) +
            (part (hub.task number)).toNat).sum := by
              rw [induction, splits, List.sum_map_add]
        _ = _ := by
          refine congrArg List.sum (List.map_congr_left fun part _ => ?_)
          rw [List.countP_cons]
          cases part (hub.task number) <;> rfl

end Hub

/-! ### Balance -/

def Hub.reading (hub : Hub) (meter : Meter) : Nat :=
  meter.value hub.counters hub.tally

/-- Every meter shows the number of tasks that it counts. -/
def Balanced (hub : Hub) : Prop :=
  ∀ meter : Meter, hub.reading meter = hub.countTasks meter.counts

theorem Meter.value_of_refusing
    {before after : Hub} (refusing : Refusing before after) (meter : Meter) :
    after.reading meter = before.reading meter := by
  obtain ⟨refused, same⟩ := refusing.counters
  rw [Hub.reading, same, refusing.tally]
  cases meter <;> rfl

namespace Balanced

variable {hub before after : Hub}

theorem start (configuration : Configuration) (chance : Nat → Nat) :
    Balanced { Hub.start configuration with chance } := by
  intro meter
  cases meter <;> rfl

/-- A meter that counts every task as often as some other meters together shows
their sum. -/
theorem reading_eq_sum
    (balanced : Balanced hub) {whole : Meter} {parts : List Meter}
    (splits : ∀ task,
      (whole.counts task).toNat =
        (parts.map fun part => (part.counts task).toNat).sum) :
    hub.reading whole = (parts.map hub.reading).sum := by
  have split : hub.countTasks whole.counts =
      ((parts.map Meter.counts).map hub.countTasks).sum :=
    hub.countTasks_eq_sum fun task => by
      rw [List.map_map]
      exact splits task
  rw [balanced whole, split, List.map_map]
  exact congrArg List.sum (List.map_congr_left fun part _ =>
    (balanced part).symm)

theorem keep
    (balanced : Balanced before) (refusing : Refusing before after)
    (tasks_le : before.tasks.size ≤ after.tasks.size)
    (kept : ∀ number < before.tasks.size,
      after.task number = before.task number)
    (new : ∀ meter : Meter, ∀ number, before.tasks.size ≤ number →
      number < after.tasks.size →
      meter.counts (after.task number) = false) : Balanced after := by
  intro meter
  rw [Meter.value_of_refusing refusing, balanced meter]
  exact (Hub.countTasks_of_keep tasks_le kept (new meter)).symm

theorem goOn_of_lt
    (balanced : Balanced hub) {task : TaskId} (below : task < hub.tasks.size) :
    Balanced (hub.goOn task) := by
  have course := Course.goOn hub task
  have isOpen : (hub.task task).isOpen = true → 0 < hub.counters.active := by
    intro counts
    have counted : hub.counters.active = hub.countTasks Task.isOpen :=
      balanced .active
    rw [counted]
    exact Hub.countTasks_pos below counts
  intro meter
  have credit := (Hub.credits_goOn hub below).balance isOpen meter
  have turned : (hub.goOn task).countTasks meter.counts +
      (meter.counts (hub.task task)).toNat =
      hub.countTasks meter.counts +
        (meter.counts ((hub.goOn task).task task)).toNat :=
    Hub.countTasks_of_turn below course.tasks_le
      (fun number inside different =>
        course.task number inside fun same =>
          different (Option.some.inj same).symm)
      fun number above inside =>
        Meter.not_counts_of_mayStart (course.newTask number above inside).1
  have counted : meter.value hub.counters hub.tally =
      hub.countTasks meter.counts := balanced meter
  rw [counted, ← turned] at credit
  exact Nat.add_right_cancel credit

theorem goOn (balanced : Balanced hub) (task : TaskId) :
    Balanced (hub.goOn task) := by
  by_cases below : task < hub.tasks.size
  · exact balanced.goOn_of_lt below
  · rw [Hub.goOn_of_finished (hub.task_of_size_le task (Nat.not_lt.mp below))]
    exact balanced.keep ⟨⟨hub.counters.refused, rfl⟩, rfl⟩ (Nat.le_refl _)
      (fun _ _ => rfl) fun _ _ above inside =>
        absurd inside (Nat.not_lt.mpr above)

/-- Every turnover leaves the meters balanced. -/
theorem turn
    {manner : Manner} (balanced : Balanced before)
    (turnover : Turnover (manner.outsider before.peers.size) before after) :
    Balanced after := by
  cases turnover with
  | outside outside =>
      exact balanced.keep outside.refusing outside.tasks_le outside.task
        fun meter number above inside =>
        Meter.not_counts_of_starts (outside.newTask number above inside).1
  | register added =>
      exact balanced.keep ⟨⟨before.counters.refused, rfl⟩, rfl⟩ (Nat.le_refl _)
        (fun _ _ => rfl) fun _ _ above inside =>
          absurd inside (Nat.not_lt.mpr above)
  | @serve socket task added opened serves =>
      refine balanced.keep ⟨⟨before.counters.refused, rfl⟩, rfl⟩ ?_
        (fun number below => ?_) fun meter number above inside => ?_
      · rw [Hub.size_tasks_spawn]
        exact Nat.le_succ _
      · rw [Hub.task_spawn]
        exact if_neg (Nat.ne_of_lt below)
      · rw [Hub.size_tasks_spawn] at inside
        rw [Hub.task_spawn,
          if_pos (Nat.le_antisymm (Nat.le_of_lt_succ inside) above)]
        rcases serves with rfl | rfl <;> cases meter <;> rfl
  | go isReady => exact balanced.goOn _
  | @tick later still forward whole passes =>
      obtain ⟨ready, same, -⟩ := Hub.ring_eq { before with now := later }
      rw [same]
      exact balanced.keep ⟨⟨before.counters.refused, rfl⟩, rfl⟩ (Nat.le_refl _)
        (fun _ _ => rfl) fun _ _ above inside =>
          absurd inside (Nat.not_lt.mpr above)

end Balanced

end BroadcastHub.Server
