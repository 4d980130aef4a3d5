import BroadcastHub.Proofs.Server.Residence
import BroadcastHub.Proofs.Server.Sends

/-!
# What is left of a session that has ended

When a session ends, its task is done, or it has asked the socket to close and
waits for that within a limit.  The limit runs from the end of the session, and
the clock does not pass by it.
-/

namespace BroadcastHub.Server

open Scenario

/-- How the task of a session stands that ended at a time. -/
inductive Parted
    (hub : Hub) (task : TaskId) (id : PeerId) (ended : Instant) : Prop
  | done (isFinished : (hub.task task).isFinished = true) :
      Parted hub task id ended
  | closing
      {closing : Closing}
      (isTask : hub.task task = .attend id (.parting closing))
      (due : closing.limit.due = ended.after Hub.closeLimit)
      (inTime : hub.now ≤ closing.limit.due.tick)
      (awake : closing.limit.due ≤ hub.now → task ∈ hub.ready) :
      Parted hub task id ended

/-! ### One turn -/

namespace Hub

variable {hub after : Hub} {task : TaskId} {id : PeerId} {ended : Instant}
  {closing : Closing}

theorem boundClosing_some {limit : Alarm} {standing : Standing}
    (bound : hub.boundClosing id limit standing = (after, some closing)) :
    closing.limit = limit ∧ after.now < limit.due := by
  unfold boundClosing at bound
  split at bound
  · split at bound
    · cases bound
    · rename_i notRung
      cases bound
      exact ⟨rfl, Nat.not_le.mp fun late => notRung (decide_eq_true late)⟩
  · cases bound

theorem startClosing_some
    (started : hub.startClosing id task = (after, some closing)) :
    closing.limit.due = hub.now.after closeLimit ∧
      after.now < closing.limit.due := by
  unfold startClosing at started
  split at started
  · obtain ⟨same, early⟩ := boundClosing_some started
    rw [same]
    exact ⟨rfl, early⟩
  · cases started

theorem proceedClosing_some {current : Closing}
    (proceeded : hub.proceedClosing id task current = (after, some closing)) :
    closing.limit = current.limit ∧ after.now < closing.limit.due := by
  unfold proceedClosing at proceeded
  obtain ⟨same, early⟩ := boundClosing_some proceeded
  rw [same]
  exact ⟨rfl, early⟩

theorem parted_finishSession (below : task < hub.tasks.size) (exit : Exit) :
    Parted (hub.finishSession task id exit) task id ended := by
  refine .done
    (congrArg Task.isFinished (task_finish_self _ task (.attended exit) ?_))
  rw [tasks_releaseSlot]
  exact below

theorem parted_settleParting
    (below : task < hub.tasks.size) (next : Option Closing)
    (bounded : ∀ closing, next = some closing →
      closing.limit.due = ended.after closeLimit ∧
        hub.now < closing.limit.due) :
    Parted (hub.settleParting task id next) task id ended := by
  cases next with
  | none => exact parted_finishSession below .socketClosed
  | some closing =>
      obtain ⟨due, early⟩ := bounded closing rfl
      refine .closing (task_setTask_self hub task _ below) due ?_ fun late => ?_
      · exact Nat.le_trans (Nat.le_of_lt early) (Instant.le_tick _)
      · exact absurd early (Nat.not_lt.mpr late)

theorem parted_leave (below : task < hub.tasks.size) (exit : Exit) :
    Parted (hub.leave task id exit) task id hub.now := by
  let gone := (hub.note (.left id exit)).unregister id
  have finished :
      ∀ exit, Parted (gone.finishSession task id exit) task id hub.now :=
    parted_finishSession below
  cases exit with
  | socketClosed =>
      have course :
          Course (.writer task id) gone (gone.startClosing id task).1 :=
        .startClosing gone (Doer.inside_writer below id) rfl rfl
      refine parted_settleParting (Nat.lt_of_lt_of_le below course.tasks_le) _
        fun closing same => ?_
      exact @startClosing_some gone _ task id closing (Prod.ext rfl same)
  | _ => exact finished _

/-- A session that reads and ends is parted from then on. -/
theorem parted_goOn
    {alarm : Option Alarm}
    (isTask : hub.task task = .attend id (.reading alarm))
    (below : task < hub.tasks.size) (isOver : (hub.goOn task).IsOver task id) :
    Parted (hub.goOn task) task id hub.now := by
  let start : Hub := { hub with ready := hub.ready.erase task }
  have polled : hub.goOn task = start.read task id alarm := by
    have same : start.task task = .attend id (.reading alarm) := isTask
    show start.poll task = _
    rw [poll, same]
    rfl
  obtain ⟨alarmsSet, unset⟩ := withAlarm_eq start alarm
  have waiting : task < (start.withAlarm alarm).tasks.size := by
    rw [unset]
    exact below
  have now : (start.withAlarm alarm).now = hub.now := now_withAlarm start alarm
  have leaves :
      ∀ middle : Hub, middle.now = hub.now → task < middle.tasks.size → ∀ exit,
      Parted (middle.leave task id exit) task id hub.now :=
    fun middle same inside exit => same ▸ parted_leave inside exit
  have turn := read_turn start task id alarm
  rw [polled] at isOver ⊢
  generalize start.read task id alarm = after at turn isOver ⊢
  cases turn with
  | closed isClosed => exact leaves start rfl below _
  | moved isOpen rung moved =>
      obtain ⟨tasks, ready, same, isReading, -⟩ :=
        readOn_eq (start.withAlarm alarm) id waiting
      rw [same] at isOver
      exact absurd isOver (not_isOver_of_reading isReading)
  | expired isOpen rung notMoved => exact leaves _ now waiting _
  | waits isOpen early taken =>
      exact absurd isOver
        (not_isOver_of_reading (task_setTask_self _ task _ waiting))
  | @ended socket isOpen early taken =>
      exact leaves ((start.withAlarm alarm).setSocket id socket) now waiting _
  | @failed socket fault isOpen early taken =>
      exact leaves (((start.withAlarm alarm).setSocket id socket).note
        (.took id (.error fault))) now waiting _
  | @takes socket frame isOpen early taken =>
      let noted := ((start.withAlarm alarm).setSocket id socket).note
        (.took id (.ok frame))
      by_cases isClose : frame = .close
      · subst isClose
        exact leaves (noted.renewDeadline id noted.timing.heartbeat) now waiting
          .closeFrame
      · obtain ⟨tasks, ready, acts, same, isReading, -⟩ :=
          act_eq noted id waiting isClose
        rw [same] at isOver
        exact absurd isOver (not_isOver_of_reading isReading)

end Hub

/-! ### The whole farewell -/

namespace Parted

variable {outsider : Outsider} {before after hub : Hub} {task : TaskId}
  {id : PeerId} {ended : Instant}

/-- The close frame goes on. -/
theorem goOn
    (parted : Parted hub task id ended) (below : task < hub.tasks.size) :
    Parted (hub.goOn task) task id ended := by
  cases parted with
  | done isFinished =>
      obtain ⟨outcome, isTask⟩ := Task.exists_outcome isFinished
      rw [Hub.goOn_of_finished isTask]
      exact .done isFinished
  | @closing current isTask due =>
      let start : Hub := { hub with ready := hub.ready.erase task }
      have same : start.task task = .attend id (.parting current) := isTask
      have polled :
          hub.goOn task = start.pollSession task id (.parting current) := by
        show start.poll task = _
        rw [Hub.poll, same]
      have course : Course (.writer task id) start
          (start.proceedClosing id task current).1 :=
        .proceedClosing start (Doer.inside_writer below id) rfl rfl current
      rw [polled]
      refine Hub.parted_settleParting (Nat.lt_of_lt_of_le below course.tasks_le)
        _ fun next isNext => ?_
      obtain ⟨sameLimit, early⟩ := Hub.proceedClosing_some (Prod.ext rfl isNext)
      exact ⟨(congrArg Alarm.due sameLimit).trans due, early⟩

/-- Every turnover leaves the farewell within its limit. -/
theorem turn
    (parted : Parted before task id ended) (below : task < before.tasks.size)
    (turnover : Turnover outsider before after) :
    Parted after task id ended := by
  have still : task ∈ before.ready → after.now = before.now := turnover.now_eq
  cases turnover.task below with
  | own => exact parted.goOn below
  | kept kept =>
      cases parted with
      | done isFinished =>
          refine .done ?_
          rw [kept.sameTask]
          exact isFinished
      | closing isTask due inTime awake =>
          exact .closing (kept.sameTask.trans isTask) due (kept.now ▸ inTime)
            fun late =>
            kept.ready (awake (kept.now ▸ late))
  | @tick later forward passes =>
      obtain ⟨ready, same, kept, rung⟩ :=
        Hub.ring_eq { before with now := later }
      rw [same]
      cases parted with
      | done isFinished => exact .done isFinished
      | @closing current isTask due inTime awake =>
          have listed : current.limit ∈ (before.task task).alarms := by
            rw [isTask]
            exact List.mem_cons_self
          have waiting := Hub.mem_alarms before task below listed
          refine .closing isTask due ?_ fun late =>
            rung current.limit task waiting (decide_eq_true late)
          exact Nat.le_trans (passes _ task waiting)
            (Nat.max_le.mpr ⟨inTime, Nat.le_refl _⟩)

end Parted

end BroadcastHub.Server
