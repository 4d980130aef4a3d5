import BroadcastHub.Proofs.Scenario.Turnover
import BroadcastHub.Proofs.Server.WriteTurns

/-!
# What has not begun is ready

Sessions, deliveries and heartbeat replies are ready from their start on, and
they have begun once they have gone on.  So none of them is left to begin when
the clock moves.
-/

namespace BroadcastHub.Server

open Scenario

/-- Whether a session, a delivery or a heartbeat reply has not begun. -/
def Task.isUnbegun : Task → Bool
  | attend _ .arriving => true
  | deliver _ _ _ .unstarted => true
  | pong _ _ .unstarted => true
  | _ => false

/-- What has not begun is ready. -/
def Prompt (hub : Hub) : Prop :=
  ∀ number, (hub.task number).isUnbegun = true → number ∈ hub.ready

namespace Task

variable {task other : Task}

theorem isUnbegun_of_finished (finished : task.isFinished = true) :
    task.isUnbegun = false := by
  cases task with
  | finished outcome => rfl
  | _ => cases finished

/-- What goes on has begun, unless it is a delivery. -/
theorem isUnbegun_of_follows (follows : task.Follows other)
    (plain : ∀ peer frame limit stage, task ≠ .deliver peer frame limit stage) :
    other.isUnbegun = false := by
  cases task <;> cases other <;> simp only [Follows] at follows
  case attend.attend peer before id stage =>
    cases stage with
    | arriving => exact absurd rfl follows.2
    | _ => rfl
  case deliver.deliver => exact absurd rfl (plain _ _ _ _)
  case pong.pong peer payload before other payload stage =>
    cases stage with
    | unstarted => exact absurd rfl follows.2.2
    | _ => rfl
  all_goals rfl

end Task

namespace Hub

variable {hub after : Hub} {task : TaskId} {id : PeerId} {frame : Frame}
  {span : Span} {stage next : Writing}

theorem begun_boundFrame
    {limit : Alarm} {standing : Standing}
    (bound : hub.boundFrame id task frame span limit standing =
      (after, .pending next)) :
    next ≠ .unstarted := by
  unfold boundFrame at bound
  split at bound
  · cases bound
  · split at bound
    · cases bound
    · cases bound
      cases standing <;> rintro ⟨⟩

theorem begun_pollFrame
    (polled : hub.pollFrame id task frame span stage = (after, .pending next)) :
    next ≠ .unstarted := by
  have advanced :
      hub.advanceFrame id task frame span stage = (after, .pending next) := by
    unfold pollFrame at polled
    split at polled
    · cases polled
    · rename_i same
      rw [same]
      exact polled
  cases stage with
  | unstarted =>
      simp only [advanceFrame] at advanced
      split at advanced
      · cases advanced
      · exact begun_boundFrame advanced
  | queued limit => exact begun_boundFrame advanced
  | underway operation limit => exact begun_boundFrame advanced

variable (hub)

theorem begun_pollDelivery (below : task < hub.tasks.size) (stage : Writing) :
    ((hub.pollDelivery task id frame span stage).task task).isUnbegun =
      false := by
  have stays := WriteTurn.below_pollFrame hub below id frame span stage
  unfold pollDelivery
  split <;> rename_i polled <;> rw [polled] at stays
  · rw [task_finishDelivery _ _ _ _ stays]
    rfl
  · rename_i after next
    rw [task_setTask_self _ _ _ stays]
    have begun := begun_pollFrame polled
    cases next with
    | unstarted => exact absurd rfl begun
    | _ => rfl

theorem begun_writePong
    (below : task < hub.tasks.size) (payload : Octets) (stage : Writing) :
    ((hub.writePong task id payload stage).task task).isUnbegun = false := by
  have stays := WriteTurn.below_pollFrame hub below id (.pong payload)
    hub.timing.pongWrite stage
  unfold writePong
  split <;> rename_i after outcome polled <;> rw [polled] at stays
  · cases outcome with
    | ok =>
        exact Task.isUnbegun_of_finished
          (congrArg Task.isFinished
            (task_finish_self ((after.setPonging id false).count _) _ _ stays))
    | error fault =>
        exact Task.isUnbegun_of_finished
          (congrArg Task.isFinished
            (task_finish_self (after.setPonging id false) _ _ stays))
  · rw [task_setTask_self _ _ _ stays]
    rfl

theorem begun_finishPing
    (below : task < hub.tasks.size) (result : HeartbeatResult) :
    ((hub.finishPing task result).task task).isUnbegun = false := by
  rw [finishPing, task_finish_self hub _ _ below]
  rfl

theorem begun_delayPong (below : task < hub.tasks.size) (payload : Octets) :
    ((hub.delayPong task id payload).task task).isUnbegun = false := by
  let drawn : Hub := { hub with drawn := hub.drawn + 1 }
  have setting : ∀ ends, ((drawn.noteAlarm.setTask task
      (.pong (some id) payload (.delaying ends))).task task).isUnbegun =
        false := by
    intro ends
    rw [task_setTask_self drawn.noteAlarm _ _ below]
    rfl
  unfold delayPong
  split
  · exact begun_writePong hub below payload .unstarted
  · simp only
    split
    · exact begun_writePong drawn below payload .unstarted
    · exact setting _

theorem begun_startPong (below : task < hub.tasks.size) (payload : Octets) :
    ((hub.startPong task id payload).task task).isUnbegun = false := by
  let renewed := hub.renewDeadline id hub.timing.heartbeat
  unfold startPong
  split
  · simp only
    split
    · exact begun_finishPing (renewed.count _) below _
    · exact begun_delayPong (renewed.setPonging id true) below payload
  · exact begun_finishPing hub below _

theorem task_arrive (below : task < hub.tasks.size) (id : PeerId) :
    (hub.arrive task id).task task = .attend id (.reading none) := by
  refine task_setTask_self _ _ _ ?_
  show task < (ite _ _ (hub.register id firstWindow) : Hub).tasks.size
  split
  · rw [tasks_close]
    exact below
  · exact below

/-- Whatever goes on has begun. -/
theorem begun_goOn (below : task < hub.tasks.size) :
    ((hub.goOn task).task task).isUnbegun = false := by
  let start : Hub := { hub with ready := hub.ready.erase task }
  have goesOn : ∀ later, later = hub.task task → later.isUnbegun = false →
      (∀ peer frame limit stage, later ≠ .deliver peer frame limit stage) →
      ((hub.goOn task).task task).isUnbegun = false := by
    rintro _ rfl begun plain
    rcases (Course.goOn hub task).own task rfl with same | finished | follows
    · rw [same]
      exact begun
    · exact Task.isUnbegun_of_finished finished
    · exact Task.isUnbegun_of_follows follows plain
  have polled : hub.goOn task = start.poll task := rfl
  cases isTask : hub.task task with
  | attend id stage =>
      cases stage with
      | arriving =>
          have same : start.task task = .attend id .arriving := isTask
          rw [polled, Hub.poll, same]
          exact congrArg Task.isUnbegun (task_arrive start below id)
      | _ => exact goesOn _ isTask.symm rfl (by rintro _ _ _ _ ⟨⟩)
  | deliver id frame span stage =>
      have same : start.task task = .deliver id frame span stage := isTask
      rw [polled, Hub.poll, same]
      exact begun_pollDelivery start below stage
  | pong peer payload stage =>
      cases stage with
      | unstarted =>
          have same : start.task task = .pong peer payload .unstarted := isTask
          rw [polled, Hub.poll, same]
          cases peer with
          | none => exact begun_finishPing start below _
          | some id => exact begun_startPong start below payload
      | _ => exact goesOn _ isTask.symm rfl (by rintro _ _ _ _ ⟨⟩)
  | _ => exact goesOn _ isTask.symm rfl (by rintro _ _ _ _ ⟨⟩)

end Hub

namespace Prompt

variable {before after : Hub}

theorem start (configuration : Configuration) (chance : Nat → Nat) :
    Prompt { Hub.start configuration with chance } := by
  intro number unbegun
  rw [Hub.task_of_size_le { Hub.start configuration with chance } number
    (Nat.zero_le number)] at unbegun
  cases unbegun

theorem goOn {hub : Hub} (prompt : Prompt hub) (task : TaskId) :
    Prompt (hub.goOn task) := by
  have course := Course.goOn hub task
  intro number unbegun
  by_cases inside : number < hub.tasks.size
  · by_cases own : number = task
    · subst own
      rw [Hub.begun_goOn hub inside] at unbegun
      cases unbegun
    · have other : (Doer.running task (hub.task task)).task ≠ some number :=
        fun same => own (Option.some.inj same).symm
      rw [course.task number inside other] at unbegun
      exact course.ready number (prompt number unbegun) other
  · by_cases new : number < (hub.goOn task).tasks.size
    · exact (course.newTask number (Nat.not_lt.mp inside) new).2
    · rw [Hub.task_of_size_le _ number (Nat.not_lt.mp new)] at unbegun
      cases unbegun

/-- Every turnover leaves what has not begun ready. -/
theorem turn {outsider : Outsider} (prompt : Prompt before)
    (turnover : Turnover outsider before after) : Prompt after := by
  cases turnover with
  | outside outside =>
      intro number unbegun
      by_cases inside : number < before.tasks.size
      · rw [outside.task number inside] at unbegun
        exact outside.ready number (prompt number unbegun)
      · by_cases new : number < after.tasks.size
        · exact (outside.newTask number (Nat.not_lt.mp inside) new).2
        · rw [Hub.task_of_size_le _ number (Nat.not_lt.mp new)] at unbegun
          cases unbegun
  | register added => exact prompt
  | @serve socket task added opened serves =>
      intro number unbegun
      rw [Hub.task_spawn] at unbegun
      rw [Hub.ready_spawn]
      split at unbegun
      · rename_i isNew
        exact List.mem_append.mpr (.inr (List.mem_singleton.mpr isNew))
      · exact List.mem_append.mpr (.inl (prompt number unbegun))
  | go isReady => exact prompt.goOn _
  | @tick later still forward whole passes =>
      obtain ⟨ready, same, kept, -⟩ := Hub.ring_eq { before with now := later }
      rw [same]
      exact fun number unbegun => kept number (prompt number unbegun)

theorem begun
    {hub : Hub} (prompt : Prompt hub) (still : hub.ready = [])
    (number : TaskId) : (hub.task number).isUnbegun = false := by
  cases unbegun : (hub.task number).isUnbegun with
  | false => rfl
  | true =>
      have member := prompt number unbegun
      rw [still] at member
      cases member

end Prompt

end BroadcastHub.Server
