import BroadcastHub.Proofs.Server.Housing

/-!
# Each peer is served by one task

The task that serves a peer is the one that is written down as its attendant,
so no two tasks serve the same peer; a conversation that turns into a session
is over when the session's task begins.
-/

namespace BroadcastHub.Server

open Scenario

/-- Whoever serves a peer is its attendant. -/
def Attended (hub : Hub) : Prop :=
  ∀ number id, (hub.task number).serves? = some id →
    (hub.peer id).attendant = some number

namespace Task

variable {id : PeerId} {task other : Task}

theorem serves?_of_finished (finished : task.isFinished = true) :
    task.serves? = none := by
  cases task with
  | finished outcome => rfl
  | _ => cases finished

theorem converse_of_mayStart
    (starts : task.MayStart other) (serves : other.serves? = some id) :
    task = .converse id := by
  cases task <;> cases other <;> simp only [MayStart] at starts
  case attend.deliver => cases serves
  case attend.pong => cases serves
  case converse.attend => rw [← starts.1, Option.some.inj serves]

theorem serves?_of_starts {manner : Manner} {peers : Nat}
    (starts : (manner.outsider peers).starts task) : task.serves? = none := by
  obtain ⟨action, -, started, -⟩ := starts
  cases action <;> simp only [Action.Starts] at started
  case send => subst started; rfl
  case ping => obtain ⟨known, -, rfl⟩ := started; rfl
  case broadcast => rcases started with ⟨peer, rfl⟩ | ⟨deliveries, rfl⟩ <;> rfl
  case closeFrame => subst started; rfl
  case awaitClose => subst started; rfl
  case wait => rcases started with rfl | ⟨serving, rfl⟩ <;> rfl

end Task

namespace Attended

variable {before after hub : Hub} {task : TaskId} {id : PeerId}

theorem sole
    (attended : Attended hub) {first second : TaskId}
    (one : (hub.task first).serves? = some id)
    (two : (hub.task second).serves? = some id) : first = second :=
  Option.some.inj ((attended first id one).symm.trans (attended second id two))

/-- Who serves afterwards has served before, unless somebody was started. -/
theorem ofCourse
    {doer : Doer} (attended : Attended before)
    (course : Course doer before after)
    (starts : ∀ task, doer.starts task → task.serves? = none)
    (becomes : ∀ number task, doer.task = some number → doer.becomes task →
      task.serves? = (before.task number).serves?) : Attended after := by
  have sameAttendant :
      ∀ peer, (after.peer peer).attendant = (before.peer peer).attendant :=
    fun peer => (course.peer peer).attendant fun _ started => by
      cases starts _ started
  intro number peer serves
  rw [sameAttendant]
  by_cases below : number < before.tasks.size
  · by_cases own : doer.task = some number
    · rcases course.own number own with same | finished | later
      · exact attended number peer (same ▸ serves)
      · rw [Task.serves?_of_finished finished] at serves
        cases serves
      · exact attended number peer
          ((becomes number _ own later).symm.trans serves)
    · rw [course.task number below own] at serves
      exact attended number peer serves
  · by_cases inside : number < after.tasks.size
    · rw [starts _
        (course.newTask number (Nat.not_lt.mp below) inside).1] at serves
      cases serves
    · rw [Hub.task_of_size_le after number (Nat.not_lt.mp inside)] at serves
      cases serves

/-- A session takes over from a conversation. -/
theorem beginSession
    (attended : Attended hub) (inside : id < hub.peers.size)
    (below : task < hub.tasks.size)
    (isAttendant : (hub.peer id).attendant = some task) :
    Attended (hub.beginSession task id) := by
  obtain ⟨ready, watches, same, -⟩ := Hub.finish_eq
    ((hub.updatePeer id fun peer =>
      { peer with holdsSlot := true, attendant := some hub.nextTask }).spawn
        (.attend id .arriving))
    task .over
  intro number peer regards
  unfold Hub.beginSession at regards ⊢
  simp only [same] at regards ⊢
  change ((Hub.setTask _ task _).task number).serves? = some peer at regards
  change ((hub.updatePeer id _).peer peer).attendant = some number
  rw [Hub.task_setTask] at regards
  split at regards
  · cases regards
  · rename_i notOwn
    rw [Hub.task_spawn] at regards
    split at regards
    · rename_i isNew
      have isPeer : id = peer := Option.some.inj regards
      subst isPeer
      rw [Hub.peer_updatePeer_self hub id _ inside]
      exact congrArg some isNew.symm
    · have was : (hub.task number).serves? = some peer := regards
      have different : id ≠ peer := by
        intro isPeer
        subst isPeer
        have isTask : task = number :=
          Option.some.inj (isAttendant.symm.trans (attended number id was))
        refine notOwn ⟨isTask, ?_⟩
        rw [← isTask, Hub.size_tasks_spawn]
        exact Nat.lt_succ_of_lt below
      rw [Hub.peer_updatePeer_of_ne hub id peer _ different]
      exact attended number peer was

theorem goOn (housed : Housed hub) (attended : Attended hub) (task : TaskId) :
    Attended (hub.goOn task) := by
  by_cases converses : ∃ id, hub.task task = .converse id
  · obtain ⟨id, isTask⟩ := converses
    let start : Hub := { hub with ready := hub.ready.erase task }
    have serves : (hub.task task).serves? = some id := by
      rw [isTask]
      rfl
    have inside := housed.tasks task id (Task.regards_of_serves serves)
    have below : task < hub.tasks.size :=
      hub.lt_size_of_task task (by rw [isTask]; rintro ⟨⟩)
    let doer : Doer :=
      { task := some task
        serves := some id
        starts := fun _ => False }
    have doerInside : doer.Inside start := by
      rintro _ ⟨⟩
      exact below
    have polled : hub.goOn task = start.pollConversation task id := by
      have same : start.task task = .converse id := isTask
      show start.poll task = _
      rw [Hub.poll, same]
    have quiet : ∀ after, Course doer start after → Attended after := by
      intro after course
      have attendedStart : Attended start := attended
      exact attendedStart.ofCourse course (by rintro _ ⟨⟩) (by rintro _ _ _ ⟨⟩)
    rw [polled]
    rcases Course.pollConversation_cases start doerInside rfl rfl with
      course | ⟨middle, course, same⟩
    · exact quiet _ course
    · rw [same]
      have isAttendant : (middle.peer id).attendant = some task :=
        ((course.peer id).attendant fun _ never => never).trans
          (attended task id serves)
      exact (quiet middle course).beginSession (course.peers ▸ inside)
        (Nat.lt_of_lt_of_le below course.tasks_le) isAttendant
  · refine attended.ofCourse (Course.goOn hub task) ?_ ?_
    · intro other starts
      cases serves : other.serves? with
      | none => rfl
      | some id =>
          exact absurd ⟨id, Task.converse_of_mayStart starts serves⟩ converses
    · rintro number other ⟨⟩ follows
      exact Task.serves?_of_follows follows

theorem start (configuration : Configuration) (chance : Nat → Nat) :
    Attended { Hub.start configuration with chance } := by
  intro number id serves
  rw [Hub.task_of_size_le { Hub.start configuration with chance } number
    (Nat.zero_le number)] at serves
  cases serves

/-- Every turnover leaves each peer to its attendant. -/
theorem turn
    {manner : Manner} (housed : Housed before) (attended : Attended before)
    (turnover : Turnover (manner.outsider before.peers.size) before after) :
    Attended after := by
  have known : ∀ number id, (before.task number).serves? = some id →
      id ≠ before.peers.size := by
    intro number id serves same
    exact Nat.ne_of_lt (housed.tasks number id (Task.regards_of_serves serves))
      same
  cases turnover with
  | outside outside =>
      obtain ⟨news, -, peerOutside, -⟩ := outside.news
      intro number id serves
      rw [(peerOutside id).attendant]
      by_cases below : number < before.tasks.size
      · rw [outside.task number below] at serves
        exact attended number id serves
      · by_cases inside : number < after.tasks.size
        · rw [Task.serves?_of_starts
            (outside.newTask number (Nat.not_lt.mp below) inside).1] at serves
          cases serves
        · rw [Hub.task_of_size_le after number (Nat.not_lt.mp inside)] at serves
          cases serves
  | register added =>
      intro number id serves
      rw [Hub.peer_addPeer, if_neg (known number id serves)]
      exact attended number id serves
  | @serve socket task added opened serves =>
      intro number id isServer
      change ((before.addPeer
        { socket, attendant := some before.nextTask }).peer id).attendant = _
      rw [Hub.task_spawn] at isServer
      rw [Hub.peer_addPeer]
      split at isServer
      · rename_i isNew
        rw [if_pos
          (Housed.eq_of_opens serves (Task.regards_of_serves isServer)), isNew]
        rfl
      · have was : (before.task number).serves? = some id := isServer
        rw [if_neg (known number id was)]
        exact attended number id was
  | go isReady => exact goOn housed attended _
  | @tick later still forward whole passes =>
      obtain ⟨ready, same, -⟩ := Hub.ring_eq { before with now := later }
      rw [same]
      exact attended

end Attended

end BroadcastHub.Server
