import BroadcastHub.Proofs.Server.Slots

/-!
# Upgrades that fail

A client that was told that a session follows may be gone before its connection
is turned over.  Then the task that was to serve the session ends at once and
gives the slot back; what was known of tasks, sessions and slots still holds.
-/

namespace BroadcastHub.Server

namespace Hub

/-- Whether a client was told that a session follows, and waits for it with its
task. -/
structure Upgrading (hub : Hub) (task : TaskId) (id : PeerId) : Prop where
  isTask : hub.task task = .attend id .arriving
  isSwitched : (hub.peer id).socket.isSwitched = true

/-- The connection cannot be turned over: no session begins. -/
def failUpgrade (hub : Hub) (task : TaskId) (id : PeerId) : Hub :=
  (hub.releaseSlot id).finish task .over

variable {hub : Hub} {task : TaskId} {id : PeerId}

theorem course_failUpgrade (isTask : hub.task task = .attend id .arriving) :
    Course (.running task (hub.task task)) hub (hub.failUpgrade task id) := by
  have inside : (Doer.running task (hub.task task)).Inside hub := by
    rintro _ ⟨⟩
    exact hub.lt_size_of_task task (by rw [isTask]; rintro ⟨⟩)
  have serves : (Doer.running task (hub.task task)).serves = some id := by
    rw [isTask]
    rfl
  have released :
      Course (.running task (hub.task task)) hub (hub.releaseSlot id) :=
    .releaseSlot hub inside (.ofServes serves)
  exact released.trans (.finish _ (released.inside inside) rfl _) inside

theorem task_failUpgrade (isTask : hub.task task = .attend id .arriving) :
    (hub.failUpgrade task id).task task = .finished .over := by
  refine task_finish_self _ task .over ?_
  rw [tasks_releaseSlot]
  exact hub.lt_size_of_task task (by rw [isTask]; rintro ⟨⟩)

theorem chronicle_failUpgrade :
    (hub.failUpgrade task id).chronicle = hub.chronicle := by
  rw [failUpgrade, chronicle_finish]
  unfold releaseSlot
  split <;> rfl

theorem registered_failUpgrade (other : PeerId) :
    ((hub.failUpgrade task id).peer other).registered =
      (hub.peer other).registered := by
  rw [failUpgrade, peer_finish]
  unfold releaseSlot
  split
  · exact peer_updatePeer_keeps hub id other fun _ => rfl
  · rfl

theorem closed_failUpgrade (other : PeerId) :
    ((hub.failUpgrade task id).peer other).closed =
      (hub.peer other).closed := by
  rw [failUpgrade, peer_finish]
  unfold releaseSlot
  split
  · exact peer_updatePeer_keeps hub id other fun _ => rfl
  · rfl

end Hub

variable {hub : Hub} {task : TaskId} {id : PeerId}

theorem Task.eq_arriving {task : Task} (seat : task.seat = (some id, false))
    (unbegun : task.isUnbegun = true) : task = .attend id .arriving := by
  cases task with
  | attend other stage =>
      cases seat
      cases stage with
      | arriving => rfl
      | _ => cases unbegun
  | _ => cases seat

theorem Attended.failUpgrade
    (attended : Attended hub) (isTask : hub.task task = .attend id .arriving) :
    Attended (hub.failUpgrade task id) := by
  refine attended.ofCourse (Hub.course_failUpgrade isTask) ?_ ?_
  · intro other starts
    cases serves : other.serves? with
    | none => rfl
    | some peer =>
        have converses := Task.converse_of_mayStart starts serves
        cases isTask.symm.trans converses
  · rintro number other ⟨⟩ follows
    exact Task.serves?_of_follows follows

/-- A session is not opened by an upgrade that fails, and others stand where
they stood. -/
theorem Residence.failUpgrade {other : PeerId} (residence : Residence hub other)
    (isTask : hub.task task = .attend id .arriving) :
    Residence (hub.failUpgrade task id) other := by
  have course := Hub.course_failUpgrade isTask
  have finished := Hub.task_failUpgrade isTask
  have attendant : ((hub.failUpgrade task id).peer other).attendant =
      (hub.peer other).attendant :=
    (course.peer other).attendant fun _ starts => by
      have converses := Task.converse_of_mayStart starts rfl
      cases isTask.symm.trans converses
  have registered : ((hub.failUpgrade task id).peer other).registered =
      (hub.peer other).registered := Hub.registered_failUpgrade other
  -- Sessions that were opened have other tasks than the one that ends.
  have kept : ∀ {number}, Seated hub number other →
      hub.task number ≠ .attend id .arriving →
      number ≠ task ∧ Seated (hub.failUpgrade task id) number other ∧
        (hub.failUpgrade task id).task number = hub.task number := by
    intro number seated opened
    have different : number ≠ task := fun same => opened (same ▸ isTask)
    have sameTask := course.task number seated.below fun same =>
      different (Option.some.inj same).symm
    refine ⟨different, ⟨course.peers ▸ seated.inside,
      Nat.lt_of_lt_of_le seated.below course.tasks_le,
      attendant.trans seated.attendant, ?_⟩, sameTask⟩
    rw [sameTask]
    exact seated.isTask
  cases residence with
  | unopened unopened isGuest =>
      refine .unopened ⟨fun number serves => ?_, ?_⟩ fun isRegistered => ?_
      · by_cases own : number = task
        · subst own
          rw [finished] at serves
          cases serves
        · have inside : number < hub.tasks.size := by
            refine Nat.lt_of_not_le fun beyond => ?_
            by_cases new : number < (hub.failUpgrade task id).tasks.size
            · have starts := (course.newTask number beyond new).1
              have converses := Task.converse_of_mayStart starts serves
              cases isTask.symm.trans converses
            · rw [Hub.task_of_size_le _ number (Nat.not_lt.mp new)] at serves
              cases serves
          have sameTask := course.task number inside fun same =>
            own (Option.some.inj same).symm
          rw [sameTask] at serves ⊢
          exact unopened.tasks number serves
      · rw [Hub.chronicle_failUpgrade]
        exact unopened.silent
      · rw [attendant]
        exact isGuest (registered.symm.trans isRegistered)
  | reading seated isReading awake stays =>
      obtain ⟨different, later, sameTask⟩ :=
        kept seated (by rw [isReading]; rintro ⟨⟩)
      refine .reading later (sameTask.trans isReading) (fun isClosed => ?_) ?_
      · refine course.ready _ (awake ?_) fun same =>
          different (Option.some.inj same).symm
        exact (Hub.closed_failUpgrade other).symm.trans isClosed
      · rw [Hub.chronicle_failUpgrade]
        exact stays
  | finished seated isOver isGone =>
      obtain ⟨-, later, sameTask⟩ := kept seated fun arriving =>
        Hub.not_isOver_of_arriving arriving
          (by
            rw [SlotsMatch.eq_of_seated arriving seated] at isOver
            exact isOver)
      refine .finished later ?_ (registered.trans isGone)
      rw [Hub.IsOver, sameTask]
      exact isOver

namespace SlotsMatch

theorem failUpgrade
    (slots : SlotsMatch hub) (housed : Housed hub) (attended : Attended hub)
    (isTask : hub.task task = .attend id .arriving) :
    SlotsMatch (hub.failUpgrade task id) := by
  have serves : (hub.task task).serves? = some id := by
    rw [isTask]
    rfl
  exact slots.ends isTask (attended task id serves)
    (housed.tasks task id (Task.regards_of_serves serves)) (.refl hub)
    (hub.lt_size_of_task task (by rw [isTask]; rintro ⟨⟩))
    (.ofCourse (Hub.course_failUpgrade isTask))

theorem holds_of_upgrading (slots : SlotsMatch hub) (attended : Attended hub)
    (upgrading : hub.Upgrading task id) : (hub.peer id).holdsSlot = true := by
  have serves : (hub.task task).serves? = some id := by
    rw [upgrading.isTask]
    rfl
  rw [slots.holds id]
  simp only [Hub.isAdmitted, Hub.isServed, upgrading.isSwitched,
    attended task id serves, upgrading.isTask]
  rfl

end SlotsMatch

theorem Hub.admission_failUpgrade (holds : (hub.peer id).holdsSlot = true) :
    (hub.failUpgrade task id).admission = hub.admission.release := by
  rw [failUpgrade, admission_finish, admission_releaseSlot, if_pos holds]

/-- A request that is granted and whose upgrade fails leaves the slots as it
found them. -/
theorem Hub.admission_granted_failed
    {new : TaskId} (attended : Attended hub) (housed : Housed hub)
    (isTask : hub.task task = .converse id)
    (upgrades : (hub.goOn task).task new = .attend id .arriving) :
    ((hub.goOn task).failUpgrade new id).admission = hub.admission := by
  have later := attended.goOn housed task
  have serves : (hub.task task).serves? = some id := by
    rw [isTask]
    rfl
  have servesNew : ((hub.goOn task).task new).serves? = some id := by
    rw [upgrades]
    rfl
  have inside := housed.tasks task id (Task.regards_of_serves serves)
  cases ConversationStep.goOn isTask with
  | aside keeps =>
      -- Without a new attendant the conversation would have to be the session.
      have attendant : ((hub.goOn task).peer id).attendant = some task :=
        (congrArg Claim.attendant (keeps.peer id)).trans
          (attended task id serves)
      cases attendant.symm.trans (later new id servesNew)
      rcases (Course.goOn hub task).own task rfl with same | finished | follows
      · cases (same.symm.trans upgrades).symm.trans isTask |>.symm
      · rw [upgrades] at finished
        cases finished
      · have never : (hub.task task).Follows ((hub.goOn task).task task) :=
          follows
        rw [isTask, upgrades] at never
        exact never.elim
  | @begins middle free admission peers tasks others isSwitched same =>
      have holds : ((hub.goOn task).peer id).holdsSlot = true := by
        rw [same]
        exact congrArg Claim.holdsSlot
          (middle.claim_beginSession task (peers ▸ inside))
      have taken : (hub.goOn task).admission = hub.admission.take := by
        rw [same, admission_beginSession, admission]
      rw [admission_failUpgrade holds, taken, Admission.release_take]

end BroadcastHub.Server
