import BroadcastHub.Proofs.Server.Race

/-!
# Sessions that come late

A session that is registered when the server has been told to stop finds that
out when it asks, and is closed before it begins to read.  Then it takes nothing
from its socket, and it ends at its first step.
-/

namespace BroadcastHub.Server

open Scenario

/-! ### Sessions that are closed before they begin -/

/-- Whether a session has not taken anything. -/
def Untaken (id : PeerId) (chronicle : List Entry) : Prop :=
  ∀ time item, ⟨time, .took id item⟩ ∉ chronicle

/-- A session that was closed before it could read takes nothing, and ends for
that reason. -/
inductive Doomed (hub : Hub) (id : PeerId) : Prop
  | reading {task : TaskId} {alarm : Option Alarm} (seated : Seated hub task id)
      (isTask : hub.task task = .attend id (.reading alarm))
      (isClosed : (hub.peer id).closed = true) (awake : task ∈ hub.ready)
      (untaken : Untaken id hub.chronicle)
      (stays : ∀ time exit, ⟨time, .left id exit⟩ ∉ hub.chronicle)
  | left
      {task : TaskId} (seated : Seated hub task id)
      (isOver : hub.IsOver task id) (untaken : Untaken id hub.chronicle)
      (member : ∃ time, ⟨time, .left id .socketClosed⟩ ∈ hub.chronicle)
      (only : ∀ time exit, ⟨time, .left id exit⟩ ∈ hub.chronicle →
        exit = .socketClosed)

section

variable {id : PeerId} {news older : List Entry}

theorem untaken_append (quiet : ∀ entry ∈ news, ¬ entry.happening.Paces id)
    (untaken : Untaken id older) : Untaken id (news ++ older) := by
  intro time item member
  rcases List.mem_append.mp member with late | early
  · exact quiet _ late rfl
  · exact untaken time item early

theorem left_of_append
    (quiet : ∀ entry ∈ news, ¬ entry.happening.Paces id) {time : Instant}
    {exit : Exit} (member : ⟨time, .left id exit⟩ ∈ news ++ older) :
    ⟨time, .left id exit⟩ ∈ older := by
  rcases List.mem_append.mp member with late | early
  · exact absurd rfl (quiet _ late)
  · exact early

end

namespace Doomed

variable {outsider : Outsider} {id : PeerId} {before after : Hub}
  {news : List Entry}

theorem ofOver
    {task : TaskId} (seated : Seated after task id)
    (isOver : after.IsOver task id) (untaken : Untaken id before.chronicle)
    (member : ∃ time, ⟨time, .left id .socketClosed⟩ ∈ before.chronicle)
    (only : ∀ time exit, ⟨time, .left id exit⟩ ∈ before.chronicle →
      exit = .socketClosed)
    (chronicle : after.chronicle = news ++ before.chronicle)
    (quiet : ∀ entry ∈ news, ¬ entry.happening.Paces id) : Doomed after id := by
  obtain ⟨time, isMember⟩ := member
  refine .left seated isOver ?_ ⟨time, ?_⟩ fun time exit isLeft => ?_
  · rw [chronicle]
    exact untaken_append quiet untaken
  · rw [chronicle]
    exact List.mem_append.mpr (.inr isMember)
  · rw [chronicle] at isLeft
    exact only time exit (left_of_append quiet isLeft)

theorem ofReading
    {task : TaskId} {alarm : Option Alarm} (seated : Seated after task id)
    (isTask : after.task task = .attend id (.reading alarm))
    (isClosed : (after.peer id).closed = true) (awake : task ∈ after.ready)
    (untaken : Untaken id before.chronicle)
    (stays : ∀ time exit, ⟨time, .left id exit⟩ ∉ before.chronicle)
    (chronicle : after.chronicle = news ++ before.chronicle)
    (quiet : ∀ entry ∈ news, ¬ entry.happening.Paces id) : Doomed after id := by
  refine .reading seated isTask isClosed awake ?_ fun time exit member => ?_
  · rw [chronicle]
    exact untaken_append quiet untaken
  · rw [chronicle] at member
    exact stays time exit (left_of_append quiet member)

/-- What a task does that serves somebody else. -/
theorem ofCourse
    {number : TaskId} (doomed : Doomed before id)
    (course : Course (.running number (before.task number)) before after)
    (serves : (before.task number).serves? ≠ some id)
    (isBusy : (before.task number).isFinished = false) : Doomed after id := by
  obtain ⟨news, isNews⟩ := course.news
  have quiet := quiet_of_news isNews serves
  have kept : ∀ {task}, Seated before task id → number ≠ task ∧
      Seated after task id := by
    intro task seated
    have other : number ≠ task := by
      rintro rfl
      rcases seated.isTask with ⟨stage, isTask⟩ | finished
      · rw [isTask] at serves
        exact serves rfl
      · rw [isBusy] at finished
        cases finished
    have sameTask :=
      course.task task seated.below fun same => other (Option.some.inj same)
    refine ⟨other, ?_, ?_, ?_, ?_⟩
    · exact course.peers ▸ seated.inside
    · exact Nat.lt_of_lt_of_le seated.below course.tasks_le
    · exact ((course.peer id).attendant fun same => absurd same serves).trans
        seated.attendant
    · rw [sameTask]
      exact seated.isTask
  cases doomed with
  | @reading task alarm seated isTask isClosed awake untaken stays =>
      obtain ⟨other, later⟩ := kept seated
      have notOwn :
          (Doer.running number (before.task number)).task ≠ some task :=
        fun same => other (Option.some.inj same)
      exact ofReading later
        ((course.task task seated.below notOwn).trans isTask)
        ((course.peer id).closed isClosed) (course.ready task awake notOwn)
        untaken stays isNews.chronicle quiet
  | @left task seated isOver untaken member only =>
      obtain ⟨other, later⟩ := kept seated
      have notOwn :
          (Doer.running number (before.task number)).task ≠ some task :=
        fun same => other (Option.some.inj same)
      refine ofOver later ?_ untaken member only isNews.chronicle quiet
      rw [Hub.IsOver, course.task task seated.below notOwn]
      exact isOver

/-- What any turn makes of the session. -/
theorem turn (doomed : Doomed before id) (attended : Attended before)
    (closed : (before.peer id).closed = true → (after.peer id).closed = true)
    (turnover : Turnover outsider before after) : Doomed after id := by
  cases doomed with
  | @reading task alarm seated isTask isClosed awake untaken stays =>
      obtain ⟨news, passage, turn⟩ :=
        SessionTurn.ofTurnover attended seated turnover
      have later := seated.turn passage turn
      cases turn with
      | aside now quiet sameTask kept =>
          exact ofReading later (sameTask.trans isTask) (closed isClosed)
            (kept awake) untaken stays passage.chronicle quiet
      | ticks still =>
          rw [still] at awake
          cases awake
      | ended now quiet wasOver =>
          exact absurd wasOver (Hub.not_isOver_of_reading isTask)
      | arrives now wasTask => cases isTask.symm.trans wasTask
      | reads now wasTask step =>
          obtain ⟨isOver, quiet, isQuiet, told⟩ := step.of_closed isClosed
          have chronicle : after.chronicle =
              quiet ++ ⟨before.now, .left id .socketClosed⟩ ::
                before.chronicle := by
            rw [passage.chronicle, told, List.append_assoc]
            rfl
          refine .left later isOver ?_ ⟨before.now, ?_⟩ fun time exit isLeft =>
            ?_
          · rw [chronicle]
            refine untaken_append isQuiet fun time item member => ?_
            rcases List.mem_cons.mp member with same | early
            · cases same
            · exact untaken time item early
          · rw [chronicle]
            exact List.mem_append.mpr (.inr List.mem_cons_self)
          · rw [chronicle] at isLeft
            rcases List.mem_cons.mp (left_of_append isQuiet isLeft) with
              same | early
            · cases same
              rfl
            · exact absurd early (stays time exit)
  | @left task seated isOver untaken member only =>
      obtain ⟨news, passage, turn⟩ :=
        SessionTurn.ofTurnover attended seated turnover
      obtain ⟨stays, quiet⟩ := turn.of_isOver isOver
      exact ofOver (seated.turn passage turn) stays untaken
        member only passage.chronicle quiet

end Doomed

/-! ### What turns leave of peers -/

namespace Turnover

variable {outsider : Outsider} {before after : Hub} {id : PeerId}

/-- Nobody registers a session but its own task when that begins. -/
theorem joins
    (turnover : Turnover outsider before after)
    (inside : id < before.peers.size)
    (unopened : ∀ task, before.task task = .attend id .arriving →
      after.task task = .attend id .arriving)
    (isRegistered : (after.peer id).registered = true) :
    (before.peer id).registered = true := by
  have notNew : id ≠ before.peers.size := Nat.ne_of_lt inside
  cases turnover with
  | outside outside =>
      obtain ⟨news, -, peer, -⟩ := outside.news
      exact (peer id).joins isRegistered
  | register added =>
      rw [Hub.peer_addPeer, if_neg notNew] at isRegistered
      exact isRegistered
  | @serve socket task added opened serves =>
      change ((before.addPeer
        { socket, attendant := some before.nextTask }).peer
        id).registered = true at isRegistered
      rw [Hub.peer_addPeer, if_neg notNew] at isRegistered
      exact isRegistered
  | @go task isReady =>
      rcases ((Course.goOn before task).peer id).joins isRegistered with
        same | opens
      · exact same
      · have isTask : before.task task = .attend id .arriving := opens
        have below : task < before.tasks.size :=
          before.lt_size_of_task task (by rw [isTask]; rintro ⟨⟩)
        have begun := Hub.begun_goOn before below
        rw [unopened task isTask] at begun
        cases begun
  | @tick later still forward whole passes =>
      obtain ⟨ready, same, -⟩ := Hub.ring_eq { before with now := later }
      rw [same] at isRegistered
      exact isRegistered

end Turnover

/-! ### Openings -/

/-- How the sessions stand by the stages of their openings. -/
structure Orderly
    (hub : Hub) (stage : PeerId → OpeningStage) (late : PeerId → Bool) :
    Prop where
  housed : Housed hub
  attended : Attended hub
  inside : ∀ id, stage id ≠ .unregistered → id < hub.peers.size
  unopened : ∀ id, stage id ≠ .running → Unopened hub id
  lateTold : ∀ id, late id = true → hub.stopping = true ∧
    stage id ≠ .unregistered
  lateClosed : ∀ id, late id = true → stage id = .passed ∨ stage id = .running →
    (hub.peer id).closed = true
  doomed : ∀ id, late id = true → stage id = .running → Doomed hub id

namespace Orderly

variable {manner : Manner} {hub before after : Hub} {stage later : PeerId →
  OpeningStage} {late : PeerId → Bool} {id : PeerId}

theorem start (configuration : Configuration) (chance : Nat → Nat) :
    Orderly { Hub.start configuration with chance } (fun _ => .unregistered)
      fun _ => false where
  housed := .start configuration chance
  attended := .start configuration chance
  inside _ isServed := absurd rfl isServed
  unopened id _ := .start configuration chance id
  lateTold _ isLate := by cases isLate
  lateClosed _ isLate := by cases isLate
  doomed _ isLate := by cases isLate

/-- What happens beside the openings. -/
theorem turn (orderly : Orderly before stage late)
    (turnover : Turnover (manner.outsider before.peers.size) before after)
    (stopping : before.stopping = true → after.stopping = true)
    (unopened : ∀ task id, before.task task = .attend id .arriving →
      after.task task = .attend id .arriving) : Orderly after stage late where
  housed := orderly.housed.turn turnover
  attended := orderly.attended.turn orderly.housed turnover
  inside id isServed :=
    Nat.lt_of_lt_of_le (orderly.inside id isServed) turnover.peers_le
  unopened id notRunning := by
    obtain ⟨news, -, ⟨waits, -⟩ | ⟨task, opens⟩⟩ :=
      (orderly.unopened id notRunning).turn orderly.housed
        orderly.attended turnover
    · exact waits
    · cases (unopened task id opens.wasTask).symm.trans opens.isTask
  lateTold id isLate := by
    obtain ⟨told, isServed⟩ := orderly.lateTold id isLate
    exact ⟨stopping told, isServed⟩
  lateClosed id isLate isPast :=
    turnover.closed
      (orderly.lateClosed id isLate isPast)
  doomed id isLate isRunning :=
    (orderly.doomed id isLate isRunning).turn orderly.attended
      turnover.closed turnover

theorem close (orderly : Orderly hub stage late) (id : PeerId) :
    Orderly (hub.close id) stage late := by
  have outside :
      Outside (Manner.visits.outsider hub.peers.size) hub (hub.close id) :=
    .close hub id
  refine orderly.turn (.outside outside) (fun told => ?_)
    fun task other isTask => ?_
  · have course : Course { starts := fun _ => False } hub (hub.close id) :=
      .close hub (.inl rfl)
    rw [course.stopping]
    exact told
  · rw [Hub.task, Hub.tasks_close]
    exact isTask

theorem tell (orderly : Orderly hub stage late) :
    Orderly { hub with stopping := true } stage late := by
  have outside : Outside (Manner.visits.outsider hub.peers.size) hub
      { hub with stopping := true } := .ofSame rfl rfl rfl rfl rfl rfl rfl rfl
  exact orderly.turn (.outside outside) (fun _ => rfl) fun _ _ isTask => isTask

/-- The opening of a session comes to its next stage. -/
theorem setStage
    (orderly : Orderly hub stage late) {next : OpeningStage}
    (isServed : stage id ≠ .unregistered)
    (notUnregistered : next ≠ .unregistered) (notRunning : stage id ≠ .running)
    (isWaiting : next ≠ .running)
    (closed : late id = true → next = .passed → (hub.peer id).closed = true) :
    Orderly hub (fun other => if other = id then next else stage other)
      late where
  housed := orderly.housed
  attended := orderly.attended
  inside other isServedOther := by
    by_cases same : other = id
    · rw [same]
      exact orderly.inside id isServed
    · rw [if_neg same] at isServedOther
      exact orderly.inside other isServedOther
  unopened other notRunningOther := by
    by_cases same : other = id
    · rw [same]
      exact orderly.unopened id notRunning
    · rw [if_neg same] at notRunningOther
      exact orderly.unopened other notRunningOther
  lateTold other isLate := by
    refine ⟨(orderly.lateTold other isLate).1, ?_⟩
    split
    · exact notUnregistered
    · exact (orderly.lateTold other isLate).2
  lateClosed other isLate isPast := by
    by_cases same : other = id
    · subst same
      rw [if_pos rfl] at isPast
      exact closed isLate (isPast.resolve_right isWaiting)
    · rw [if_neg same] at isPast
      exact orderly.lateClosed other isLate isPast
  doomed other isLate isRunning := by
    by_cases same : other = id
    · rw [if_pos same] at isRunning
      exact absurd isRunning isWaiting
    · rw [if_neg same] at isRunning
      exact orderly.doomed other isLate isRunning

/-- What the task of an opening leaves of the other sessions. -/
theorem ofCourse {task : TaskId} (orderly : Orderly before stage late)
    (isTask : before.task task = .attend id .arriving)
    (course : Course (.running task (before.task task)) before after) :
    Housed after ∧ Attended after ∧
      ∀ other, other ≠ id → (stage other ≠ .running → Unopened after other) ∧
        (late other = true → stage other = .running → Doomed after other) := by
  refine ⟨orderly.housed.course course, ?_, fun other different => ?_⟩
  · refine orderly.attended.ofCourse course ?_ ?_
    · intro started starts
      cases serves : started.serves? with
      | none => rfl
      | some peer =>
          cases isTask.symm.trans (Task.converse_of_mayStart starts serves)
    · rintro number next ⟨⟩ follows
      exact Task.serves?_of_follows follows
  · have serves : (before.task task).serves? ≠ some other := by
      rw [isTask]
      exact fun same => different (Option.some.inj same).symm
    constructor
    · intro notRunning
      obtain ⟨-, -, waits, -⟩ :=
        (orderly.unopened other notRunning).ofCourse course serves
      exact waits
    · intro isLate isRunning
      refine (orderly.doomed other isLate isRunning).ofCourse course serves ?_
      rw [isTask]
      rfl

/-- A session is registered, early or late. -/
theorem register
    {task : TaskId} (orderly : Orderly hub stage late)
    (isTask : hub.task task = .attend id .arriving)
    (isNew : stage id = .unregistered) :
    Orderly ({ hub with ready := hub.ready.erase task }.register id
      Hub.firstWindow) (fun other => if other = id then .registered
      else stage other)
      (fun other => if other = id then hub.stopping else late other) := by
  have seated := orderly.attended.seated orderly.housed isTask
  have inside : (Doer.running task (hub.task task)).Inside hub := by
    rintro _ ⟨⟩
    exact seated.below
  have serves : (Doer.running task (hub.task task)).serves = some id := by
    show (hub.task task).serves? = some id
    rw [isTask]
    rfl
  have course := (Course.takeUp hub rfl).trans
    (Course.register { hub with ready := hub.ready.erase task } serves isTask
      Hub.firstWindow) inside
  obtain ⟨housed, attended, others⟩ := orderly.ofCourse isTask course
  refine ⟨housed, attended, fun other isServed => ?_,
    fun other notRunning => ?_,
    fun other isLate => ?_, fun other isLate isPast => ?_,
    fun other isLate isRunning => ?_⟩
  · rw [course.peers]
    by_cases same : other = id
    · rw [same]
      exact seated.inside
    · rw [if_neg same] at isServed
      exact orderly.inside other isServed
  · by_cases same : other = id
    · subst same
      have unopened := orderly.unopened other (by rw [isNew]; rintro ⟨⟩)
      exact ⟨unopened.tasks, unopened.silent⟩
    · rw [if_neg same] at notRunning
      exact (others other same).1 notRunning
  · by_cases same : other = id
    · rw [if_pos same] at isLate ⊢
      exact ⟨isLate, by rintro ⟨⟩⟩
    · rw [if_neg same] at isLate ⊢
      exact orderly.lateTold other isLate
  · by_cases same : other = id
    · rw [if_pos same] at isPast
      rcases isPast with isPassed | isRunning
      · cases isPassed
      · cases isRunning
    · rw [if_neg same] at isLate isPast
      exact (course.peer other).closed (orderly.lateClosed other isLate isPast)
  · by_cases same : other = id
    · rw [if_pos same] at isRunning
      cases isRunning
    · rw [if_neg same] at isLate isRunning
      exact (others other same).2 isLate isRunning

/-- A session begins to read. -/
theorem enter
    {task : TaskId} (orderly : Orderly hub stage late)
    (isTask : hub.task task = .attend id .arriving)
    (hasPassed : stage id = .passed) :
    Orderly (hub.enter task id) (fun other => if other = id then .running
      else stage other)
      late := by
  have seated := orderly.attended.seated orderly.housed isTask
  have inside : (Doer.running task (.attend id .arriving)).Inside hub := by
    rintro _ ⟨⟩
    exact seated.below
  have attends : (Doer.running task (.attend id .arriving)).Attends task id :=
    ⟨rfl, rfl, fun _ => ⟨rfl, by rintro ⟨⟩⟩, fun _ => ⟨rfl, rfl⟩⟩
  have course := Course.enter attends hub inside
  have running := course
  rw [← isTask] at running
  obtain ⟨housed, attended, others⟩ := orderly.ofCourse isTask running
  have unopened := orderly.unopened id (by rw [hasPassed]; rintro ⟨⟩)
  refine ⟨housed, attended, fun other isServed => ?_,
    fun other notRunning => ?_,
    fun other isLate => ?_, fun other isLate isPast => ?_,
    fun other isLate isRunning => ?_⟩
  · rw [course.peers]
    by_cases same : other = id
    · rw [same]
      exact seated.inside
    · rw [if_neg same] at isServed
      exact orderly.inside other isServed
  · by_cases same : other = id
    · rw [if_pos same] at notRunning
      exact absurd rfl notRunning
    · rw [if_neg same] at notRunning
      exact (others other same).1 notRunning
  · obtain ⟨told, isServed⟩ := orderly.lateTold other isLate
    refine ⟨course.stopping.trans told, ?_⟩
    split
    · rintro ⟨⟩
    · exact isServed
  · by_cases same : other = id
    · subst same
      exact (course.peer other).closed
        (orderly.lateClosed other isLate (.inl hasPassed))
    · rw [if_neg same] at isPast
      exact (course.peer other).closed (orderly.lateClosed other isLate isPast)
  · by_cases same : other = id
    · subst same
      -- A session that came late has been closed before, and now begins to read
      -- with nothing taken.
      let opened : Hub :=
        ((hub.note (.joined other)).count Counters.noteOpened).renewDeadline
          other hub.timing.heartbeat
      have below : task < opened.tasks.size := seated.below
      obtain ⟨tasks, ready, same, isReading, awake⟩ :=
        Hub.readOn_eq opened other below
      have entered : hub.enter task other = { opened with tasks, ready } := same
      have isClosed : ((hub.enter task other).peer other).closed = true :=
        (course.peer other).closed
          (orderly.lateClosed other isLate (.inl hasPassed))
      rw [entered] at isClosed ⊢
      refine .reading ⟨?_, ?_, ?_, .inl ⟨_, isReading⟩⟩ isReading isClosed
        awake ?_ ?_
      · have peers := course.peers
        rw [entered] at peers
        rw [peers]
        exact seated.inside
      · have tasks_le := course.tasks_le
        rw [entered] at tasks_le
        exact Nat.lt_of_lt_of_le seated.below tasks_le
      · have attendant :=
          (course.peer other).attendant fun _ starts => starts.elim
        rw [entered] at attendant
        exact attendant.trans seated.attendant
      · intro time item member
        rcases List.mem_cons.mp member with same | early
        · cases same
        · exact unopened.silent _ early rfl
      · intro time exit member
        rcases List.mem_cons.mp member with same | early
        · cases same
        · exact unopened.silent _ early rfl
    · rw [if_neg same] at isRunning
      exact (others other same).2 isLate isRunning

end Orderly

end BroadcastHub.Server
