import BroadcastHub.Proofs.Scenario.Endings
import BroadcastHub.Proofs.Server.Waits

/-!
# What a wait for the end of a server tells

Whoever stops a server can wait until its task has ended and no session is
registered any more.  The wait is over by its limit.  It tells that everything
has ended only if it had by then.  But the registry is looked at from time to
time only, so the wait may tell that its limit came first although everything
had ended before; then something was left less than a pause before the limit.

Nor are the sessions' tasks looked at.  When the wait tells that everything has
ended, all sessions have, but close frames may still be on their way.
-/

namespace BroadcastHub.Server

open Scenario

theorem Turnover.tasks_le
    {outsider : Outsider} {before after : Hub}
    (turnover : Turnover outsider before after) :
    before.tasks.size ≤ after.tasks.size := by
  cases turnover with
  | outside outside => exact outside.tasks_le
  | register added => exact Nat.le_refl _
  | serve added opened serves =>
      rw [Hub.size_tasks_spawn]
      exact Nat.le_succ _
  | go isReady => exact (Course.goOn before _).tasks_le
  | @tick later still forward whole passes =>
      exact Nat.le_of_eq
        (congrArg Table.size (Hub.tasks_ring { before with now := later })).symm

end BroadcastHub.Server

namespace BroadcastHub.Scenario

open Server

/-- Moves from one play to another one by way of others, the last of these
first. -/
inductive Journey (manner : Manner) (first : Play) : List Play → Play → Prop
  | stay : Journey manner first [] first
  | move
      {passed : List Play} {before after : Play}
      (journey : Journey manner first passed before)
      (move : Move manner before after) :
      Journey manner first (before :: passed) after

variable {manner : Manner} {play last : Play} {passed : List Play}
  {limit server : Span}

/-- A wait that has been called for is the second of two new tasks. -/
theorem Play.wait_starts (play : Play) (limit server : Span) :
    (play.perform (.wait limit server)).2.hub.task (play.hub.tasks.size + 1) =
        .drain play.hub.tasks.size limit .unstarted ∧
      play.hub.tasks.size + 1 ∈
      (play.perform (.wait limit server)).2.hub.ready ∧
      play.hub.tasks.size <
        (play.perform (.wait limit server)).2.hub.tasks.size := by
  have hub_eq : (play.perform (.wait limit server)).2.hub =
      ((play.hub.spawn (.linger server none)).watch play.hub.tasks.size
        (play.hub.spawn (.linger server none)).nextTask).spawn
          (.drain play.hub.tasks.size limit .unstarted) := rfl
  have size : ((play.hub.spawn (.linger server none)).watch play.hub.tasks.size
      (play.hub.spawn (.linger server none)).nextTask).tasks.size =
        play.hub.tasks.size + 1 :=
    Hub.size_tasks_spawn _ _
  rw [hub_eq, Hub.task_spawn, Hub.ready_spawn, Hub.size_tasks_spawn, size]
  exact ⟨if_pos rfl, List.mem_append_right _ List.mem_cons_self, by omega⟩

/-- A wait tells what was so in one of the plays passed by. -/
theorem Journey.waits
    (journey : Journey manner (play.perform (.wait limit server)).2
      passed last) :
    play.hub.tasks.size < last.hub.tasks.size ∧
      Waits last.hub play.hub.now (play.hub.tasks.size + 1)
        play.hub.tasks.size limit
        (fun instant => ∃ look ∈ passed, look.hub.now = instant ∧
          look.hub.Drained play.hub.tasks.size)
        (fun instant => ∃ look ∈ passed, look.hub.now = instant ∧
          ¬ look.hub.Drained play.hub.tasks.size) := by
  induction journey with
  | stay =>
      obtain ⟨isTask, isReady, inside⟩ := Play.wait_starts play limit server
      exact ⟨inside, .unstarted isTask isReady rfl⟩
  | @move passed before after _ move ih =>
      have turnover := Turnover.ofMove move
      obtain ⟨inside, waits⟩ := ih
      refine ⟨Nat.lt_of_lt_of_le inside turnover.tasks_le, ?_⟩
      refine (waits.mono ?_ ?_).turn inside turnover ?_ ?_
      · exact fun _ ⟨look, listed, isSo⟩ =>
          ⟨look, List.mem_cons_of_mem _ listed, isSo⟩
      · exact fun _ ⟨look, listed, isSo⟩ =>
          ⟨look, List.mem_cons_of_mem _ listed, isSo⟩
      · exact fun isDrained => ⟨before, List.mem_cons_self, rfl, isDrained⟩
      · exact fun isLeft => ⟨before, List.mem_cons_self, rfl, isLeft⟩

/-- What a wait for the end of a server tells, called for with a limit.  It is
over when the clock has passed its limit, or stands there and nothing can go on.
If it tells that everything has ended, this was so in a play passed by before
the limit was over.  If it tells that its limit came first, the limit is over,
and in a play less than a pause before that, or later, something was left. -/
theorem wait_outcome
    (journey : Journey manner (play.perform (.wait limit server)).2
      passed last) :
    let serving := play.hub.tasks.size
    let due := play.hub.now.after limit
    (due.tick < last.hub.now ∨ due ≤ last.hub.now ∧ last.hub.ready = [] →
      ∃ complete, last.hub.task (serving + 1) = .finished (.drained complete)) ∧
    (last.hub.task (serving + 1) = .finished (.drained true) →
      ∃ look ∈ passed, look.hub.now ≤ due.tick ∧ look.hub.Drained serving) ∧
    (last.hub.task (serving + 1) = .finished (.drained false) →
      due ≤ last.hub.now ∧
        ∃ look ∈ passed, due < look.hub.now.after Hub.drainPause ∧
        ¬ look.hub.Drained serving) := by
  intro serving due
  cases journey.waits.2 with
  | unstarted isTask isReady now =>
      rw [isTask]
      refine ⟨fun late => ?_, nofun, nofun⟩
      rcases late with beyond | ⟨-, still⟩
      · have early : last.hub.now ≤ due.tick := by
          rw [now]
          exact Nat.le_trans (Instant.le_after _ _) (Instant.le_tick _)
        exact absurd beyond (Nat.not_lt.mpr early)
      · rw [still] at isReady
        cases isReady
  | begun isTask isLimit isDue inTime awake looked =>
      rw [isTask]
      refine ⟨fun late => ?_, nofun, nofun⟩
      rw [isDue] at inTime awake
      rcases late with beyond | ⟨isOver, still⟩
      · exact absurd beyond (Nat.not_lt.mpr inTime)
      · have isReady := awake isOver
        rw [still] at isReady
        cases isReady
  | drained isTask isDrained inTime =>
      obtain ⟨look, listed, rfl, isDrained⟩ := isDrained
      refine ⟨fun _ => ⟨true, isTask⟩,
        fun _ => ⟨look, listed, inTime, isDrained⟩, fun other => ?_⟩
      cases isTask.symm.trans other
  | cut isTask late isLeft lately =>
      obtain ⟨look, listed, rfl, isLeft⟩ := isLeft
      refine ⟨fun _ => ⟨false, isTask⟩, fun other => ?_,
        fun _ => ⟨late, look, listed, lately, isLeft⟩⟩
      cases isTask.symm.trans other

/-- Where everything has ended for good a pause before the limit of a wait, or
earlier, the wait tells so when it is over. -/
theorem wait_notices
    {ended : Instant}
    (journey : Journey manner (play.perform (.wait limit server)).2 passed last)
    (early : ended.after Hub.drainPause ≤ play.hub.now.after limit)
    (drained : ∀ look ∈ passed, ended < look.hub.now →
      look.hub.Drained play.hub.tasks.size)
    (isOver : (play.hub.now.after limit).tick < last.hub.now ∨
      play.hub.now.after limit ≤ last.hub.now ∧ last.hub.ready = []) :
    last.hub.task (play.hub.tasks.size + 1) = .finished (.drained true) := by
  obtain ⟨tells, -, missed⟩ := wait_outcome journey
  obtain ⟨complete, verdict⟩ := tells isOver
  cases complete with
  | true => exact verdict
  | false =>
      obtain ⟨-, look, listed, lately, isLeft⟩ := missed verdict
      have later : ended < look.hub.now := by
        by_contra notLater
        have mono := Instant.after_mono (Nat.not_lt.mp notLater) Hub.drainPause
        exact absurd lately (Nat.not_lt.mpr (Nat.le_trans mono early))
      exact absurd (drained look listed later) isLeft

/-- A wait that is over tells whether everything had ended by its limit, where
what has ended stays so, and where it had ended a pause before the limit if it
had at all. -/
theorem wait_reports
    (journey : Journey manner (play.perform (.wait limit server)).2 passed last)
    (stays : ∀ one ∈ passed, ∀ other ∈ passed,
      one.hub.Drained play.hub.tasks.size → one.hub.now < other.hub.now →
        other.hub.Drained play.hub.tasks.size)
    (prompt : ∀ look ∈ passed, look.hub.Drained play.hub.tasks.size →
      look.hub.now ≤ (play.hub.now.after limit).tick →
        ∃ early ∈ passed, early.hub.Drained play.hub.tasks.size ∧
          early.hub.now.after Hub.drainPause ≤ play.hub.now.after limit)
    (isOver : (play.hub.now.after limit).tick < last.hub.now ∨
      play.hub.now.after limit ≤ last.hub.now ∧ last.hub.ready = []) :
    ∃ complete,
      last.hub.task (play.hub.tasks.size + 1) = .finished (.drained complete) ∧
        (complete = true ↔
          ∃ look ∈ passed, look.hub.now ≤ (play.hub.now.after limit).tick ∧
            look.hub.Drained play.hub.tasks.size) := by
  obtain ⟨tells, found, -⟩ := wait_outcome journey
  obtain ⟨complete, verdict⟩ := tells isOver
  refine ⟨complete, verdict, fun isComplete => ?_, ?_⟩
  · rw [isComplete] at verdict
    exact found verdict
  · intro ⟨look, listed, inTime, isDrained⟩
    obtain ⟨early, isPassed, wasDrained, before⟩ :=
      prompt look listed isDrained inTime
    have noticed := wait_notices journey before
      (fun other passedToo => stays early isPassed other passedToo wasDrained)
      isOver
    cases verdict.symm.trans noticed
    rfl

/-! ### A wait that comes to its limit -/

/-- Runs in which sessions are registered and removed again. -/
def Manner.removals : Manner where
  allows action := (∃ script, action = .register script) ∨
    (∃ id, action = .remove id) ∨
    ∃ limit server, action = .wait limit server
  inOrder := False

/-- The clock moves to an instant at which a task wakes, and the task goes
on. -/
def Play.wakeAt (play : Play) (instant : Instant) (task : TaskId) : Play :=
  let woken := play.withHub fun hub => { hub with now := instant }.wake task
  woken.withHub fun hub => hub.goOn task

/-- A session has been registered and seen. -/
def Play.occupied : Play :=
  ((Play.start {}).perform (.register {})).2.look [0]

/-- Fifteen milliseconds are waited for its end. -/
def Play.awaiting : Play :=
  (Play.occupied.perform (.wait (.ofMillis 15) (.ofMillis 0))).2

/-- The server's task has ended at once, and the registry has been looked at. -/
def Play.lookedOnce : Play :=
  let ended := Play.awaiting.withHub fun hub => hub.goOn 0
  ended.withHub fun hub => hub.goOn 1

theorem Run.occupied : Run .removals (fun _ => True) {} .occupied := by
  have started : Run .removals (fun _ => True) {} (Play.start {}) :=
    .start _ trivial
  have registered :=
    started.move (.act (.inl ⟨{}, rfl⟩) rfl (by rintro _ ⟨⟩)) trivial
  exact registered.move (.notice Play.occupied.known []) trivial

theorem Journey.lookedOnce :
    Journey .removals .awaiting
      [Play.awaiting.withHub fun hub => hub.goOn 0, .awaiting] .lookedOnce := by
  have start : Journey .removals .awaiting [] .awaiting := .stay
  have served := start.move (.goOn 0 (by decide) (by rintro ⟨⟩))
  exact served.move (.goOn 1 (by decide) (by rintro ⟨⟩))

/-- Two milliseconds after the beginning of the wait the session has been
removed. -/
def Play.emptied : Play :=
  let later := Play.lookedOnce.withHub fun hub => { hub with now := 2000000 }
  (later.perform (.remove 0)).2

/-- The registry has been looked at again after ten milliseconds, and then the
limit of the wait has come. -/
def Play.noticed : Play :=
  (Play.emptied.wakeAt 10000000 1).withHub fun hub =>
    { hub with now := 15000000 }

/-- The plays passed by, last one first. -/
def Play.noticing : List Play :=
  [Play.emptied.wakeAt 10000000 1,
    Play.emptied.withHub fun hub => { hub with now := 10000000 }.wake 1,
    .emptied, Play.lookedOnce.withHub fun hub => { hub with now := 2000000 },
    .lookedOnce, Play.awaiting.withHub fun hub => hub.goOn 0, .awaiting]

theorem Journey.noticed :
    Journey .removals .awaiting Play.noticing .noticed := by
  have quiet : { Play.lookedOnce.hub with now := 2000000 }.alarms.filter
      (fun entry : Alarm × TaskId => entry.1.hasRung 2000000) = [] := by
    decide
  have later := Journey.lookedOnce.move
    (.tickQuietly rfl (by decide) (by decide) (by decide) quiet)
  have emptied := later.move
    (.act (.inr (.inl ⟨0, rfl⟩)) rfl (by rintro _ ⟨⟩; decide))
  -- The pause is over before the limit is.
  have rung : { Play.emptied.hub with now := 10000000 }.alarms.filter
      (fun (alarm, _) => Alarm.hasRung alarm 10000000) =
        [(⟨10000000, 2⟩, 1)] := by
    decide
  have woken := emptied.move
    (.tickWaking rfl (by decide) (by decide) (by decide) rung)
  have looked := woken.move (.goOn 1 (by decide) (by rintro ⟨⟩))
  have silent : { (Play.emptied.wakeAt 10000000 1).hub with
      now := 15000000 }.alarms.filter
        (fun entry : Alarm × TaskId => entry.1.hasRung 15000000) = [] := by
    decide
  exact looked.move
    (.tickQuietly rfl (by decide) (by decide) (by decide) silent)

/-- The session has been removed in time for the last look, and the wait tells
that everything has ended. -/
theorem wait_reports_of_noticed :
    (∀ one ∈ Play.noticing, ∀ other ∈ Play.noticing,
      one.hub.Drained 0 → one.hub.now < other.hub.now →
        other.hub.Drained 0) ∧
    (∀ look ∈ Play.noticing, look.hub.Drained 0 →
      look.hub.now ≤ (Play.occupied.hub.now.after (.ofMillis 15)).tick →
        ∃ early ∈ Play.noticing, early.hub.Drained 0 ∧
          early.hub.now.after Hub.drainPause ≤
            Play.occupied.hub.now.after (.ofMillis 15)) ∧
    Play.noticed.hub.task 1 = .finished (.drained true) ∧
    ∃ complete, Play.noticed.hub.task 1 = .finished (.drained complete) ∧
      (complete = true ↔
        ∃ look ∈ Play.noticing,
          look.hub.now ≤ (Play.occupied.hub.now.after (.ofMillis 15)).tick ∧
            look.hub.Drained 0) := by
  have stays : ∀ one ∈ Play.noticing, ∀ other ∈ Play.noticing,
      one.hub.Drained 0 → one.hub.now < other.hub.now →
        other.hub.Drained 0 := by
    decide
  have prompt : ∀ look ∈ Play.noticing, look.hub.Drained 0 →
      look.hub.now ≤ (Play.occupied.hub.now.after (.ofMillis 15)).tick →
        ∃ early ∈ Play.noticing, early.hub.Drained 0 ∧
          early.hub.now.after Hub.drainPause ≤
            Play.occupied.hub.now.after (.ofMillis 15) := by
    decide
  exact ⟨stays, prompt, rfl,
    wait_reports Journey.noticed stays prompt (.inr ⟨by decide, rfl⟩)⟩

/-! ### A wait that misses the end -/

/-- The registry has been looked at twice, the second time after ten
milliseconds. -/
def Play.lookedTwice : Play := Play.lookedOnce.wakeAt 10000000 1

/-- Two milliseconds later the session has been removed. -/
def Play.vacated : Play :=
  let later := Play.lookedTwice.withHub fun hub => { hub with now := 12000000 }
  (later.perform (.remove 0)).2

/-- The limit of the wait has come. -/
def Play.timedOut : Play := Play.vacated.wakeAt 15000000 1

/-- The wait tells that its limit came first, although everything had ended
before. -/
theorem wait_overlooks :
    Run .removals (fun _ => True) {} .occupied ∧
    ∃ passed, Journey .removals .awaiting passed .timedOut ∧
      (∃ look ∈ passed,
        look.hub.now < Play.occupied.hub.now.after (.ofMillis 15) ∧
          look.hub.Drained 0) ∧
      Play.timedOut.hub.task 1 = .finished (.drained false) := by
  have early : ∀ entry ∈ Play.lookedOnce.hub.alarms,
      10000000 ≤ max Play.lookedOnce.hub.now entry.1.due.tick := by
    decide
  have rung : { Play.lookedOnce.hub with now := 10000000 }.alarms.filter
      (fun (alarm, _) => Alarm.hasRung alarm 10000000) =
        [(⟨10000000, 2⟩, 1)] := by
    decide
  have woken := Journey.lookedOnce.move
    (.tickWaking rfl (Nat.zero_le _) (by decide) early rung)
  have lookedTwice := woken.move (.goOn 1 (by decide) (by rintro ⟨⟩))
  have silent : { Play.lookedTwice.hub with now := 12000000 }.alarms.filter
      (fun entry : Alarm × TaskId => entry.1.hasRung 12000000) = [] := by
    decide
  have later := lookedTwice.move
    (.tickQuietly rfl (by decide) (by decide) (by decide) silent)
  have removed := later.move
    (.act (.inr (.inl ⟨0, rfl⟩)) rfl (by rintro _ ⟨⟩; decide))
  have due : { Play.vacated.hub with now := 15000000 }.alarms.filter
      (fun (alarm, _) => Alarm.hasRung alarm 15000000) =
        [(⟨15000000, 1⟩, 1)] := by
    decide
  have late := removed.move
    (.tickWaking rfl (by decide) (by decide) (by decide) due)
  have cut := late.move (.goOn 1 (by decide) (by rintro ⟨⟩))
  refine ⟨Run.occupied, _, cut, ?_, rfl⟩
  refine ⟨Play.vacated, ?_, by decide, rfl, by decide⟩
  exact List.mem_cons_of_mem _ List.mem_cons_self

/-! ### What a wait leaves of the sessions -/

/-- A play passed by leads on to the last one. -/
theorem Journey.through
    {first look : Play} (journey : Journey manner first passed last)
    (listed : look ∈ passed) :
    Moves manner first look ∧ Moves manner look last := by
  have reaches : ∀ {passed last}, Journey manner first passed last →
      Moves manner first last := by
    intro passed last journey
    induction journey with
    | stay => exact .refl
    | move _ move induction => exact .tail induction move
  induction journey with
  | stay => cases listed
  | move journey move induction =>
      rcases List.mem_cons.mp listed with rfl | earlier
      · exact ⟨reaches journey, .tail .refl move⟩
      · obtain ⟨before, after⟩ := induction earlier
        exact ⟨before, .tail after move⟩

section Complete

variable {configuration : Configuration} (leaves : manner.LeavesRegistry)
  (run : Run manner (fun _ => True) configuration
    (play.perform (.wait limit server)).2)
  (journey : Journey manner (play.perform (.wait limit server)).2 passed last)
  (complete : last.hub.task (play.hub.tasks.size + 1) =
    .finished (.drained true))

include leaves run journey complete

/-- What a wait has found that tells that everything has ended, where sessions
are taken out of the registry by their own tasks only.  Whoever had been opened
when it looked had ended. -/
theorem wait_found :
    ∃ look ∈ passed, look.hub.now ≤ (play.hub.now.after limit).tick ∧
      look.hub.Drained play.hub.tasks.size ∧
      Run manner (fun _ => True) configuration look ∧
      Moves manner look last ∧
      ∀ id opened, ⟨opened, .joined id⟩ ∈ look.hub.chronicle →
        ∃ ended exit, ⟨ended, .left id exit⟩ ∈ look.hub.chronicle := by
  obtain ⟨-, found, -⟩ := wait_outcome journey
  obtain ⟨look, listed, inTime, isDrained⟩ := found complete
  obtain ⟨before, after⟩ := journey.through listed
  have looked := run.moves before
  refine ⟨look, listed, inTime, isDrained, looked, after, ?_⟩
  exact fun id opened joined =>
    looked.left_of_joined leaves isDrained.2 joined

/-- Of each of these sessions no more than its close frame is left, and that for
its limit at most. -/
theorem wait_complete :
    ∃ look ∈ passed, look.hub.now ≤ (play.hub.now.after limit).tick ∧
      ∀ id opened, ⟨opened, .joined id⟩ ∈ look.hub.chronicle →
        ∃ task ended exit, ⟨ended, .left id exit⟩ ∈ look.hub.chronicle ∧
          (last.hub.peer id).attendant = some task ∧
          Parted last.hub task id ended := by
  obtain ⟨look, listed, inTime, -, looked, after, ends⟩ :=
    wait_found leaves run journey complete
  refine ⟨look, listed, inTime, fun id opened joined => ?_⟩
  obtain ⟨ended, exit, left⟩ := ends id opened joined
  obtain ⟨news, chronicle⟩ := Moves.exists_news after
  have stillLeft : ⟨ended, .left id exit⟩ ∈ last.hub.chronicle := by
    rw [chronicle]
    exact List.mem_append_right _ left
  obtain ⟨task, seated, parted⟩ :=
    (looked.moves after).leavesInTime id ended exit stillLeft
  exact ⟨task, ended, exit, left, seated.attendant, parted⟩

/-- The tasks of those sessions are done that had ended, when the wait looked,
for longer than a close frame may take. -/
theorem wait_awaits :
    ∃ look ∈ passed, look.hub.now ≤ (play.hub.now.after limit).tick ∧
      look.hub.Drained play.hub.tasks.size ∧
      ∀ id opened, ⟨opened, .joined id⟩ ∈ look.hub.chronicle →
        ∃ task ended exit, ⟨ended, .left id exit⟩ ∈ look.hub.chronicle ∧
          (look.hub.peer id).attendant = some task ∧
          ((ended.after Hub.closeLimit).tick < look.hub.now →
            (look.hub.task task).isFinished = true) := by
  obtain ⟨look, listed, inTime, isDrained, looked, -, ends⟩ :=
    wait_found leaves run journey complete
  refine ⟨look, listed, inTime, isDrained, fun id opened joined => ?_⟩
  obtain ⟨ended, exit, left⟩ := ends id opened joined
  obtain ⟨task, seated, parted⟩ := looked.leavesInTime id ended exit left
  refine ⟨task, ended, exit, left, seated.attendant, fun late => ?_⟩
  cases parted with
  | done isFinished => exact isFinished
  | closing isTask due inLimit awake =>
      rw [due] at inLimit
      exact absurd late (Nat.not_lt.mpr inLimit)

end Complete

/-- Runs in which sessions are served and the server is stopped. -/
def Manner.shutdowns : Manner where
  allows action := (∃ script, action = .serve script) ∨ action = .stop ∨
    ∃ limit server, action = .wait limit server
  inOrder := True

theorem Manner.leavesRegistry_shutdowns : Manner.shutdowns.LeavesRegistry := by
  rintro action (⟨script, rfl⟩ | rfl | ⟨limit, server, rfl⟩) <;> exact id

/-- A session has been opened whose socket takes a tenth of a second to close,
and the server has been told to stop. -/
def Play.stopped : Play :=
  let served := ((Play.start {}).perform (.serve { closeDelay := 100 })).2
  let opened := served.withHub fun hub => hub.goOn 0
  let waiting := opened.withHub fun hub => hub.goOn 0
  (waiting.perform .stop).2

theorem Run.stopped : Run .shutdowns (fun _ => True) {} .stopped := by
  have started : Run .shutdowns (fun _ => True) {} (Play.start {}) :=
    .start _ trivial
  have served := started.move
    (.act (.inl ⟨{ closeDelay := 100 }, rfl⟩) rfl (by rintro _ ⟨⟩)) trivial
  have opened := served.move (.goOn 0 (by decide) fun _ => rfl) trivial
  have waiting := opened.move (.goOn 0 (by decide) fun _ => rfl) trivial
  exact waiting.move (.act (.inr (.inl rfl)) rfl (by rintro _ ⟨⟩)) trivial

/-- The session has asked its socket to close. -/
def Play.departing : Play := Play.stopped.withHub fun hub => hub.goOn 0

/-- The socket has been closed, and some time has passed since. -/
def Play.deserted : Play :=
  (Play.departing.wakeAt 100000000 0).withHub fun hub =>
    { hub with now := 300000000 }

/-- Forty milliseconds are waited for the end of the server.  The server's task
has ended at once, and the registry has been looked at. -/
def Play.assured : Play :=
  let awaited := (Play.deserted.perform (.wait (.ofMillis 40) (.ofMillis 0))).2
  let ended := awaited.withHub fun hub => hub.goOn 1
  ended.withHub fun hub => hub.goOn 2

theorem Run.deserted : Run .shutdowns (fun _ => True) {} .deserted := by
  have departing : Run .shutdowns (fun _ => True) {} .departing :=
    Run.stopped.move (.goOn 0 (by decide) fun _ => rfl) trivial
  have early : ∀ entry ∈ Play.departing.hub.alarms,
      100000000 ≤ max Play.departing.hub.now entry.1.due.tick := by
    decide
  have rung : { Play.departing.hub with now := 100000000 }.alarms.filter
      (fun (alarm, _) => Alarm.hasRung alarm 100000000) =
        [(⟨100000000, 1⟩, 0)] := by
    decide
  have woken := departing.move
    (.tickWaking rfl (Nat.zero_le _) (by decide) early rung) trivial
  have closed := woken.move (.goOn 0 (by decide) fun _ => rfl) trivial
  have silent : { (Play.departing.wakeAt 100000000 0).hub with
      now := 300000000 }.alarms.filter
        (fun entry : Alarm × TaskId => entry.1.hasRung 300000000) = [] := by
    decide
  exact closed.move
    (.tickQuietly rfl (by decide) (by decide) (by decide) silent) trivial

/-- The session has ended long before, and its task is done. -/
theorem wait_awaits_of_deserted :
    [⟨0, .left 0 .socketClosed⟩, ⟨0, .joined 0⟩] <:+
      Play.deserted.hub.chronicle ∧
    Play.assured.hub.task 2 = .finished (.drained true) ∧
    ∃ passed,
      Journey .shutdowns
        (Play.deserted.perform (.wait (.ofMillis 40) (.ofMillis 0))).2 passed
        .assured ∧
      ∃ look ∈ passed,
        look.hub.now ≤ (Play.deserted.hub.now.after (.ofMillis 40)).tick ∧
        look.hub.Drained 1 ∧
        ∀ id opened, ⟨opened, .joined id⟩ ∈ look.hub.chronicle →
          ∃ task ended exit, ⟨ended, .left id exit⟩ ∈ look.hub.chronicle ∧
            (look.hub.peer id).attendant = some task ∧
            ((ended.after Hub.closeLimit).tick < look.hub.now →
              (look.hub.task task).isFinished = true) := by
  have run := Run.deserted.move
    (.act (.inr (.inr ⟨.ofMillis 40, .ofMillis 0, rfl⟩)) rfl
      (by rintro _ ⟨⟩)) trivial
  have start : Journey .shutdowns
      (Play.deserted.perform (.wait (.ofMillis 40) (.ofMillis 0))).2 []
      (Play.deserted.perform (.wait (.ofMillis 40) (.ofMillis 0))).2 :=
    .stay
  have ended := start.move (.goOn 1 (by decide) fun _ => rfl)
  have looked := ended.move (.goOn 2 (by decide) fun _ => rfl)
  exact ⟨⟨Play.deserted.hub.chronicle.take 2, rfl⟩, rfl, _, looked,
    wait_awaits Manner.leavesRegistry_shutdowns run looked rfl⟩

/-! ### A wait that is over before a close frame is -/

/-- Forty milliseconds are waited for the end of the server as soon as that has
been told to stop. -/
def Play.awaited : Play :=
  (Play.stopped.perform (.wait (.ofMillis 40) (.ofMillis 0))).2

/-- The session has asked its socket to close, the server's task has ended at
once, and the registry has been looked at. -/
def Play.hastened : Play :=
  let parting := Play.awaited.withHub fun hub => hub.goOn 0
  let ended := parting.withHub fun hub => hub.goOn 1
  ended.withHub fun hub => hub.goOn 2

theorem Run.awaited : Run .shutdowns (fun _ => True) {} .awaited :=
  Run.stopped.move (.act (.inr (.inr ⟨.ofMillis 40, .ofMillis 0, rfl⟩)) rfl
    (by rintro _ ⟨⟩)) trivial

/-- The wait tells that everything has ended, while the session's task waits for
its socket to close: the session has ended, and its close frame is left. -/
theorem wait_overtakes :
    Run .shutdowns (fun _ => True) {} .awaited ∧
    ∃ passed, Journey .shutdowns .awaited passed .hastened ∧
      Play.hastened.hub.task 2 = .finished (.drained true) ∧
      (∃ closing, Play.hastened.hub.task 0 = .attend 0 (.parting closing)) ∧
      ∃ look ∈ passed, ⟨0, .joined 0⟩ ∈ look.hub.chronicle ∧
        ∃ ended exit, ⟨ended, .left 0 exit⟩ ∈ look.hub.chronicle ∧
          Parted Play.hastened.hub 0 0 ended := by
  have start : Journey .shutdowns .awaited [] .awaited := .stay
  have parting := start.move (.goOn 0 (by decide) fun _ => rfl)
  have ended := parting.move (.goOn 1 (by decide) fun _ => rfl)
  have looked := ended.move (.goOn 2 (by decide) fun _ => rfl)
  refine ⟨Run.awaited, _, looked, rfl, ⟨_, rfl⟩, ?_⟩
  obtain ⟨look, listed, -, found⟩ :=
    wait_complete Manner.leavesRegistry_shutdowns Run.awaited looked rfl
  obtain ⟨news, grown⟩ := Moves.exists_news (looked.through listed).1
  have joined : ⟨0, .joined 0⟩ ∈ look.hub.chronicle := by
    rw [grown]
    exact List.mem_append_right _ List.mem_cons_self
  obtain ⟨task, time, exit, left, attendant, parted⟩ := found 0 0 joined
  cases (show some 0 = some task from attendant)
  exact ⟨look, listed, joined, time, exit, left, parted⟩

end BroadcastHub.Scenario
