import BroadcastHub.Proofs.Scenario.Echo
import BroadcastHub.Proofs.Scenario.Registration
import BroadcastHub.Proofs.Scenario.WriteDiscipline

/-!
# The close frame of a session that was closed on this side

A session that ends because it was closed on this side closes its socket, unless
somebody has the turn to write there at that moment.  Then either a request is
under way at the socket, or the turn has just passed to a writer in line that
has not gone on since.  Such a writer finds the session closed and gives the
turn up, and the socket is not closed, although nothing is under way there.
-/

namespace BroadcastHub.Server

open Scenario

variable {hub : Hub} {task : TaskId} {id : PeerId}

/-- A session that writes down an end while it reads has that end. -/
theorem ReadStep.ends_of_left
    {before after : Hub} {alarm : Option Alarm} {news : List Entry}
    {time : Instant} {exit : Exit}
    (step : ReadStep task id alarm before after news)
    (left : ⟨time, .left id exit⟩ ∈ news) :
    ∃ last, Ends id alarm before exit last := by
  cases step with
  | moves isOpen rung moved isTask awake silent =>
      rw [silent] at left
      cases left
  | waits isOpen early found isTask silent =>
      rw [silent] at left
      cases left
  | takes isOpen early found isTask awake did told =>
      rw [told] at left
      cases List.mem_append.mp left with
      | inl acted =>
          cases did with
          | message => cases List.mem_singleton.mp acted
          | ping => cases acted
          | pong => cases acted
      | inr taken => cases List.mem_singleton.mp taken
  | @leaves actual last quiet ends isOver told isQuiet =>
      rw [told] at left
      cases List.mem_append.mp left with
      | inl early => exact absurd rfl (isQuiet _ early)
      | inr now =>
          cases List.mem_cons.mp now with
          | inl same =>
              cases same
              exact ⟨last, ends⟩
          | inr before =>
              cases ends with
              | failed => cases List.mem_singleton.mp before
              | closeFrame => cases List.mem_singleton.mp before
              | _ => cases before

section

variable {now : Instant} {next : Option Closing} {before after : Station}
  {told : List Happening}

theorem CloseStep.calls_of_free
    (step : CloseStep now task id none before told after next)
    (free : before.turn.holder = none) :
    calls id (entriesAt now told) = [(task, .close)] := by
  cases step with
  | busy taken => simp [Turn.isFree, free] at taken
  | answeredAtOnce | cutAtOnce | begun =>
      simp [entriesAt, calls, account, Happening.callsTo]

theorem CloseStep.nothing_of_taken {holder : TaskId}
    (step : CloseStep now task id none before told after next)
    (held : before.turn.holder = some holder) : told = [] ∧ after = before := by
  have taken : before.turn.isFree = false := by
    simp [Turn.isFree, held]
  cases step with
  | busy => exact ⟨rfl, rfl⟩
  | answeredAtOnce free => cases free.symm.trans taken
  | cutAtOnce free => cases free.symm.trans taken
  | begun free => cases free.symm.trans taken

end

/-- What a session that finds itself closed does at its socket. -/
theorem Hub.goOn_closed
    {alarm : Option Alarm} (inside : id < hub.peers.size)
    (isTask : hub.task task = .attend id (.reading alarm))
    (closed : (hub.peer id).closed = true) :
    ∃ told station closing,
      CloseStep hub.now task id none (hub.station id) told station closing ∧
        (hub.goOn task).station id = station ∧
        (hub.goOn task).chronicle =
          entriesAt hub.now told ++ ⟨hub.now, .left id .socketClosed⟩ ::
            hub.chronicle := by
  let start : Hub := { hub with ready := hub.ready.erase task }
  let gone := (start.note (.left id .socketClosed)).unregister id
  have scene : Scene start id hub.now (hub.peer id).closed (hub.station id)
      hub.chronicle :=
    ⟨inside, rfl, rfl, rfl, rfl⟩
  have goneScene : Scene gone id hub.now (hub.peer id).closed (hub.station id)
      ([⟨hub.now, .left id .socketClosed⟩] ++ hub.chronicle) :=
    Scene.keep (Scene.note scene _) (fun _ => rfl) (fun _ => rfl) fun _ => rfl
  have polled : hub.goOn task =
      (gone.startClosing id task).1.settleParting task id
        (gone.startClosing id task).2 := by
    have same : start.task task = .attend id (.reading alarm) := isTask
    show start.poll task = _
    rw [Hub.poll, same]
    exact if_pos closed
  obtain ⟨told, station, step, seen⟩ := goneScene.startClosing task
  refine ⟨told, station, _, step, ?_, ?_⟩
  · rw [polled, ← seen.station]
    cases (gone.startClosing id task).2 with
    | none => exact Hub.station_finishSession ..
    | some closing => rfl
  · rw [polled]
    refine Eq.trans ?_ seen.chronicle
    cases (gone.startClosing id task).2 with
    | none => exact Hub.chronicle_finishSession ..
    | some closing => rfl

/-- A writer in line stays there while a session goes on. -/
theorem Hub.stays_inLine
    {alarm : Option Alarm} {limit : Alarm} {writer : TaskId}
    (isTask : hub.task task = .attend id (.reading alarm))
    (inLine : (hub.task writer).postAt id = some (.inLine limit))
    (awake : writer ∈ hub.ready) :
    (hub.goOn task).task writer = hub.task writer ∧
      writer ∈ (hub.goOn task).ready := by
  have course := Course.goOn hub task
  have other : (Doer.running task (hub.task task)).task ≠ some writer := by
    intro own
    cases own
    rw [isTask] at inLine
    cases inLine
  have below : writer < hub.tasks.size := by
    apply hub.lt_size_of_task writer
    intro idle
    rw [idle] at inLine
    cases inLine
  exact ⟨course.task writer below other, course.ready writer awake other⟩

/-- A writer to whom the turn to write to a closed session has passed gives it
up. -/
theorem Hub.goOn_refused
    {limit : Alarm} (housed : Housed hub) (closed : (hub.peer id).closed = true)
    (held : (hub.peer id).turn.holder = some task)
    (inLine : (hub.task task).postAt id = some (.inLine limit)) :
    ∃ frame, (hub.task task).frame? = some frame ∧
      (hub.goOn task).chronicle =
        ⟨hub.now, .wrote task id frame (.error .closed)⟩ :: hub.chronicle ∧
      ((hub.goOn task).peer id).turn = (hub.peer id).turn.release := by
  have isOpen : ¬ (hub.peer id).closed = false := by simp [closed]
  cases WriteTurn.goOn (fun peer writes =>
      housed.tasks task peer (Task.regards_of_writes writes)) id with
  | aside own aside =>
      rw [inLine] at own
      cases own
  | @frame frame span stage told station written sends within own step
      stationAfter chronicle ended posts =>
    refine ⟨frame, sends, ?_⟩
    rw [inLine] at own
    cases step with
    | refusedInTurn isClosed isHolder =>
        exact ⟨chronicle, congrArg Station.turn stationAfter⟩
    | refused isClosed => cases own
    | answeredAtOnce early stillOpen => exact absurd stillOpen isOpen
    | cutAtOnce early stillOpen => exact absurd stillOpen isOpen
    | begun early stillOpen => exact absurd stillOpen isOpen
    | cutInLine early waits late opens =>
        cases stage with
        | unstarted => cases own
        | queued limit => exact absurd held waits
        | underway operation limit => cases early
    | inLine early waits due inTime opens =>
        cases stage with
        | unstarted => cases own
        | queued limit => exact absurd held waits
        | underway operation limit => cases early
    | answered => cases own
    | cut => cases own
    | goesOn => cases own
  | @close current next told station earlier asks own =>
      rw [inLine] at own
      cases current <;> cases own

end BroadcastHub.Server

namespace BroadcastHub.Scenario

open Server

/-- A session ends in a move because it was closed on this side. -/
def Parts (id : PeerId) (before after : Play) : Prop :=
  ∃ time, ⟨time, .left id .socketClosed⟩ ∈ after.hub.chronicle ∧
    ⟨time, .left id .socketClosed⟩ ∉ before.hub.chronicle

/-- What becomes of the close frame of a session that ends because it was closed
on this side. -/
inductive Farewell (task : TaskId) (id : PeerId) (before after : Play) : Prop
  /-- Nobody had the turn, and the socket is asked to close. -/
  | asked
      (free : (before.hub.peer id).turn.holder = none)
      (called : calls id after.hub.chronicle =
        calls id before.hub.chronicle ++ [(task, .close)])
  /-- Something was under way at the socket. -/
  | busy
      {holder : TaskId} (held : (before.hub.peer id).turn.holder = some holder)
      (underway : (before.hub.task holder).operationAt id ≠ none)
      (silent : calls id after.hub.chronicle = calls id before.hub.chronicle)
  /-- The turn had passed to a writer in line.  When that goes on, its write
  ends without a call, and the turn passes to the next one in line. -/
  | passed
      {holder : TaskId} {limit : Alarm} {frame : Frame}
      (held : (before.hub.peer id).turn.holder = some holder)
      (inLine : (before.hub.task holder).postAt id = some (.inLine limit))
      (awake : holder ∈ before.hub.ready)
      (silent : calls id after.hub.chronicle = calls id before.hub.chronicle)
      (stillHeld : (after.hub.peer id).turn.holder = some holder)
      (stillAwake : holder ∈ after.hub.ready)
      (refused : (after.hub.goOn holder).chronicle =
        ⟨after.hub.now, .wrote holder id frame (.error .closed)⟩ ::
          after.hub.chronicle)
      (released : ((after.hub.goOn holder).peer id).turn =
        (after.hub.peer id).turn.release)

variable {manner : Manner} {holds : Play → Prop} {configuration : Configuration}
  {play later : Play} {id : PeerId}

/-- A session that parts in a move was reading and was closed. -/
theorem Run.exists_parting (run : Run manner holds configuration play)
    (move : Move manner play later) (parts : Parts id play later) :
    ∃ task alarm, later.hub = play.hub.goOn task ∧ Seated play.hub task id ∧
      task ∈ play.hub.ready ∧ play.hub.task task = .attend id (.reading alarm) ∧
        (play.hub.peer id).closed = true := by
  obtain ⟨time, isLater, isNew⟩ := parts
  have turnover := Turnover.ofMove move
  have left : ∃ time exit, ⟨time, .left id exit⟩ ∈ later.hub.chronicle ∧
      ⟨time, .left id exit⟩ ∉ play.hub.chronicle :=
    ⟨time, .socketClosed, isLater, isNew⟩
  obtain ⟨task, isReady, same⟩ | none := Departs.quiet_or_goes turnover id
  · have departs : Departs id play.hub (play.hub.goOn task) :=
      .inr (same ▸ left)
    obtain ⟨seated, alarm, isTask⟩ :=
      departs.exists_reading run.housed run.attended (run.residence id) isReady
    refine ⟨task, alarm, same, seated, isReady, isTask, ?_⟩
    obtain ⟨news, passage, turn⟩ :=
      SessionTurn.ofTurnover run.attended seated turnover
    have isNews : ⟨time, .left id .socketClosed⟩ ∈ news := by
      rw [passage.chronicle] at isLater
      exact (List.mem_append.mp isLater).resolve_right isNew
    cases turn with
    | aside now quiet => exact absurd rfl (quiet _ isNews)
    | ticks still silent =>
        rw [silent] at isNews
        cases isNews
    | ended now quiet => exact absurd rfl (quiet _ isNews)
    | arrives now wasTask => cases isTask.symm.trans wasTask
    | reads now wasTask step =>
        obtain ⟨last, ends⟩ := step.ends_of_left isNews
        cases ends with
        | closed isClosed => exact isClosed
  · exact absurd left none

/-- Whatever is asked of the socket of a session that has parted is to close
it. -/
theorem farewell
    (run : Run manner holds configuration play) (move : Move manner play later)
    (parts : Parts id play later) :
    ∃ task, (play.hub.peer id).attendant = some task ∧
      Farewell task id play later ∧
      ∀ last, Moves manner later last →
        ∃ news, calls id last.hub.chronicle =
          calls id later.hub.chronicle ++ news ∧
          ∀ call ∈ news, call.2 = .close := by
  obtain ⟨task, alarm, same, seated, isReady, isTask, closed⟩ :=
    run.exists_parting move parts
  have runLater : Run manner (fun _ => True) configuration later :=
    run.forget.move move trivial
  have closedLater := (Turnover.ofMove move).closed closed
  refine ⟨task, seated.attendant, ?_,
    fun last moves => (runLater.unframed closedLater moves).2⟩
  obtain ⟨told, station, closing, step, stationLater, chronicle⟩ :=
    Hub.goOn_closed seated.inside isTask closed
  rw [← same] at stationLater chronicle
  have called : calls id later.hub.chronicle =
      calls id play.hub.chronicle ++ calls id
        (entriesAt play.hub.now told) := by
    have unasked : (Happening.left id .socketClosed).callsTo id = [] := rfl
    rw [chronicle, calls_append, calls_cons, unasked, List.append_nil]
  cases holder : (play.hub.peer id).turn.holder with
  | none =>
      refine .asked holder ?_
      rw [called, step.calls_of_free holder]
  | some writer =>
      obtain ⟨silent, sameStation⟩ := step.nothing_of_taken holder
      subst silent
      have silent :
          calls id later.hub.chronicle = calls id play.hub.chronicle :=
        called.trans (List.append_nil _)
      obtain ⟨request, operation, limit, asking⟩ | ⟨⟨limit, inLine⟩, awake⟩ :=
        (run.lines id).holder writer holder
      · refine .busy holder (fun idle => ?_) silent
        have underway : (play.hub.task writer).operationAt id =
            some (request, operation) := by
          have asking : (play.hub.task writer).postAt id =
              some (.asking request operation limit) :=
            asking
          rw [Task.operationAt, asking]
          rfl
        rw [idle] at underway
        cases underway
      · obtain ⟨sameTask, stillAwake⟩ :=
          Hub.stays_inLine isTask inLine awake
        rw [← same] at sameTask stillAwake
        have stillHeld : (later.hub.peer id).turn.holder = some writer := by
          have sameTurn : (later.hub.peer id).turn = (play.hub.peer id).turn :=
            congrArg Station.turn (stationLater.trans sameStation)
          rw [sameTurn, holder]
        obtain ⟨frame, -, refused, released⟩ :=
          Hub.goOn_refused runLater.housed closedLater stillHeld
            ((congrArg _ sameTask).trans inLine)
        exact .passed holder inLine awake silent stillHeld stillAwake refused
          released

/-! ### A full line at a slow socket -/

/-- Runs in which clients are served and octets are broadcast, and tasks go on
in their order. -/
def Manner.crowds : Manner where
  allows action := (∃ script, action = .serve script) ∨
    ∃ content limit, action = .broadcast (.binary content) limit
  inOrder := True

/-- A task goes on. -/
def Play.goOn (play : Play) (task : TaskId) : Play :=
  play.withHub fun hub => hub.goOn task

/-- Three broadcasts have begun for a client whose socket takes a second for a
frame.  The first one may take a tenth of that. -/
def Play.crowding : Play :=
  let served := ((Play.start {}).perform (.serve { delay := 1000 })).2.withHub
    fun hub => hub.goOn 0
  let waiting := served.withHub fun hub => hub.goOn 0
  let first := (waiting.perform (.broadcast (.binary [1]) (.ofMillis 100))).2
  let second := (first.perform (.broadcast (.binary [2]) (.ofMillis 500))).2
  (second.perform (.broadcast (.binary [3]) (.ofMillis 500))).2

/-- The first one has the turn at the socket, and the others stand in line. -/
def Play.crowded : Play := [1, 2, 3, 4, 5, 6].foldl Play.goOn Play.crowding

/-- The limit of the first one is over. -/
def Play.overdue : Play :=
  Play.crowded.withHub fun hub => { hub with now := 100000000 }.wake 1

/-- It has been given up, and the second one has found the session closed. -/
def Play.refusing : Play := (Play.overdue.goOn 1).goOn 3

theorem Run.crowding : Run .crowds (fun _ => True) {} .crowding := by
  have started : Run .crowds (fun _ => True) {} (Play.start {}) :=
    .start _ trivial
  have served :=
    started.move (.act (.inl ⟨{ delay := 1000 }, rfl⟩) rfl (by rintro _ ⟨⟩))
      trivial
  have opened := served.move (.goOn 0 (by decide) fun _ => rfl) trivial
  have waiting := opened.move (.goOn 0 (by decide) fun _ => rfl) trivial
  have first := waiting.move
    (.act (.inr ⟨[1], .ofMillis 100, rfl⟩) rfl (by rintro _ ⟨⟩)) trivial
  have second := first.move
    (.act (.inr ⟨[2], .ofMillis 500, rfl⟩) rfl (by rintro _ ⟨⟩)) trivial
  exact second.move
    (.act (.inr ⟨[3], .ofMillis 500, rfl⟩) rfl (by rintro _ ⟨⟩)) trivial

theorem Run.crowded : Run .crowds (fun _ => True) {} .crowded := by
  have begun := Run.crowding.move (.goOn 1 (by decide) fun _ => rfl) trivial
  have counted := begun.move (.goOn 2 (by decide) fun _ => rfl) trivial
  have inLine := counted.move (.goOn 3 (by decide) fun _ => rfl) trivial
  have countedToo := inLine.move (.goOn 4 (by decide) fun _ => rfl) trivial
  have behind := countedToo.move (.goOn 5 (by decide) fun _ => rfl) trivial
  exact behind.move (.goOn 6 (by decide) fun _ => rfl) trivial

theorem Run.refusing : Run .crowds (fun _ => True) {} .refusing := by
  have early : ∀ entry ∈ Play.crowded.hub.alarms,
      100000000 ≤ max Play.crowded.hub.now entry.1.due.tick := by
    decide
  -- Only the first of the three is over after a tenth of a second.
  have rung : { Play.crowded.hub with now := 100000000 }.alarms.filter
      (fun (alarm, _) => Alarm.hasRung alarm 100000000) =
        [(⟨100000000, 2⟩, 1)] := by
    decide
  have overdue :=
    Run.crowded.move (.tickWaking rfl (Nat.zero_le _) (by decide) early rung)
      trivial
  have late := overdue.move (.goOn 1 (by decide) fun _ => rfl) trivial
  exact late.move (.goOn 3 (by decide) fun _ => rfl) trivial

theorem Move.refused : Move .crowds .refusing (Play.refusing.goOn 0) :=
  .goOn 0 (by decide) fun _ => rfl

theorem parts_refused : Parts 0 Play.refusing (Play.refusing.goOn 0) := by
  have stay : ∀ entry ∈ Play.refusing.hub.chronicle,
      entry.happening.isLeaving = false := by
    decide
  exact ⟨100000000, List.mem_cons_self,
    fun listed => absurd (stay _ listed) (by decide)⟩

/-- The task of that client's session is over while nothing has been under way
at its socket, and the socket has not been asked to close. -/
theorem farewell_missed :
    ¬ ∀ {configuration : Configuration} {play later : Play} {id : PeerId},
      Run .crowds (fun _ => True) configuration play → Move .crowds play later →
      Parts id play later →
        (∀ task, (play.hub.task task).operationAt id = none) →
        (∃ task, (task, .close) ∈ calls id later.hub.chronicle) ∨
          ∃ task, (later.hub.peer id).attendant = some task ∧
            (later.hub.task task).isFinished = false := by
  intro claim
  have idle : ∀ task, (Play.refusing.hub.task task).operationAt 0 = none := by
    intro task
    by_contra busy
    obtain ⟨request, operation, limit, asking⟩ :=
      Task.asking_of_operationAt busy
    have held :=
      (Run.refusing.lines 0).asking task request operation limit asking
    cases (show some 5 = some task from held)
    cases asking
  obtain ⟨task, closes⟩ | ⟨task, attendant, goes⟩ :=
    claim Run.refusing Move.refused parts_refused idle
  · have asked : (task, .close) ∈ [(1, SinkRequest.frame (.binary [1]))] :=
      closes
    cases List.mem_singleton.mp asked
  · cases (show some 0 = some task from attendant)
    cases goes

/-- The turn has passed to the last of the writes in line, and the session of
that client ends without asking its socket to close. -/
theorem farewell_of_crowd :
    (Play.refusing.hub.peer 0).turn = ⟨some 5, []⟩ ∧
      (Play.refusing.goOn 0).hub.task 0 = .finished (.attended .socketClosed) ∧
      ∃ task, (Play.refusing.hub.peer 0).attendant = some task ∧
        Farewell task 0 Play.refusing (Play.refusing.goOn 0) ∧
          ∀ last, Moves .crowds (Play.refusing.goOn 0) last →
            ∃ news, calls 0 last.hub.chronicle =
              calls 0 (Play.refusing.goOn 0).hub.chronicle ++ news ∧
                ∀ call ∈ news, call.2 = .close :=
  ⟨rfl, rfl, farewell Run.refusing Move.refused parts_refused⟩

end BroadcastHub.Scenario
