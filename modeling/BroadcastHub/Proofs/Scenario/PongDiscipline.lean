import BroadcastHub.Proofs.Scenario.SessionLoop
import BroadcastHub.Proofs.Server.Replies

/-!
# One heartbeat reply at a time

Any number of heartbeat requests of one session may be under way together, while
it is written to, closed and removed from the registry and its socket delays and
fails as it likes.  `PongDiscipline` says what holds at every point of every run
all the same, if nobody takes the slot for replies but the requests themselves.
-/

namespace BroadcastHub.Scenario

open Server

/-- Whether the slots for heartbeat replies are left to the requests. -/
def Manner.LeavesSlots (manner : Manner) : Prop :=
  ∀ action, manner.allows action → ¬ action.TakesPong

theorem Manner.LeavesSlots.never
    {manner : Manner} (leaves : manner.LeavesSlots) (peers : Nat) :
    ¬ (manner.outsider peers).takesPongs := by
  rintro ⟨action, allowed, takes⟩
  exact leaves action allowed takes

/-- The plays that can be reached by moves, with the heartbeat requests of a
session in the order in which they have begun. -/
inductive PingRun
    (manner : Manner) (configuration : Configuration) (id : PeerId) :
    List Ping → Play → Prop
  | start (chance : Nat → Nat) :
      PingRun manner configuration id []
        { Play.start configuration with
          hub := { Hub.start configuration with chance } }
  | move
      {pings : List Ping} {before after : Play}
      (run : PingRun manner configuration id pings before)
      (move : Move manner before after) :
      PingRun manner configuration id
        (pings ++ Hub.begun id before.hub after.hub) after

/-- How the heartbeat requests of a session stand at a point of a run, and what
the moves from there on can do with them. -/
structure PongDiscipline
    (manner : Manner) (pings : List Ping) (play : Play) (id : PeerId) :
    Prop where
  /-- The slot is taken when a request has begun to be answered, -/
  slot : (play.hub.peer id).ponging = true ↔
    ∃ task payload, play.hub.Answers id task payload
  /-- which is a single one. -/
  sole : ∀ first second payload other, play.hub.Answers id first payload →
    play.hub.Answers id second other → first = second
  /-- The slot is given back in time. -/
  since : ∀ task payload, play.hub.Answers id task payload →
    ∃ time, ⟨task, payload, time⟩ ∈ pings ∧ time ≤ play.hub.now ∧
      play.hub.now ≤ (Instant.after (time + play.hub.timing.longestDelay.nanos)
        play.hub.timing.pongWrite).tick ∧
      (Span.perMillisecond ∣ play.hub.timing.pongWrite.nanos →
        play.hub.now ≤
          time + (play.hub.timing.pongJitter.nanos +
            play.hub.timing.pongWrite.nanos))
  /-- Whatever becomes of a reply, it gives the slot back. -/
  frees : ∀ after, Move manner play after →
    ∀ task payload, play.hub.Answers id task payload →
      ¬ after.hub.Answers id task payload →
        (after.hub.peer id).ponging = false ∧
        ∃ result, (result = .answered ∨ result = .failed) ∧
          after.hub.task task = .finished (.heartbeat result)
  /-- A request is left to another one only if that has the slot. -/
  coalesced : ∀ after, Move manner play after → ∀ task payload stage,
    play.hub.task task = .pong (some id) payload stage →
    after.hub.task task = .finished (.heartbeat .coalesced) →
      stage = .unstarted ∧ ∃ other data, other ≠ task ∧
        play.hub.Answers id other data
  /-- A request that finds its session registered moves the read deadline. -/
  deadline : ∀ after, Move manner play after → ∀ task payload,
    play.hub.task task = .pong (some id) payload .unstarted →
    (after.hub.task task).isUnbegun = false →
      (play.hub.peer id).registered = true →
      (after.hub.peer id).readDeadline =
        play.hub.now.after play.hub.timing.heartbeat
  /-- What a request hands to the socket is a reply with its own data, and it
  has the slot. -/
  hands : ∀ after, Move manner play after → ∀ task payload stage request,
    play.hub.task task = .pong (some id) payload stage →
    calls id after.hub.chronicle =
      calls id play.hub.chronicle ++ [(task, request)] →
      request = .frame (.pong payload) ∧
        (play.hub.Answers id task payload ∨
          (play.hub.peer id).registered = true ∧
            (play.hub.peer id).ponging = false)
  /-- Every request begins once, -/
  distinct : (pings.map Ping.task).Nodup
  /-- and the replies are handed over in the order in which their requests
  began. -/
  order : ∃ answered : List Ping, answered.Sublist pings ∧
    handed pings id play.hub.chronicle = answered.map Ping.call

variable {manner : Manner} {configuration : Configuration} {play : Play}
  {id : PeerId} {pings : List Ping}

namespace PingRun

theorem run (run : PingRun manner configuration id pings play) :
    Run manner (fun _ => True) configuration play := by
  induction run with
  | start chance => exact .start chance trivial
  | move run move induction => exact induction.move move trivial

theorem ofRun
    {holds : Play → Prop} (run : Run manner holds configuration play)
    (id : PeerId) : ∃ pings, PingRun manner configuration id pings play := by
  induction run with
  | start chance held => exact ⟨[], .start chance⟩
  | move run move held induction =>
      obtain ⟨pings, run⟩ := induction
      exact ⟨_, run.move move⟩

theorem unheard (run : PingRun manner configuration id pings play) :
    Unheard play.hub :=
  run.run.invariant (Unheard.start configuration) fun _ _ _ turnover unheard =>
    unheard.turn turnover

theorem replies
    (run : PingRun manner configuration id pings play)
    (leaves : manner.LeavesSlots) : Replies pings play.hub id := by
  induction run with
  | start chance => exact Replies.start configuration chance id
  | move run move induction =>
      exact induction.turn (leaves.never _) run.run.housed run.unheard
        run.run.whole (.ofMove move)

end PingRun

/-- A heartbeat request stays as it is unless it goes on. -/
theorem task_of_move
    {after : Play} (move : Move manner play after) {task : TaskId}
    {payload : Octets} {stage : Ponging}
    (isTask : play.hub.task task = .pong (some id) payload stage) :
    after.hub = play.hub.goOn task ∨
      after.hub.task task = .pong (some id) payload stage := by
  have below : task < play.hub.tasks.size := by
    apply Hub.lt_size_of_task
    rw [isTask]
    rintro ⟨⟩
  have turn := (Turnover.ofMove move).task below
  generalize after.hub = last at turn ⊢
  cases turn with
  | own => exact .inl rfl
  | kept kept => exact .inr (kept.sameTask.trans isTask)
  | @tick later forward passes =>
      obtain ⟨ready, same, -⟩ := Hub.ring_eq { play.hub with now := later }
      rw [same]
      exact .inr isTask

/-- What a task asks of a socket in a move it asks in its own turn. -/
theorem asks_of_move
    {after : Play} (housed : Housed play.hub) (move : Move manner play after)
    {task : TaskId} {request : SinkRequest}
    (asked : calls id after.hub.chronicle =
      calls id play.hub.chronicle ++ [(task, request)]) :
    after.hub = play.hub.goOn task ∧
      ∀ frame, (play.hub.task task).frame? = some frame →
      request = .frame frame := by
  have grows : ∀ {last : Hub}, calls id last.chronicle =
      calls id play.hub.chronicle ++ [(task, request)] →
      calls id last.chronicle ≠ calls id play.hub.chronicle := by
    intro last asked same
    rw [same] at asked
    simp at asked
  rcases (Turnover.ofMove move).quiet id with ⟨number, -, goes⟩ | quiet
  · rw [goes] at asked ⊢
    cases (WriteTurn.goOn (fun peer writes =>
        housed.tasks number peer (Task.regards_of_writes writes)) id).asks with
    | silent silent idle => exact absurd silent (grows asked)
    | asks other askedOther notFinished sends idle busy =>
        cases List.append_cancel_left (asked.symm.trans askedOther)
        exact ⟨rfl, sends⟩
  · obtain ⟨news, chronicle, elsewhere⟩ := quiet.chronicle
    refine absurd ?_ (grows asked)
    rw [chronicle, calls_append, calls_of_elsewhere elsewhere, List.append_nil]

theorem pongTurn_of_housed
    {hub : Hub} (housed : Housed hub) {task : TaskId} {payload : Octets}
    {stage : Ponging} (isTask : hub.task task = .pong (some id) payload stage) :
    PongTurn hub task id payload stage (hub.goOn task) :=
  Hub.pongTurn
    (housed.tasks _ id (Task.regards_of_writes (by rw [isTask]; rfl))) isTask

/-- A reply holds the slot no longer than its delay and its write may take. -/
theorem since_of_answers
    (replies : Replies pings play.hub id) {task : TaskId} {payload : Octets}
    (answers : play.hub.Answers id task payload) :
    ∃ time, ⟨task, payload, time⟩ ∈ pings ∧ time ≤ play.hub.now ∧
      play.hub.now ≤ (Instant.after (time + play.hub.timing.longestDelay.nanos)
        play.hub.timing.pongWrite).tick ∧
      (Span.perMillisecond ∣ play.hub.timing.pongWrite.nanos →
        play.hub.now ≤
          time + (play.hub.timing.pongJitter.nanos +
            play.hub.timing.pongWrite.nanos)) := by
  obtain ⟨stage, begun, isTask⟩ := answers
  obtain ⟨-, time, member, held⟩ :=
    replies.holder task payload stage begun isTask
  obtain ⟨early, whole⟩ := replies.times _ member
  refine ⟨time, member, early, held.bound isTask, fun wholeWrite => ?_⟩
  have wholeDelay :
      Span.perMillisecond ∣ time + play.hub.timing.longestDelay.nanos :=
    Nat.dvd_add whole (Nat.dvd_mul_left _ _)
  have bound := held.bound isTask
  -- Where the limit of the write is whole milliseconds, the clock can stand at
  -- its very end.
  rw [Instant.tick_of_whole
    (Instant.whole_after wholeDelay wholeWrite)] at bound
  have delay :
      play.hub.timing.longestDelay.nanos ≤ play.hub.timing.pongJitter.nanos :=
    Nat.div_mul_le_self _ _
  calc play.hub.now
      ≤ time + play.hub.timing.longestDelay.nanos +
        play.hub.timing.pongWrite.nanos :=
        Nat.le_trans bound (Instant.after_le _ _)
    _ = time +
      (play.hub.timing.longestDelay.nanos + play.hub.timing.pongWrite.nanos) :=
        Nat.add_assoc _ _ _
    _ ≤ time +
      (play.hub.timing.pongJitter.nanos + play.hub.timing.pongWrite.nanos) :=
        Nat.add_le_add_left (Nat.add_le_add_right delay _) _

section

variable {after : Play} {task : TaskId} {payload : Octets} {stage : Ponging}

/-- A reply that is over has given the slot back. -/
theorem frees_of_move
    (housed : Housed play.hub) (move : Move manner play after)
    (answers : play.hub.Answers id task payload)
    (isOver : ¬ after.hub.Answers id task payload) :
    (after.hub.peer id).ponging = false ∧
      ∃ result, (result = .answered ∨ result = .failed) ∧
        after.hub.task task = .finished (.heartbeat result) := by
  obtain ⟨stage, begun, isTask⟩ := answers
  rcases task_of_move move isTask with goes | same
  · rw [goes] at isOver ⊢
    cases pongTurn_of_housed housed isTask with
    | unknown absent ended silent keeps => exact absurd rfl begun
    | coalesced present taken ended silent keeps => exact absurd rfl begun
    | takes present free reply => exact absurd rfl begun
    | replies begun reply =>
        cases reply with
        | goesOn isNext how keeps =>
            exact absurd ⟨_, by cases how <;> rintro ⟨⟩, isNext⟩ isOver
        | concluded attempted ended frees => exact ⟨frees, _, attempted, ended⟩
  · exact absurd ⟨stage, begun, same⟩ isOver

/-- A request that is left to another one finds that this one has the slot. -/
theorem coalesced_of_move
    (replies : Replies pings play.hub id) (housed : Housed play.hub)
    (move : Move manner play after)
    (isTask : play.hub.task task = .pong (some id) payload stage)
    (coalesced : after.hub.task task = .finished (.heartbeat .coalesced)) :
    stage = .unstarted ∧ ∃ other data, other ≠ task ∧
      play.hub.Answers id other data := by
  rcases task_of_move move isTask with goes | same
  · rw [goes] at coalesced
    have noReply : ∀ {slot},
        ReplyTurn play.hub.now play.hub.timing slot task id payload stage
        (play.hub.goOn task) → False := by
      intro slot reply
      cases reply with
      | goesOn isNext how keeps => cases isNext.symm.trans coalesced
      | concluded attempted ended frees =>
          cases ended.symm.trans coalesced
          rcases attempted with same | same <;> cases same
    cases pongTurn_of_housed housed isTask with
    | unknown absent ended silent keeps => cases ended.symm.trans coalesced
    | coalesced present taken ended silent keeps =>
        obtain ⟨other, data, next, begun, isOther⟩ := replies.taken taken
        refine ⟨rfl, other, data, ?_, next, begun, isOther⟩
        rintro rfl
        cases isTask.symm.trans isOther
        exact begun rfl
    | takes present free reply => exact (noReply reply).elim
    | replies begun reply => exact (noReply reply).elim
  · cases same.symm.trans coalesced

/-- A request that asks the socket for something hands over its own reply. -/
theorem hands_of_move
    (housed : Housed play.hub) (move : Move manner play after)
    (isTask : play.hub.task task = .pong (some id) payload stage)
    {request : SinkRequest}
    (asked : calls id after.hub.chronicle =
      calls id play.hub.chronicle ++ [(task, request)]) :
    request = .frame (.pong payload) ∧
      (play.hub.Answers id task payload ∨
        (play.hub.peer id).registered = true ∧
          (play.hub.peer id).ponging = false) := by
  obtain ⟨goes, sends⟩ := asks_of_move housed move asked
  refine ⟨sends _ (by rw [isTask]; rfl), ?_⟩
  rw [goes] at asked
  have noSilence : (play.hub.goOn task).chronicle ≠ play.hub.chronicle := by
    intro silent
    rw [silent] at asked
    simp at asked
  cases pongTurn_of_housed housed isTask with
  | unknown absent ended silent keeps => exact absurd silent noSilence
  | coalesced present taken ended silent keeps => exact absurd silent noSilence
  | takes present free reply => exact .inr ⟨present, free⟩
  | replies begun reply => exact .inl ⟨stage, begun, isTask⟩

end

/-- In every run the heartbeat requests of a session keep their discipline. -/
theorem pong_discipline (run : PingRun manner configuration id pings play)
    (leaves : manner.LeavesSlots) : PongDiscipline manner pings play id := by
  have replies := run.replies leaves
  have housed := run.run.housed
  refine
    { slot := ⟨replies.taken, ?_⟩
      sole := replies.sole
      since := fun task payload answers => since_of_answers replies answers
      frees :=
    fun after move task payload answers => frees_of_move housed move answers
      coalesced :=
    fun after move task payload stage => coalesced_of_move replies housed move
      deadline := fun after move task payload isTask begun present => ?_
      hands := fun after move task payload stage request isTask =>
        hands_of_move housed move isTask
      distinct := replies.distinct
      order := ?_ }
  · rintro ⟨task, payload, stage, begun, isTask⟩
    exact (replies.holder task payload stage begun isTask).1
  · rcases task_of_move move isTask with goes | same
    · rw [goes]
      exact Hub.readDeadline_goOn_pong isTask present
    · rw [same] at begun
      cases begun
  · obtain ⟨answered, waiting, isHanded, inOrder, -⟩ := replies.order
    exact ⟨answered, (List.sublist_append_left _ _).trans inOrder, isHanded⟩

/-! ### Two requests at once -/

/-- Two heartbeat requests have arrived for a session with a slow socket, and it
has taken them. -/
def Play.doublyPinged : Play :=
  let served := ((Play.start {}).perform (.serve { delay := 50 })).2.withHub
    fun hub => hub.goOn 0
  ((served.perform (.arrive 0 [.ok (.ping [1]), .ok (.ping [2])])).2.withHub
    fun hub =>
    hub.goOn 0).withHub fun hub => hub.goOn 0

/-- Both of them have gone on. -/
def Play.coalesced : Play :=
  (Play.doublyPinged.withHub fun hub => hub.goOn 1).withHub fun hub =>
    hub.goOn 2

theorem PingRun.coalesced :
    PingRun .hearings {} 0 [⟨1, [1], 0⟩, ⟨2, [2], 0⟩] Play.coalesced := by
  have started : PingRun .hearings {} 0 [] (Play.start {}) := .start _
  have waiting :=
    started.move (.act (.inl ⟨{ delay := 50 }, rfl⟩) rfl (by rintro _ ⟨⟩))
  have served := waiting.move (.goOn 0 (by decide) (by rintro ⟨⟩))
  have heard := served.move
    (.act (.inr ⟨0, [.ok (.ping [1]), .ok (.ping [2])], rfl⟩) rfl
      (by rintro _ ⟨⟩; decide))
  have once := heard.move (.goOn 0 (by decide) (by rintro ⟨⟩))
  have twice := once.move (.goOn 0 (by decide) (by rintro ⟨⟩))
  have first := twice.move (.goOn 1 (by decide) (by rintro ⟨⟩))
  exact first.move (.goOn 2 (by decide) (by rintro ⟨⟩))

theorem Manner.leavesSlots_hearings : Manner.hearings.LeavesSlots := by
  rintro action (⟨script, rfl⟩ | ⟨id, items, rfl⟩)
  · exact id
  · exact fun takes => takes

/-- The reply to the first of two requests is being written, and the second one
is left to it. -/
theorem pong_discipline_of_two :
    Play.coalesced.hub.Answers 0 1 [1] ∧
      Play.coalesced.hub.task 2 = .finished (.heartbeat .coalesced) ∧
      PongDiscipline .hearings [⟨1, [1], 0⟩, ⟨2, [2], 0⟩] Play.coalesced 0 :=
  ⟨⟨_, by rintro ⟨⟩, rfl⟩, rfl,
    pong_discipline PingRun.coalesced Manner.leavesSlots_hearings⟩

end BroadcastHub.Scenario
