import BroadcastHub.Proofs.Scenario.BroadcastOutcome
import BroadcastHub.Proofs.Scenario.SessionLoop
import BroadcastHub.Proofs.Server.Sends

/-!
# The discipline of writers

Any number of tasks may write to one session, each with a limit of its own,
while it is closed at any time and its socket delays and fails as it likes.
`WriteDiscipline` says what holds at every point of every run all the same: what
is under way at the socket and who waits for it, and what the moves from there
on can add.

The state is described by `Line`; what becomes of a single write is told by
`SendOutcome`, which follows from what the chronicle holds of it.
-/

namespace BroadcastHub.Server

open Scenario

def Hub.HasWritten
    (hub : Hub) (task : TaskId) (id : PeerId) (frame : Frame) : Prop :=
  ∃ time result, ⟨time, .wrote task id frame result⟩ ∈ hub.chronicle

/-- What can be said of a write at any time after it was called for. -/
structure SendOutcome
    (hub : Hub) (called : Instant) (task : TaskId) (id : PeerId) (frame : Frame)
    (span : Span) : Prop where
  /-- The clock does not pass by the end of the limit before the write is
  over. -/
  inTime : hub.now ≤ (called.after span).tick ∨ hub.HasWritten task id frame
  settled : called.after span ≤ hub.now → hub.ready = [] →
    hub.HasWritten task id frame
  returns : ∀ time other content result,
    ⟨time, .wrote task other content result⟩ ∈ hub.chronicle →
    other = id ∧ content = frame ∧ called ≤ time ∧
      time ≤ (called.after span).tick
  /-- The clock shows limits of whole milliseconds exactly. -/
  exact : Span.perMillisecond ∣ span.nanos →
    (called.after span).tick = called.after span
  cut :
    ∀ time limit, ⟨time, .wrote task id frame (.error (.writeTimeout limit))⟩ ∈
      hub.chronicle →
      limit = span ∧ called.after span ≤ time
  closed :
    ∀ time, ⟨time, .wrote task id frame (.error .closed)⟩ ∈ hub.chronicle →
      (hub.peer id).closed = true ∧
        ∀ asked request, ⟨asked, .asked task id request⟩ ∉ hub.chronicle
  /-- A write that is over without having asked the socket has found the session
  closed, or has stood in line until its limit was over. -/
  unreached :
    (∀ asked request, ⟨asked, .asked task id request⟩ ∉ hub.chronicle) →
    ∀ time result, ⟨time, .wrote task id frame result⟩ ∈ hub.chronicle →
      result = .error .closed ∨ result = .error (.writeTimeout span)

namespace WriteRecord

variable {task : TaskId} {id : PeerId} {frame : Frame} {span : Span}
  {due : Instant} {state : Writing ⊕ Except Fault Unit} {entries : List Entry}

theorem wrote_iff
    (record : WriteRecord task id frame span due state entries) {other : PeerId}
    {content : Frame} {result : Except Fault Unit} :
    (∃ time, ⟨time, .wrote task other content result⟩ ∈ entries) ↔
      state = .inr result ∧ other = id ∧ content = frame := by
  cases record <;> simp
  all_goals
    constructor
    · rintro ⟨rfl, rfl, rfl⟩
      exact ⟨rfl, rfl, rfl⟩
    · rintro ⟨rfl, rfl, rfl⟩
      exact ⟨rfl, rfl, rfl⟩

/-- A write is cut off by its own limit, and not before that. -/
theorem cut_late
    (record : WriteRecord task id frame span due state entries) {limit : Span}
    {time : Instant}
    (member : ⟨time, .wrote task id frame (.error (.writeTimeout limit))⟩ ∈
      entries) :
    limit = span ∧ due ≤ time := by
  cases record with
  | unstarted => cases member
  | queued isDue => cases member
  | underway first isDue => simp at member
  | answered first last answers =>
      simp at member
      rcases answers with same | same <;> cases same <;> cases member.2
  | cut first late =>
      simp at member
      exact ⟨member.2, member.1 ▸ late⟩
  | cutInLine late =>
      simp at member
      exact ⟨member.2, member.1 ▸ late⟩
  | refused last => simp at member

theorem unasked_of_closed
    (record : WriteRecord task id frame span due
      (.inr (.error .closed)) entries)
    (time : Instant) (request : SinkRequest) :
    ⟨time, .asked task id request⟩ ∉ entries := by
  cases record with
  | answered first last answers =>
      rcases answers with same | same <;> cases same
  | refused last => simp

end WriteRecord

namespace Sending

variable {hub : Hub} {called : Instant} {task : TaskId} {id : PeerId}
  {frame : Frame} {span : Span}

theorem record (sending : Sending hub called task id frame span) :
    ∃ state, WriteRecord task id frame span (called.after span) state
      (deeds task hub.chronicle) := by
  rcases sending.state with ⟨stage, -, -, -, record, -⟩ | ⟨result, -, record, -⟩
  · exact ⟨_, record⟩
  · exact ⟨_, record⟩

theorem outcome
    (sending : Sending hub called task id frame span)
    (whole : Span.perMillisecond ∣ called) :
    SendOutcome hub called task id frame span := by
  obtain ⟨state, record⟩ := sending.record
  have own : ∀ {time happening}, happening.isBy task = true →
      ⟨time, happening⟩ ∈ hub.chronicle →
      ⟨time, happening⟩ ∈ deeds task hub.chronicle :=
    fun isBy member => mem_deeds.mpr ⟨member, isBy⟩
  have wrote : ∀ {time other content result},
      ⟨time, .wrote task other content result⟩ ∈ hub.chronicle →
        ⟨time, .wrote task other content result⟩ ∈ deeds task hub.chronicle :=
    own (by simp [Happening.isBy])
  have written : ∀ {result},
      WriteRecord task id frame span (called.after span) (.inr result)
      (deeds task hub.chronicle) → hub.HasWritten task id frame := by
    intro result record
    obtain ⟨time, member⟩ := record.wrote_iff.mpr ⟨rfl, rfl, rfl⟩
    exact ⟨time, result, (mem_deeds.mp member).1⟩
  refine
    { inTime := ?_
      settled := fun late still => ?_
      returns := fun time other content result member => ?_
      exact :=
    fun wholeSpan => Instant.tick_of_whole (Instant.whole_after whole wholeSpan)
      cut := fun time limit member => record.cut_late (wrote member)
      closed := fun time member => ?_
      unreached := fun unasked time result member => ?_ }
  · rcases sending.state with
      ⟨stage, -, -, -, -, inTime, -⟩ | ⟨result, -, record, -⟩
    · exact .inl inTime
    · exact .inr (written record)
  · rcases sending.state with
      ⟨stage, -, -, -, -, -, awake⟩ | ⟨result, -, record, -⟩
    · have member := awake late
      rw [still] at member
      cases member
    · exact written record
  · obtain ⟨-, same⟩ := record.wrote_iff.mp ⟨time, wrote member⟩
    exact ⟨same.1, same.2, sending.times _ (wrote member)⟩
  · obtain ⟨isOver, -⟩ := record.wrote_iff.mp ⟨time, wrote member⟩
    subst isOver
    refine ⟨?_, fun asked request isAsked => ?_⟩
    · rcases sending.state with
        ⟨stage, -, -, -, other, -⟩ | ⟨result, -, other, lost⟩
      · cases (other.wrote_iff.mp ⟨time, wrote member⟩).1
      · cases (other.wrote_iff.mp ⟨time, wrote member⟩).1
        exact lost rfl
    · exact record.unasked_of_closed asked request
        (own (by simp [Happening.isBy]) isAsked)
  · obtain ⟨isOver, -⟩ := record.wrote_iff.mp ⟨time, wrote member⟩
    rcases record.attempted isOver with
      ⟨asked, isAsked⟩ | ⟨last, refused⟩ | ⟨last, -, isCut⟩
    · exact absurd (mem_deeds.mp isAsked).1 (unasked asked _)
    · cases isOver.symm.trans (record.wrote_iff.mp ⟨last, refused⟩).1
      exact .inl rfl
    · cases isOver.symm.trans (record.wrote_iff.mp ⟨last, isCut⟩).1
      exact .inr rfl

end Sending

theorem Turn.release_eq (turn : Turn) :
    turn.release = ⟨turn.waiting.head?, turn.waiting.tail⟩ := by
  obtain ⟨holder, waiting⟩ := turn
  cases waiting <;> rfl

/-! ### Calls to a socket -/

/-- A task has something under way at a socket where it stands as a writer that
has asked. -/
theorem Task.asking_of_operationAt
    {task : Task} {id : PeerId} (busy : task.operationAt id ≠ none) :
    ∃ request operation limit,
      task.postAt id = some (.asking request operation limit) := by
  unfold operationAt at busy
  cases isPost : task.postAt id with
  | none =>
      rw [isPost] at busy
      exact absurd rfl busy
  | some post =>
      cases post with
      | inLine limit =>
          rw [isPost] at busy
          exact absurd rfl busy
      | asking request operation limit => exact ⟨request, operation, limit, rfl⟩

/-- While something is under way at a socket, nothing else is asked of it. -/
theorem Line.unasked_of_frameStep
    {posts : TaskId → Option Post} {turn : Turn} {awake : TaskId → Prop}
    {now : Instant} {closed : Bool} {holder task : TaskId} {id : PeerId}
    {frame : Frame} {span : Span} {stage : Writing} {socket : Socket}
    {after : Station} {told : List Happening} {written : Written}
    (line : Line posts turn awake) (own : posts task = stage.post? frame)
    (step : FrameStep now closed task id frame span stage ⟨turn, socket⟩ told
      after written)
    {request : SinkRequest} {operation : Operation} {limit : Alarm}
    (asking : posts holder = some (.asking request operation limit)) :
    calls id (entriesAt now told) = [] := by
  have held := line.asking holder request operation limit asking
  -- Whoever asks has the turn, so it would be the holder, which has asked
  -- already.
  have noneElse : stage.hasAsked = false →
      (stage.approach task turn).holder ≠ some task := by
    intro early isHolder
    rw [line.approach_eq own held isHolder] at isHolder
    cases Option.some.inj (held.symm.trans isHolder)
    cases stage with
    | unstarted => cases asking.symm.trans own
    | queued limit => cases asking.symm.trans own
    | underway operation limit => cases early
  cases step with
  | refused isClosed => rfl
  | refusedInTurn isClosed isHolder => rfl
  | answeredAtOnce early isOpen isHolder started =>
      exact absurd isHolder (noneElse early)
  | cutAtOnce early isOpen isHolder started late =>
      exact absurd isHolder (noneElse early)
  | begun early isOpen isHolder started due inTime =>
      exact absurd isHolder (noneElse early)
  | cutInLine early waits late => rfl
  | inLine early waits due inTime => rfl
  | answered proceeded => rfl
  | cut proceeded late => rfl
  | goesOn proceeded inTime => rfl

theorem CloseStep.unasked_of_taken
    {now : Instant} {holder task : TaskId} {id : PeerId}
    {current next : Option Closing} {before after : Station}
    {told : List Happening}
    (step : CloseStep now task id current before told after next)
    (held : before.turn.holder = some holder) :
    calls id (entriesAt now told) = [] := by
  have taken : ∀ {turn : Turn}, turn.holder = some holder →
      ¬ turn.isFree = true := by
    intro turn held
    simp [Turn.isFree, held]
  cases step with
  | busy isTaken => rfl
  | answeredAtOnce free started => exact absurd free (taken held)
  | cutAtOnce free started => exact absurd free (taken held)
  | begun free started => exact absurd free (taken held)
  | answered proceeded => rfl
  | cut proceeded => rfl
  | goesOn proceeded => rfl

/-- What a turnover asks of a socket. -/
inductive Asks (id : PeerId) (before : Hub) : List Call → Prop
  | nothing : Asks id before []
  | frame
      {task : TaskId} {frame : Frame}
      (isOpen : (before.peer id).closed = false) :
      Asks id before [(task, .frame frame)]
  | close {task : TaskId} (parts : before.task task = .sendClose id none ∨
      (before.peer id).closed = true) : Asks id before [(task, .close)]

/-- A turnover asks at most one thing of a socket, and nothing while something
is under way there. -/
theorem Turnover.asks
    {manner : Manner} {before after : Hub} (housed : Housed before)
    (lines : Lines before)
    (turnover : Turnover (manner.outsider before.peers.size) before after)
    (id : PeerId) :
    ∃ news, calls id after.chronicle = calls id before.chronicle ++ news ∧
      Asks id before news ∧
      ∀ holder, (before.task holder).operationAt id ≠ none → news = [] := by
  have silent : ∀ news, after.chronicle = news ++ before.chronicle →
      (∀ entry ∈ news, ¬ entry.happening.isAt id) →
      ∃ news, calls id after.chronicle = calls id before.chronicle ++ news ∧
        Asks id before news ∧
        ∀ holder, (before.task holder).operationAt id ≠ none → news = [] := by
    intro news chronicle elsewhere
    refine ⟨[], ?_, .nothing, fun _ _ => rfl⟩
    rw [chronicle, calls_append, calls_of_elsewhere elsewhere]
  rcases turnover.quiet id with ⟨task, -, rfl⟩ | quiet
  · cases WriteTurn.goOn (fun peer writes =>
        housed.tasks task peer (Task.regards_of_writes writes)) id with
    | aside own aside =>
        obtain ⟨news, chronicle, elsewhere⟩ := aside.chronicle
        exact silent news chronicle elsewhere
    | @frame frame span stage told station written sends within own step
        stationAfter chronicle ended posts =>
        refine ⟨calls id (entriesAt before.now told), by
          rw [chronicle, calls_append], ?_, ?_⟩
        · rcases step.calls_told with ⟨unasked, -⟩ | ⟨isOpen, -, -, asked⟩
          · rw [unasked]
            exact .nothing
          · rw [asked]
            exact .frame isOpen
        · intro holder busy
          obtain ⟨request, operation, limit, isAsking⟩ :=
            Task.asking_of_operationAt busy
          exact (lines id).unasked_of_frameStep own step isAsking
    | @close current next told station earlier asks own step stationAfter
        chronicle elsewhere ended posts =>
        refine ⟨calls id (entriesAt before.now told), ?_, ?_, ?_⟩
        · rw [chronicle, calls_append, calls_append,
            calls_of_elsewhere elsewhere, List.append_nil]
        · rcases step.calls_told with unasked | ⟨isNone, asked⟩
          · rw [unasked]
            exact .nothing
          · rw [asked]
            exact .close ((asks isNone).imp_right And.left)
        · intro holder busy
          obtain ⟨request, operation, limit, isAsking⟩ :=
            Task.asking_of_operationAt busy
          exact step.unasked_of_taken ((lines id).asking _ _ _ _ isAsking)
  · obtain ⟨news, chronicle, elsewhere⟩ := quiet.chronicle
    exact silent news chronicle elsewhere

end BroadcastHub.Server

namespace BroadcastHub.Scenario

open Server

/-- How those stand at a point of a run who write to a session, and what the
moves from there on can add. -/
structure WriteDiscipline
    (manner : Manner) (play : Play) (id : PeerId) : Prop where
  /-- At most one request is under way at the socket. -/
  sole : ∀ first second, (play.hub.task first).operationAt id ≠ none →
    (play.hub.task second).operationAt id ≠ none → first = second
  /-- Meanwhile no other one begins. -/
  alone : ∀ task, (play.hub.task task).operationAt id ≠ none →
    ∀ after, Move manner play after →
      calls id after.hub.chronicle = calls id play.hub.chronicle
  /-- Once the session is closed no frame is handed to its socket any more. -/
  noFrames : (play.hub.peer id).closed = true →
    ∀ later, Moves manner play later →
      ∃ news, calls id later.hub.chronicle =
        calls id play.hub.chronicle ++ news ∧
        ∀ call ∈ news, call.2 = .close
  /-- Where closing is left to sessions, a socket is closed once, after
  everything else, and only if the session is closed. -/
  closesLast : manner.LeavesParting false → ∀ earlier task later,
    calls id play.hub.chronicle = earlier ++ (task, .close) :: later →
      later = [] ∧ ∀ call ∈ earlier, call.2 ≠ .close
  closesClosed : manner.LeavesParting false →
    ∀ after, Move manner play after → ∀ task,
    calls id after.hub.chronicle =
      calls id play.hub.chronicle ++ [(task, .close)] →
      (play.hub.peer id).closed = true
  /-- Writes that find the session closed say so. -/
  refused : (play.hub.peer id).closed = true → ∀ after, Move manner play after →
    ∀ task frame span, play.hub.Sends task id frame span →
      (play.hub.task task).operationAt id = none →
      Refusal task id frame span play.hub after.hub
  /-- A write that is asked for begins before the clock moves on. -/
  begins :
    ∀ task frame limit, play.hub.task task = .send id frame limit .unstarted →
      task ∈ play.hub.ready
  /-- Every write has its outcome when its limit is over. -/
  returns : ∀ after, Move manner play after → ∀ task frame span,
    play.hub.Sends task id frame span → ¬ play.hub.HasCalled id task →
      after.hub.HasCalled id task →
      ∀ later, Moves manner after later →
        SendOutcome later.hub play.hub.now task id frame span
  /-- Nobody has the turn or waits for it but writers that go on. -/
  line : Line (play.hub.posts id) (play.hub.peer id).turn fun task =>
    task ∈ play.hub.ready
  /-- A turn that ends passes to the first in line, who is ready then. -/
  passes : ∀ after, Move manner play after → ∀ holder,
    (play.hub.peer id).turn.holder = some holder →
    (after.hub.peer id).turn.holder ≠ some holder →
      (after.hub.peer id).turn =
        ⟨(play.hub.peer id).turn.waiting.head?,
          (play.hub.peer id).turn.waiting.tail⟩ ∧
      ∀ next, (after.hub.peer id).turn.holder = some next →
      next ∈ after.hub.ready

variable {manner : Manner} {holds : Play → Prop} {configuration : Configuration}
  {play after later : Play}

theorem Run.forget (run : Run manner holds configuration play) :
    Run manner (fun _ => True) configuration play := by
  induction run with
  | start chance held => exact .start chance trivial
  | move run move held induction => exact .move induction move trivial

theorem Run.lines (run : Run manner holds configuration play) :
    Lines play.hub :=
  run.invariant (Lines.start configuration) fun _ _ before turnover lines =>
    lines.turn before.housed turnover

theorem Run.promptSends (run : Run manner holds configuration play) :
    PromptSends play.hub :=
  run.invariant (PromptSends.start configuration) fun _ _ _ turnover prompt =>
    prompt.turn turnover

theorem Run.sending
    (run : Run manner (fun _ => True) configuration after)
    (moves : Moves manner after later) {called : Instant} {task : TaskId}
    {id : PeerId} {frame : Frame} {span : Span}
    (sending : Sending after.hub called task id frame span) :
    Sending later.hub called task id frame span := by
  induction moves with
  | refl => exact sending
  | tail moves move induction =>
      exact induction.turn (run.moves moves).housed (.ofMove move)

/-- What is asked of the socket of a closed session is only to close. -/
theorem Run.unframed
    (run : Run manner (fun _ => True) configuration play) {id : PeerId}
    (closed : (play.hub.peer id).closed = true)
    (moves : Moves manner play later) :
    (later.hub.peer id).closed = true ∧
      ∃ news, calls id later.hub.chronicle =
        calls id play.hub.chronicle ++ news ∧
        ∀ call ∈ news, call.2 = .close := by
  induction moves with
  | refl => exact ⟨closed, [], by simp, by rintro _ ⟨⟩⟩
  | @tail middle last moves move induction =>
      obtain ⟨stillClosed, earlier, same, onlyCloses⟩ := induction
      have before := run.moves moves
      obtain ⟨news, grown, asks, -⟩ :=
        Turnover.asks before.housed before.lines (.ofMove move) id
      refine ⟨(Turnover.ofMove move).closed stillClosed,
        earlier ++ news, by rw [grown, same, List.append_assoc], ?_⟩
      intro call member
      rcases List.mem_append.mp member with old | new
      · exact onlyCloses call old
      · cases asks with
        | nothing => cases new
        | frame isOpen =>
            rw [stillClosed] at isOpen
            cases isOpen
        | close parts =>
            rw [List.mem_singleton.mp new]

/-- In every run the writers to a session keep their discipline. -/
theorem write_discipline
    (run : Run manner holds configuration play) (id : PeerId) :
    WriteDiscipline manner play id := by
  have line := run.lines id
  have asking : ∀ task, (play.hub.task task).operationAt id ≠ none →
      (play.hub.peer id).turn.holder = some task := by
    intro task busy
    obtain ⟨request, operation, limit, isAsking⟩ :=
      Task.asking_of_operationAt busy
    exact line.asking task request operation limit isAsking
  refine
    { sole := fun first second one two =>
        Option.some.inj ((asking first one).symm.trans (asking second two))
      alone := fun task busy after move => ?_
      noFrames := fun closed later moves => (run.forget.unframed closed moves).2
      closesLast := fun leaves earlier task later same => ?_
      closesClosed := fun leaves after move task grown => ?_
      refused := fun closed after move task frame span sends unasked =>
        (Turnover.ofMove move).refused run.housed run.lines sends closed unasked
      begins :=
    fun task frame limit isSend => run.promptSends task id frame limit isSend
      returns :=
    fun after move task frame span sends notYet hasCalled later moves => ?_
      line := line
      passes := fun after move holder held passes => ?_ }
  · obtain ⟨news, grown, -, silent⟩ :=
      Turnover.asks run.housed run.lines (.ofMove move) id
    rw [grown, silent task busy, List.append_nil]
  · have last := (run.partings leaves).last id
    refine ⟨(last earlier _ later same trivial).1, fun call member closes => ?_⟩
    obtain ⟨before, between, rfl⟩ := List.append_of_mem member
    have more := (last before call (between ++ (task, .close) :: later)
      (by rw [same, List.append_assoc]; rfl) (by rw [closes]; trivial)).1
    exact absurd more (by simp)
  · obtain ⟨news, sameGrown, asks, -⟩ :=
      Turnover.asks run.housed run.lines (.ofMove move) id
    cases List.append_cancel_left (grown.symm.trans sameGrown)
    cases asks with
    | close parts =>
        exact parts.resolve_left ((run.partings leaves).senders task id none)
  · have sending :=
      Sending.ofCall run.housed (Turnover.ofMove move) sends notYet hasCalled
    exact ((run.forget.move move trivial).sending moves sending).outcome
      run.whole
  · obtain ⟨passed, woken⟩ :=
      run.lines.passes run.housed (Turnover.ofMove move) held passes
    exact ⟨passed.trans (Turn.release_eq _), woken⟩

/-! ### Two writes and a closed session -/

/-- Runs in which clients connect, and the session of the first one is written
to and closed. -/
def Manner.quarrels : Manner where
  allows action := (∃ room limit, action = .wire room limit) ∨
    (∃ frame limit, action = .send 0 frame limit) ∨ action = .close 0
  inOrder := False

/-- A client with little room has connected, and its session has been seen. -/
def Play.cramped : Play :=
  let opened :=
    ((Play.start {}).perform (.wire 2 none)).2.withHub fun hub => hub.goOn 0
  { opened with known := opened.known.update 0 fun known => { known with
    seen := true } }

/-- One octet is being written to that client, and the next one waits for its
turn. -/
def Play.quarrelling : Play :=
  let first := (Play.cramped.perform (.send 0 (.binary [1]) (.ofMillis 10))).2
  let second := (first.perform (.send 0 (.binary [2]) (.ofMillis 20))).2
  (second.withHub fun hub => hub.goOn 1).withHub fun hub => hub.goOn 2

/-- The session has been closed, the client has read, and both writes have gone
on. -/
def Play.quarrelled : Play :=
  let read :=
    (Play.quarrelling.perform (.close 0)).2.withHub fun hub => hub.letRead 0
  (read.withHub fun hub => hub.goOn 1).withHub fun hub => hub.goOn 2

theorem Run.quarrelled : Run .quarrels (fun _ => True) {} .quarrelled := by
  have started : Run .quarrels (fun _ => True) {} (Play.start {}) :=
    .start _ trivial
  have wired :=
    started.move (.act (.inl ⟨2, none, rfl⟩) rfl (by rintro _ ⟨⟩)) trivial
  have opened := wired.move (.goOn 0 (by decide) (by rintro ⟨⟩)) trivial
  have seen : Run .quarrels (fun _ => True) {} .cramped :=
    opened.move (.notice _ _) trivial
  have first := seen.move
    (.act (.inr (.inl ⟨.binary [1], .ofMillis 10, rfl⟩)) rfl
      (by rintro _ ⟨⟩; decide)) trivial
  have second := first.move
    (.act (.inr (.inl ⟨.binary [2], .ofMillis 20, rfl⟩)) rfl
      (by rintro _ ⟨⟩; decide)) trivial
  have begun := second.move (.goOn 1 (by decide) (by rintro ⟨⟩)) trivial
  have waiting := begun.move (.goOn 2 (by decide) (by rintro ⟨⟩)) trivial
  have closed :=
    waiting.move (.act (.inr (.inr rfl)) rfl (by rintro _ ⟨⟩; decide)) trivial
  have read := closed.move (.read 0) trivial
  have written := read.move (.goOn 1 (by decide) (by rintro ⟨⟩)) trivial
  exact written.move (.goOn 2 (by decide) (by rintro ⟨⟩)) trivial

/-- The first write goes on when the client has read, and the second one finds
the session closed when its turn comes. -/
theorem write_discipline_of_quarrel :
    (Play.quarrelling.hub.peer 0).turn = ⟨some 1, [2]⟩ ∧
      deeds 1 Play.quarrelled.hub.chronicle =
        [⟨0, .wrote 1 0 (.binary [1]) (.ok ())⟩,
          ⟨0, .answered 1 0 (.frame (.binary [1])) (.ok ())⟩,
          ⟨0, .asked 1 0 (.frame (.binary [1]))⟩] ∧
      deeds 2 Play.quarrelled.hub.chronicle =
        [⟨0, .wrote 2 0 (.binary [2]) (.error .closed)⟩] ∧
      WriteDiscipline .quarrels .quarrelled 0 :=
  ⟨rfl, rfl, rfl, write_discipline Run.quarrelled 0⟩

end BroadcastHub.Scenario
