import BroadcastHub.Proofs.Server.Deliveries
import BroadcastHub.Proofs.Server.Openings

/-!
# The loop of a session

How far a session has come can be read off its story: from the opening or the
frame that it took last its read deadline follows, and with that what may come
next.  Every turn continues the story of each session, and no session stands
otherwise than its story says.
-/

namespace BroadcastHub.Server

open Scenario

/-- How far a session has come. -/
inductive LoopState
  | unopened
  /-- It reads, and ends at the deadline unless something arrives. -/
  | reading (deadline : Instant)
  | ended

/-- How a session that reads until a deadline may end, and what it takes
last. -/
inductive Farewell (id : PeerId) (deadline time : Instant) :
    Exit → List Entry → Prop
  | closed (inTime : time ≤ deadline.tick) :
      Farewell id deadline time .socketClosed []
  | expired (isDue : time = deadline.tick) :
      Farewell id deadline time .deadlineExpired []
  | streamEnded (early : time < deadline) :
      Farewell id deadline time .streamEnded []
  | failed {fault : Fault} (early : time < deadline) :
      Farewell id deadline time (.readError fault)
        [⟨time, .took id (.error fault)⟩]
  | closeFrame (early : time < deadline) :
      Farewell id deadline time .closeFrame [⟨time, .took id (.ok .close)⟩]

/-- The stories of a session, latest entry first, and how far it has come by
them. -/
inductive LoopStory (id : PeerId) (timing : Timing) :
    List Entry → LoopState → Prop
  | start : LoopStory id timing [] .unopened
  | aside
      {entry : Entry} {story : List Entry} {state : LoopState}
      (sofar : LoopStory id timing story state)
      (quiet : ¬ entry.happening.Paces id) :
      LoopStory id timing (entry :: story) state
  | opened
      {time : Instant} {story : List Entry}
      (sofar : LoopStory id timing story .unopened) :
      LoopStory id timing (⟨time, .joined id⟩ :: story)
        (.reading (time.after timing.heartbeat))
  /-- It takes a message and passes that on. -/
  | message
      {time deadline : Instant} {story : List Entry} {frame envelope : Frame}
      {first : TaskId} {recipients : List PeerId}
      (sofar : LoopStory id timing story (.reading deadline))
      (early : time < deadline) (isMessage : frame.envelope? = some envelope) :
      LoopStory id timing
        (⟨time, .broadcast first recipients envelope timing.broadcastWrite⟩ ::
          ⟨time, .took id (.ok frame)⟩ :: story)
        (.reading (time.after timing.heartbeat))
  /-- It takes a heartbeat request or a reply to one. -/
  | heartbeat
      {time deadline : Instant} {story : List Entry} {frame : Frame}
      (sofar : LoopStory id timing story (.reading deadline))
      (early : time < deadline) (isControl : frame.envelope? = none)
      (stays : frame ≠ .close) :
      LoopStory id timing (⟨time, .took id (.ok frame)⟩ :: story)
        (.reading (time.after timing.heartbeat))
  | ended {time deadline : Instant} {exit : Exit} {last story : List Entry}
      (sofar : LoopStory id timing story (.reading deadline))
      (farewell : Farewell id deadline time exit last) :
      LoopStory id timing (⟨time, .left id exit⟩ :: last ++ story) .ended

/-- Whether a session waits for what may come before its alarm. -/
structure Sleeps (hub : Hub) (id : PeerId) (alarm : Option Alarm) : Prop where
  alarm : ∃ set, alarm = some set ∧ hub.now < set.due
  isOpen : (hub.peer id).closed = false
  empty : ∀ inbox, (hub.peer id).socket.inbox? = some inbox → inbox = []

/-- How a session stands that has come so far. -/
inductive Stands (hub : Hub) (id : PeerId) : LoopState → Prop
  | unopened (unopened : Unopened hub id) : Stands hub id .unopened
  | reading
      {task : TaskId} {alarm : Option Alarm} {deadline : Instant}
      (seated : Seated hub task id)
      (isTask : hub.task task = .attend id (.reading alarm))
      (deadline_eq : (hub.peer id).readDeadline = deadline)
      (due : ∀ set, alarm = some set → set.due = deadline)
      (inTime : hub.now ≤ deadline.tick)
      (pinged : hub.Pinged id → deadline = hub.now.after hub.timing.heartbeat)
      (awake : task ∈ hub.ready ∨ Sleeps hub id alarm) :
      Stands hub id (.reading deadline)
  | ended
      {task : TaskId} (seated : Seated hub task id)
      (isOver : hub.IsOver task id) : Stands hub id .ended

namespace LoopStory

variable {id : PeerId} {timing : Timing} {news story : List Entry}
  {state : LoopState}

theorem append (sofar : LoopStory id timing story state)
    (quiet : ∀ entry ∈ news, ¬ entry.happening.Paces id) :
    LoopStory id timing (news ++ story) state := by
  induction news with
  | nil => exact sofar
  | cons entry rest induction =>
      refine .aside (induction fun other member => ?_) ?_
      · exact quiet other (List.mem_cons_of_mem entry member)
      · exact quiet entry List.mem_cons_self

end LoopStory

/-! ### Turns -/

/-- Peers keep the kinds of their sockets. -/
theorem Turnover.isLink
    {outsider : Outsider} {before after : Hub} {id : PeerId}
    (turnover : Turnover outsider before after)
    (inside : id < before.peers.size) :
    (after.peer id).socket.desk?.isSome =
      (before.peer id).socket.desk?.isSome := by
  have notNew : id ≠ before.peers.size := Nat.ne_of_lt inside
  cases turnover with
  | outside outside =>
      obtain ⟨news, -, peer, -⟩ := outside.news
      exact (peer id).isLink
  | register added => rw [Hub.peer_addPeer, if_neg notNew]
  | @serve socket task added opened serves =>
      change ((before.addPeer
        { socket, attendant := some before.nextTask }).peer
        id).socket.desk?.isSome = _
      rw [Hub.peer_addPeer, if_neg notNew]
  | go isReady => exact ((Course.goOn before _).peer id).isLink
  | @tick later still forward whole passes =>
      obtain ⟨ready, same, -⟩ := Hub.ring_eq { before with now := later }
      rw [same]
      rfl

theorem Acts.story
    {id : PeerId} {before after : Hub} {frame : Frame} {acts story : List Entry}
    {deadline : Instant} (acted : Acts id before after frame acts)
    (sofar : LoopStory id before.timing story (.reading deadline))
    (early : before.now < deadline) :
    LoopStory id before.timing
      (acts ++ [⟨before.now, .took id (.ok frame)⟩] ++ story)
      (.reading (before.now.after before.timing.heartbeat)) := by
  cases acted with
  | message isMessage => exact .message sofar early isMessage
  | ping => exact .heartbeat sofar early rfl (by rintro ⟨⟩)
  | pong => exact .heartbeat sofar early rfl (by rintro ⟨⟩)

namespace Farewell

variable {id : PeerId} {alarm : Option Alarm} {hub : Hub} {exit : Exit}
  {last : List Entry}

theorem ofEnds
    (ends : Ends id alarm hub exit last) (whole : Span.perMillisecond ∣ hub.now)
    (due : (hub.alarmOf id alarm).due = (hub.peer id).readDeadline)
    (inTime : hub.now ≤ (hub.peer id).readDeadline.tick) :
    Farewell id (hub.peer id).readDeadline hub.now exit last := by
  cases ends with
  | closed isClosed => exact .closed inTime
  | expired isOpen rung notMoved =>
      exact .expired
        (Nat.le_antisymm inTime (Instant.tick_le_of_dvd whole (due ▸ rung)))
  | streamEnded isOpen early found => exact .streamEnded (due ▸ early)
  | failed isOpen early found => exact .failed (due ▸ early)
  | closeFrame isOpen early found => exact .closeFrame (due ▸ early)

end Farewell

namespace Sleeps

variable {id : PeerId} {alarm : Option Alarm} {before after : Hub}
  {news : List Entry}

theorem ofNothing
    (passage : Passage id before after [])
    (isLink : (after.peer id).socket.desk?.isSome =
      (before.peer id).socket.desk?.isSome)
    (found : (before.peer id).socket.take.2 = .nothing)
    (isOpen : (after.peer id).closed = false) {set : Alarm}
    (isAlarm : alarm = some set) (early : after.now < set.due) :
    Sleeps after id alarm where
  alarm := ⟨set, isAlarm, early⟩
  isOpen := isOpen
  empty rest isRest := by
    obtain ⟨inbox, isInbox, same⟩ :=
      Receives.ofKind isLink passage.inbox rest isRest
    have taking : (before.peer id).socket.take =
        ((before.peer id).socket.take.1, .nothing) :=
      congrArg (Prod.mk _) found
    rcases Socket.take_inbox taking isInbox with
      ⟨item, -, isItem, -⟩ | ⟨-, isEmpty, -⟩
    · cases isItem
    · rw [isEmpty] at same
      exact same.symm

/-- Whoever sleeps and is not woken sleeps on. -/
theorem aside
    (sleeps : Sleeps before id alarm) (passage : Passage id before after news)
    (isLink : (after.peer id).socket.desk?.isSome =
      (before.peer id).socket.desk?.isSome)
    (now : after.now = before.now)
    (quiet : ∀ entry ∈ news, ¬ entry.happening.Paces id)
    (unreached : ¬ Reached id news) (isOpen : (after.peer id).closed = false) :
    Sleeps after id alarm where
  alarm := by
    rw [now]
    exact sleeps.alarm
  isOpen := isOpen
  empty rest isRest := by
    obtain ⟨inbox, isInbox, same⟩ :=
      Receives.ofKind isLink passage.inbox rest isRest
    rw [sleeps.empty inbox isInbox, arrived_of_not_reached unreached,
      took_of_quiet quiet] at same
    exact same.symm

/-- Whoever sleeps while somebody else does something is woken if that is of
concern. -/
theorem aside_or_ready
    {task : TaskId} (sleeps : Sleeps before id alarm)
    (passage : Passage id before after news)
    (isTask : after.task task = .attend id (.reading alarm))
    (isLink : (after.peer id).socket.desk?.isSome =
      (before.peer id).socket.desk?.isSome)
    (now : after.now = before.now)
    (quiet : ∀ entry ∈ news, ¬ entry.happening.Paces id)
    (wakes : Reached id news → Play.isReader (after.task task) = true →
      task ∈ after.ready)
    (closes : (before.peer id).closed = false → (after.peer id).closed = true →
      Hub.awaitsClose id (after.task task) = true → task ∈ after.ready) :
    task ∈ after.ready ∨ Sleeps after id alarm := by
  rw [isTask] at wakes closes
  by_cases reached : Reached id news
  · exact .inl (wakes reached rfl)
  · cases isClosed : (after.peer id).closed with
    | true => exact .inl (closes sleeps.isOpen isClosed (decide_eq_true rfl))
    | false =>
        exact .inr (sleeps.aside passage isLink now quiet reached isClosed)

/-- Whoever sleeps while the clock moves is woken when the alarm rings. -/
theorem tick_or_ready
    {task : TaskId} (sleeps : Sleeps before id alarm)
    (rings : ∀ set, alarm = some set → set.due ≤ after.now → task ∈ after.ready)
    (peers : after.peers = before.peers) :
    task ∈ after.ready ∨ Sleeps after id alarm := by
  have samePeer : after.peer id = before.peer id := by
    rw [Hub.peer, peers]
    rfl
  obtain ⟨set, isAlarm, -⟩ := sleeps.alarm
  by_cases rung : set.due ≤ after.now
  · exact .inl (rings set isAlarm rung)
  · refine .inr ⟨⟨set, isAlarm, Nat.not_le.mp rung⟩, ?_, ?_⟩
    · rw [samePeer]
      exact sleeps.isOpen
    · rw [samePeer]
      exact sleeps.empty

end Sleeps

theorem alarmOf_due {hub : Hub} {id : PeerId} {alarm : Option Alarm}
    (due : ∀ set, alarm = some set → set.due = (hub.peer id).readDeadline) :
    (hub.alarmOf id alarm).due = (hub.peer id).readDeadline := by
  cases alarm with
  | none => rfl
  | some set => exact due set rfl

namespace Stands

variable {outsider : Outsider} {id : PeerId} {before after : Hub}
  {news : List Entry} {task : TaskId} {alarm : Option Alarm}

theorem ofRenewed
    (seated : Seated after task id)
    (isTask : after.task task = .attend id (.reading none))
    (awake : task ∈ after.ready) (now : after.now = before.now)
    (configuration : after.configuration = before.configuration)
    (deadline : (after.peer id).readDeadline =
      before.now.after before.timing.heartbeat) :
    Stands after id (.reading (before.now.after before.timing.heartbeat)) := by
  refine .reading seated isTask deadline (by rintro _ ⟨⟩) ?_ ?_ (.inl awake)
  · rw [now]
    exact Nat.le_trans (Instant.le_after _ _) (Instant.le_tick _)
  · intro
    rw [now, Hub.timing, Hub.timing, configuration]

/-- What a step of the session itself makes of it. -/
theorem step
    {state : LoopState}
    (story : LoopStory id before.timing before.chronicle state)
    (seated : Seated after task id) (passage : Passage id before after news)
    (isLink : (after.peer id).socket.desk?.isSome =
      (before.peer id).socket.desk?.isSome)
    (now : after.now = before.now) (whole : Span.perMillisecond ∣ before.now)
    (isReading : state = .reading (before.peer id).readDeadline)
    (due : ∀ set, alarm = some set → set.due = (before.peer id).readDeadline)
    (inTime : before.now ≤ (before.peer id).readDeadline.tick)
    (pinged : before.Pinged id →
      (before.peer id).readDeadline = before.now.after before.timing.heartbeat)
    (step : ReadStep task id alarm before after news) :
    ∃ state, LoopStory id before.timing after.chronicle state ∧
      Stands after id state := by
  subst isReading
  have timing : after.timing = before.timing := by
    rw [Hub.timing, passage.configuration]
    rfl
  have ownDue : (before.alarmOf id alarm).due = (before.peer id).readDeadline :=
    alarmOf_due due
  rw [passage.chronicle]
  cases step with
  | moves isOpen rung moved =>
      rw [ownDue] at moved
      exact absurd moved (Nat.lt_irrefl _)
  | waits isOpen early found isTask silent intake stillOpen deadline size
    pingedBefore =>
      subst silent
      refine ⟨_, story, .reading seated isTask deadline ?_ ?_ ?_ (.inr ?_)⟩
      · rintro _ ⟨⟩
        exact ownDue
      · rw [now]
        exact inTime
      · intro isPinged
        rw [now, timing]
        exact pinged (pingedBefore isPinged)
      · refine .ofNothing passage isLink found stillOpen rfl ?_
        rw [now]
        exact early
  | takes isOpen early found isTask awake did told intake deadline =>
      refine ⟨_, ?_, ofRenewed seated isTask awake now passage.configuration
        deadline⟩
      rw [told]
      exact did.story story (ownDue ▸ early)
  | leaves ends isOver told quiet =>
      refine ⟨.ended, ?_, .ended seated isOver⟩
      rw [told, List.append_assoc]
      exact (LoopStory.ended story (.ofEnds ends whole ownDue inTime)).append
        quiet

/-- What a turn makes of a session that reads. -/
theorem turn_reading
    (story : LoopStory id before.timing before.chronicle
      (.reading (before.peer id).readDeadline))
    (seated : Seated before task id) (passage : Passage id before after news)
    (turn : SessionTurn outsider task id before after news)
    (isLink : (after.peer id).socket.desk?.isSome =
      (before.peer id).socket.desk?.isSome)
    (prompt : Prompt before) (whole : Span.perMillisecond ∣ before.now)
    (never : ¬ outsider.setsDeadlines)
    (noPing : ∀ payload, ¬ outsider.starts (.pong (some id) payload .unstarted))
    (isTask : before.task task = .attend id (.reading alarm))
    (due : ∀ set, alarm = some set → set.due = (before.peer id).readDeadline)
    (inTime : before.now ≤ (before.peer id).readDeadline.tick)
    (pinged : before.Pinged id →
      (before.peer id).readDeadline = before.now.after before.timing.heartbeat)
    (awake : task ∈ before.ready ∨ Sleeps before id alarm) :
    ∃ state, LoopStory id before.timing after.chronicle state ∧
      Stands after id state := by
  have later := seated.turn passage turn
  have timing : after.timing = before.timing := by
    rw [Hub.timing, passage.configuration]
    rfl
  cases turn with
  | aside now quiet sameTask kept wakes closes intake deadline pingedBefore =>
      have isLater := sameTask.trans isTask
      have same :
          (after.peer id).readDeadline = (before.peer id).readDeadline := by
        rcases deadline never with same | ⟨wasPinged, renewed⟩
        · exact same
        · -- A reply begins at the instant at which its request was taken, and
          -- sets the same deadline.
          rw [renewed, pinged wasPinged]
      refine ⟨.reading (before.peer id).readDeadline, ?_,
        .reading later isLater same due ?_ ?_ ?_⟩
      · rw [passage.chronicle]
        exact story.append quiet
      · rw [now]
        exact inTime
      · intro isPinged
        rw [now, timing]
        rcases pingedBefore isPinged with wasPinged | ⟨payload, starts⟩
        · exact pinged wasPinged
        · exact absurd starts (noPing payload)
      · rcases awake with ready | sleeps
        · exact .inl (kept ready)
        · exact sleeps.aside_or_ready passage isLater isLink now quiet
            wakes closes
  | ticks still silent forward isWhole passes tasks peers =>
      have sameTask : ∀ number, after.task number = before.task number := by
        intro number
        rw [Hub.task, tasks]
        rfl
      have samePeer : after.peer id = before.peer id := by
        rw [Hub.peer, peers]
        rfl
      have sleeps : Sleeps before id alarm := awake.resolve_left fun ready => by
        rw [still] at ready
        cases ready
      have passed :
          ∀ set, alarm = some set → after.now ≤ max before.now set.due.tick ∧
          (set.due ≤ after.now → task ∈ after.ready) := by
        rintro set rfl
        exact passes set (by rw [isTask]; exact List.mem_singleton_self set)
      refine ⟨.reading (before.peer id).readDeadline, ?_,
        .reading later ((sameTask task).trans isTask)
          (by rw [samePeer]) due ?_ ?_
          (sleeps.tick_or_ready (fun set isAlarm => (passed set isAlarm).2)
            peers)⟩
      · rw [passage.chronicle, silent]
        exact story
      · obtain ⟨set, isAlarm, -⟩ := sleeps.alarm
        have notPast := (passed set isAlarm).1
        rw [due set isAlarm] at notPast
        exact Nat.le_trans notPast (Nat.max_le.mpr ⟨inTime, Nat.le_refl _⟩)
      · -- The clock stands still until every reply has begun.
        rintro ⟨number, payload, isReply⟩
        have begun := prompt.begun still number
        rw [← sameTask, isReply] at begun
        cases begun
  | ended now quiet wasOver =>
      exact absurd wasOver (Hub.not_isOver_of_reading isTask)
  | arrives now wasTask => cases isTask.symm.trans wasTask
  | reads now wasTask step =>
      cases isTask.symm.trans wasTask
      exact Stands.step story later passage isLink now whole rfl due inTime
        pinged step

end Stands

/-- The story of a session tells how it stands. -/
def Looping (hub : Hub) (id : PeerId) : Prop :=
  ∃ state, LoopStory id hub.timing hub.chronicle state ∧ Stands hub id state

namespace Looping

variable {manner : Manner} {id : PeerId} {before after : Hub}

theorem start
    (configuration : Configuration) (chance : Nat → Nat) (id : PeerId) :
    Looping { Hub.start configuration with chance } id :=
  ⟨.unopened, .start, .unopened (.start configuration chance id)⟩

/-- Every turn continues the story of each session. -/
theorem turn
    (looping : Looping before id) (housed : Housed before)
    (attended : Attended before) (prompt : Prompt before)
    (whole : Span.perMillisecond ∣ before.now)
    (never : ¬ (manner.outsider before.peers.size).setsDeadlines)
    (noPing : ∀ payload,
      ¬ (manner.outsider before.peers.size).starts
        (.pong (some id) payload .unstarted))
    (turnover : Turnover (manner.outsider before.peers.size) before after) :
    Looping after id := by
  obtain ⟨state, story, stands⟩ := looping
  have timing : after.timing = before.timing := by
    rw [Hub.timing, turnover.configuration_eq]
    rfl
  rw [Looping, timing]
  cases stands with
  | unopened unopened =>
      obtain ⟨news, chronicle, ⟨waits, quiet⟩ | ⟨task, opens⟩⟩ :=
        unopened.turn housed attended turnover
      · exact ⟨.unopened, chronicle ▸ story.append quiet, .unopened waits⟩
      · refine
          ⟨_, ?_, .ofRenewed opens.seated opens.isTask opens.awake opens.now
          turnover.configuration_eq opens.deadline⟩
        rw [chronicle, opens.told]
        exact .opened story
  | reading seated isTask deadline_eq due inTime pinged awake =>
      subst deadline_eq
      obtain ⟨news, passage, turn⟩ :=
        SessionTurn.ofTurnover attended seated turnover
      exact Stands.turn_reading story seated passage turn
        (turnover.isLink seated.inside) prompt
        whole never noPing isTask due inTime pinged awake
  | ended seated isOver =>
      obtain ⟨news, passage, turn⟩ :=
        SessionTurn.ofTurnover attended seated turnover
      obtain ⟨stays, quiet⟩ := turn.of_isOver isOver
      exact ⟨.ended, passage.chronicle ▸ story.append quiet,
        .ended (seated.turn passage turn) stays⟩

end Looping

end BroadcastHub.Server
