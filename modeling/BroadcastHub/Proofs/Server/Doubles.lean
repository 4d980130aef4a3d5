import BroadcastHub.Proofs.Server.Alike
import BroadcastHub.Proofs.Server.Polls

/-!
# What tasks do in hubs that are alike

A task that goes on in one hub and the task that stands for it in another do the
same, and leave the hubs alike.  A step may set alarms, in both hubs as many.
-/

namespace BroadcastHub.Server

/-- Two steps that leave hubs alike and answer alike, where alarms may have been
set. -/
def Agree
    (id : PeerId) (pairs : TaskPairs) (orders : AlarmPairs) {Answer : Type}
    (like : AlarmPairs → Answer → Answer → Prop) (first second : Hub × Answer) :
    Prop :=
  ∃ later : AlarmPairs, (∀ one two, orders one two → later one two) ∧
    Alike id pairs later first.1 second.1 ∧ like later first.2 second.2

namespace Agree

variable {id : PeerId} {pairs : TaskPairs} {orders later : AlarmPairs}
  {Answer Other : Type} {like : AlarmPairs → Answer → Answer → Prop}
  {likeToo : AlarmPairs → Other → Other → Prop}
  {first second : Hub × Answer} {third fourth : Hub × Other}

theorem now
    (alike : Alike id pairs orders first.1 second.1)
    (answers : like orders first.2 second.2) :
    Agree id pairs orders like first second :=
  ⟨orders, fun _ _ paired => paired, alike, answers⟩

theorem andThen (agree : Agree id pairs orders like first second)
    (next : ∀ later : AlarmPairs, (∀ one two, orders one two → later one two) →
      Alike id pairs later first.1 second.1 → like later first.2 second.2 →
      Agree id pairs later likeToo third fourth) :
    Agree id pairs orders likeToo third fourth := by
  obtain ⟨later, grows, alike, answers⟩ := agree
  obtain ⟨last, growsToo, alikeToo, answersToo⟩ :=
    next later grows alike answers
  exact ⟨last, fun one two paired => growsToo one two (grows one two paired),
    alikeToo, answersToo⟩

end Agree

namespace Alike

variable {id : PeerId} {pairs : TaskPairs} {orders : AlarmPairs}
  {first second : Hub} (alike : Alike id pairs orders first second)
  {one two : TaskId} {peer : PeerId}

include alike

/-! ### Requests -/

theorem noteProgress (request : SinkRequest) {progress other : Progress}
    (like : progress.Like orders other) :
    Alike id pairs orders (first.noteProgress peer one request progress)
      (second.noteProgress peer two request other) := by
  cases like with
  | done result => exact alike.note fun _ _ => rfl
  | underway operations => exact alike

theorem startRequest
    (different : peer ≠ id) (one two : TaskId) (request : SinkRequest) :
    Agree id pairs orders Progress.Like (first.startRequest peer one request)
      (second.startRequest peer two request) := by
  have noted : Alike id pairs orders (first.note (.asked one peer request))
      (second.note (.asked two peer request)) := alike.note fun _ _ => rfl
  have socket := (alike.peer peer different).socket
  have fresh : orders.also first.alarmsSet second.alarmsSet first.alarmsSet
      second.alarmsSet :=
    .inr ⟨rfl, rfl⟩
  obtain ⟨same, progress⟩ :=
    (second.peer peer).socket.start_like second.now request fresh
  unfold Hub.startRequest
  rw [socket, alike.now]
  generalize (second.peer peer).socket.start second.now first.alarmsSet
    request = begun at same progress ⊢
  generalize (second.peer peer).socket.start second.now second.alarmsSet
    request = begunToo at same progress ⊢
  obtain ⟨after, outcome⟩ := begun
  obtain ⟨afterToo, outcomeToo⟩ := begunToo
  cases same
  exact ⟨_, fun _ _ => .inl,
    (noted.setSocket different after).noteAlarm.noteProgress request progress,
    progress⟩

theorem proceedRequest
    (different : peer ≠ id) (one two : TaskId) (request : SinkRequest)
    {operation other : Operation} (operations : operation.Like orders other) :
    Agree id pairs orders Progress.Like
      (first.proceedRequest peer one request operation)
      (second.proceedRequest peer two request other) := by
  obtain ⟨same, progress⟩ :=
    (second.peer peer).socket.proceed_like second.now request operations
  unfold Hub.proceedRequest
  rw [(alike.peer peer different).socket, alike.now]
  generalize (second.peer peer).socket.proceed second.now request operation =
    ended at same progress ⊢
  generalize (second.peer peer).socket.proceed second.now request other =
    endedToo at same progress ⊢
  obtain ⟨after, outcome⟩ := ended
  obtain ⟨afterToo, outcomeToo⟩ := endedToo
  cases same
  exact .now ((alike.setSocket different after).noteProgress request progress)
    progress

theorem abandonRequest (different : peer ≠ id) (request : SinkRequest) :
    Alike id pairs orders (first.abandonRequest peer request)
      (second.abandonRequest peer request) := by
  unfold Hub.abandonRequest
  rw [(alike.peer peer different).socket]
  exact (alike.setSocket different _).releaseTurn different

theorem settleRequest (different : peer ≠ id) {progress other : Progress}
    (like : progress.Like orders other) :
    Agree id pairs orders Standing.Like (first.settleRequest peer progress)
      (second.settleRequest peer other) := by
  cases like with
  | done result => exact .now (alike.releaseTurn different) (.settled result)
  | underway operations => exact .now alike (.underway operations)

/-! ### Writes -/

theorem beginFrame (different : peer ≠ id) (one two : TaskId) (frame : Frame) :
    Agree id pairs orders Standing.Like (first.beginFrame peer one frame)
      (second.beginFrame peer two frame) := by
  have same := (alike.peer peer different).closed
  unfold Hub.beginFrame
  by_cases closed : (first.peer peer).closed = true
  · rw [if_pos closed, if_pos (same ▸ closed)]
    exact .now (alike.releaseTurn different) (.settled _)
  · rw [if_neg closed, if_neg (same ▸ closed)]
    exact (alike.startRequest different one two (.frame frame)).andThen
      fun later _ alike progress => alike.settleRequest different progress

theorem tryFrame
    (different : peer ≠ id) (pair : (one, two) ∈ pairs) (frame : Frame) :
    Agree id pairs orders Standing.Like (first.tryFrame peer one frame)
      (second.tryFrame peer two frame) := by
  have same : first.hasTurn peer one = second.hasTurn peer two :=
    (alike.peer peer different).turn.isHeldBy_eq alike.matched pair
  unfold Hub.tryFrame
  rw [same]
  split
  · exact alike.beginFrame different one two frame
  · exact .now alike .inLine

theorem abandonFrame
    (different : peer ≠ id) (pair : (one, two) ∈ pairs) (frame : Frame)
    {standing other : Standing} (like : standing.Like orders other) :
    Alike id pairs orders (first.abandonFrame peer one frame standing)
      (second.abandonFrame peer two frame other) := by
  cases like with
  | settled result => exact alike.leaveLine different pair
  | inLine => exact alike.leaveLine different pair
  | underway operations => exact alike.abandonRequest different (.frame frame)

theorem boundFrame
    (different : peer ≠ id) (pair : (one, two) ∈ pairs) (frame : Frame)
    (span : Span) {limit another : Alarm} (limits : limit.Like orders another)
    {standing other : Standing} (like : standing.Like orders other) :
    Agree id pairs orders Written.Like
      (first.boundFrame peer one frame span limit standing)
      (second.boundFrame peer two frame span another other) := by
  have rung : limit.hasRung first.now = another.hasRung second.now := by
    rw [alike.now]
    exact limits.hasRung_eq _
  have bounded : ∀ {standing other : Standing} {stage later : Writing},
      standing.Like orders other → stage.Like orders later →
      Agree id pairs orders Written.Like
        (if limit.hasRung first.now then
          (first.abandonFrame peer one frame standing,
            .finished (.error (.writeTimeout span)))
        else (first, .pending stage))
        (if another.hasRung second.now then
          (second.abandonFrame peer two frame other,
            .finished (.error (.writeTimeout span)))
        else (second, .pending later)) := by
    intro standing other stage later like stages
    rw [rung]
    split
    · exact .now (alike.abandonFrame different pair frame like) (.finished _)
    · exact .now alike (.pending stages)
  cases like with
  | settled result => exact .now alike (.finished result)
  | inLine => exact bounded .inLine (.queued limits)
  | underway operations =>
      exact bounded (.underway operations) (.underway operations limits)

theorem advanceFrame
    (different : peer ≠ id) (pair : (one, two) ∈ pairs) (frame : Frame)
    (span : Span) {stage other : Writing} (stages : stage.Like orders other) :
    Agree id pairs orders Written.Like
      (first.advanceFrame peer one frame span stage)
      (second.advanceFrame peer two frame span other) := by
  cases stages with
  | unstarted =>
      have same := (alike.peer peer different).closed
      unfold Hub.advanceFrame
      by_cases closed : (first.peer peer).closed = true
      · rw [if_pos closed, if_pos (same ▸ closed)]
        exact .now alike (.finished _)
      · rw [if_neg closed, if_neg (same ▸ closed)]
        refine ((alike.requestTurn different pair).tryFrame different pair
          frame).andThen ?_
        intro later _ tried standing
        have due : first.now.after span = second.now.after span := by
          rw [alike.now]
        obtain ⟨last, grows, bounded, written⟩ :=
          tried.noteAlarm.boundFrame different pair frame span
            (.next due _ _) (standing.mono fun _ _ => .inl)
        exact ⟨last, fun _ _ paired => grows _ _ (.inl paired),
          bounded, written⟩
  | queued limits =>
      exact (alike.tryFrame different pair frame).andThen
        fun later grows tried standing =>
        tried.boundFrame different pair frame span (limits.mono grows) standing
  | underway operations limits =>
      refine (alike.proceedRequest different one two (.frame frame)
        operations).andThen ?_
      intro later grows proceeded progress
      refine (proceeded.settleRequest different progress).andThen ?_
      intro last growsToo settled standing
      exact settled.boundFrame different pair frame span
        ((limits.mono grows).mono growsToo) standing

theorem pollFrame
    (different : peer ≠ id) (pair : (one, two) ∈ pairs) (frame : Frame)
    (span : Span) {stage other : Writing} (stages : stage.Like orders other) :
    Agree id pairs orders Written.Like
      (first.pollFrame peer one frame span stage)
      (second.pollFrame peer two frame span other) := by
  have advanced := alike.advanceFrame different pair frame span stages
  unfold Hub.pollFrame
  generalize first.advanceFrame peer one frame span stage = front at advanced ⊢
  generalize second.advanceFrame peer two frame span other = back at advanced ⊢
  obtain ⟨later, grows, alike, written⟩ := advanced
  obtain ⟨frontHub, frontWritten⟩ := front
  obtain ⟨backHub, backWritten⟩ := back
  cases written with
  | finished result =>
      exact ⟨later, grows, alike.note fun _ _ => rfl, .finished result⟩
  | pending stages => exact ⟨later, grows, alike, .pending stages⟩

/-! ### Close frames -/

theorem boundClosing
    (different : peer ≠ id) {limit another : Alarm}
    (limits : limit.Like orders another) {standing other : Standing}
    (like : standing.Like orders other) :
    Agree id pairs orders Closing.LikeIfAny
      (first.boundClosing peer limit standing)
      (second.boundClosing peer another other) := by
  cases like with
  | settled result => exact .now alike .nothing
  | inLine => exact .now alike .nothing
  | underway operations =>
      have rung : limit.hasRung first.now = another.hasRung second.now := by
        rw [alike.now]
        exact limits.hasRung_eq _
      simp only [Hub.boundClosing, rung]
      split
      · exact .now (alike.abandonRequest different .close) .nothing
      · exact .now alike (.closing ⟨operations, limits⟩)

theorem startClosing (different : peer ≠ id) (pair : (one, two) ∈ pairs) :
    Agree id pairs orders Closing.LikeIfAny (first.startClosing peer one)
      (second.startClosing peer two) := by
  have same := (alike.peer peer different).turn.isFree_eq
  have due : first.now.after Hub.closeLimit =
      second.now.after Hub.closeLimit := by rw [alike.now]
  unfold Hub.startClosing
  rw [same]
  split
  · refine ((alike.requestTurn different pair).startRequest different one two
      .close).andThen ?_
    intro later _ started progress
    refine (started.settleRequest different progress).andThen ?_
    intro last _ settled standing
    obtain ⟨final, grows, bounded, closings⟩ :=
      settled.noteAlarm.boundClosing different
        (.next due _ _) (standing.mono fun _ _ => .inl)
    exact ⟨final, fun _ _ paired => grows _ _ (.inl paired), bounded, closings⟩
  · exact .now alike .nothing

theorem proceedClosing
    (different : peer ≠ id) {closing other : Closing}
    (closings : closing.Like orders other) :
    Agree id pairs orders Closing.LikeIfAny
      (first.proceedClosing peer one closing)
      (second.proceedClosing peer two other) := by
  refine (alike.proceedRequest different one two .close
    closings.operation).andThen ?_
  intro later grows proceeded progress
  refine (proceeded.settleRequest different progress).andThen ?_
  intro last growsToo settled standing
  exact settled.boundClosing different
    ((closings.limit.mono grows).mono growsToo) standing

end Alike

/-- Two hubs after steps that may have set alarms. -/
def Alike.Later (id : PeerId) (pairs : TaskPairs) (first second : Hub) : Prop :=
  ∃ orders, Alike id pairs orders first second

namespace Alike

variable {id : PeerId} {pairs : TaskPairs} {orders : AlarmPairs}
  {first second : Hub} (alike : Alike id pairs orders first second)
  {one two : TaskId} {peer : PeerId}

include alike

theorem later : Alike.Later id pairs first second := ⟨orders, alike⟩

/-! ### Deliveries and single frames -/

theorem finishDelivery (different : peer ≠ id) (pair : (one, two) ∈ pairs)
    (result : Except Fault Unit) :
    Alike id pairs orders (first.finishDelivery one peer result)
      (second.finishDelivery two peer result) := by
  cases result with
  | ok =>
      exact (alike.count _ _).finish pair _
  | error fault =>
      exact ((alike.count _ _).close different).finish pair _

theorem pollDelivery
    (different : peer ≠ id) (pair : (one, two) ∈ pairs) (frame : Frame)
    (limit : Span) {stage other : Writing} (stages : stage.Like orders other) :
    Alike.Later id pairs (first.pollDelivery one peer frame limit stage)
      (second.pollDelivery two peer frame limit other) := by
  have polled := alike.pollFrame different pair frame limit stages
  unfold Hub.pollDelivery
  generalize first.pollFrame peer one frame limit stage = front at polled ⊢
  generalize second.pollFrame peer two frame limit other = back at polled ⊢
  obtain ⟨later, grows, alike, written⟩ := polled
  obtain ⟨frontHub, frontWritten⟩ := front
  obtain ⟨backHub, backWritten⟩ := back
  cases written with
  | finished result => exact ⟨later, alike.finishDelivery different pair result⟩
  | pending stages =>
      exact ⟨later, alike.setTask pair (.deliver different frame limit stages)⟩

theorem pollSend
    (different : peer ≠ id) (pair : (one, two) ∈ pairs) (frame : Frame)
    (limit : Span) {stage other : Writing} (stages : stage.Like orders other) :
    Alike.Later id pairs (first.pollSend one peer frame limit stage)
      (second.pollSend two peer frame limit other) := by
  have polled := alike.pollFrame different pair frame limit stages
  unfold Hub.pollSend
  generalize first.pollFrame peer one frame limit stage = front at polled ⊢
  generalize second.pollFrame peer two frame limit other = back at polled ⊢
  obtain ⟨later, grows, alike, written⟩ := polled
  obtain ⟨frontHub, frontWritten⟩ := front
  obtain ⟨backHub, backWritten⟩ := back
  cases written with
  | finished result => exact ⟨later, alike.finish pair _⟩
  | pending stages =>
      exact ⟨later, alike.setTask pair (.send different frame limit stages)⟩

/-! ### Heartbeats -/

theorem finishPong (different : peer ≠ id) (pair : (one, two) ∈ pairs)
    (result : Except Fault Unit) :
    Alike id pairs orders (first.finishPong one peer result)
      (second.finishPong two peer result) := by
  have freed := alike.setPonging different false
  cases result with
  | ok =>
      exact (freed.count _ _).finish pair _
  | error fault => exact freed.finish pair _

theorem writePong
    (different : peer ≠ id) (pair : (one, two) ∈ pairs) (payload : Octets)
    {stage other : Writing} (stages : stage.Like orders other) :
    Alike.Later id pairs (first.writePong one peer payload stage)
      (second.writePong two peer payload other) := by
  have polled :=
    alike.pollFrame different pair (.pong payload) first.timing.pongWrite stages
  unfold Hub.writePong
  rw [← alike.timing]
  generalize first.pollFrame peer one (.pong payload) first.timing.pongWrite
    stage = front at polled ⊢
  generalize second.pollFrame peer two (.pong payload) first.timing.pongWrite
    other = back at polled ⊢
  obtain ⟨later, grows, alike, written⟩ := polled
  obtain ⟨frontHub, frontWritten⟩ := front
  obtain ⟨backHub, backWritten⟩ := back
  cases written with
  | finished result => exact ⟨later, alike.finishPong different pair result⟩
  | pending stages =>
      exact ⟨later, alike.setTask pair
        (.pong different payload (.writing stages))⟩

theorem delayPong
    (different : peer ≠ id) (pair : (one, two) ∈ pairs) (payload : Octets)
    (luck : first.timing.pongJitter.nanos ≠ 0 →
      first.chance first.drawn = second.chance second.drawn) :
    Alike.Later id pairs (first.delayPong one peer payload)
      (second.delayPong two peer payload) := by
  unfold Hub.delayPong
  rw [← alike.timing]
  split
  · exact alike.writePong different pair payload .unstarted
  · rename_i jitter
    have drawn : Alike id pairs orders { first with drawn := first.drawn + 1 }
        { second with drawn := second.drawn + 1 } := alike.idle rfl rfl
    have delay : first.nextDelay = second.nextDelay := by
      unfold Hub.nextDelay
      rw [luck jitter, alike.timing]
    rw [← delay]
    simp only
    split
    · exact drawn.writePong different pair payload .unstarted
    · have ends :
        first.now.after first.nextDelay = second.now.after first.nextDelay := by
        rw [alike.now]
      exact ⟨_, drawn.noteAlarm.setTask pair
        (.pong different payload (.delaying (.next ends _ _)))⟩

end Alike

/-- Whether a heartbeat request draws the delay of its reply. -/
def Hub.drawsDelay (hub : Hub) (id : PeerId) : Bool :=
  (hub.peer id).registered && !(hub.peer id).ponging &&
    decide (hub.timing.pongJitter.nanos ≠ 0)

/-- The session to which a reply draws its delay if a task goes on. -/
def Hub.draws? (hub : Hub) (task : TaskId) : Option PeerId :=
  match hub.task task with
  | .pong (some id) _ .unstarted => if hub.drawsDelay id then some id else none
  | _ => none

namespace Alike

variable {id : PeerId} {pairs : TaskPairs} {orders : AlarmPairs}
  {first second : Hub} (alike : Alike id pairs orders first second)
  {one two : TaskId} {peer : PeerId}

include alike

theorem drawsDelay_eq (different : peer ≠ id) :
    first.drawsDelay peer = second.drawsDelay peer := by
  have like := alike.peer peer different
  unfold Hub.drawsDelay
  rw [like.registered, like.ponging, alike.timing]

theorem draws?_eq (pair : (one, two) ∈ pairs) :
    first.draws? one = second.draws? two := by
  have like := alike.task _ pair
  unfold Hub.draws?
  generalize first.task one = task at like ⊢
  generalize second.task two = other at like ⊢
  cases like with
  | pong different payload stages =>
      cases stages with
      | unstarted =>
          simp only
          rw [alike.drawsDelay_eq different]
      | _ => rfl
  | _ => rfl

theorem startPong
    (different : peer ≠ id) (pair : (one, two) ∈ pairs) (payload : Octets)
    (luck : first.drawsDelay peer = true →
      first.chance first.drawn = second.chance second.drawn) :
    Alike.Later id pairs (first.startPong one peer payload)
      (second.startPong two peer payload) := by
  have renewed := alike.renewDeadline different first.timing.heartbeat
  have like := alike.peer peer different
  unfold Hub.startPong
  rw [← alike.timing, ← like.registered]
  split
  · rename_i present
    have likeToo := renewed.peer peer different
    simp only
    rw [← likeToo.ponging]
    split
    · exact ((renewed.count _ _).finish pair _).later
    · rename_i free
      have held := renewed.setPonging different true
      refine held.delayPong different pair payload fun jitter => luck ?_
      have same :
          ((first.renewDeadline peer first.timing.heartbeat).peer
            peer).ponging =
          (first.peer peer).ponging :=
        Hub.peer_updatePeer_keeps first peer peer fun _ => rfl
      rw [Hub.drawsDelay, present, ← same, Bool.eq_false_iff.mpr free]
      exact decide_eq_true jitter
  · exact (alike.finish pair _).later

theorem pollPong
    (different : peer ≠ id) (pair : (one, two) ∈ pairs) (payload : Octets)
    {stage other : Ponging} (stages : stage.Like orders other)
    (luck : stage = .unstarted → first.drawsDelay peer = true →
      first.chance first.drawn = second.chance second.drawn) :
    Alike.Later id pairs (first.pollPong one (some peer) payload stage)
      (second.pollPong two (some peer) payload other) := by
  cases stages with
  | unstarted => exact alike.startPong different pair payload (luck rfl)
  | @delaying ends another like =>
      have rung : ends.hasRung first.now = another.hasRung second.now := by
        rw [alike.now]
        exact like.hasRung_eq _
      simp only [Hub.pollPong, rung]
      split
      · exact alike.writePong different pair payload .unstarted
      · exact alike.later
  | writing stages => exact alike.writePong different pair payload stages

end Alike

end BroadcastHub.Server
