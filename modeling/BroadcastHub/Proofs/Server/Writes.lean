import BroadcastHub.Proofs.Server.Sessions

/-!
# What can come of a write

`FrameStep` lists the ways in which the write of a frame can go on, with
what each of them does to the turn and to the socket and what it puts into
the chronicle; `CloseStep` does the same for the sending of a close frame.
Nothing else is known of a write elsewhere.
-/

namespace BroadcastHub.Server

/-- What a writer shares with the other writers to its peer. -/
structure Station where
  turn : Turn
  socket : Socket

namespace Hub

def station (hub : Hub) (id : PeerId) : Station :=
  ⟨(hub.peer id).turn, (hub.peer id).socket⟩

end Hub

namespace Writing

/-- The turn after a write has asked for it, once. -/
def approach (task : TaskId) (turn : Turn) : Writing → Turn
  | unstarted => turn.request task
  | _ => turn

/-- When the limit of a write is over. -/
def due (now : Instant) (span : Span) : Writing → Instant
  | unstarted => now.after span
  | queued limit => limit.due
  | underway _ limit => limit.due

def hasAsked : Writing → Bool
  | underway _ _ => true
  | _ => false

end Writing

/-- A write that goes on at an instant: how far it was, what it finds, what
happens, latest first, what it leaves, and what has become of it. -/
inductive FrameStep
    (now : Instant) (closed : Bool) (task : TaskId) (id : PeerId)
    (frame : Frame) (span : Span) :
    Writing → Station → List Happening → Station → Written → Prop
  | refused {station : Station} (isClosed : closed = true) :
      FrameStep now closed task id frame span .unstarted station
        [.wrote task id frame (.error .closed)] station
        (.finished (.error .closed))
  | refusedInTurn
      {limit : Alarm} {turn : Turn} {socket : Socket} (isClosed : closed = true)
      (held : turn.holder = some task) :
      FrameStep now closed task id frame span (.queued limit) ⟨turn, socket⟩
        [.wrote task id frame (.error .closed)] ⟨turn.release, socket⟩
        (.finished (.error .closed))
  | answeredAtOnce
      {stage : Writing} {turn : Turn} {socket after : Socket} {order : Nat}
      {result : Except Fault Unit} (early : stage.hasAsked = false)
      (isOpen : closed = false)
      (held : (stage.approach task turn).holder = some task)
      (started : socket.start now order (.frame frame) =
        (after, .done result)) :
      FrameStep now closed task id frame span stage ⟨turn, socket⟩
        [.wrote task id frame result, .answered task id (.frame frame) result,
          .asked task id (.frame frame)]
        ⟨(stage.approach task turn).release, after⟩ (.finished result)
  | cutAtOnce
      {stage : Writing} {turn : Turn} {socket after : Socket} {order : Nat}
      {operation : Operation} (early : stage.hasAsked = false)
      (isOpen : closed = false)
      (held : (stage.approach task turn).holder = some task)
      (started : socket.start now order (.frame frame) =
        (after, .underway operation))
      (late : stage.due now span ≤ now) :
      FrameStep now closed task id frame span stage ⟨turn, socket⟩
        [.wrote task id frame (.error (.writeTimeout span)),
          .asked task id (.frame frame)]
        ⟨(stage.approach task turn).release, after.abandon (.frame frame)⟩
        (.finished (.error (.writeTimeout span)))
  | begun
      {stage : Writing} {turn : Turn} {socket after : Socket} {order : Nat}
      {operation : Operation} {limit : Alarm} (early : stage.hasAsked = false)
      (isOpen : closed = false)
      (held : (stage.approach task turn).holder = some task)
      (started : socket.start now order (.frame frame) =
        (after, .underway operation))
      (due : limit.due = stage.due now span) (inTime : now < limit.due) :
      FrameStep now closed task id frame span stage ⟨turn, socket⟩
        [.asked task id (.frame frame)] ⟨stage.approach task turn, after⟩
        (.pending (.underway operation limit))
  | cutInLine
      {stage : Writing} {turn : Turn} {socket : Socket}
      (early : stage.hasAsked = false)
      (waits : (stage.approach task turn).holder ≠ some task)
      (late : stage.due now span ≤ now)
      (opens : stage = .unstarted → closed = false) :
      FrameStep now closed task id frame span stage ⟨turn, socket⟩
        [.wrote task id frame (.error (.writeTimeout span))]
        ⟨(stage.approach task turn).leave task, socket⟩
        (.finished (.error (.writeTimeout span)))
  | inLine
      {stage : Writing} {turn : Turn} {socket : Socket} {limit : Alarm}
      (early : stage.hasAsked = false)
      (waits : (stage.approach task turn).holder ≠ some task)
      (due : limit.due = stage.due now span) (inTime : now < limit.due)
      (opens : stage = .unstarted → closed = false) :
      FrameStep now closed task id frame span stage ⟨turn, socket⟩ []
        ⟨stage.approach task turn, socket⟩ (.pending (.queued limit))
  | answered
      {limit : Alarm} {turn : Turn} {socket after : Socket}
      {operation : Operation} {result : Except Fault Unit}
      (proceeded : socket.proceed now (.frame frame) operation =
        (after, .done result)) :
      FrameStep now closed task id frame span (.underway operation limit)
        ⟨turn, socket⟩ [.wrote task id frame result,
          .answered task id (.frame frame) result]
        ⟨turn.release, after⟩ (.finished result)
  | cut
      {limit : Alarm} {turn : Turn} {socket after : Socket}
      {operation next : Operation}
      (proceeded : socket.proceed now (.frame frame) operation =
        (after, .underway next))
      (late : limit.due ≤ now) :
      FrameStep now closed task id frame span (.underway operation limit)
        ⟨turn, socket⟩ [.wrote task id frame (.error (.writeTimeout span))]
        ⟨turn.release, after.abandon (.frame frame)⟩
        (.finished (.error (.writeTimeout span)))
  | goesOn
      {limit : Alarm} {turn : Turn} {socket after : Socket}
      {operation next : Operation}
      (proceeded : socket.proceed now (.frame frame) operation =
        (after, .underway next))
      (inTime : now < limit.due) :
      FrameStep now closed task id frame span (.underway operation limit)
        ⟨turn, socket⟩ [] ⟨turn, after⟩ (.pending (.underway next limit))

/-- The same for the sending of a close frame, where there is no line. -/
inductive CloseStep (now : Instant) (task : TaskId) (id : PeerId) :
    Option Closing → Station → List Happening → Station → Option Closing → Prop
  | busy {station : Station} (taken : station.turn.isFree = false) :
      CloseStep now task id none station [] station none
  | answeredAtOnce {turn : Turn} {socket after : Socket} {order : Nat}
      {result : Except Fault Unit} (free : turn.isFree = true)
      (started : socket.start now order .close = (after, .done result)) :
      CloseStep now task id none ⟨turn, socket⟩
        [.answered task id .close result, .asked task id .close]
        ⟨(turn.request task).release, after⟩ none
  | cutAtOnce
      {turn : Turn} {socket after : Socket} {order : Nat}
      {operation : Operation} (free : turn.isFree = true)
      (started : socket.start now order .close = (after, .underway operation)) :
      CloseStep now task id none ⟨turn, socket⟩ [.asked task id .close]
        ⟨(turn.request task).release, after.abandon .close⟩ none
  | begun
      {turn : Turn} {socket after : Socket} {order : Nat} {closing : Closing}
      (free : turn.isFree = true)
      (started : socket.start now order .close =
        (after, .underway closing.operation)) :
      CloseStep now task id none ⟨turn, socket⟩ [.asked task id .close]
        ⟨turn.request task, after⟩ (some closing)
  | answered
      {closing : Closing} {turn : Turn} {socket after : Socket}
      {result : Except Fault Unit}
      (proceeded : socket.proceed now .close closing.operation =
        (after, .done result)) :
      CloseStep now task id (some closing) ⟨turn, socket⟩
        [.answered task id .close result] ⟨turn.release, after⟩ none
  | cut
      {closing : Closing} {turn : Turn} {socket after : Socket}
      {next : Operation}
      (proceeded : socket.proceed now .close closing.operation =
        (after, .underway next)) :
      CloseStep now task id (some closing) ⟨turn, socket⟩ []
        ⟨turn.release, after.abandon .close⟩ none
  | goesOn
      {closing next : Closing} {turn : Turn} {socket after : Socket}
      (proceeded : socket.proceed now .close closing.operation =
        (after, .underway next.operation)) :
      CloseStep now task id (some closing) ⟨turn, socket⟩ [] ⟨turn, after⟩
        (some next)

/-- What a write sees of a hub. -/
structure Scene
    (hub : Hub) (id : PeerId) (now : Instant) (closed : Bool)
    (station : Station) (chronicle : List Entry) : Prop where
  inside : id < hub.peers.size
  now : hub.now = now
  closed : (hub.peer id).closed = closed
  station : hub.station id = station
  chronicle : hub.chronicle = chronicle

namespace Scene

variable {hub : Hub} {id : PeerId} {now : Instant} {closed : Bool}
  {station : Station} {turn : Turn} {socket : Socket} {chronicle : List Entry}

theorem turn_eq (scene : Scene hub id now closed ⟨turn, socket⟩ chronicle) :
    (hub.peer id).turn = turn :=
  congrArg Station.turn scene.station

theorem socket_eq (scene : Scene hub id now closed ⟨turn, socket⟩ chronicle) :
    (hub.peer id).socket = socket :=
  congrArg Station.socket scene.station

theorem updatePeer
    (scene : Scene hub id now closed station chronicle) {change : Peer → Peer}
    {after : Station}
    (same : (change (hub.peer id)).closed = (hub.peer id).closed)
    (changed : (⟨(change (hub.peer id)).turn, (change (hub.peer id)).socket⟩ :
      Station) = after) :
    Scene (hub.updatePeer id change) id now closed after chronicle where
  inside := by rw [Hub.size_peers_updatePeer]; exact scene.inside
  now := scene.now
  closed := by
    rw [Hub.peer_updatePeer_self hub id change scene.inside, same]
    exact scene.closed
  station := by
    rw [Hub.station, Hub.peer_updatePeer_self hub id change scene.inside]
    exact changed
  chronicle := scene.chronicle

theorem keep
    (scene : Scene hub id now closed station chronicle) {change : Peer → Peer}
    (closed_eq : ∀ peer, (change peer).closed = peer.closed)
    (turn_eq : ∀ peer, (change peer).turn = peer.turn)
    (socket_eq : ∀ peer, (change peer).socket = peer.socket) :
    Scene (hub.updatePeer id change) id now closed station chronicle := by
  refine scene.updatePeer (closed_eq _) ?_
  rw [turn_eq, socket_eq]
  exact scene.station

theorem note
    (scene : Scene hub id now closed station chronicle)
    (happening : Happening) :
    Scene (hub.note happening) id now closed station
      (⟨now, happening⟩ :: chronicle) where
  inside := scene.inside
  now := scene.now
  closed := scene.closed
  station := scene.station
  chronicle := by rw [Hub.note, scene.now, scene.chronicle]

theorem noteAlarm (scene : Scene hub id now closed station chronicle) :
    Scene hub.noteAlarm id now closed station chronicle :=
  { scene with }

theorem wake
    (scene : Scene hub id now closed station chronicle) (task : TaskId) :
    Scene (hub.wake task) id now closed station chronicle := by
  obtain ⟨ready, same, -⟩ := Hub.wake_eq hub task
  rw [same]
  exact { scene with }

theorem requestTurn
    (scene : Scene hub id now closed ⟨turn, socket⟩ chronicle) (task : TaskId) :
    Scene (hub.requestTurn id task) id now closed ⟨turn.request task, socket⟩
      chronicle := by
  refine scene.updatePeer rfl ?_
  rw [← scene.turn_eq, ← scene.socket_eq]

theorem leaveLine
    (scene : Scene hub id now closed ⟨turn, socket⟩ chronicle) (task : TaskId) :
    Scene (hub.leaveLine id task) id now closed ⟨turn.leave task, socket⟩
      chronicle := by
  refine scene.updatePeer rfl ?_
  rw [← scene.turn_eq, ← scene.socket_eq]

theorem setSocket
    (scene : Scene hub id now closed ⟨turn, socket⟩ chronicle)
    (after : Socket) :
    Scene (hub.setSocket id after) id now closed ⟨turn, after⟩ chronicle := by
  refine scene.updatePeer rfl ?_
  rw [← scene.turn_eq]

theorem releaseTurn (scene : Scene hub id now closed ⟨turn, socket⟩ chronicle) :
    Scene (hub.releaseTurn id) id now closed ⟨turn.release, socket⟩
      chronicle := by
  have released : Scene (hub.updatePeer id fun peer =>
      { peer with turn := (hub.peer id).turn.release }) id now closed
        ⟨turn.release, socket⟩
      chronicle := by
    refine scene.updatePeer rfl ?_
    rw [← scene.turn_eq, ← scene.socket_eq]
  unfold Hub.releaseTurn
  simp only
  split
  · exact released.wake _
  · exact released

theorem noteProgress
    (scene : Scene hub id now closed station chronicle) (task : TaskId)
    (request : SinkRequest) (progress : Progress) :
    Scene (hub.noteProgress id task request progress) id now closed station
      (match progress with
      | .done result => ⟨now, .answered task id request result⟩ :: chronicle
      | .underway _ => chronicle) := by
  cases progress with
  | done result => exact scene.note _
  | underway operation => exact scene

theorem startRequest
    (scene : Scene hub id now closed ⟨turn, socket⟩ chronicle) (task : TaskId)
    (request : SinkRequest) :
    ∃ order after progress, socket.start now order request = (after, progress) ∧
      (hub.startRequest id task request).2 = progress ∧
      Scene (hub.startRequest id task request).1 id now closed ⟨turn, after⟩
        (match progress with
        | .done result =>
            ⟨now, .answered task id request result⟩ ::
              ⟨now, .asked task id request⟩ :: chronicle
        | .underway _ => ⟨now, .asked task id request⟩ :: chronicle) := by
  refine ⟨hub.alarmsSet, _, _, rfl, ?_, ?_⟩
  · rw [← scene.socket_eq, ← scene.now]
    rfl
  · have set := ((scene.note (.asked task id request)).setSocket
      (socket.start now hub.alarmsSet request).1).noteAlarm
    have noted :=
      set.noteProgress task request (socket.start now hub.alarmsSet request).2
    unfold Hub.startRequest
    simp only [scene.socket_eq, scene.now]
    exact noted

theorem proceedRequest
    (scene : Scene hub id now closed ⟨turn, socket⟩ chronicle) (task : TaskId)
    (request : SinkRequest) (operation : Operation) :
    ∃ after progress, socket.proceed now request operation = (after, progress) ∧
      (hub.proceedRequest id task request operation).2 = progress ∧
      Scene (hub.proceedRequest id task request operation).1 id now closed
        ⟨turn, after⟩ (match progress with
        | .done result => ⟨now, .answered task id request result⟩ :: chronicle
        | .underway _ => chronicle) := by
  refine ⟨_, _, rfl, ?_, ?_⟩
  · rw [← scene.socket_eq, ← scene.now]
    rfl
  · have set := scene.setSocket (socket.proceed now request operation).1
    have noted :=
      set.noteProgress task request (socket.proceed now request operation).2
    unfold Hub.proceedRequest
    simp only [scene.socket_eq, scene.now]
    exact noted

theorem abandonRequest
    (scene : Scene hub id now closed ⟨turn, socket⟩ chronicle)
    (request : SinkRequest) :
    Scene (hub.abandonRequest id request) id now closed
      ⟨turn.release, socket.abandon request⟩
      chronicle := by
  unfold Hub.abandonRequest
  rw [scene.socket_eq]
  exact (scene.setSocket _).releaseTurn

theorem settleRequest (scene : Scene hub id now closed ⟨turn, socket⟩ chronicle)
    (progress : Progress) :
    Scene (hub.settleRequest id progress).1 id now closed
      ⟨match progress with
        | .done _ => turn.release
        | .underway _ => turn, socket⟩ chronicle ∧
      (hub.settleRequest id progress).2 =
        match progress with
        | .done result => .settled result
        | .underway operation => .underway operation := by
  cases progress with
  | done result => exact ⟨scene.releaseTurn, rfl⟩
  | underway operation => exact ⟨scene, rfl⟩

end Scene

/-- Where a write stands after its turn was looked at. -/
inductive TryStep
    (now : Instant) (closed : Bool) (task : TaskId) (id : PeerId)
    (frame : Frame) : Station → List Happening → Station → Standing → Prop
  | waits {turn : Turn} {socket : Socket} (waits : turn.holder ≠ some task) :
      TryStep now closed task id frame ⟨turn, socket⟩ [] ⟨turn, socket⟩ .inLine
  | refused {turn : Turn} {socket : Socket} (held : turn.holder = some task)
      (isClosed : closed = true) :
      TryStep now closed task id frame ⟨turn, socket⟩ [] ⟨turn.release, socket⟩
        (.settled (.error .closed))
  | answered
      {turn : Turn} {socket after : Socket} {order : Nat}
      {result : Except Fault Unit} (held : turn.holder = some task)
      (isOpen : closed = false)
      (started : socket.start now order (.frame frame) =
        (after, .done result)) :
      TryStep now closed task id frame ⟨turn, socket⟩
        [.answered task id (.frame frame) result, .asked task id (.frame frame)]
        ⟨turn.release, after⟩ (.settled result)
  | begun
      {turn : Turn} {socket after : Socket} {order : Nat}
      {operation : Operation} (held : turn.holder = some task)
      (isOpen : closed = false)
      (started : socket.start now order (.frame frame) =
        (after, .underway operation)) :
      TryStep now closed task id frame ⟨turn, socket⟩
        [.asked task id (.frame frame)] ⟨turn, after⟩ (.underway operation)

def entriesAt (now : Instant) (happenings : List Happening) : List Entry :=
  happenings.map fun happening => ⟨now, happening⟩

namespace Scene

variable {hub : Hub} {id : PeerId} {now : Instant} {closed : Bool}
  {station : Station} {turn : Turn} {socket : Socket} {chronicle : List Entry}

theorem tryFrame
    (scene : Scene hub id now closed ⟨turn, socket⟩ chronicle) (task : TaskId)
    (frame : Frame) :
    ∃ told after, TryStep now closed task id frame ⟨turn, socket⟩ told after
        (hub.tryFrame id task frame).2 ∧
      Scene (hub.tryFrame id task frame).1 id now closed after
        (entriesAt now told ++ chronicle) := by
  have asked : hub.hasTurn id task = true ↔ turn.holder = some task := by
    simp [Hub.hasTurn, Turn.isHeldBy, scene.turn_eq]
  unfold Hub.tryFrame
  split
  · rename_i has
    have held := asked.mp has
    unfold Hub.beginFrame
    rw [scene.closed]
    split
    · rename_i isClosed
      exact ⟨_, _, .refused held isClosed, scene.releaseTurn⟩
    · rename_i isOpen
      rw [Bool.not_eq_true] at isOpen
      obtain ⟨order, after, progress, started, same, begun⟩ :=
        scene.startRequest task (.frame frame)
      obtain ⟨settled, standing⟩ := begun.settleRequest progress
      simp only [same]
      cases progress with
      | done result =>
          rw [standing]
          exact ⟨_, _, .answered held isOpen started, settled⟩
      | underway operation =>
          rw [standing]
          exact ⟨_, _, .begun held isOpen started, settled⟩
  · rename_i has
    exact ⟨_, _, .waits fun held => has (asked.mpr held), scene⟩

theorem boundFrame_of_settled
    (task : TaskId) (frame : Frame) (span : Span) (limit : Alarm)
    (result : Except Fault Unit) :
    hub.boundFrame id task frame span limit (.settled result) =
      (hub, .finished result) :=
  rfl

/-- What is still waiting is given up if the limit is over. -/
theorem boundFrame
    (scene : Scene hub id now closed ⟨turn, socket⟩ chronicle) (task : TaskId)
    (frame : Frame) (span : Span) (limit : Alarm) (standing : Standing)
    (going : ∀ result, standing ≠ .settled result) :
    limit.due ≤ now ∧
        (hub.boundFrame id task frame span limit standing).2 =
          .finished (.error (.writeTimeout span)) ∧
        Scene (hub.boundFrame id task frame span limit standing).1 id now closed
          (match standing with
          | .underway _ => ⟨turn.release, socket.abandon (.frame frame)⟩
          | _ => ⟨turn.leave task, socket⟩) chronicle ∨
      now < limit.due ∧
        (hub.boundFrame id task frame span limit standing).2 =
          .pending (Hub.stageOf limit standing) ∧
        Scene (hub.boundFrame id task frame span limit standing).1 id now closed
          ⟨turn, socket⟩
          chronicle := by
  unfold Hub.boundFrame
  by_cases late : limit.due ≤ now
  · have rung : limit.hasRung hub.now = true := by
      rw [scene.now]
      exact decide_eq_true late
    refine .inl ⟨late, ?_⟩
    cases standing with
    | settled result => exact absurd rfl (going result)
    | inLine =>
        simp only [rung, if_true, true_and]
        exact scene.leaveLine task
    | underway operation =>
        simp only [rung, if_true, true_and]
        exact scene.abandonRequest _
  · have quiet : limit.hasRung hub.now = false := by
      rw [scene.now]
      exact decide_eq_false late
    refine .inr ⟨Nat.lt_of_not_le late, ?_⟩
    cases standing with
    | settled result => exact absurd rfl (going result)
    | inLine =>
        simp only [quiet, Bool.false_eq_true, if_false, true_and]
        exact scene
    | underway operation =>
        simp only [quiet, Bool.false_eq_true, if_false, true_and]
        exact scene

/-- A write that comes to its turn, or does not. -/
theorem boundTried
    {stage : Writing} {told : List Happening} {after : Station}
    {standing : Standing} {limit : Alarm} {frame : Frame} {span : Span}
    {task : TaskId} {before : List Entry} (early : stage.hasAsked = false)
    (opens : stage = .unstarted → closed = false)
    (due : limit.due = stage.due now span)
    (tried : TryStep now closed task id frame ⟨stage.approach task turn, socket⟩
      told after standing)
    (scene : Scene hub id now closed after (entriesAt now told ++ before)) :
    ∃ told last, FrameStep now closed task id frame span stage ⟨turn, socket⟩
        (match (hub.boundFrame id task frame span limit standing).2 with
        | .finished result => .wrote task id frame result :: told
        | .pending _ =>
            told) last (hub.boundFrame id task frame span limit standing).2 ∧
      Scene (hub.boundFrame id task frame span limit standing).1 id now
        closed last (entriesAt now told ++ before) := by
  cases tried with
  | waits waits =>
      obtain ⟨late, result, left⟩ | ⟨inTime, result, kept⟩ :=
        scene.boundFrame task frame span limit .inLine (by rintro _ ⟨⟩)
      · rw [result]
        exact ⟨_, _, .cutInLine early waits (due ▸ late) opens, left⟩
      · rw [result]
        exact ⟨_, _, .inLine early waits due inTime opens, kept⟩
  | refused held isClosed =>
      rw [boundFrame_of_settled]
      cases stage with
      | unstarted => exact absurd isClosed (by rw [opens rfl]; decide)
      | queued limit => exact ⟨_, _, .refusedInTurn isClosed held, scene⟩
      | underway operation limit => cases early
  | answered held isOpen started =>
      rw [boundFrame_of_settled]
      exact ⟨_, _, .answeredAtOnce early isOpen held started, scene⟩
  | begun held isOpen started =>
      obtain ⟨late, result, left⟩ | ⟨inTime, result, kept⟩ :=
        scene.boundFrame task frame span limit (.underway _) (by rintro _ ⟨⟩)
      · rw [result]
        exact ⟨_, _, .cutAtOnce early isOpen held started (due ▸ late), left⟩
      · rw [result]
        exact ⟨_, _, .begun early isOpen held started due inTime, kept⟩

theorem advanceFrame
    (scene : Scene hub id now closed ⟨turn, socket⟩ chronicle) (task : TaskId)
    (frame : Frame) (span : Span) (stage : Writing) :
    ∃ told after, FrameStep now closed task id frame span stage ⟨turn, socket⟩
        (match (hub.advanceFrame id task frame span stage).2 with
        | .finished result => .wrote task id frame result :: told
        | .pending _ =>
            told) after (hub.advanceFrame id task frame span stage).2 ∧
      Scene (hub.advanceFrame id task frame span stage).1 id now closed after
        (entriesAt now told ++ chronicle) := by
  cases stage with
  | unstarted =>
      simp only [Hub.advanceFrame]
      rw [scene.closed]
      cases closed with
      | true =>
          rw [if_pos rfl]
          exact ⟨_, _, .refused rfl, scene⟩
      | false =>
          rw [if_neg Bool.false_ne_true]
          obtain ⟨told, after, tried, seen⟩ :=
            (scene.requestTurn task).tryFrame task frame
          exact seen.noteAlarm.boundTried rfl (fun _ => rfl)
            (by rw [scene.now]; rfl) tried
  | queued limit =>
      obtain ⟨told, after, tried, seen⟩ := scene.tryFrame task frame
      exact seen.boundTried rfl (by rintro ⟨⟩) rfl tried
  | underway operation limit =>
      obtain ⟨after, progress, proceeded, same, seen⟩ :=
        scene.proceedRequest task (.frame frame) operation
      obtain ⟨settled, standing⟩ := seen.settleRequest progress
      simp only [Hub.advanceFrame, same]
      cases progress with
      | done result =>
          rw [standing, boundFrame_of_settled]
          exact ⟨_, _, .answered proceeded, settled⟩
      | underway next =>
          rw [standing]
          obtain ⟨late, result, left⟩ | ⟨inTime, result, kept⟩ :=
            settled.boundFrame task frame span limit (.underway next)
              (by rintro _ ⟨⟩)
          · rw [result]
            exact ⟨_, _, .cut proceeded late, left⟩
          · rw [result]
            exact ⟨_, _, .goesOn proceeded inTime, kept⟩

theorem pollFrame
    (scene : Scene hub id now closed ⟨turn, socket⟩ chronicle) (task : TaskId)
    (frame : Frame) (span : Span) (stage : Writing) :
    ∃ told after, FrameStep now closed task id frame span stage ⟨turn, socket⟩
        told after (hub.pollFrame id task frame span stage).2 ∧
      Scene (hub.pollFrame id task frame span stage).1 id now closed after
        (entriesAt now told ++ chronicle) := by
  obtain ⟨told, after, step, seen⟩ := scene.advanceFrame task frame span stage
  unfold Hub.pollFrame
  split <;> rename_i same <;> rw [same] at step seen
  · exact ⟨_, _, step, seen.note _⟩
  · exact ⟨_, _, step, seen⟩

/-! ### The close frame -/

theorem boundClosing
    (scene : Scene hub id now closed ⟨turn, socket⟩ chronicle) (limit : Alarm)
    (operation : Operation) :
    (hub.boundClosing id limit (.underway operation)).2 = none ∧
        Scene (hub.boundClosing id limit (.underway operation)).1 id now closed
          ⟨turn.release, socket.abandon .close⟩ chronicle ∨
      (hub.boundClosing id limit (.underway operation)).2 =
        some ⟨operation, limit⟩ ∧
        Scene (hub.boundClosing id limit (.underway operation)).1 id now closed
          ⟨turn, socket⟩
          chronicle := by
  simp only [Hub.boundClosing]
  split
  · exact .inl ⟨rfl, scene.abandonRequest _⟩
  · exact .inr ⟨rfl, scene⟩

theorem startClosing
    (scene : Scene hub id now closed ⟨turn, socket⟩ chronicle) (task : TaskId) :
    ∃ told after, CloseStep now task id none ⟨turn, socket⟩ told after
        (hub.startClosing id task).2 ∧
      Scene (hub.startClosing id task).1 id now closed after
        (entriesAt now told ++ chronicle) := by
  unfold Hub.startClosing
  rw [scene.turn_eq]
  split
  · rename_i free
    obtain ⟨order, after, progress, started, same, begun⟩ :=
      (scene.requestTurn task).startRequest task .close
    obtain ⟨settled, standing⟩ := begun.settleRequest progress
    simp only [same]
    cases progress with
    | done result =>
        rw [standing]
        exact ⟨_, _, .answeredAtOnce free started, settled.noteAlarm⟩
    | underway operation =>
        rw [standing]
        obtain ⟨result, left⟩ | ⟨result, kept⟩ :=
          settled.noteAlarm.boundClosing _ operation
        · rw [result]
          exact ⟨_, _, .cutAtOnce free started, left⟩
        · rw [result]
          exact ⟨_, _, .begun free started, kept⟩
  · rename_i taken
    rw [Bool.not_eq_true] at taken
    exact ⟨_, _, .busy taken, scene⟩

theorem proceedClosing
    (scene : Scene hub id now closed ⟨turn, socket⟩ chronicle) (task : TaskId)
    (closing : Closing) :
    ∃ told after, CloseStep now task id (some closing) ⟨turn, socket⟩ told after
        (hub.proceedClosing id task closing).2 ∧
      Scene (hub.proceedClosing id task closing).1 id now closed after
        (entriesAt now told ++ chronicle) := by
  obtain ⟨after, progress, proceeded, same, seen⟩ :=
    scene.proceedRequest task .close closing.operation
  obtain ⟨settled, standing⟩ := seen.settleRequest progress
  unfold Hub.proceedClosing
  simp only [same]
  cases progress with
  | done result =>
      rw [standing]
      exact ⟨_, _, .answered proceeded, settled⟩
  | underway next =>
      rw [standing]
      obtain ⟨result, left⟩ | ⟨result, kept⟩ :=
        settled.boundClosing closing.limit next
      · rw [result]
        exact ⟨_, _, .cut proceeded, left⟩
      · rw [result]
        exact ⟨_, _, .goesOn proceeded, kept⟩

end Scene

end BroadcastHub.Server
