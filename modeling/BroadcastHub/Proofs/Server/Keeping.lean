import BroadcastHub.Proofs.Server.Sessions

/-!
# What tasks keep of peers and slots

Much that can be asked about a peer has nothing to do with what is written to
it or read from it.  Such a view of peers is `Lasting`, and so are the slots:
of all that tasks do, only the beginning and the end of a session changes them.

`Keeps` composes, so it is proved for each elementary step and put together
along the definitions.  Closing a session and taking it out of the registry
are kept apart, for views that do not depend on these.
-/

namespace BroadcastHub.Server

/-! ### Responses -/

/-- The responses that a client has been sent, in that order. -/
def Link.responses (link : Link) : List Http.Response :=
  link.heard ++ link.replies

def Socket.responses : Socket → List Http.Response
  | .scripted _ => []
  | .link connection => connection.responses

namespace Link

variable (link : Link)

@[simp] theorem responses_flush : link.flush.1.responses = link.responses := by
  unfold flush
  split
  · rfl
  · split <;> rfl

@[simp] theorem responses_encodeAccepted :
    link.encodeAccepted.1.responses = link.responses := by
  unfold encodeAccepted
  split
  · rfl
  · by_cases full : enough ≤ link.encoded.length
    · have flushed := responses_flush link
      rcases same : link.flush with ⟨after, flow⟩
      rw [same] at flushed
      cases flow <;> simp only [full, if_true] <;> exact flushed
    · simp only [full, if_false]
      rfl

@[simp] theorem responses_place (frame : Frame) :
    (link.place frame).1.responses = link.responses := by
  have encoded := responses_encodeAccepted link
  unfold place
  rcases same : link.encodeAccepted with ⟨after, flow⟩
  rw [same] at encoded
  cases flow <;> exact encoded

@[simp] theorem responses_push : link.push.1.responses = link.responses := by
  have encoded := responses_encodeAccepted link
  unfold push
  rcases same : link.encodeAccepted with ⟨after, flow⟩
  rw [same] at encoded
  cases flow with
  | through => exact (responses_flush after).trans encoded
  | _ => exact encoded

@[simp] theorem responses_conclude (request : SinkRequest) :
    (link.conclude request).responses = link.responses := by
  cases request <;> rfl

@[simp] theorem responses_proceedFlushing (request : SinkRequest) :
    (link.proceedFlushing request).1.responses = link.responses := by
  have pushed := responses_push link
  unfold proceedFlushing
  rcases same : link.push with ⟨after, flow⟩
  rw [same] at pushed
  cases flow with
  | through => exact (responses_conclude after request).trans pushed
  | _ => exact pushed

@[simp] theorem responses_proceedPlacing (request : SinkRequest) :
    (link.proceedPlacing request).1.responses = link.responses := by
  have placed := responses_place link (frameOf request)
  unfold proceedPlacing
  rcases same : link.place (frameOf request) with ⟨after, flow⟩
  rw [same] at placed
  cases flow with
  | through => exact (responses_proceedFlushing after request).trans placed
  | _ => exact placed

@[simp] theorem responses_take : link.take.1.responses = link.responses := by
  have decoded : ∀ link : Link, link.decodeNext.1.responses = link.responses :=
    fun _ => rfl
  have first := decoded link
  have second := decoded link.decodeNext.1.readPipe
  unfold take
  rcases same : link.decodeNext with ⟨after, found⟩
  rw [same] at first second
  cases found with
  | nothing =>
      simp only
      split
      · split <;> exact first
      · rcases again : after.readPipe.decodeNext with ⟨last, found⟩
        rw [again] at second
        cases found with
        | nothing =>
            simp only
            split <;> exact second.trans first
        | _ => exact second.trans first
  | _ => exact first

end Link

namespace Socket

variable (socket : Socket)

@[simp] theorem responses_start
    (now : Instant) (order : Nat) (request : SinkRequest) :
    (socket.start now order request).1.responses = socket.responses := by
  cases socket with
  | scripted socket => rfl
  | link connection => exact connection.responses_proceedPlacing request

@[simp] theorem responses_proceed
    (now : Instant) (request : SinkRequest) (operation : Operation) :
    (socket.proceed now request operation).1.responses = socket.responses := by
  cases socket with
  | scripted socket =>
      cases operation with
      | pausing ends fails =>
          unfold proceed
          simp only
          split <;> rfl
      | _ => rfl
  | link connection =>
      cases operation with
      | pausing ends fails => rfl
      | placing => exact connection.responses_proceedPlacing request
      | flushing => exact connection.responses_proceedFlushing request

@[simp] theorem responses_abandon (request : SinkRequest) :
    (socket.abandon request).responses = socket.responses := by
  cases socket <;> rfl

@[simp] theorem responses_take :
    socket.take.1.responses = socket.responses := by
  cases socket with
  | scripted socket =>
      unfold take
      simp only
      split <;> rfl
  | link connection => exact connection.responses_take

end Socket

/-! ### Views -/

/-- Whether a view of peers does not depend on what is written and read. -/
structure Lasting {α : Type} (view : Peer → α) : Prop where
  socket : ∀ (peer : Peer) (socket : Socket),
    socket.responses = peer.socket.responses →
    view { peer with socket } = view peer
  turn : ∀ (peer : Peer) (turn : Turn), view { peer with turn } = view peer
  ponging : ∀ (peer : Peer) (ponging : Bool),
    view { peer with ponging } = view peer
  readDeadline : ∀ (peer : Peer) (readDeadline : Instant),
    view { peer with readDeadline } = view peer

/-- Whether a view of peers does not depend on who is closed. -/
def IgnoresClosing {α : Type} (view : Peer → α) : Prop :=
  ∀ (peer : Peer) (closed : Bool), view { peer with closed } = view peer

/-- Whether a view of peers does not depend on who is registered. -/
def IgnoresRegistry {α : Type} (view : Peer → α) : Prop :=
  ∀ (peer : Peer) (arrived registered : Bool),
    view { peer with arrived, registered } = view peer

theorem lasting_closed : Lasting Peer.closed :=
  ⟨fun _ _ _ => rfl, fun _ _ => rfl, fun _ _ => rfl, fun _ _ => rfl⟩

theorem lasting_registered : Lasting Peer.registered :=
  ⟨fun _ _ _ => rfl, fun _ _ => rfl, fun _ _ => rfl, fun _ _ => rfl⟩

/-- The slots stay as they are, and so does what a view shows of each peer. -/
structure Keeps {α : Type} (view : Peer → α) (before after : Hub) : Prop where
  admission : after.admission = before.admission
  peer : ∀ id, view (after.peer id) = view (before.peer id)

namespace Keeps

variable {α : Type} {view : Peer → α} {first second third : Hub}

theorem refl (hub : Hub) : Keeps view hub hub := ⟨rfl, fun _ => rfl⟩

theorem trans (one : Keeps view first second) (two : Keeps view second third) :
    Keeps view first third where
  admission := two.admission.trans one.admission
  peer id := (two.peer id).trans (one.peer id)

theorem ofPeers (admission : second.admission = first.admission)
    (peers : second.peers = first.peers) : Keeps view first second where
  admission := admission
  peer id := by
    rw [Hub.peer, peers]
    rfl

theorem updatePeer
    (hub : Hub) (id : PeerId) {change : Peer → Peer}
    (keeps : ∀ peer, view (change peer) = view peer) :
    Keeps view hub (hub.updatePeer id change) where
  admission := rfl
  peer other := Hub.peer_updatePeer_keeps hub id other keeps

theorem wakeAll (hub : Hub) (numbers : List TaskId) :
    Keeps view hub (hub.wakeAll numbers) := by
  obtain ⟨ready, same, -⟩ := Hub.wakeAll_eq hub numbers
  rw [same]
  exact ofPeers rfl rfl

theorem wake (hub : Hub) (number : TaskId) : Keeps view hub (hub.wake number) :=
  wakeAll hub [number]

theorem finish (hub : Hub) (task : TaskId) (outcome : Outcome) :
    Keeps view hub (hub.finish task outcome) := by
  obtain ⟨ready, watches, same, -⟩ := Hub.finish_eq hub task outcome
  rw [same]
  exact ofPeers rfl rfl

theorem setTask (hub : Hub) (number : TaskId) (task : Task) :
    Keeps view hub (hub.setTask number task) :=
  ofPeers rfl rfl

theorem noteAlarm (hub : Hub) : Keeps view hub hub.noteAlarm := ofPeers rfl rfl

theorem count (hub : Hub) (change : Counters → Counters) :
    Keeps view hub (hub.count change) :=
  ofPeers rfl rfl

theorem watch (hub : Hub) (watched watcher : TaskId) :
    Keeps view hub (hub.watch watched watcher) :=
  ofPeers rfl rfl

theorem readOn (hub : Hub) (task : TaskId) (id : PeerId) :
    Keeps view hub (hub.readOn task id) :=
  ofPeers rfl rfl

theorem startDeliveries (hub : Hub) (frame : Frame) (limit : Span) :
    Keeps view hub (hub.startDeliveries frame limit) := by
  obtain ⟨tasks, ready, same, -⟩ := Hub.startDeliveries_eq hub frame limit
  rw [same]
  exact ofPeers rfl rfl

theorem fold
    {β : Type} {step : Hub → β → Hub}
    (keeps : ∀ hub item, Keeps view hub (step hub item)) (items : List β)
    (hub : Hub) : Keeps view hub (items.foldl step hub) := by
  induction items generalizing hub with
  | nil => exact refl hub
  | cons first rest induction => exact (keeps hub first).trans (induction _)

/-! ### Closing and the registry -/

theorem close (ignores : IgnoresClosing view) (hub : Hub) (id : PeerId) :
    Keeps view hub (hub.close id) := by
  have closed : Keeps view hub
      (hub.updatePeer id fun peer => { peer with closed := true }) :=
    updatePeer hub id fun peer => ignores peer true
  obtain ⟨ready, same⟩ | ⟨same, -⟩ := Hub.close_eq hub id
  · rw [same]
    exact closed.trans (ofPeers rfl rfl)
  · rw [same]
    exact refl hub

theorem unregister (ignores : IgnoresRegistry view) (hub : Hub) (id : PeerId) :
    Keeps view hub (hub.unregister id) :=
  updatePeer hub id fun peer => ignores peer peer.arrived false

section

variable (lasting : Lasting view)

include lasting

theorem register
    (ignores : IgnoresRegistry view) (hub : Hub) (id : PeerId) (window : Span) :
    Keeps view hub (hub.register id window) :=
  updatePeer hub id fun peer =>
    (lasting.readDeadline { peer with arrived := true, registered := true }
      _).trans (ignores peer true true)

/-! ### Sockets and turns -/

theorem setSocket (hub : Hub) (id : PeerId) {socket : Socket}
    (responses : socket.responses = (hub.peer id).socket.responses) :
    Keeps view hub (hub.setSocket id socket) where
  admission := rfl
  peer other := by
    show view ((hub.updatePeer id _).peer other) = _
    rw [Hub.peer_updatePeer]
    split
    · rename_i both
      rw [← both.1]
      exact lasting.socket _ _ responses
    · rfl

theorem updateLink (hub : Hub) (id : PeerId) {change : Link → Link}
    (responses : ∀ link, (change link).responses = link.responses) :
    Keeps view hub (hub.updateLink id change) := by
  refine updatePeer hub id fun peer => ?_
  cases same : peer.socket with
  | scripted socket => rfl
  | link link =>
      exact lasting.socket peer _ (by rw [same]; exact responses link)

theorem updateTurn (hub : Hub) (id : PeerId) (change : Turn → Turn) :
    Keeps view hub (hub.updatePeer id fun peer =>
      { peer with turn := change peer.turn }) :=
  updatePeer hub id fun peer => lasting.turn peer _

theorem releaseTurn (hub : Hub) (id : PeerId) :
    Keeps view hub (hub.releaseTurn id) := by
  have released : Keeps view hub
      (hub.updatePeer id fun peer =>
        { peer with turn := (hub.peer id).turn.release }) :=
    updatePeer hub id fun peer => lasting.turn peer _
  unfold Hub.releaseTurn
  simp only
  split
  · exact released.trans (wake _ _)
  · exact released

theorem renewDeadline (hub : Hub) (id : PeerId) (window : Span) :
    Keeps view hub (hub.renewDeadline id window) :=
  updatePeer hub id fun peer => lasting.readDeadline peer _

theorem setPonging (hub : Hub) (id : PeerId) (ponging : Bool) :
    Keeps view hub (hub.setPonging id ponging) :=
  updatePeer hub id fun peer => lasting.ponging peer _

omit lasting in
theorem noteProgress
    (hub : Hub) (id : PeerId) (task : TaskId) (request : SinkRequest)
    (progress : Progress) :
    Keeps view hub (hub.noteProgress id task request progress) := by
  cases progress <;> exact ofPeers rfl rfl

theorem startRequest
    (hub : Hub) (id : PeerId) (task : TaskId) (request : SinkRequest) :
    Keeps view hub (hub.startRequest id task request).1 := by
  have asked : Keeps view hub (hub.note (.asked task id request)) :=
    ofPeers rfl rfl
  have set : Keeps view (hub.note (.asked task id request))
      ((hub.note (.asked task id request)).setSocket id
        ((hub.peer id).socket.start hub.now hub.alarmsSet request).1) :=
    setSocket lasting (hub.note (.asked task id request)) id
      ((hub.peer id).socket.responses_start _ _ _)
  exact ((asked.trans set).trans (noteAlarm _)).trans
    (noteProgress _ id task request _)

theorem proceedRequest
    (hub : Hub) (id : PeerId) (task : TaskId) (request : SinkRequest)
    (operation : Operation) :
    Keeps view hub (hub.proceedRequest id task request operation).1 := by
  have set : Keeps view hub
      (hub.setSocket id
        ((hub.peer id).socket.proceed hub.now request operation).1) :=
    setSocket lasting hub id ((hub.peer id).socket.responses_proceed _ _ _)
  exact set.trans (noteProgress _ id task request _)

theorem abandonRequest (hub : Hub) (id : PeerId) (request : SinkRequest) :
    Keeps view hub (hub.abandonRequest id request) := by
  have set :
      Keeps view hub
        (hub.setSocket id ((hub.peer id).socket.abandon request)) :=
    setSocket lasting hub id ((hub.peer id).socket.responses_abandon request)
  exact set.trans (releaseTurn lasting _ id)

theorem settleRequest (hub : Hub) (id : PeerId) (progress : Progress) :
    Keeps view hub (hub.settleRequest id progress).1 := by
  cases progress with
  | done result => exact releaseTurn lasting hub id
  | underway operation => exact refl hub

/-! ### Writing -/

theorem beginFrame (hub : Hub) (id : PeerId) (task : TaskId) (frame : Frame) :
    Keeps view hub (hub.beginFrame id task frame).1 := by
  unfold Hub.beginFrame
  split
  · exact releaseTurn lasting hub id
  · exact (startRequest lasting hub id task (.frame frame)).trans
      (settleRequest lasting _ id _)

theorem tryFrame (hub : Hub) (id : PeerId) (task : TaskId) (frame : Frame) :
    Keeps view hub (hub.tryFrame id task frame).1 := by
  unfold Hub.tryFrame
  split
  · exact beginFrame lasting hub id task frame
  · exact refl hub

theorem abandonFrame
    (hub : Hub) (id : PeerId) (task : TaskId) (frame : Frame)
    (standing : Standing) :
    Keeps view hub (hub.abandonFrame id task frame standing) := by
  cases standing with
  | underway operation => exact abandonRequest lasting hub id (.frame frame)
  | _ => exact updateTurn lasting hub id fun turn => turn.leave task

theorem boundFrame
    (hub : Hub) (id : PeerId) (task : TaskId) (frame : Frame) (span : Span)
    (limit : Alarm) (standing : Standing) :
    Keeps view hub (hub.boundFrame id task frame span limit standing).1 := by
  unfold Hub.boundFrame
  split
  · exact refl hub
  · split
    · exact abandonFrame lasting hub id task frame standing
    · exact refl hub

theorem advanceFrame
    (hub : Hub) (id : PeerId) (task : TaskId) (frame : Frame) (span : Span)
    (stage : Writing) :
    Keeps view hub (hub.advanceFrame id task frame span stage).1 := by
  cases stage with
  | unstarted =>
      unfold Hub.advanceFrame
      simp only
      split
      · exact refl hub
      · have requested : Keeps view hub (hub.requestTurn id task) :=
          updateTurn lasting hub id fun turn => turn.request task
        have tried := requested.trans (tryFrame lasting _ id task frame)
        exact (tried.trans (noteAlarm _)).trans
          (boundFrame lasting _ id task frame span _ _)
  | queued limit =>
      exact (tryFrame lasting hub id task frame).trans
        (boundFrame lasting _ id task frame span limit _)
  | underway operation limit =>
      have proceeded :=
        proceedRequest lasting hub id task (.frame frame) operation
      exact (proceeded.trans (settleRequest lasting _ id _)).trans
        (boundFrame lasting _ id task frame span limit _)

theorem pollFrame
    (hub : Hub) (id : PeerId) (task : TaskId) (frame : Frame) (span : Span)
    (stage : Writing) :
    Keeps view hub (hub.pollFrame id task frame span stage).1 := by
  have advanced := advanceFrame lasting hub id task frame span stage
  unfold Hub.pollFrame
  rcases same : hub.advanceFrame id task frame span stage with ⟨after, written⟩
  rw [same] at advanced
  cases written with
  | finished result => exact advanced.trans (ofPeers rfl rfl)
  | pending stage => exact advanced

theorem boundClosing
    (hub : Hub) (id : PeerId) (limit : Alarm) (standing : Standing) :
    Keeps view hub (hub.boundClosing id limit standing).1 := by
  unfold Hub.boundClosing
  split
  · split
    · exact abandonRequest lasting hub id .close
    · exact refl hub
  · exact refl hub

theorem startClosing (hub : Hub) (id : PeerId) (task : TaskId) :
    Keeps view hub (hub.startClosing id task).1 := by
  unfold Hub.startClosing
  split
  · have requested : Keeps view hub (hub.requestTurn id task) :=
      updateTurn lasting hub id fun turn => turn.request task
    have started := requested.trans (startRequest lasting _ id task .close)
    exact ((started.trans (settleRequest lasting _ id _)).trans
      (noteAlarm _)).trans (boundClosing lasting _ id _ _)
  · exact refl hub

theorem proceedClosing
    (hub : Hub) (id : PeerId) (task : TaskId) (closing : Closing) :
    Keeps view hub (hub.proceedClosing id task closing).1 := by
  have proceeded := proceedRequest lasting hub id task .close closing.operation
  exact (proceeded.trans (settleRequest lasting _ id _)).trans
    (boundClosing lasting _ id _ _)

/-! ### Tasks -/

omit lasting in
theorem finishDelivery
    (ignores : IgnoresClosing view) (hub : Hub) (task : TaskId) (id : PeerId)
    (result : Except Fault Unit) :
    Keeps view hub (hub.finishDelivery task id result) := by
  cases result with
  | ok => exact (count hub _).trans (finish _ task _)
  | error fault =>
      exact ((count hub _).trans (close ignores _ id)).trans (finish _ task _)

theorem pollDelivery
    (ignores : IgnoresClosing view) (hub : Hub) (task : TaskId) (id : PeerId)
    (frame : Frame) (limit : Span) (stage : Writing) :
    Keeps view hub (hub.pollDelivery task id frame limit stage) := by
  have polled := pollFrame lasting hub id task frame limit stage
  unfold Hub.pollDelivery
  rcases same : hub.pollFrame id task frame limit stage with ⟨after, written⟩
  rw [same] at polled
  cases written with
  | finished result =>
      exact polled.trans (finishDelivery ignores after task id result)
  | pending stage => exact polled.trans (setTask after task _)

theorem pollSend
    (hub : Hub) (task : TaskId) (id : PeerId) (frame : Frame) (limit : Span)
    (stage : Writing) :
    Keeps view hub (hub.pollSend task id frame limit stage) := by
  have polled := pollFrame lasting hub id task frame limit stage
  unfold Hub.pollSend
  rcases same : hub.pollFrame id task frame limit stage with ⟨after, written⟩
  rw [same] at polled
  cases written with
  | finished result => exact polled.trans (finish after task _)
  | pending stage => exact polled.trans (setTask after task _)

theorem pollSendClose
    (hub : Hub) (task : TaskId) (id : PeerId) (stage : Option Closing) :
    Keeps view hub (hub.pollSendClose task id stage) := by
  have closing : Keeps view hub (hub.closeOn task id stage).1 := by
    cases stage with
    | none => exact startClosing lasting hub id task
    | some closing => exact proceedClosing lasting hub id task closing
  rw [Hub.pollSendClose_eq]
  split
  · exact closing.trans (finish _ task _)
  · exact closing.trans (setTask _ task _)

theorem finishPong
    (hub : Hub) (task : TaskId) (id : PeerId) (result : Except Fault Unit) :
    Keeps view hub (hub.finishPong task id result) := by
  have returned := setPonging lasting hub id false
  cases result with
  | ok => exact (returned.trans (count _ _)).trans (finish _ task _)
  | error fault => exact returned.trans (finish _ task _)

theorem writePong
    (hub : Hub) (task : TaskId) (id : PeerId) (payload : Octets)
    (stage : Writing) :
    Keeps view hub (hub.writePong task id payload stage) := by
  have polled :=
    pollFrame lasting hub id task (.pong payload) hub.timing.pongWrite stage
  unfold Hub.writePong
  rcases same :
    hub.pollFrame id task (.pong payload) hub.timing.pongWrite stage with
    ⟨after, written⟩
  rw [same] at polled
  cases written with
  | finished result =>
      exact polled.trans (finishPong lasting after task id result)
  | pending stage => exact polled.trans (setTask after task _)

theorem delayPong (hub : Hub) (task : TaskId) (id : PeerId) (payload : Octets) :
    Keeps view hub (hub.delayPong task id payload) := by
  have drawn : Keeps view hub { hub with drawn := hub.drawn + 1 } :=
    ofPeers rfl rfl
  unfold Hub.delayPong
  simp only
  split
  · exact writePong lasting hub task id payload .unstarted
  · split
    · exact drawn.trans (writePong lasting _ task id payload .unstarted)
    · exact drawn.trans (ofPeers rfl rfl)

theorem startPong (hub : Hub) (task : TaskId) (id : PeerId) (payload : Octets) :
    Keeps view hub (hub.startPong task id payload) := by
  have renewed := renewDeadline lasting hub id hub.timing.heartbeat
  unfold Hub.startPong
  simp only
  split
  · split
    · exact (renewed.trans (count _ _)).trans (finish _ task _)
    · exact (renewed.trans (setPonging lasting _ id true)).trans
        (delayPong lasting _ task id payload)
  · exact finish hub task _

theorem pollPong
    (hub : Hub) (task : TaskId) (peer : Option PeerId) (payload : Octets)
    (stage : Ponging) :
    Keeps view hub (hub.pollPong task peer payload stage) := by
  cases peer with
  | none => exact finish hub task _
  | some id =>
      cases stage with
      | unstarted => exact startPong lasting hub task id payload
      | delaying ends =>
          unfold Hub.pollPong
          simp only
          split
          · exact writePong lasting hub task id payload .unstarted
          · exact refl hub
      | writing stage => exact writePong lasting hub task id payload stage

omit lasting in
theorem pollTally (hub : Hub) (task : TaskId) (deliveries : List TaskId) :
    Keeps view hub (hub.pollTally task deliveries) := by
  unfold Hub.pollTally
  split
  · exact finish hub task _
  · exact refl hub

omit lasting in
theorem pollAwaitClose (hub : Hub) (task : TaskId) (id : PeerId) :
    Keeps view hub (hub.pollAwaitClose task id) := by
  unfold Hub.pollAwaitClose
  split
  · exact finish hub task _
  · exact refl hub

omit lasting in
theorem pollLinger
    (hub : Hub) (task : TaskId) (span : Span) (stage : Option Alarm) :
    Keeps view hub (hub.pollLinger task span stage) := by
  have ends : ∀ hub : Hub, ∀ alarm : Alarm, Keeps view hub
      (if alarm.hasRung hub.now then hub.finish task .over
        else hub.setTask task (.linger span (some alarm))) := by
    intro hub alarm
    split
    · exact finish hub task _
    · exact setTask hub task _
  cases stage with
  | none => exact (noteAlarm hub).trans (ends _ _)
  | some alarm => exact ends hub alarm

omit lasting in
theorem pollDrain
    (hub : Hub) (task server : TaskId) (span : Span) (stage : Draining) :
    Keeps view hub (hub.pollDrain task server span stage) := by
  have bound : ∀ (hub : Hub) (limit : Alarm) (stage : Draining),
      Keeps view hub (hub.boundDrain task server span limit stage) := by
    intro hub limit stage
    unfold Hub.boundDrain
    split
    · exact finish hub task _
    · exact setTask hub task _
  have registry : ∀ (hub : Hub) (limit : Alarm),
      Keeps view hub (hub.checkRegistry task server span limit) := by
    intro hub limit
    unfold Hub.checkRegistry
    split
    · exact finish hub task _
    · exact (noteAlarm hub).trans (bound _ limit _)
  have checked : ∀ (hub : Hub) (limit : Alarm),
      Keeps view hub (hub.checkServer task server span limit) := by
    intro hub limit
    unfold Hub.checkServer
    split
    · exact registry hub limit
    · exact bound hub limit _
  cases stage with
  | unstarted => exact (noteAlarm hub).trans (checked _ _)
  | awaitingServer limit => exact checked hub limit
  | pausing pause limit =>
      unfold Hub.pollDrain
      simp only
      split
      · exact registry hub limit
      · exact bound hub limit _

/-- What a task keeps that serves nobody. -/
theorem goOn
    (ignores : IgnoresClosing view) (hub : Hub) (task : TaskId)
    (serves : (hub.task task).serves? = none) :
    Keeps view hub (hub.goOn task) := by
  let start : Hub := { hub with ready := hub.ready.erase task }
  have same : start.task task = hub.task task := rfl
  have begun : Keeps view hub start := ofPeers rfl rfl
  refine begun.trans ?_
  show Keeps view start (start.poll task)
  unfold Hub.poll
  rw [same]
  cases isTask : hub.task task with
  | attend id stage =>
      rw [isTask] at serves
      cases serves
  | converse id =>
      rw [isTask] at serves
      cases serves
  | deliver id frame limit stage =>
      exact pollDelivery lasting ignores start task id frame limit stage
  | pong peer payload stage =>
      exact pollPong lasting start task peer payload stage
  | send id frame limit stage =>
      exact pollSend lasting start task id frame limit stage
  | sendClose id stage => exact pollSendClose lasting start task id stage
  | awaitClose id => exact pollAwaitClose start task id
  | tally deliveries => exact pollTally start task deliveries
  | linger span stage => exact pollLinger start task span stage
  | drain server limit stage => exact pollDrain start task server limit stage
  | finished outcome => exact refl start

end

end Keeps

end BroadcastHub.Server
