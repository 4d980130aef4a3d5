import BroadcastHub.Proofs.Server.Elementary
import BroadcastHub.Proofs.Server.Sockets

/-!
# Courses of whole tasks

Whatever a task does when it goes on is a course of a doer that runs this
task, serves at most its session, and writes at most to its peer.
-/

namespace BroadcastHub.Server

/-- Begins to send a close frame, or goes on with it. -/
def Hub.closeOn (hub : Hub) (task : TaskId) (id : PeerId) :
    Option Closing → Hub × Option Closing
  | none => hub.startClosing id task
  | some closing => hub.proceedClosing id task closing

theorem Hub.pollSendClose_eq
    (hub : Hub) (task : TaskId) (id : PeerId) (stage : Option Closing) :
    hub.pollSendClose task id stage =
      match (hub.closeOn task id stage).2 with
      | none => (hub.closeOn task id stage).1.finish task .over
      | some closing =>
          (hub.closeOn task id stage).1.setTask task
            (.sendClose id (some closing)) := by
  cases stage with
  | none => rfl
  | some closing => rfl

namespace Course

variable {doer : Doer} {task : TaskId} {id : PeerId}

/-! ### Sockets -/

theorem setSocket
    (hub : Hub) (reaches : doer.Reaches id) {socket : Socket}
    (desk : doer.writes ≠ some id → socket.desk? = (hub.peer id).socket.desk?)
    (sent : doer.writes ≠ some id → socket.sent? = (hub.peer id).socket.sent?)
    (intake : doer.serves ≠ some id →
      socket.intake? = (hub.peer id).socket.intake?)
    (inbox : doer.serves ≠ some id →
      socket.inbox? = (hub.peer id).socket.inbox?)
    (isLink : socket.desk?.isSome = (hub.peer id).socket.desk?.isSome) :
    Course doer hub (hub.setSocket id socket) :=
  ofPeer hub reaches
    { PeerCourse.refl doer hub.now hub.timing.heartbeat id (hub.peer id) with
      desk := desk
      sent := sent
      intake := intake
      inbox := inbox
      isLink := isLink }
    rfl rfl

theorem noteProgress
    (hub : Hub) (running : doer.task = some task)
    (writes : doer.writes = some id) (request : SinkRequest)
    (progress : Progress) :
    Course doer hub (hub.noteProgress id task request progress) := by
  cases progress with
  | done result => exact note hub ⟨running, writes⟩ (by rintro _ _ _ _ ⟨⟩)
  | underway operation => exact refl doer hub

theorem startRequest
    (hub : Hub) (inside : doer.Inside hub) (running : doer.task = some task)
    (writes : doer.writes = some id) (request : SinkRequest) :
    Course doer hub (hub.startRequest id task request).1 := by
  have asked : Course doer hub (hub.note (.asked task id request)) :=
    note hub ⟨running, writes⟩ (by rintro _ _ _ _ ⟨⟩)
  have changed : Course doer (hub.note (.asked task id request))
      ((hub.note (.asked task id request)).setSocket id
        ((hub.peer id).socket.start hub.now hub.alarmsSet request).1) :=
    setSocket (hub.note (.asked task id request)) (.ofWrites writes)
      (fun other => absurd writes other) (fun other => absurd writes other)
      (fun _ => Socket.intake?_start (hub.peer id).socket _ _ _)
      (fun _ => Socket.inbox?_start (hub.peer id).socket _ _ _)
      (Socket.isSome_desk?_start (hub.peer id).socket _ _ _)
  exact ((asked.trans changed inside).trans (noteAlarm _) inside).trans
    (noteProgress _ running writes request _) inside

theorem proceedRequest
    (hub : Hub) (inside : doer.Inside hub) (running : doer.task = some task)
    (writes : doer.writes = some id) (request : SinkRequest)
    (operation : Operation) :
    Course doer hub (hub.proceedRequest id task request operation).1 := by
  obtain ⟨intake, inbox, isLink⟩ :=
    Socket.proceed_keeps (hub.peer id).socket hub.now request operation
  exact (setSocket hub (.ofWrites writes) (fun other => absurd writes other)
      (fun other => absurd writes other) (fun _ => intake) (fun _ => inbox)
      isLink).trans
    (noteProgress _ running writes request _) inside

theorem abandonRequest
    (hub : Hub) (inside : doer.Inside hub) (writes : doer.writes = some id)
    (request : SinkRequest) :
    Course doer hub (hub.abandonRequest id request) := by
  obtain ⟨intake, inbox, isLink⟩ :=
    Socket.abandon_keeps (hub.peer id).socket request
  have changed : Course doer hub
      (hub.setSocket id ((hub.peer id).socket.abandon request)) :=
    setSocket hub (.ofWrites writes) (fun other => absurd writes other)
      (fun other => absurd writes other) (fun _ => intake)
      (fun _ => inbox) isLink
  exact changed.trans (releaseTurn _ writes) inside

/-! ### Writing -/

theorem settleRequest
    (hub : Hub) (writes : doer.writes = some id) (progress : Progress) :
    Course doer hub (hub.settleRequest id progress).1 := by
  cases progress with
  | done result => exact releaseTurn hub writes
  | underway operation => exact refl doer hub

theorem beginFrame
    (hub : Hub) (inside : doer.Inside hub) (running : doer.task = some task)
    (writes : doer.writes = some id) (frame : Frame) :
    Course doer hub (hub.beginFrame id task frame).1 := by
  unfold Hub.beginFrame
  split
  · exact releaseTurn hub writes
  · have started := startRequest hub inside running writes (.frame frame)
    exact started.trans (settleRequest _ writes _) inside

theorem tryFrame
    (hub : Hub) (inside : doer.Inside hub) (running : doer.task = some task)
    (writes : doer.writes = some id) (frame : Frame) :
    Course doer hub (hub.tryFrame id task frame).1 := by
  unfold Hub.tryFrame
  split
  · exact beginFrame hub inside running writes frame
  · exact refl doer hub

theorem abandonFrame
    (hub : Hub) (inside : doer.Inside hub) (writes : doer.writes = some id)
    (frame : Frame) (standing : Standing) :
    Course doer hub (hub.abandonFrame id task frame standing) := by
  cases standing with
  | settled result => exact leaveLine hub writes task
  | inLine => exact leaveLine hub writes task
  | underway operation => exact abandonRequest hub inside writes (.frame frame)

theorem boundFrame
    (hub : Hub) (inside : doer.Inside hub) (writes : doer.writes = some id)
    (frame : Frame) (span : Span) (limit : Alarm) (standing : Standing) :
    Course doer hub (hub.boundFrame id task frame span limit standing).1 := by
  unfold Hub.boundFrame
  split
  · exact refl doer hub
  · split
    · exact abandonFrame hub inside writes frame standing
    · exact refl doer hub

theorem advanceFrame
    (hub : Hub) (inside : doer.Inside hub) (running : doer.task = some task)
    (writes : doer.writes = some id) (frame : Frame) (span : Span)
    (stage : Writing) :
    Course doer hub (hub.advanceFrame id task frame span stage).1 := by
  cases stage with
  | unstarted =>
      simp only [Hub.advanceFrame]
      split
      · exact refl doer hub
      · have requested : Course doer hub _ := requestTurn hub running writes
        have tried := requested.trans
          (tryFrame _ (requested.inside inside) running writes frame) inside
        have noted := tried.trans (noteAlarm _) inside
        exact noted.trans (boundFrame _ (noted.inside inside) writes _ _ _ _)
          inside
  | queued limit =>
      have tried := tryFrame hub inside running writes frame
      exact tried.trans (boundFrame _ (tried.inside inside) writes _ _ _ _)
        inside
  | underway operation limit =>
      have proceeded :=
        proceedRequest hub inside running writes (.frame frame) operation
      have settled := proceeded.trans (settleRequest _ writes
        (hub.proceedRequest id task (.frame frame) operation).2) inside
      exact settled.trans (boundFrame _ (settled.inside inside) writes _ _ _ _)
        inside

theorem pollFrame
    (hub : Hub) (inside : doer.Inside hub) (running : doer.task = some task)
    (writes : doer.writes = some id) (frame : Frame) (span : Span)
    (stage : Writing) :
    Course doer hub (hub.pollFrame id task frame span stage).1 := by
  have advanced := advanceFrame hub inside running writes frame span stage
  unfold Hub.pollFrame
  split <;> rename_i same <;> rw [same] at advanced
  · exact advanced.trans (note _ ⟨running, writes⟩ (by rintro _ _ _ _ ⟨⟩))
      inside
  · exact advanced

theorem boundClosing
    (hub : Hub) (inside : doer.Inside hub) (writes : doer.writes = some id)
    (limit : Alarm) (standing : Standing) :
    Course doer hub (hub.boundClosing id limit standing).1 := by
  unfold Hub.boundClosing
  split
  · split
    · exact abandonRequest hub inside writes .close
    · exact refl doer hub
  · exact refl doer hub

theorem startClosing
    (hub : Hub) (inside : doer.Inside hub) (running : doer.task = some task)
    (writes : doer.writes = some id) :
    Course doer hub (hub.startClosing id task).1 := by
  unfold Hub.startClosing
  split
  · have requested : Course doer hub _ := requestTurn hub running writes
    have started := requested.trans
      (startRequest _ (requested.inside inside) running writes .close) inside
    have settled := started.trans (settleRequest _ writes
      ((hub.requestTurn id task).startRequest id task .close).2) inside
    have noted := settled.trans (noteAlarm _) inside
    exact noted.trans (boundClosing _ (noted.inside inside) writes _ _) inside
  · exact refl doer hub

theorem proceedClosing
    (hub : Hub) (inside : doer.Inside hub) (running : doer.task = some task)
    (writes : doer.writes = some id) (closing : Closing) :
    Course doer hub (hub.proceedClosing id task closing).1 := by
  have proceeded :=
    proceedRequest hub inside running writes .close closing.operation
  have settled := proceeded.trans (settleRequest _ writes
    (hub.proceedRequest id task .close closing.operation).2) inside
  exact settled.trans (boundClosing _ (settled.inside inside) writes _ _) inside

/-! ### Broadcasts and single frames -/

theorem finishDelivery
    (hub : Hub) (inside : doer.Inside hub) (running : doer.task = some task)
    (writes : doer.writes = some id) (result : Except Fault Unit) :
    Course doer hub (hub.finishDelivery task id result) := by
  cases result with
  | ok =>
      have counted : Course doer hub _ := count hub fun counters =>
        { counters with delivered := counters.delivered + 1 }
      exact counted.trans (finish _ (counted.inside inside) running _) inside
  | error fault =>
      have counted : Course doer hub _ := count hub fun counters =>
        { counters with undelivered := counters.undelivered + 1 }
      have closed := counted.trans (close _ (.ofWrites writes)) inside
      exact closed.trans (finish _ (closed.inside inside) running _) inside

theorem pollDelivery
    (hub : Hub) (inside : doer.Inside hub) (running : doer.task = some task)
    (writes : doer.writes = some id) {frame : Frame} {limit : Span}
    (becomes : ∀ stage, doer.becomes (.deliver id frame limit stage))
    (stage : Writing) :
    Course doer hub (hub.pollDelivery task id frame limit stage) := by
  have polled := pollFrame hub inside running writes frame limit stage
  unfold Hub.pollDelivery
  split <;> rename_i same <;> rw [same] at polled
  · exact polled.trans
      (finishDelivery _ (polled.inside inside) running writes _) inside
  · exact polled.trans (setTask _ running (becomes _)) inside

theorem pollSend
    (hub : Hub) (inside : doer.Inside hub) (running : doer.task = some task)
    (writes : doer.writes = some id) {frame : Frame} {limit : Span}
    (becomes : ∀ stage, doer.becomes (.send id frame limit stage))
    (stage : Writing) :
    Course doer hub (hub.pollSend task id frame limit stage) := by
  have polled := pollFrame hub inside running writes frame limit stage
  unfold Hub.pollSend
  split <;> rename_i same <;> rw [same] at polled
  · exact polled.trans (finish _ (polled.inside inside) running _) inside
  · exact polled.trans (setTask _ running (becomes _)) inside

theorem pollSendClose
    (hub : Hub) (inside : doer.Inside hub) (running : doer.task = some task)
    (writes : doer.writes = some id)
    (becomes : ∀ closing, doer.becomes (.sendClose id (some closing)))
    (stage : Option Closing) :
    Course doer hub (hub.pollSendClose task id stage) := by
  have closing : Course doer hub (hub.closeOn task id stage).1 := by
    cases stage with
    | none => exact startClosing hub inside running writes
    | some closing => exact proceedClosing hub inside running writes closing
  rw [Hub.pollSendClose_eq]
  split
  · exact closing.trans (finish _ (closing.inside inside) running _) inside
  · exact closing.trans (setTask _ running (becomes _)) inside

theorem pollTally
    (hub : Hub) (inside : doer.Inside hub) (running : doer.task = some task)
    (deliveries : List TaskId) :
    Course doer hub (hub.pollTally task deliveries) := by
  unfold Hub.pollTally
  split
  · exact finish hub inside running _
  · exact refl doer hub

theorem pollAwaitClose
    (hub : Hub) (inside : doer.Inside hub) (running : doer.task = some task)
    (id : PeerId) : Course doer hub (hub.pollAwaitClose task id) := by
  unfold Hub.pollAwaitClose
  split
  · exact finish hub inside running _
  · exact refl doer hub

/-! ### Heartbeats -/

theorem finishPong
    (hub : Hub) (inside : doer.Inside hub) (running : doer.task = some task)
    (answers : doer.answers = some id) (result : Except Fault Unit) :
    Course doer hub (hub.finishPong task id result) := by
  have freed : Course doer hub _ := setPonging hub answers false
  cases result with
  | ok =>
      have counted := freed.trans (count _ fun counters =>
        { counters with ponged := counters.ponged + 1 }) inside
      exact counted.trans (finish _ (counted.inside inside) running _) inside
  | error fault =>
      exact freed.trans (finish _ (freed.inside inside) running _) inside

theorem writePong
    (hub : Hub) (inside : doer.Inside hub) (running : doer.task = some task)
    (writes : doer.writes = some id) (answers : doer.answers = some id)
    {payload : Octets}
    (becomes : ∀ stage, stage ≠ .unstarted →
      doer.becomes (.pong (some id) payload stage))
    (stage : Writing) :
    Course doer hub (hub.writePong task id payload stage) := by
  have polled := pollFrame hub inside running writes (.pong payload)
    hub.timing.pongWrite stage
  unfold Hub.writePong
  split <;> rename_i same <;> rw [same] at polled
  · exact polled.trans (finishPong _ (polled.inside inside) running answers _)
      inside
  · exact polled.trans (setTask _ running (becomes _ (by rintro ⟨⟩))) inside

theorem delayPong
    (hub : Hub) (inside : doer.Inside hub) (running : doer.task = some task)
    (writes : doer.writes = some id) (answers : doer.answers = some id)
    {payload : Octets}
    (becomes : ∀ stage, stage ≠ .unstarted →
      doer.becomes (.pong (some id) payload stage)) :
    Course doer hub (hub.delayPong task id payload) := by
  unfold Hub.delayPong
  split
  · exact writePong hub inside running writes answers becomes .unstarted
  · have drawn : Course doer hub { hub with drawn := hub.drawn + 1 } :=
      idle rfl rfl rfl rfl rfl rfl rfl (Nat.le_succ _) (Nat.le_refl _)
        fun _ member => member
    simp only
    split
    · exact drawn.trans (writePong _ (drawn.inside inside) running writes
        answers becomes .unstarted) inside
    · exact (drawn.trans (noteAlarm _) inside).trans
        (setTask _ running (becomes _ (by rintro ⟨⟩))) inside

theorem startPong
    (hub : Hub) (inside : doer.Inside hub) (running : doer.task = some task)
    (writes : doer.writes = some id) (answers : doer.answers = some id)
    (renews : doer.renews id) {payload : Octets}
    (becomes : ∀ stage, stage ≠ .unstarted →
      doer.becomes (.pong (some id) payload stage)) :
    Course doer hub (hub.startPong task id payload) := by
  unfold Hub.startPong
  split
  · have renewed : Course doer hub _ := renewDeadline hub id (.inr renews)
    simp only
    split
    · have counted := renewed.trans (count _ fun counters =>
        { counters with coalesced := counters.coalesced + 1 }) inside
      exact counted.trans (finish _ (counted.inside inside) running _) inside
    · have taken := renewed.trans (setPonging _ answers true) inside
      exact taken.trans (delayPong _ (taken.inside inside) running writes
        answers becomes) inside
  · exact finish hub inside running _

theorem pollPong
    (hub : Hub) (inside : doer.Inside hub) (running : doer.task = some task)
    {peer : Option PeerId} (writes : doer.writes = peer)
    (answers : doer.answers = peer) {payload : Octets} (stage : Ponging)
    (renews : ∀ id, peer = some id → stage = .unstarted → doer.renews id)
    (becomes : ∀ stage, stage ≠ .unstarted →
      doer.becomes (.pong peer payload stage)) :
    Course doer hub (hub.pollPong task peer payload stage) := by
  cases peer with
  | none => exact finish hub inside running _
  | some id =>
      cases stage with
      | unstarted =>
          exact startPong hub inside running writes answers
            (renews id rfl rfl) becomes
      | delaying ends =>
          simp only [Hub.pollPong]
          split
          · exact writePong hub inside running writes answers becomes .unstarted
          · exact refl doer hub
      | writing stage =>
          exact writePong hub inside running writes answers becomes stage

end Course

end BroadcastHub.Server
