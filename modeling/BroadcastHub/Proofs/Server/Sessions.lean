import BroadcastHub.Proofs.Server.Polls
import BroadcastHub.Proofs.Wire.Envelope

/-!
# Courses of sessions and of ready tasks

A session may start heartbeat replies and deliveries, a conversation may
start a session, and no other task starts any.  With that the course of a
task is known from its stage alone.
-/

namespace BroadcastHub.Server

namespace Task

/-- The peer whose session a task serves. -/
def serves? : Task → Option PeerId
  | attend peer _ => some peer
  | converse peer => some peer
  | _ => none

/-- The peer to which a task writes. -/
def writes? : Task → Option PeerId
  | attend peer _ => some peer
  | deliver peer _ _ _ => some peer
  | pong peer _ _ => peer
  | send peer _ _ _ => some peer
  | sendClose peer _ => some peer
  | _ => none

/-- The session whose heartbeat request a task answers. -/
def answers? : Task → Option PeerId
  | pong peer _ _ => peer
  | _ => none

def MayStart : Task → Task → Prop
  | attend peer _, pong other _ stage => other = some peer ∧ stage = .unstarted
  | attend _ _, deliver _ frame _ stage =>
      frame.kind?.isSome = true ∧ stage = .unstarted
  | converse peer, attend other stage => other = peer ∧ stage = .arriving
  | _, _ => False

/-- Whether a task is another one at a later stage. -/
def Follows : Task → Task → Prop
  | attend peer _, attend other stage => other = peer ∧ stage ≠ .arriving
  | deliver peer frame limit _, deliver other otherFrame otherLimit _ =>
      other = peer ∧ otherFrame = frame ∧ otherLimit = limit
  | pong peer payload _, pong other otherPayload stage =>
      other = peer ∧ otherPayload = payload ∧ stage ≠ .unstarted
  | send peer frame limit _, send other otherFrame otherLimit _ =>
      other = peer ∧ otherFrame = frame ∧ otherLimit = limit
  | sendClose peer _, sendClose other stage =>
      other = peer ∧ stage.isSome = true
  | linger span _, linger other _ => other = span
  | drain server limit _, drain other otherLimit _ =>
      other = server ∧ otherLimit = limit
  | _, _ => False

def Announces : Task → Prop
  | attend _ _ => True
  | _ => False

/-- Whether a task moves the read deadline of a session that it does not
serve. -/
def Renews (id : PeerId) : Task → Prop
  | pong peer _ .unstarted => peer = some id
  | _ => False

end Task

/-- Lets a ready task go on. -/
def Hub.goOn (hub : Hub) (task : TaskId) : Hub :=
  { hub with ready := hub.ready.erase task }.poll task

theorem Task.exists_outcome {task : Task} (finished : task.isFinished = true) :
    ∃ outcome, task = .finished outcome := by
  cases task <;> cases finished
  exact ⟨_, rfl⟩

theorem Hub.goOn_of_finished {hub : Hub} {task : TaskId} {outcome : Outcome}
    (ended : hub.task task = .finished outcome) :
    hub.goOn task = { hub with ready := hub.ready.erase task } := by
  have same : { hub with ready := hub.ready.erase task }.task task =
      .finished outcome := ended
  rw [goOn, poll, same]

theorem Hub.step?_eq (hub : Hub) :
    hub.step? = hub.ready.head?.map hub.goOn := by
  unfold Hub.step?
  split
  · rename_i still
    rw [still]
    rfl
  · rename_i next
    rw [next]
    simp [Hub.goOn, next]

def Doer.running (number : TaskId) (task : Task) : Doer where
  task := some number
  serves := task.serves?
  writes := task.writes?
  answers := task.answers?
  starts := task.MayStart
  becomes := task.Follows
  announces := task.Announces
  renews id := task.Renews id
  joins id := task = .attend id .arriving

/-- A doer that runs the task of a session. -/
structure Doer.Attends (doer : Doer) (task : TaskId) (id : PeerId) : Prop where
  running : doer.task = some task
  serves : doer.serves = some id
  becomes : ∀ alarm, doer.becomes (.attend id (.reading alarm))
  pong : ∀ payload, doer.starts (.pong (some id) payload .unstarted)

/-- A doer that may send the close frame of a session. -/
structure Doer.Parts (doer : Doer) (id : PeerId) : Prop where
  writes : doer.writes = some id
  becomes : ∀ closing, doer.becomes (.attend id (.parting closing))

/-- The rest of the opening of a session, after it was closed or not. -/
def Hub.enter (hub : Hub) (task : TaskId) (id : PeerId) : Hub :=
  (((hub.note (.joined id)).count Counters.noteOpened).renewDeadline id
    hub.timing.heartbeat).readOn task id

theorem Hub.arrive_eq_enter (hub : Hub) (task : TaskId) (id : PeerId) :
    hub.arrive task id =
      (if hub.stopping then (hub.register id firstWindow).close id
        else hub.register id firstWindow).enter task id := rfl

namespace Course

variable {doer : Doer} {task : TaskId} {id : PeerId}

/-! ### Sessions -/

theorem releaseSlot
    (hub : Hub) (inside : doer.Inside hub) (reaches : doer.Reaches id) :
    Course doer hub (hub.releaseSlot id) := by
  unfold Hub.releaseSlot
  split
  · have freed : Course doer hub
        (hub.updatePeer id fun peer => { peer with holdsSlot := false }) :=
      ofPeer hub reaches
        { PeerCourse.refl doer hub.now hub.timing.heartbeat id
          (hub.peer id) with } rfl rfl
    exact freed.trans (unnoticed rfl rfl rfl rfl rfl rfl rfl rfl rfl rfl) inside
  · exact refl doer hub

theorem finishSession
    (hub : Hub) (inside : doer.Inside hub) (running : doer.task = some task)
    (reaches : doer.Reaches id) (exit : Exit) :
    Course doer hub (hub.finishSession task id exit) := by
  have counted : Course doer hub _ :=
    count hub fun counters => counters.noteEnded exit.reason
  have freed :=
    counted.trans (releaseSlot _ (counted.inside inside) reaches) inside
  exact freed.trans (finish _ (freed.inside inside) running _) inside

theorem settleParting
    (running : doer.task = some task) (parts : doer.Parts id) (hub : Hub)
    (inside : doer.Inside hub) (closing : Option Closing) :
    Course doer hub (hub.settleParting task id closing) := by
  cases closing with
  | none => exact finishSession hub inside running (.ofWrites parts.writes) _
  | some closing => exact setTask hub running (parts.becomes _)

theorem leaveSilently
    (attends : doer.Attends task id) (hub : Hub) (inside : doer.Inside hub)
    (exit : Exit) (silently : exit ≠ .socketClosed) :
    Course doer hub (hub.leave task id exit) := by
  have left : Course doer hub (hub.note (.left id exit)) :=
    note hub attends.serves (by rintro _ _ _ _ ⟨⟩)
  have gone := left.trans (unregister _ attends.serves) inside
  have finished :=
    gone.trans (finishSession _ (gone.inside inside) attends.running
      (.ofServes attends.serves) exit) inside
  cases exit with
  | socketClosed => exact absurd rfl silently
  | closeFrame => exact finished
  | streamEnded => exact finished
  | readError fault => exact finished
  | deadlineExpired => exact finished

/-- Leaving because the session was closed on this side. -/
theorem leaveClosed
    (attends : doer.Attends task id) (parts : doer.Parts id) (hub : Hub)
    (inside : doer.Inside hub) :
    Course doer hub (hub.leave task id .socketClosed) := by
  have left : Course doer hub (hub.note (.left id .socketClosed)) :=
    note hub attends.serves (by rintro _ _ _ _ ⟨⟩)
  have gone := left.trans (unregister _ attends.serves) inside
  have closing := gone.trans
    (startClosing _ (gone.inside inside) attends.running parts.writes) inside
  exact closing.trans
    (settleParting attends.running parts _ (closing.inside inside) _) inside

theorem readOn
    (attends : doer.Attends task id) (hub : Hub) (inside : doer.Inside hub) :
    Course doer hub (hub.readOn task id) :=
  (setTask hub attends.running (attends.becomes _)).trans
    (again _ attends.running) inside

theorem enter
    (attends : doer.Attends task id) (hub : Hub) (inside : doer.Inside hub) :
    Course doer hub (hub.enter task id) := by
  have joined : Course doer hub (hub.note (.joined id)) :=
    note hub attends.serves (by rintro _ _ _ _ ⟨⟩)
  have counted := joined.trans (count _ Counters.noteOpened) inside
  have renewed :=
    counted.trans (renewDeadline _ id (.inl attends.serves)) inside
  exact renewed.trans (readOn attends _ (renewed.inside inside)) inside

theorem arrive
    (attends : doer.Attends task id) (joins : doer.joins id) (hub : Hub)
    (inside : doer.Inside hub) : Course doer hub (hub.arrive task id) := by
  have registered : Course doer hub _ :=
    register hub attends.serves joins Hub.firstWindow
  rw [Hub.arrive_eq_enter]
  split
  · have closed := registered.trans (close _ (.ofServes attends.serves)) inside
    exact closed.trans (enter attends _ (closed.inside inside)) inside
  · exact registered.trans (enter attends _ (registered.inside inside)) inside

/-- What a frame asks for that is not passed on. -/
theorem actPlain
    (attends : doer.Attends task id) (hub : Hub) (inside : doer.Inside hub)
    {frame : Frame} (plain : frame.envelope? = none) :
    Course doer hub (hub.act task id frame) := by
  have renewed : Course doer hub (hub.renewDeadline id hub.timing.heartbeat) :=
    renewDeadline hub id (.inl attends.serves)
  have resumed :=
    renewed.trans (readOn attends _ (renewed.inside inside)) inside
  cases frame with
  | close =>
      exact renewed.trans
        (leaveSilently attends _ (renewed.inside inside) .closeFrame
          (by rintro ⟨⟩)) inside
  | ping payload =>
      have started := renewed.trans
        (spawn _ (renewed.inside inside) (attends.pong payload)
          (by rintro _ _ _ _ ⟨⟩)) inside
      exact started.trans (readOn attends _ (started.inside inside)) inside
  | pong payload => exact resumed
  | text content => cases plain
  | binary content => cases plain

end Course

theorem Hub.act_message
    (hub : Hub) (task : TaskId) (id : PeerId) {frame envelope : Frame}
    (message : frame.envelope? = some envelope) :
    hub.act task id frame =
      ((hub.renewDeadline id hub.timing.heartbeat).startDeliveries envelope
        hub.timing.broadcastWrite).readOn task id := by
  cases frame with
  | text content => cases message; rfl
  | binary content => cases message; rfl
  | ping payload => cases message
  | pong payload => cases message
  | close => cases message

namespace Course

variable {doer : Doer} {task : TaskId} {id : PeerId}

theorem act (attends : doer.Attends task id) (announces : doer.announces)
    (deliver : ∀ peer frame limit, frame.kind?.isSome = true →
      doer.starts (.deliver peer frame limit .unstarted))
    (hub : Hub) (inside : doer.Inside hub) (frame : Frame) :
    Course doer hub (hub.act task id frame) := by
  cases message : frame.envelope? with
  | none => exact actPlain attends hub inside message
  | some envelope =>
      have renewed :
          Course doer hub (hub.renewDeadline id hub.timing.heartbeat) :=
        renewDeadline hub id (.inl attends.serves)
      have data : envelope.kind?.isSome = true := by
        rw [Frame.kind?_envelope message]
        cases frame <;> first | rfl | cases message
      have started := renewed.trans
        (startDeliveries _ (renewed.inside inside) envelope
          hub.timing.broadcastWrite announces
          fun peer => deliver peer envelope _ data) inside
      rw [Hub.act_message hub task id message]
      exact started.trans (readOn attends _ (started.inside inside)) inside

theorem takeItem
    (attends : doer.Attends task id) (hub : Hub) (inside : doer.Inside hub)
    (item : Except Fault Frame) :
    Course doer hub ((hub.setSocket id (hub.peer id).socket.take.1).note
      (.took id item)) := by
  have taken : Course doer hub (hub.setSocket id (hub.peer id).socket.take.1) :=
    setSocket hub (.ofServes attends.serves) (fun _ => Socket.desk?_take _)
      (fun _ => Socket.sent?_take _) (fun other => absurd attends.serves other)
      (fun other => absurd attends.serves other)
      (congrArg Option.isSome (Socket.desk?_take _))
  exact taken.trans (note _ attends.serves (by rintro _ _ _ _ ⟨⟩)) inside

theorem takeArrival
    (attends : doer.Attends task id) (announces : doer.announces)
    (deliver : ∀ peer frame limit, frame.kind?.isSome = true →
      doer.starts (.deliver peer frame limit .unstarted))
    (hub : Hub) (inside : doer.Inside hub) (alarm : Alarm) :
    Course doer hub (hub.takeArrival task id alarm) := by
  have taken : Course doer hub (hub.setSocket id (hub.peer id).socket.take.1) :=
    setSocket hub (.ofServes attends.serves) (fun _ => Socket.desk?_take _)
      (fun _ => Socket.sent?_take _) (fun other => absurd attends.serves other)
      (fun other => absurd attends.serves other)
      (congrArg Option.isSome (Socket.desk?_take _))
  unfold Hub.takeArrival
  simp only
  cases (hub.peer id).socket.take.2 with
  | nothing =>
      exact taken.trans (setTask _ attends.running (attends.becomes _)) inside
  | ended =>
      exact taken.trans
        (leaveSilently attends _ (taken.inside inside) .streamEnded
          (by rintro ⟨⟩)) inside
  | item item =>
      have noted := takeItem attends hub inside item
      cases item with
      | error fault =>
          exact noted.trans
            (leaveSilently attends _ (noted.inside inside) (.readError fault)
              (by rintro ⟨⟩)) inside
      | ok frame =>
          exact noted.trans
            (act attends announces deliver _ (noted.inside inside) frame) inside

theorem checkDeadline
    (attends : doer.Attends task id) (announces : doer.announces)
    (deliver : ∀ peer frame limit, frame.kind?.isSome = true →
      doer.starts (.deliver peer frame limit .unstarted))
    (hub : Hub) (inside : doer.Inside hub) (alarm : Alarm) :
    Course doer hub (hub.checkDeadline task id alarm) := by
  unfold Hub.checkDeadline
  split
  · split
    · exact readOn attends hub inside
    · exact leaveSilently attends hub inside .deadlineExpired (by rintro ⟨⟩)
  · exact takeArrival attends announces deliver hub inside alarm

theorem readOpen
    (attends : doer.Attends task id) (announces : doer.announces)
    (deliver : ∀ peer frame limit, frame.kind?.isSome = true →
      doer.starts (.deliver peer frame limit .unstarted))
    (hub : Hub) (inside : doer.Inside hub)
    (isOpen : (hub.peer id).closed = false) (alarm : Option Alarm) :
    Course doer hub (hub.read task id alarm) := by
  unfold Hub.read
  rw [isOpen, if_neg Bool.false_ne_true]
  cases alarm with
  | some alarm => exact checkDeadline attends announces deliver hub inside alarm
  | none =>
      have noted : Course doer hub hub.noteAlarm := noteAlarm hub
      exact noted.trans
        (checkDeadline attends announces deliver _ (noted.inside inside) _)
        inside

theorem read (attends : doer.Attends task id) (parts : doer.Parts id)
    (announces : doer.announces)
    (deliver : ∀ peer frame limit, frame.kind?.isSome = true →
      doer.starts (.deliver peer frame limit .unstarted))
    (hub : Hub) (inside : doer.Inside hub) (alarm : Option Alarm) :
    Course doer hub (hub.read task id alarm) := by
  cases closed : (hub.peer id).closed with
  | true =>
      unfold Hub.read
      rw [closed, if_pos rfl]
      exact leaveClosed attends parts hub inside
  | false => exact readOpen attends announces deliver hub inside closed alarm

theorem proceedParting
    (running : doer.task = some task) (parts : doer.Parts id) (hub : Hub)
    (inside : doer.Inside hub) (closing : Closing) :
    Course doer hub (hub.pollSession task id (.parting closing)) := by
  have proceeded := proceedClosing hub inside running parts.writes closing
  exact proceeded.trans
    (settleParting running parts _ (proceeded.inside inside) _) inside

theorem pollSession
    (hub : Hub) (below : task < hub.tasks.size) (id : PeerId)
    (stage : Attendance) :
    Course (.running task (.attend id stage)) hub
      (hub.pollSession task id stage) := by
  have inside : (Doer.running task (.attend id stage)).Inside hub := by
    rintro _ ⟨⟩
    exact below
  have attends : (Doer.running task (.attend id stage)).Attends task id :=
    ⟨rfl, rfl, fun _ => ⟨rfl, by rintro ⟨⟩⟩, fun _ => ⟨rfl, rfl⟩⟩
  have parts : (Doer.running task (.attend id stage)).Parts id :=
    ⟨rfl, fun _ => ⟨rfl, by rintro ⟨⟩⟩⟩
  cases stage with
  | arriving => exact arrive attends rfl hub inside
  | reading alarm =>
      exact read attends parts trivial
        (fun peer frame limit data => ⟨data, rfl⟩) hub inside alarm
  | parting closing => exact proceedParting rfl parts hub inside closing

/-! ### Stopping -/

theorem pollLinger
    (hub : Hub) (inside : doer.Inside hub) (running : doer.task = some task)
    {span : Span} (becomes : ∀ stage, doer.becomes (.linger span stage))
    (stage : Option Alarm) :
    Course doer hub (hub.pollLinger task span stage) := by
  have ended : ∀ later : Hub, Course doer hub later →
      ∀ alarm : Alarm, Course doer hub
      (if alarm.hasRung later.now then later.finish task .over
        else later.setTask task (.linger span (some alarm))) := by
    intro later noted alarm
    split
    · exact noted.trans (finish _ (noted.inside inside) running _) inside
    · exact noted.trans (setTask _ running (becomes _)) inside
  cases stage with
  | none => exact ended _ (noteAlarm hub) _
  | some alarm => exact ended _ (refl doer hub) alarm

theorem boundDrain
    (hub : Hub) (inside : doer.Inside hub) (running : doer.task = some task)
    {server : TaskId} {span : Span}
    (becomes : ∀ stage, doer.becomes (.drain server span stage)) (limit : Alarm)
    (stage : Draining) :
    Course doer hub (hub.boundDrain task server span limit stage) := by
  unfold Hub.boundDrain
  split
  · exact finish hub inside running _
  · exact setTask hub running (becomes _)

theorem checkRegistry
    (hub : Hub) (inside : doer.Inside hub) (running : doer.task = some task)
    {server : TaskId} {span : Span}
    (becomes : ∀ stage, doer.becomes (.drain server span stage))
    (limit : Alarm) :
    Course doer hub (hub.checkRegistry task server span limit) := by
  unfold Hub.checkRegistry
  split
  · exact finish hub inside running _
  · have noted : Course doer hub hub.noteAlarm := noteAlarm hub
    exact noted.trans (boundDrain _ (noted.inside inside) running becomes
      limit _) inside

theorem checkServer
    (hub : Hub) (inside : doer.Inside hub) (running : doer.task = some task)
    {server : TaskId} {span : Span}
    (becomes : ∀ stage, doer.becomes (.drain server span stage))
    (limit : Alarm) :
    Course doer hub (hub.checkServer task server span limit) := by
  unfold Hub.checkServer
  split
  · exact checkRegistry hub inside running becomes limit
  · exact boundDrain hub inside running becomes limit _

theorem pollDrain
    (hub : Hub) (inside : doer.Inside hub) (running : doer.task = some task)
    {server : TaskId} {span : Span}
    (becomes : ∀ stage, doer.becomes (.drain server span stage))
    (stage : Draining) :
    Course doer hub (hub.pollDrain task server span stage) := by
  cases stage with
  | unstarted =>
      have noted : Course doer hub hub.noteAlarm := noteAlarm hub
      exact noted.trans (checkServer _ (noted.inside inside) running becomes _)
        inside
  | awaitingServer limit => exact checkServer hub inside running becomes limit
  | pausing pause limit =>
      simp only [Hub.pollDrain]
      split
      · exact checkRegistry hub inside running becomes limit
      · exact boundDrain hub inside running becomes limit _

/-! ### Conversations -/

theorem updateLink
    (hub : Hub) (reaches : doer.Reaches id) {change : Link → Link}
    (desk : doer.writes ≠ some id → ∀ link, (change link).desk = link.desk)
    (intake : doer.serves ≠ some id →
      ∀ link, (change link).intake = link.intake) :
    Course doer hub (hub.updateLink id change) := by
  refine ofPeer hub reaches ?_ (by split <;> rfl) (by split <;> rfl)
  cases same : (hub.peer id).socket with
  | scripted socket => exact PeerCourse.refl _ _ _ _ _
  | link link =>
      exact
        { PeerCourse.refl doer hub.now hub.timing.heartbeat id
          (hub.peer id) with
          desk := fun other => by
            rw [same]
            exact congrArg some (desk other link)
          sent := fun _ => by
            rw [same]
            rfl
          intake := fun other => by
            rw [same]
            exact congrArg some (intake other link)
          inbox := fun _ => by
            rw [same]
            rfl
          isLink := by
            rw [same]
            rfl }

theorem reply
    (hub : Hub) (reaches : doer.Reaches id) (response : Http.Response) :
    Course doer hub (hub.reply id response) :=
  updateLink hub reaches (fun _ _ => rfl) fun _ _ => rfl

end Course

/-- An answer changes the slots and the counters only. -/
theorem respond_eq (hub : Hub) (request : Http.Request) (upgradable : Bool) :
    ∃ admission counters,
      (Http.respond hub request upgradable).1 =
        { hub with admission, counters } := by
  have opened : ∃ admission counters,
      (Http.openSession hub request.fields upgradable).1 =
        { hub with admission, counters } := by
    unfold Http.openSession
    split
    · exact ⟨hub.admission, hub.counters, rfl⟩
    · split
      · exact ⟨hub.admission, _, rfl⟩
      · simp only
        split
        · exact ⟨_, hub.counters, rfl⟩
        · exact ⟨_, hub.counters, rfl⟩
  have answered : ∀ route : Http.Route, ∃ admission counters,
      (route.answer hub request upgradable).1 =
        { hub with admission, counters } := by
    intro route
    cases route with
    | session => exact opened
    | health => exact ⟨hub.admission, hub.counters, rfl⟩
    | metrics => exact ⟨hub.admission, hub.counters, rfl⟩
  unfold Http.respond
  split
  · exact ⟨hub.admission, hub.counters, rfl⟩
  · split
    · exact answered _
    · split
      · exact answered _
      · exact ⟨hub.admission, hub.counters, rfl⟩

namespace Course

variable {doer : Doer} {task : TaskId} {id : PeerId}

theorem respond (hub : Hub) (request : Http.Request) (upgradable : Bool) :
    Course doer hub (Http.respond hub request upgradable).1 := by
  obtain ⟨admission, counters, same⟩ := respond_eq hub request upgradable
  rw [same]
  exact unnoticed rfl rfl rfl rfl rfl rfl rfl rfl rfl rfl

theorem beginSession
    (hub : Hub) (inside : doer.Inside hub) (running : doer.task = some task)
    (serves : doer.serves = some id)
    (starts : doer.starts (.attend id .arriving)) :
    Course doer hub (hub.beginSession task id) := by
  have changed : Course doer hub (hub.updatePeer id fun peer =>
      { peer with holdsSlot := true, attendant := some hub.nextTask }) :=
    ofPeer hub (.ofServes serves)
      { PeerCourse.refl doer hub.now hub.timing.heartbeat id (hub.peer id) with
        attendant := fun never => absurd starts (never serves) }
      rfl rfl
  have started := changed.trans
    (spawn _ (changed.inside inside) starts (by rintro _ _ _ _ ⟨⟩)) inside
  exact started.trans (finish _ (started.inside inside) running _) inside

theorem refuse
    (hub : Hub) (inside : doer.Inside hub) (running : doer.task = some task)
    (reaches : doer.Reaches id) (offence : Http.Offence) :
    Course doer hub (hub.refuse task id offence) := by
  have replied : Course doer hub _ :=
    reply hub reaches (Hub.withConnection (.bare offence.status) "close")
  exact replied.trans (finish _ (replied.inside inside) running _) inside

/-- A request is answered, and a session may follow. -/
theorem converseOn
    (hub : Hub) (inside : doer.Inside hub) (running : doer.task = some task)
    (serves : doer.serves = some id) (request : Http.Request)
    (content : Http.Content) (rest : Octets) :
    Course doer hub (hub.converseOn task id request content rest) ∨
      ∃ middle, Course doer hub middle ∧
        hub.converseOn task id request content rest =
          middle.beginSession task id := by
  have read : Course doer hub (hub.updateLink id fun link =>
      { link with unread := (content.behind? rest).getD [] }) :=
    updateLink hub (.ofServes serves) (fun _ _ => rfl) fun other =>
      absurd serves other
  have responded := read.trans (respond _ request request.isUpgradable) inside
  have replied := responded.trans (reply _ (.ofServes serves) (Hub.asSent
    (Http.respond (hub.updateLink id fun link =>
      { link with unread := (content.behind? rest).getD [] }) request
      request.isUpgradable).2.1 request.version request.keepsAlive)) inside
  unfold Hub.converseOn
  simp only
  split
  · exact .inr ⟨_, replied, rfl⟩
  · split
    · exact .inl (replied.trans (again _ running) inside)
    · exact .inl (replied.trans (finish _ (replied.inside inside) running _)
        inside)

theorem pollConversation_cases (hub : Hub) (inside : doer.Inside hub)
    (running : doer.task = some task) (serves : doer.serves = some id) :
    Course doer hub (hub.pollConversation task id) ∨
      ∃ middle, Course doer hub middle ∧
        hub.pollConversation task id = middle.beginSession task id := by
  have read : Course doer hub (hub.updateLink id Link.readPipe) :=
    updateLink hub (.ofServes serves) (fun _ => Link.desk_readPipe) fun other =>
      absurd serves other
  unfold Hub.pollConversation
  simp only
  split
  · exact .inl (read.trans (finish _ (read.inside inside) running _) inside)
  · split
    · split
      · rcases converseOn _ (read.inside inside) running serves _ _ _ with
          answered | ⟨middle, answered, same⟩
        · exact .inl (read.trans answered inside)
        · exact .inr ⟨middle, read.trans answered inside, same⟩
      · exact .inl (read.trans
          (refuse _ (read.inside inside) running (.ofServes serves) _) inside)
    · exact .inl (read.trans
        (refuse _ (read.inside inside) running (.ofServes serves) _) inside)
    · split
      · exact .inl (read.trans (finish _ (read.inside inside) running _) inside)
      · exact .inl read

theorem pollConversation
    (hub : Hub) (inside : doer.Inside hub) (running : doer.task = some task)
    (serves : doer.serves = some id)
    (starts : doer.starts (.attend id .arriving)) :
    Course doer hub (hub.pollConversation task id) := by
  rcases pollConversation_cases hub inside running serves with
    answered | ⟨middle, answered, same⟩
  · exact answered
  · rw [same]
    exact answered.trans (beginSession _ (answered.inside inside) running serves
      starts) inside

/-! ### Ready tasks -/

/-- What a task does when it goes on. -/
theorem poll (hub : Hub) (task : TaskId) :
    Course (.running task (hub.task task)) hub (hub.poll task) := by
  by_cases below : task < hub.tasks.size
  · have inside : (Doer.running task (hub.task task)).Inside hub := by
      rintro _ ⟨⟩
      exact below
    unfold Hub.poll
    cases same : hub.task task <;> rw [same] at inside
    case attend id stage => exact pollSession hub below id stage
    case deliver id frame limit stage =>
      exact pollDelivery hub inside rfl rfl (fun _ => ⟨rfl, rfl, rfl⟩) stage
    case pong peer payload stage =>
      refine pollPong hub inside rfl rfl rfl stage ?_ fun _ begun =>
        ⟨rfl, rfl, begun⟩
      rintro id rfl rfl
      exact rfl
    case send id frame limit stage =>
      exact pollSend hub inside rfl rfl (fun _ => ⟨rfl, rfl, rfl⟩) stage
    case sendClose id stage =>
      exact pollSendClose hub inside rfl rfl (fun _ => ⟨rfl, rfl⟩) stage
    case awaitClose id => exact pollAwaitClose hub inside rfl id
    case tally deliveries => exact pollTally hub inside rfl deliveries
    case linger span stage =>
      exact pollLinger hub inside rfl (fun _ => rfl) stage
    case drain server limit stage =>
      exact pollDrain hub inside rfl (fun _ => ⟨rfl, rfl⟩) stage
    case converse id => exact pollConversation hub inside rfl rfl ⟨rfl, rfl⟩
    case finished outcome => exact refl _ hub
  · have none : hub.task task = .finished .over :=
      Hub.task_of_size_le hub task (Nat.not_lt.mp below)
    rw [Hub.poll, none]
    exact refl _ hub

theorem takeUp (hub : Hub) (running : doer.task = some task) :
    Course doer hub { hub with ready := hub.ready.erase task } := by
  refine ofReady rfl rfl rfl rfl rfl rfl (Nat.le_refl _)
    (fun id member other => ?_)
    (fun _ grounded => running ▸ .takeUp grounded task)
    fun id others stays _ fenced => ?_
  · refine (List.mem_erase_of_ne fun same => other ?_).mpr member
    rw [running, same]
  · exact .idle fenced rfl rfl (fun _ member => member)
      (fun task member => fenced.ready task (List.mem_of_mem_erase member))
      (Hub.queue_erase hub (stays.elsewhere running)) (Nat.le_refl _)

theorem goOn (hub : Hub) (task : TaskId) :
    Course (.running task (hub.task task)) hub (hub.goOn task) := by
  have takenUp : Course (.running task (hub.task task)) hub
      { hub with ready := hub.ready.erase task } := takeUp hub rfl
  by_cases below : task < hub.tasks.size
  · refine takenUp.trans (poll { hub with ready := hub.ready.erase task } task)
      ?_
    rintro _ ⟨⟩
    exact below
  · rw [Hub.goOn_of_finished
      (Hub.task_of_size_le hub task (Nat.not_lt.mp below))]
    exact takenUp

end Course

end BroadcastHub.Server
