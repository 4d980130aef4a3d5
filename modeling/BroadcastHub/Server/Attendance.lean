import BroadcastHub.Server.Delivery

/-!
# Sessions

The task of a session registers it, takes what arrives until something ends it,
takes it out of the registry, and sends a close frame if it was closed on this
side.  When several ends are present at once, closing on this side comes first,
then the read deadline, then what has arrived.
-/

namespace BroadcastHub.Server.Hub

/-- The window of silence before the configured one applies. -/
def firstWindow : Span := .ofMillis 60000

/-- Gives back the slot with which a session was let in. -/
def releaseSlot (hub : Hub) (id : PeerId) : Hub :=
  if (hub.peer id).holdsSlot then
    { hub.updatePeer id fun peer => { peer with holdsSlot := false } with
      admission := hub.admission.release }
  else hub

def finishSession
    (hub : Hub) (task : TaskId) (id : PeerId) (exit : Exit) : Hub :=
  ((hub.count fun counters => counters.noteEnded exit.reason).releaseSlot
    id).finish task (.attended exit)

/-- Ends the task of a session that was closed on this side, once its close
frame is dealt with. -/
def settleParting (hub : Hub) (task : TaskId) (id : PeerId) :
    Option Closing → Hub
  | none => hub.finishSession task id .socketClosed
  | some closing => hub.setTask task (.attend id (.parting closing))

/-- Takes a session that has ended out of the registry. -/
def leave (hub : Hub) (task : TaskId) (id : PeerId) (exit : Exit) : Hub :=
  let hub := (hub.note (.left id exit)).unregister id
  match exit with
  | .socketClosed =>
      let (hub, closing) := hub.startClosing id task
      hub.settleParting task id closing
  | exit => hub.finishSession task id exit

/-- Opens a session: registers it, and closes it at once if the server is
stopping. -/
def arrive (hub : Hub) (task : TaskId) (id : PeerId) : Hub :=
  let hub := hub.register id firstWindow
  let hub := if hub.stopping then hub.close id else hub
  let hub := (hub.note (.joined id)).count Counters.noteOpened
  let hub := hub.renewDeadline id hub.timing.heartbeat
  (hub.setTask task (.attend id (.reading none))).again task

def readOn (hub : Hub) (task : TaskId) (id : PeerId) : Hub :=
  (hub.setTask task (.attend id (.reading none))).again task

/-- Does what an arrived frame asks for. -/
def act (hub : Hub) (task : TaskId) (id : PeerId) (frame : Frame) : Hub :=
  let hub := hub.renewDeadline id hub.timing.heartbeat
  match frame with
  | .close => hub.leave task id .closeFrame
  | .ping payload =>
      (hub.spawn (.pong (some id) payload .unstarted)).readOn task id
  | .pong _ => hub.readOn task id
  | message =>
      match message.envelope? with
      | some envelope =>
          (hub.startDeliveries envelope hub.timing.broadcastWrite).readOn task
            id
      | none => hub.readOn task id

def takeArrival
    (hub : Hub) (task : TaskId) (id : PeerId) (alarm : Alarm) : Hub :=
  let (socket, arrival) := (hub.peer id).socket.take
  let hub := hub.setSocket id socket
  match arrival with
  | .nothing => hub.setTask task (.attend id (.reading (some alarm)))
  | .ended => hub.leave task id .streamEnded
  | .item (.error fault) =>
      (hub.note (.took id (.error fault))).leave task id (.readError fault)
  | .item (.ok frame) => (hub.note (.took id (.ok frame))).act task id frame

/-- Looks at the read deadline.  An alarm that rings after the deadline was
moved means nothing. -/
def checkDeadline
    (hub : Hub) (task : TaskId) (id : PeerId) (alarm : Alarm) : Hub :=
  if alarm.hasRung hub.now then
    if alarm.due < (hub.peer id).readDeadline then hub.readOn task id
    else hub.leave task id .deadlineExpired
  else hub.takeArrival task id alarm

def read
    (hub : Hub) (task : TaskId) (id : PeerId) (alarm : Option Alarm) : Hub :=
  if (hub.peer id).closed then hub.leave task id .socketClosed
  else
    match alarm with
    | some alarm => hub.checkDeadline task id alarm
    | none =>
        hub.noteAlarm.checkDeadline task id
          ⟨(hub.peer id).readDeadline, hub.alarmsSet⟩

def pollSession (hub : Hub) (task : TaskId) (id : PeerId) : Attendance → Hub
  | .arriving => hub.arrive task id
  | .reading alarm => hub.read task id alarm
  | .parting closing =>
      let (hub, closing) := hub.proceedClosing id task closing
      hub.settleParting task id closing

end BroadcastHub.Server.Hub
