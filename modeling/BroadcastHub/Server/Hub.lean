import BroadcastHub.Server.Admission
import BroadcastHub.Server.Chronicle
import BroadcastHub.Server.Configuration
import BroadcastHub.Server.Counters
import BroadcastHub.Table

/-!
# The hub

The hub is the whole state of a server: its clock, its peers, its tasks, and the
tasks that can go on, in the order in which they were started or woken.  This
module has the steps from which all others are made; each of them happens at one
instant.
-/

namespace BroadcastHub.Server

/-- A client's place in the server. -/
structure Peer where
  socket : Socket
  /-- Whether there is a session, which may have ended. -/
  arrived : Bool := false
  /-- Whether the session is in the registry. -/
  registered : Bool := false
  /-- Whether the session was closed on this side. -/
  closed : Bool := false
  /-- Whether a heartbeat reply is under way. -/
  ponging : Bool := false
  /-- The instant at which the session ends unless something arrives. -/
  readDeadline : Instant := 0
  /-- Whose turn it is to write. -/
  turn : Turn := {}
  /-- The task that serves the peer. -/
  attendant : Option TaskId := none
  /-- Whether the session came through admission. -/
  holdsSlot : Bool := false
deriving Inhabited

/-- The state of a server. -/
structure Hub where
  configuration : Configuration
  now : Instant := 0
  /-- Whether the server has been told to stop. -/
  stopping : Bool := false
  peers : Table Peer := {}
  tasks : Table Task := {}
  /-- The tasks that can go on, next one first. -/
  ready : List TaskId := []
  /-- Pairs of a task and another one that waits for its end. -/
  watches : List (TaskId × TaskId) := []
  /-- The number of alarms set so far. -/
  alarmsSet : Nat := 0
  /-- The draws from which random delays are made. -/
  chance : Nat → Nat := fun _ => 0
  /-- The number of draws made so far. -/
  drawn : Nat := 0
  admission : Admission
  counters : Counters := {}
  /-- What has happened, latest first. -/
  chronicle : List Entry := []
deriving Inhabited

namespace Hub

def start (configuration : Configuration) : Hub where
  configuration
  admission := .ofMaximum configuration.maxConnections

/-- The waiting times of sessions. -/
def timing (hub : Hub) : Timing := hub.configuration.timing

/-! ### Peers and tasks -/

def peer (hub : Hub) (id : PeerId) : Peer := hub.peers.get id

def task (hub : Hub) (id : TaskId) : Task := hub.tasks.get id

def updatePeer (hub : Hub) (id : PeerId) (change : Peer → Peer) : Hub :=
  { hub with peers := hub.peers.update id change }

def setSocket (hub : Hub) (id : PeerId) (socket : Socket) : Hub :=
  hub.updatePeer id fun peer => { peer with socket }

def count (hub : Hub) (change : Counters → Counters) : Hub :=
  { hub with counters := change hub.counters }

def note (hub : Hub) (happening : Happening) : Hub :=
  { hub with chronicle := ⟨hub.now, happening⟩ :: hub.chronicle }

def addPeer (hub : Hub) (peer : Peer) : Hub :=
  { hub with peers := hub.peers.push peer }

/-- Sets what a task waits for or has come to. -/
def setTask (hub : Hub) (id : TaskId) (task : Task) : Hub :=
  { hub with tasks := hub.tasks.update id fun _ => task }

/-- Lets a task go on after those that can go on already. -/
def wake (hub : Hub) (id : TaskId) : Hub :=
  if hub.ready.contains id then hub else { hub with ready := hub.ready ++ [id] }

/-- Lets several tasks go on. -/
def wakeAll (hub : Hub) (ids : List TaskId) : Hub := ids.foldl wake hub

/-- Lets a task go on before all others. -/
def again (hub : Hub) (id : TaskId) : Hub :=
  { hub with ready := id :: hub.ready.filter fun other => other ≠ id }

def spawn (hub : Hub) (task : Task) : Hub :=
  { hub with
    tasks := hub.tasks.push task, ready := hub.ready ++ [hub.tasks.size] }

def nextTask (hub : Hub) : TaskId := hub.tasks.size

/-- Waits for the end of a task. -/
def watch (hub : Hub) (watched watcher : TaskId) : Hub :=
  { hub with watches := (watched, watcher) :: hub.watches }

/-- Ends a task and wakes those who wait for that. -/
def finish (hub : Hub) (id : TaskId) (outcome : Outcome) : Hub :=
  let watchers :=
    (hub.watches.filter fun (watched, _) => watched = id).map Prod.snd
  let hub := hub.setTask id (.finished outcome)
  ({ hub with
    watches := hub.watches.filter fun (watched, _) => watched ≠ id }).wakeAll
      watchers

/-- Takes the number of the next alarm. -/
def noteAlarm (hub : Hub) : Hub := { hub with alarmsSet := hub.alarmsSet + 1 }

/-! ### The registry -/

/-- The peers whose sessions are registered.  A registry lists its sessions in
no order that could be relied on; here that of the peers' numbers is chosen. -/
def registry (hub : Hub) : List PeerId :=
  hub.peers.numbers.filter fun id => (hub.peer id).registered

/-- Registers a peer's session; its read deadline runs from now. -/
def register (hub : Hub) (id : PeerId) (window : Span) : Hub :=
  hub.updatePeer id fun peer =>
    { peer with
      arrived := true, registered := true,
      readDeadline := hub.now.after window }

/-- Takes a session out of the registry; the session itself stays as it is. -/
def unregister (hub : Hub) (id : PeerId) : Hub :=
  hub.updatePeer id fun peer => { peer with registered := false }

/-- Moves a session's read deadline to the end of a window from now on. -/
def renewDeadline (hub : Hub) (id : PeerId) (window : Span) : Hub :=
  hub.updatePeer id fun peer =>
    { peer with readDeadline := hub.now.after window }

/-- Takes the slot for heartbeat replies of a session, or gives it back. -/
def setPonging (hub : Hub) (id : PeerId) (ponging : Bool) : Hub :=
  hub.updatePeer id fun peer => { peer with ponging }

/-! ### Closing -/

/-- Whether a task waits for a peer's session to be closed. -/
def awaitsClose (id : PeerId) : Task → Bool
  | .attend other (.reading _) => other = id
  | .awaitClose other => other = id
  | _ => false

/-- The tasks that wait for a peer's session to be closed. -/
def closeWaiters (hub : Hub) (id : PeerId) : List TaskId :=
  (hub.tasks.toList.filter fun (_, task) => awaitsClose id task).map Prod.fst

/-- Closes a session on this side, if it is not closed yet, and wakes those who
wait for that. -/
def close (hub : Hub) (id : PeerId) : Hub :=
  if (hub.peer id).closed then hub
  else (hub.updatePeer id fun peer => { peer with closed := true }).wakeAll
    (hub.closeWaiters id)

/-! ### Turns -/

/-- Takes the turn to write to a peer, or stands in line for it. -/
def requestTurn (hub : Hub) (id : PeerId) (task : TaskId) : Hub :=
  hub.updatePeer id fun peer => { peer with turn := peer.turn.request task }

def hasTurn (hub : Hub) (id : PeerId) (task : TaskId) : Bool :=
  (hub.peer id).turn.isHeldBy task

/-- Ends the turn and wakes the task to which it passes. -/
def releaseTurn (hub : Hub) (id : PeerId) : Hub :=
  let turn := (hub.peer id).turn.release
  let hub := hub.updatePeer id fun peer => { peer with turn }
  match turn.holder with
  | some next => hub.wake next
  | none => hub

def leaveLine (hub : Hub) (id : PeerId) (task : TaskId) : Hub :=
  hub.updatePeer id fun peer => { peer with turn := peer.turn.leave task }

/-! ### Sockets -/

/-- Writes down that a peer's socket is done, if it is. -/
def noteProgress
    (hub : Hub) (id : PeerId) (task : TaskId) (request : SinkRequest) :
    Progress → Hub
  | .done result => hub.note (.answered task id request result)
  | .underway _ => hub

/-- Asks a peer's socket. -/
def startRequest
    (hub : Hub) (id : PeerId) (task : TaskId) (request : SinkRequest) :
    Hub × Progress :=
  let (socket, progress) :=
    (hub.peer id).socket.start hub.now hub.alarmsSet request
  (((hub.note (.asked task id request)).setSocket id
    socket).noteAlarm.noteProgress id task request progress, progress)

/-- Goes on with what a peer's socket was asked. -/
def proceedRequest
    (hub : Hub) (id : PeerId) (task : TaskId) (request : SinkRequest)
    (operation : Operation) : Hub × Progress :=
  let (socket, progress) :=
    (hub.peer id).socket.proceed hub.now request operation
  ((hub.setSocket id socket).noteProgress id task request progress, progress)

/-- Gives up what a peer's socket was asked, and ends the turn. -/
def abandonRequest (hub : Hub) (id : PeerId) (request : SinkRequest) : Hub :=
  (hub.setSocket id ((hub.peer id).socket.abandon request)).releaseTurn id

end Hub

end BroadcastHub.Server
