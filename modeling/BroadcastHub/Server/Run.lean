import BroadcastHub.Http.Conversation
import BroadcastHub.Server.Pong
import BroadcastHub.Server.Attendance
import BroadcastHub.Server.Stopping

/-!
# Running a server

The next ready task goes on until it has to wait.  When no task is ready,
sockets that nobody needs any more are dropped and clients read what has arrived
for them, which may make tasks ready again. When nothing more can happen at an
instant, the clock moves to the next alarm.
-/

namespace BroadcastHub.Server.Hub

/-- Waits until a session is closed on this side. -/
def pollAwaitClose (hub : Hub) (task : TaskId) (id : PeerId) : Hub :=
  if (hub.peer id).closed then hub.finish task .over else hub

/-- Goes on with the write of a single frame. -/
def pollSend
    (hub : Hub) (task : TaskId) (id : PeerId) (frame : Frame) (limit : Span)
    (stage : Writing) : Hub :=
  match hub.pollFrame id task frame limit stage with
  | (hub, .finished result) => hub.finish task (.sent result)
  | (hub, .pending stage) => hub.setTask task (.send id frame limit stage)

/-- Goes on with the sending of a close frame. -/
def pollSendClose
    (hub : Hub) (task : TaskId) (id : PeerId) (stage : Option Closing) : Hub :=
  let (hub, closing) :=
    match stage with
    | none => hub.startClosing id task
    | some closing => hub.proceedClosing id task closing
  match closing with
  | none => hub.finish task .over
  | some closing => hub.setTask task (.sendClose id (some closing))

/-- Lets a task go on until it has to wait. -/
def poll (hub : Hub) (task : TaskId) : Hub :=
  match hub.task task with
  | .attend id stage => hub.pollSession task id stage
  | .deliver id frame limit stage => hub.pollDelivery task id frame limit stage
  | .pong peer payload stage => hub.pollPong task peer payload stage
  | .send id frame limit stage => hub.pollSend task id frame limit stage
  | .sendClose id stage => hub.pollSendClose task id stage
  | .awaitClose id => hub.pollAwaitClose task id
  | .tally deliveries => hub.pollTally task deliveries
  | .linger span stage => hub.pollLinger task span stage
  | .drain server limit stage => hub.pollDrain task server limit stage
  | .converse id => hub.pollConversation task id
  | .finished _ => hub

/-- Lets the next ready task go on; nothing if there is none. -/
def step? (hub : Hub) : Option Hub :=
  match hub.ready with
  | [] => none
  | task :: rest => some ({ hub with ready := rest }.poll task)

/-- Lets ready tasks go on, at most `count` times. -/
def runReady : (count : Nat) → Hub → Hub
  | 0, hub => hub
  | count + 1, hub =>
      match hub.step? with
      | none => hub
      | some hub => hub.runReady count

/-! ### The clients' side -/

/-- Whether some task keeps a peer's socket in use. -/
def usesSocket (hub : Hub) (id : PeerId) : Bool :=
  hub.tasks.entries.any fun task => task.uses id

/-- Drops a link that nobody uses any more. -/
def dropUnused (hub : Hub) (id : PeerId) : Hub :=
  match (hub.peer id).socket with
  | .scripted _ => hub
  | .link link =>
      if (link.inbound.closed && link.outbound.closed) || hub.usesSocket id
        then hub
      else hub.updateLink id Link.drop

/-- Lets a client read; wakes the task that waits for room in the pipe. -/
def letRead (hub : Hub) (id : PeerId) : Hub :=
  match (hub.peer id).socket with
  | .scripted _ => hub
  | .link link =>
      let hub := hub.updateLink id Link.clientReads
      if link.isRead ∧ ¬ link.outbound.content.isEmpty then
        match (hub.peer id).turn.holder with
        | some task => hub.wake task
        | none => hub
      else hub

/-- Drops links that nobody uses and lets the clients read. -/
def letClientsRead (hub : Hub) : Hub :=
  hub.peers.numbers.foldl (fun hub id => (hub.dropUnused id).letRead id) hub

/-- Lets everything happen that can happen at this instant, in at most `rounds`
rounds of at most `count` steps. -/
def settleWithin (count : Nat) : (rounds : Nat) → Hub → Hub
  | 0, hub => hub
  | rounds + 1, hub =>
      let hub := (hub.runReady count).letClientsRead
      if hub.ready.isEmpty then hub else hub.settleWithin count rounds

/-- More steps than any instant takes. -/
def plenty : Nat := 1000000000

/-- Lets everything happen that can happen at this instant. -/
def settle (hub : Hub) : Hub := hub.settleWithin plenty plenty

/-! ### The clock -/

/-- The alarms that tasks wait for, with those tasks. -/
def alarms (hub : Hub) : List (Alarm × TaskId) :=
  hub.tasks.toList.flatMap fun (id, task) => task.alarms.map fun alarm =>
    (alarm, id)

def nextRing? (hub : Hub) : Option Instant :=
  (hub.alarms.map fun (alarm, _) => alarm.due.tick).min?

/-- Wakes the tasks whose alarms have rung, in the order in which these were
set. -/
def ring (hub : Hub) : Hub :=
  let rung := hub.alarms.filter fun (alarm, _) => alarm.hasRung hub.now
  hub.wakeAll ((rung.mergeSort fun first second =>
    first.1.ringsBefore second.1).map Prod.snd)

/-- Moves the clock to an instant, over at most `count` instants at which alarms
ring.  The clock stands still while tasks can go on. -/
def advanceWithin (target : Instant) : (count : Nat) → Hub → Hub
  | 0, hub => hub
  | count + 1, hub =>
      if hub.ready ≠ [] then hub
      else
        match hub.nextRing? with
        | none => { hub with now := target }
        | some instant =>
            if instant ≤ target then
              (({ hub with
                now := max hub.now instant }.ring).settle).advanceWithin
                  target count
            else { hub with now := target }

/-- Moves the clock on and lets everything happen that is due. -/
def advance (hub : Hub) (span : Span) : Hub :=
  hub.settle.advanceWithin (hub.now + span.nanos) plenty

end BroadcastHub.Server.Hub
