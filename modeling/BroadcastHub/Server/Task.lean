import BroadcastHub.Server.Exit
import BroadcastHub.Server.Socket
import BroadcastHub.Server.Turn

/-!
# Tasks

Everything that a server does is done by tasks.  A task runs until it has to
wait, for its turn, for a socket, for an alarm or for another task, and what it
waits for is its stage.
-/

namespace BroadcastHub.Server

abbrev PeerId := Nat

/-- How far the write of a frame has come.  The limit covers the wait for the
turn as well. -/
inductive Writing
  | unstarted
  /-- In line for the turn. -/
  | queued (limit : Alarm)
  /-- The socket has been asked. -/
  | underway (operation : Operation) (limit : Alarm)
deriving DecidableEq, Repr

/-- How far the sending of a close frame has come, once the socket has been
asked. -/
structure Closing where
  operation : Operation
  limit : Alarm
deriving DecidableEq, Repr

/-- How far a session has come. -/
inductive Attendance
  /-- The session is not registered yet. -/
  | arriving
  /-- The session takes what arrives.  The alarm is set while it waits; without
  one the read deadline has to be looked at anew. -/
  | reading (alarm : Option Alarm)
  /-- The session has left the registry and sends its close frame. -/
  | parting (closing : Closing)
deriving DecidableEq, Repr

/-- How far the reply to a heartbeat request has come. -/
inductive Ponging
  | unstarted
  /-- The slot is taken and the random delay runs. -/
  | delaying (ends : Alarm)
  | writing (stage : Writing)
deriving DecidableEq, Repr

/-- How far the wait for the end of all sessions has come. -/
inductive Draining
  | unstarted
  /-- The server's task has not ended. -/
  | awaitingServer (limit : Alarm)
  /-- Some session is still registered; the registry is looked at again after a
  pause. -/
  | pausing (ends limit : Alarm)
deriving DecidableEq, Repr

/-- What became of a heartbeat request. -/
inductive HeartbeatResult
  /-- A reply was written. -/
  | answered
  /-- Another reply was under way. -/
  | coalesced
  /-- The reply could not be written. -/
  | failed
  /-- The session was not registered. -/
  | unknown
deriving DecidableEq, Repr

/-- What a task has come to. -/
inductive Outcome
  /-- A session ended. -/
  | attended (exit : Exit)
  /-- A broadcast reached its recipient or not. -/
  | delivered (reached : Bool)
  | heartbeat (result : HeartbeatResult)
  | sent (result : Except Fault Unit)
  /-- The numbers of recipients and of those that were reached. -/
  | tallied (recipients reached : Nat)
  /-- Whether all sessions ended in time. -/
  | drained (complete : Bool)
  /-- Nothing to tell. -/
  | over

/-- A task with its stage. -/
inductive Task
  /-- Serves a session. -/
  | attend (peer : PeerId) (stage : Attendance)
  /-- Brings one broadcast to one recipient. -/
  | deliver (peer : PeerId) (frame : Frame) (limit : Span) (stage : Writing)
  /-- Answers a heartbeat request; without a peer the request's session is
  unknown. -/
  | pong (peer : Option PeerId) (payload : Octets) (stage : Ponging)
  /-- Sends one frame. -/
  | send (peer : PeerId) (frame : Frame) (limit : Span) (stage : Writing)
  /-- Sends a close frame. -/
  | sendClose (peer : PeerId) (stage : Option Closing)
  /-- Waits until a session is closed on this side. -/
  | awaitClose (peer : PeerId)
  /-- Waits for the deliveries of a broadcast. -/
  | tally (deliveries : List TaskId)
  /-- Lasts for a time. -/
  | linger (span : Span) (stage : Option Alarm)
  /-- Waits for the end of the server's task and of all sessions. -/
  | drain (server : TaskId) (limit : Span) (stage : Draining)
  /-- Answers the requests that come over a link until one of them asks for a
  session. -/
  | converse (peer : PeerId)
  | finished (outcome : Outcome)

instance : Inhabited Task := ⟨.finished .over⟩

namespace Operation

def alarms : Operation → List Alarm
  | pausing ends _ => [ends]
  | placing => []
  | flushing => []

end Operation

def Writing.alarms : Writing → List Alarm
  | unstarted => []
  | queued limit => [limit]
  | underway operation limit => limit :: operation.alarms

/-- The alarms that the sending of a close frame waits for. -/
def Closing.alarms (closing : Closing) : List Alarm :=
  closing.limit :: closing.operation.alarms

namespace Task

/-- The alarms that a task waits for. -/
def alarms : Task → List Alarm
  | attend _ .arriving => []
  | attend _ (.reading alarm) => alarm.toList
  | attend _ (.parting closing) => closing.alarms
  | deliver _ _ _ stage => stage.alarms
  | pong _ _ .unstarted => []
  | pong _ _ (.delaying ends) => [ends]
  | pong _ _ (.writing stage) => stage.alarms
  | send _ _ _ stage => stage.alarms
  | sendClose _ none => []
  | sendClose _ (some closing) => closing.alarms
  | awaitClose _ => []
  | tally _ => []
  | linger _ stage => stage.toList
  | drain _ _ .unstarted => []
  | drain _ _ (.awaitingServer limit) => [limit]
  | drain _ _ (.pausing ends limit) => [ends, limit]
  | converse _ => []
  | finished _ => []

/-- Whether a task keeps a peer's socket in use.  A reply that has not started
only knows the session by its number. -/
def uses (peer : PeerId) : Task → Bool
  | attend other _ => other = peer
  | deliver other _ _ _ => other = peer
  | pong _ _ .unstarted => false
  | pong other _ _ => other = some peer
  | send other _ _ _ => other = peer
  | sendClose other _ => other = peer
  | awaitClose other => other = peer
  | converse other => other = peer
  | tally _ => false
  | linger _ _ => false
  | drain _ _ _ => false
  | finished _ => false

/-- What a task has come to, if it is finished. -/
def outcome? : Task → Option Outcome
  | finished outcome => some outcome
  | _ => none

def isFinished (task : Task) : Bool := task.outcome?.isSome

end Task

end BroadcastHub.Server
