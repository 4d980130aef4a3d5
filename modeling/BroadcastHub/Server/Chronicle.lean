import BroadcastHub.Server.Task

/-!
# The chronicle of a server

What has happened so far, with the instant at which it did.  The server writes
its chronicle and never reads it; it is there for those who want to say what a
server has done.
-/

namespace BroadcastHub.Server

inductive Happening
  /-- A session was opened. -/
  | joined (peer : PeerId)
  /-- A client wrote octets into its pipe. -/
  | fed (peer : PeerId) (octets : Octets)
  /-- A frame or a read failure arrived at a scripted socket. -/
  | arrived (peer : PeerId) (item : Except Fault Frame)
  /-- A session took what had arrived. -/
  | took (peer : PeerId) (item : Except Fault Frame)
  /-- A broadcast was started, whose deliveries have the numbers from `first`
  on. -/
  | broadcast
      (first : TaskId) (recipients : List PeerId) (frame : Frame) (limit : Span)
  /-- A task asked a peer's socket. -/
  | asked (task : TaskId) (peer : PeerId) (request : SinkRequest)
  /-- A peer's socket was done with what a task had asked. -/
  | answered
      (task : TaskId) (peer : PeerId) (request : SinkRequest)
      (result : Except Fault Unit)
  /-- The write of a frame to a session ended, also one for which the socket was
  never asked. -/
  | wrote
      (task : TaskId) (peer : PeerId) (frame : Frame)
      (result : Except Fault Unit)
  /-- A session ended. -/
  | left (peer : PeerId) (exit : Exit)

/-- Something that happened, and when. -/
structure Entry where
  time : Instant
  happening : Happening

end BroadcastHub.Server
