import BroadcastHub.Server.Hub

/-!
# Writing to a session

A frame is written within a limit, which covers the wait for the turn as well as
the write itself. A session that has been closed takes no frame any more, also
if the closing happened while the writer stood in line.  What is due at the same
instant as the limit still counts as done in time.

The close frame is different: it is sent only if nobody has the turn, with a
limit of its own.
-/

namespace BroadcastHub.Server

inductive Written
  | finished (result : Except Fault Unit)
  | pending (stage : Writing)

/-- Where a write stands before its limit is looked at. -/
inductive Standing
  | settled (result : Except Fault Unit)
  | inLine
  | underway (operation : Operation)

namespace Hub

/-- Ends the turn if the socket is done. -/
def settleRequest (hub : Hub) (id : PeerId) : Progress → Hub × Standing
  | .done result => (hub.releaseTurn id, .settled result)
  | .underway operation => (hub, .underway operation)

/-- Hands a frame to the socket, having the turn. -/
def beginFrame (hub : Hub) (id : PeerId) (task : TaskId) (frame : Frame) :
    Hub × Standing :=
  if (hub.peer id).closed then (hub.releaseTurn id, .settled (.error .closed))
  else
    let (hub, progress) := hub.startRequest id task (.frame frame)
    hub.settleRequest id progress

/-- Begins a write if the turn has come. -/
def tryFrame (hub : Hub) (id : PeerId) (task : TaskId) (frame : Frame) :
    Hub × Standing :=
  if hub.hasTurn id task then hub.beginFrame id task frame else (hub, .inLine)

/-- Gives a write up. -/
def abandonFrame (hub : Hub) (id : PeerId) (task : TaskId) (frame : Frame) :
    Standing → Hub
  | .underway _ => hub.abandonRequest id (.frame frame)
  | _ => hub.leaveLine id task

/-- The stage of a write that goes on. -/
def stageOf (limit : Alarm) : Standing → Writing
  | .underway operation => .underway operation limit
  | _ => .queued limit

/-- Looks at the limit of a write that is not over. -/
def boundFrame
    (hub : Hub) (id : PeerId) (task : TaskId) (frame : Frame) (span : Span)
    (limit : Alarm) (standing : Standing) : Hub × Written :=
  match standing with
  | .settled result => (hub, .finished result)
  | standing =>
      if limit.hasRung hub.now then
        (hub.abandonFrame id task frame standing,
          .finished (.error (.writeTimeout span)))
      else (hub, .pending (stageOf limit standing))

/-- Goes on with the write of a frame. -/
def advanceFrame
    (hub : Hub) (id : PeerId) (task : TaskId) (frame : Frame) (span : Span) :
    Writing → Hub × Written
  | .unstarted =>
      if (hub.peer id).closed then (hub, .finished (.error .closed))
      else
        let due := hub.now.after span
        let (hub, standing) := (hub.requestTurn id task).tryFrame id task frame
        hub.noteAlarm.boundFrame id task frame span
          ⟨due, hub.alarmsSet⟩ standing
  | .queued limit =>
      let (hub, standing) := hub.tryFrame id task frame
      hub.boundFrame id task frame span limit standing
  | .underway operation limit =>
      let (hub, progress) := hub.proceedRequest id task (.frame frame) operation
      let (hub, standing) := hub.settleRequest id progress
      hub.boundFrame id task frame span limit standing

/-- Goes on with the write of a frame, and writes down how it ended if it
has. -/
def pollFrame
    (hub : Hub) (id : PeerId) (task : TaskId) (frame : Frame) (span : Span)
    (stage : Writing) : Hub × Written :=
  match hub.advanceFrame id task frame span stage with
  | (hub, .finished result) =>
      (hub.note (.wrote task id frame result), .finished result)
  | (hub, .pending stage) => (hub, .pending stage)

/-! ### The close frame -/

def closeLimit : Span := .ofMillis 250

/-- Looks at the limit of a close frame that has not been sent yet. -/
def boundClosing (hub : Hub) (id : PeerId) (limit : Alarm) :
    Standing → Hub × Option Closing
  | .underway operation =>
      if limit.hasRung hub.now then (hub.abandonRequest id .close, none)
      else (hub, some ⟨operation, limit⟩)
  | _ => (hub, none)

/-- Sends a close frame unless somebody has the turn.  Answers what is left to
be done. -/
def startClosing (hub : Hub) (id : PeerId) (task : TaskId) :
    Hub × Option Closing :=
  if (hub.peer id).turn.isFree then
    let due := hub.now.after closeLimit
    let (hub, progress) := (hub.requestTurn id task).startRequest id task .close
    let (hub, standing) := hub.settleRequest id progress
    hub.noteAlarm.boundClosing id ⟨due, hub.alarmsSet⟩ standing
  else (hub, none)

/-- Goes on with the sending of a close frame. -/
def proceedClosing
    (hub : Hub) (id : PeerId) (task : TaskId) (closing : Closing) :
    Hub × Option Closing :=
  let (hub, progress) := hub.proceedRequest id task .close closing.operation
  let (hub, standing) := hub.settleRequest id progress
  hub.boundClosing id closing.limit standing

end Hub

end BroadcastHub.Server
