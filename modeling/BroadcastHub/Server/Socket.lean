import BroadcastHub.Http.Response
import BroadcastHub.Server.Alarm
import BroadcastHub.Server.Pipe
import BroadcastHub.Wire.Decoder
import BroadcastHub.Wire.Encoder

/-!
# Sockets

A session writes frames to its socket and takes frames from it.  There are two
kinds of sockets.  A scripted one delays and fails its writes as it is told,
records the frames that were written, and is handed its inbound frames.  A link
carries octets over two pipes to a client.

A link keeps a frame that has been accepted, and the octets of frames that have
been encoded, until the pipe has taken them; they stay there when the write that
brought them is given up.
-/

namespace BroadcastHub.Server

/-- What a session can ask of the writing side of its socket. -/
inductive SinkRequest
  | frame (frame : Frame)
  /-- Send a close frame and shut the writing direction. -/
  | close
deriving DecidableEq, Repr

/-- How far a request has come that could not be done at once. -/
inductive Operation
  /-- A scripted socket waits; afterwards it fails or not. -/
  | pausing (ends : Alarm) (fails : Bool)
  /-- The frame has not been accepted by the link yet. -/
  | placing
  /-- The frame has been accepted and is on its way into the pipe. -/
  | flushing
deriving DecidableEq, Repr

/-- What has become of a request. -/
inductive Progress
  | done (result : Except Fault Unit)
  | underway (operation : Operation)

/-! ### Scripted sockets -/

/-- What a scripted socket is told to do. -/
structure Script where
  /-- Milliseconds that the write of a frame takes. -/
  delay : Nat := 0
  /-- Whether the write of a frame fails. -/
  fails : Bool := false
  /-- Milliseconds that closing takes. -/
  closeDelay : Nat := 0
  /-- Whether closing fails. -/
  closeFails : Bool := false
deriving DecidableEq, Repr, Inhabited

structure ScriptedSocket where
  script : Script := {}
  /-- The frames that were written, first one first. -/
  sent : List Frame := []
  /-- The number of frames that were handed over. -/
  attempts : Nat := 0
  /-- The number of frames that are being written. -/
  inFlight : Nat := 0
  /-- The greatest number of frames that were being written at a time. -/
  maxInFlight : Nat := 0
  /-- The number of times it was closed. -/
  closes : Nat := 0
  /-- Frames and read failures that have arrived. -/
  inbox : List (Except Fault Frame) := []
  /-- Whether nothing more will arrive. -/
  ended : Bool := false
deriving Inhabited

namespace ScriptedSocket

def conclude (socket : ScriptedSocket) (request : SinkRequest) (fails : Bool) :
    ScriptedSocket × Except Fault Unit :=
  match request with
  | .frame frame =>
      let socket := { socket with inFlight := socket.inFlight - 1 }
      if fails then (socket, .error Fault.brokenPipe)
      else ({ socket with sent := socket.sent ++ [frame] }, .ok ())
  | .close =>
      if fails then (socket, .error Fault.brokenPipe)
      else ({ socket with closes := socket.closes + 1 }, .ok ())

/-- The waiting time and the outcome that the script now has for a request. -/
def plan (socket : ScriptedSocket) : SinkRequest → Nat × Bool
  | .frame _ => (socket.script.delay, socket.script.fails)
  | .close => (socket.script.closeDelay, socket.script.closeFails)

def noteRequest (socket : ScriptedSocket) : SinkRequest → ScriptedSocket
  | .frame _ =>
      { socket with
        attempts := socket.attempts + 1
        inFlight := socket.inFlight + 1
        maxInFlight := max socket.maxInFlight (socket.inFlight + 1) }
  | .close => socket

/-- Makes a request; `order` is used if an alarm has to be set. -/
def start
    (socket : ScriptedSocket) (now : Instant) (order : Nat)
    (request : SinkRequest) : ScriptedSocket × Progress :=
  let (delay, fails) := socket.plan request
  let socket := socket.noteRequest request
  if delay = 0 then
    let (socket, result) := socket.conclude request fails
    (socket, .done result)
  else (socket, .underway (.pausing ⟨now.after (.ofMillis delay), order⟩ fails))

def abandon (socket : ScriptedSocket) : SinkRequest → ScriptedSocket
  | .frame _ => { socket with inFlight := socket.inFlight - 1 }
  | .close => socket

end ScriptedSocket

/-! ### Links -/

/-- The connection to a client, seen from both of its ends. -/
structure Link where
  /-- From the client to the server. -/
  inbound : Pipe
  /-- From the server to the client. -/
  outbound : Pipe
  /-- What the server knows about the client's frames. -/
  decoder : Wire.Decoder
  /-- Octets that the server has read and not decoded yet. -/
  unread : Octets := []
  /-- A frame that has been accepted and not encoded yet. -/
  accepted : Option Frame := none
  /-- Octets of encoded frames that the pipe has not taken yet. -/
  encoded : Octets := []
  /-- What the client has read, last piece first. -/
  received : List Octets := []
  /-- Responses that the client has not read yet, first one first. -/
  replies : List Http.Response := []
  /-- Responses that the client has read, first one first. -/
  heard : List Http.Response := []
  /-- Whether the client has stopped reading for a time. -/
  paused : Bool := false
  /-- Whether the client is gone. -/
  hungUp : Bool := false
  /-- Whether the client has seen the end of what the server sends. -/
  sawEnd : Bool := false
deriving Inhabited

/-- How far an attempt to write has come. -/
inductive Flow
  | through
  | blocked
  | failed (fault : Fault)
deriving DecidableEq, Repr

namespace Link

/-- A new connection whose pipes have room for a number of octets. -/
def connect (room limit : Nat) : Link where
  inbound := { capacity := room }
  outbound := { capacity := room }
  decoder := .fresh limit

/-- With this many encoded octets at hand no further frame is encoded. -/
def enough : Nat := 8192

/-- Moves encoded octets into the pipe. -/
def flush (link : Link) : Link × Flow :=
  if link.encoded.isEmpty then (link, .through)
  else if link.outbound.closed then (link, .failed Fault.brokenPipe)
  else
    let (outbound, encoded) := link.outbound.write link.encoded
    ({ link with outbound, encoded }, if encoded.isEmpty then .through
      else .blocked)

/-- Encodes the accepted frame unless too many octets wait already. -/
def encodeAccepted (link : Link) : Link × Flow :=
  match link.accepted with
  | none => (link, .through)
  | some frame =>
      let (link, flow) :=
        if enough ≤ link.encoded.length then link.flush else (link, .through)
      match flow with
      | .through =>
          ({ link with
            accepted := none, encoded := link.encoded ++ Wire.encode frame },
              .through)
      | stopped => (link, stopped)

/-- Accepts a frame once the one before has been encoded. -/
def place (link : Link) (frame : Frame) : Link × Flow :=
  let (link, flow) := link.encodeAccepted
  match flow with
  | .through => ({ link with accepted := some frame }, .through)
  | stopped => (link, stopped)

/-- Encodes the accepted frame and moves everything into the pipe. -/
def push (link : Link) : Link × Flow :=
  let (link, flow) := link.encodeAccepted
  match flow with
  | .through => link.flush
  | stopped => (link, stopped)

def frameOf : SinkRequest → Frame
  | .frame frame => frame
  | .close => .close

/-- Ends a request whose frame is in the pipe. -/
def conclude (link : Link) : SinkRequest → Link
  | .frame _ => link
  | .close => { link with outbound := link.outbound.close }

/-- Goes on with a request whose frame has been accepted. -/
def proceedFlushing (link : Link) (request : SinkRequest) : Link × Progress :=
  match link.push with
  | (link, .through) => (link.conclude request, .done (.ok ()))
  | (link, .blocked) => (link, .underway .flushing)
  | (link, .failed fault) => (link, .done (.error fault))

/-- Goes on with a request whose frame has not been accepted yet. -/
def proceedPlacing (link : Link) (request : SinkRequest) : Link × Progress :=
  match link.place (frameOf request) with
  | (link, .through) => link.proceedFlushing request
  | (link, .blocked) => (link, .underway .placing)
  | (link, .failed fault) => (link, .done (.error fault))

/-- What the server finds when it reads from a client. -/
inductive Arrival
  /-- Nothing yet. -/
  | nothing
  | item (item : Except Fault Frame)
  /-- Nothing ever. -/
  | ended
deriving Inhabited

def decodeNext (link : Link) : Link × Wire.Found :=
  let (found, decoder, unread) := link.decoder.next link.unread
  ({ link with decoder, unread }, found)

def readPipe (link : Link) : Link :=
  { link with
    unread := link.unread ++ link.inbound.content,
    inbound := link.inbound.clear }

/-- Takes the next frame, first from what has been read, then from the pipe.  At
the end of the client's octets none may be left over. -/
def take (link : Link) : Link × Arrival :=
  match link.decodeNext with
  | (link, .frame frame) => (link, .item (.ok frame))
  | (link, .fault fault) => (link, .item (.error fault))
  | (link, .nothing) =>
      if link.inbound.content.isEmpty then
        if link.inbound.closed then
          (link, if link.unread.isEmpty then .ended
            else .item (.error Fault.truncated))
        else (link, .nothing)
      else
        match link.readPipe.decodeNext with
        | (link, .frame frame) => (link, .item (.ok frame))
        | (link, .fault fault) => (link, .item (.error fault))
        | (link, .nothing) =>
            if link.inbound.closed then
              (link, if link.unread.isEmpty then .ended
                else .item (.error Fault.truncated))
            else (link, .nothing)

def drop (link : Link) : Link :=
  { link with inbound := link.inbound.close, outbound := link.outbound.close }

def isRead (link : Link) : Bool := !link.paused && !link.hungUp

def clientWrites (link : Link) (octets : Octets) : Link :=
  { link with inbound := (link.inbound.write octets).1 }

def clientReads (link : Link) : Link :=
  if link.isRead then
    { link with
      received :=
        if link.outbound.content.isEmpty then link.received
        else link.outbound.content :: link.received
      sawEnd := link.sawEnd || link.outbound.closed
      outbound := link.outbound.clear
      replies := []
      heard := link.heard ++ link.replies }
  else link

/-- The client goes away. -/
def hangUp (link : Link) : Link :=
  { link with
    hungUp := true
    inbound := link.inbound.close
    outbound := link.outbound.close }

end Link

/-! ### Both kinds -/

inductive Socket
  | scripted (socket : ScriptedSocket)
  | link (connection : Link)
deriving Inhabited

namespace Socket

def start
    (socket : Socket) (now : Instant) (order : Nat) (request : SinkRequest) :
    Socket × Progress :=
  match socket with
  | .scripted socket =>
      let (socket, progress) := socket.start now order request
      (.scripted socket, progress)
  | .link connection =>
      let (connection, progress) := connection.proceedPlacing request
      (.link connection, progress)

/-- Goes on with a request. -/
def proceed
    (socket : Socket) (now : Instant) (request : SinkRequest)
    (operation : Operation) : Socket × Progress :=
  match socket, operation with
  | .scripted socket, .pausing alarm fails =>
      if alarm.hasRung now then
        let (socket, result) := socket.conclude request fails
        (.scripted socket, .done result)
      else (.scripted socket, .underway operation)
  | .link connection, .placing =>
      let (connection, progress) := connection.proceedPlacing request
      (.link connection, progress)
  | .link connection, .flushing =>
      let (connection, progress) := connection.proceedFlushing request
      (.link connection, progress)
  | socket, operation => (socket, .underway operation)

/-- Gives a request up.  A link keeps what it has accepted. -/
def abandon (socket : Socket) (request : SinkRequest) : Socket :=
  match socket with
  | .scripted socket => .scripted (socket.abandon request)
  | .link connection => .link connection

def take : Socket → Socket × Link.Arrival
  | .scripted socket =>
      match socket.inbox with
      | item :: rest => (.scripted { socket with inbox := rest }, .item item)
      | [] => (.scripted socket, if socket.ended then .ended else .nothing)
  | .link connection =>
      let (connection, arrival) := connection.take
      (.link connection, arrival)

end Socket

end BroadcastHub.Server
