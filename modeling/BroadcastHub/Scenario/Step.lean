import BroadcastHub.Http.Request
import BroadcastHub.Server.Socket
import BroadcastHub.Server.Task

/-!
# Steps of a scenario

A scenario drives a server on its virtual clock from outside: it opens sessions,
lets clients send and read, calls the server's operations, and lets time pass.
Peers are named in the order in which the scenario made them.
-/

namespace BroadcastHub.Scenario

open Server

/-- Changes of a script; what is not given stays. -/
structure ScriptChange where
  delay : Option Nat := none
  fails : Option Bool := none
  closeDelay : Option Nat := none
  closeFails : Option Bool := none
deriving DecidableEq, Repr

def ScriptChange.apply (change : ScriptChange) (script : Script) : Script where
  delay := change.delay.getD script.delay
  fails := change.fails.getD script.fails
  closeDelay := change.closeDelay.getD script.closeDelay
  closeFails := change.closeFails.getD script.closeFails

/-- What a scenario does. -/
inductive Action
  /-- Registers a session with a scripted socket that nobody serves. -/
  | register (script : Script)
  /-- Serves a session with a scripted socket. -/
  | serve (script : Script)
  /-- Serves a session over a link; without a limit for messages the server's
  holds. -/
  | wire (room : Nat) (limit : Option Nat)
  /-- Opens a link over which requests are answered. -/
  | http (room : Nat)
  /-- Lets items arrive at a scripted socket. -/
  | arrive (peer : PeerId) (items : List (Except Fault Frame))
  /-- Lets a read failure arrive at a scripted socket. -/
  | failRead (peer : PeerId) (fault : Fault)
  /-- Lets nothing more arrive at a scripted socket. -/
  | endInbox (peer : PeerId)
  /-- The client writes. -/
  | feed (peer : PeerId) (octets : Octets)
  /-- The client ends its writing direction. -/
  | shut (peer : PeerId)
  /-- The client goes away. -/
  | hangUp (peer : PeerId)
  /-- The client stops or resumes reading. -/
  | pause (peer : PeerId) (on : Bool)
  | setScript (peer : PeerId) (change : ScriptChange)
  | send (peer : PeerId) (frame : Frame) (limit : Span)
  /-- Answers a heartbeat request of a session, or of one that nobody knows. -/
  | ping (peer : Option PeerId) (payload : Octets)
  | broadcast (frame : Frame) (limit : Span)
  | close (peer : PeerId)
  | closeFrame (peer : PeerId)
  | awaitClose (peer : PeerId)
  | extend (peer : PeerId) (window : Span)
  | holdPong (peer : PeerId)
  | returnPong (peer : PeerId)
  | debug (peer : PeerId)
  | remove (peer : PeerId)
  | get (peer : PeerId)
  | visitAll (remove : Bool)
  | visitTogether
  | advance (millis : Nat)
  | stop
  | askStopping
  /-- Waits for a server task that lasts for a time, and for all sessions. -/
  | wait (limit : Span) (server : Span)
  /-- A request over a connection that cannot be turned into a session. -/
  | request (request : Http.Request)
  | takeSlot
  | freeSlot (slot : Nat)
deriving Repr

/-- An action and the milliseconds that pass before its report. -/
structure Step where
  action : Action
  wait : Nat := 0

/-- What an action answers. -/
inductive Reply
  | nothing
  /-- The session is over or was never seen. -/
  | gone
  | flag (value : Bool)
  | flags (values : List Bool)
  | number (value : Nat)
  /-- A number, or nothing. -/
  | perhaps (value : Option Nat)
  | numbers (values : List Nat)
  | text (content : String)
  | response (content : Http.Response)

end BroadcastHub.Scenario
