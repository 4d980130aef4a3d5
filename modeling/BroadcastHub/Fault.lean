import BroadcastHub.Span

/-!
# Faults of a socket

Why reading from or writing to a session's socket failed, and how each cause is
worded.
-/

namespace BroadcastHub

/-- A framing rule that a client broke. -/
inductive Violation
  /-- A frame sets one of the three reserved header bits. -/
  | reservedBits
  /-- A client's frame carries no mask. -/
  | unmasked
  /-- A control frame is a fragment or declares more than 125 octets. -/
  | invalidControl
  /-- A new message starts while another one still misses fragments. -/
  | interruptedMessage
  /-- A continuation arrives while no message misses fragments. -/
  | strayContinuation
  /-- The opcode has no meaning. -/
  | unknownOpcode
  /-- A complete text message is not valid UTF-8. -/
  | invalidText
deriving DecidableEq, Repr

/-- The rule's name in messages. -/
def Violation.text : Violation → String
  | reservedBits => "reserved bits set"
  | unmasked => "client frame is not masked"
  | invalidControl => "invalid control frame"
  | interruptedMessage => "message started before the previous one ended"
  | strayContinuation => "continuation frame without a message"
  | unknownOpcode => "unknown opcode"
  | invalidText => "text message is not valid UTF-8"

/-- Failure of a read from or a write to a socket. -/
inductive Fault
  /-- The session was closed on this side. -/
  | closed
  /-- A write did not complete within its limit. -/
  | writeTimeout (limit : Span)
  /-- The connection underneath reported an error. -/
  | socket (text : String)
  /-- The client broke a framing rule. -/
  | protocol (violation : Violation)
  /-- A frame or a message is longer than the session accepts. -/
  | messageTooLarge (size : Nat)
deriving DecidableEq, Repr

namespace Fault

/-- The connection no longer takes octets. -/
def brokenPipe : Fault := .socket "broken pipe"

/-- The connection ended inside a frame. -/
def truncated : Fault := .socket "bytes remaining on stream"

/-- The wording of a fault. -/
def message : Fault → String
  | closed => "socket closed"
  | writeTimeout limit => "write timed out after " ++ limit.text
  | socket text => "socket error: " ++ text
  | protocol violation => "protocol violation: " ++ violation.text
  | messageTooLarge size =>
      "message of " ++ Nat.repr size ++ " bytes exceeds the size limit"

end Fault

end BroadcastHub
