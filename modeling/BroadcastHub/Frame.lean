import BroadcastHub.Text.Utf8

/-!
# Frames and the broadcast envelope

A frame is what a session sends and receives: a whole text or binary message, or
a control frame. A message is passed on in an envelope that tells its length in
octets, `MESSAGE[2]: hi`, and keeps its kind.
-/

namespace BroadcastHub

inductive MessageKind
  | text
  | binary
deriving DecidableEq, Repr

/-- One message or control frame. -/
inductive Frame
  | text (content : String)
  | binary (content : Octets)
  /-- A heartbeat request with application data. -/
  | ping (payload : Octets)
  /-- A heartbeat reply that repeats the request's data. -/
  | pong (payload : Octets)
  | close
deriving DecidableEq, Repr, Inhabited

namespace Frame

/-- The kind of a message, nothing for a control frame. -/
def kind? : Frame → Option MessageKind
  | text _ => some .text
  | binary _ => some .binary
  | ping _ | pong _ | close => none

/-- The octets that a frame carries. -/
def payload : Frame → Octets
  | text content => Text.utf8 content
  | binary content => content
  | ping payload => payload
  | pong payload => payload
  | close => []

/-- What stands in front of a message of `length` octets. -/
def envelopeHead (length : Nat) : String :=
  "MESSAGE[" ++ Nat.repr length ++ "]: "

/-- The message in its envelope.  Control frames have none. -/
def envelope? : Frame → Option Frame
  | text content =>
      some (.text (envelopeHead (Text.utf8 content).length ++ content))
  | binary content =>
      some (.binary (Text.utf8 (envelopeHead content.length) ++ content))
  | ping _ | pong _ | close => none

end Frame

end BroadcastHub
