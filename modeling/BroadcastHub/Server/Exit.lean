import BroadcastHub.Fault

/-!
# Ends of sessions
-/

namespace BroadcastHub.Server

/-- Why a session ended. -/
inductive Exit
  /-- The client sent a close frame. -/
  | closeFrame
  /-- The client's octets ended without one. -/
  | streamEnded
  /-- Reading failed. -/
  | readError (fault : Fault)
  /-- The client was silent for too long. -/
  | deadlineExpired
  /-- The session was closed on this side. -/
  | socketClosed
deriving DecidableEq, Repr

/-- The kinds of ends that are counted apart. -/
inductive Reason
  | closeFrame
  | streamEnded
  | readError
  | deadlineExpired
  | socketClosed
deriving DecidableEq, Repr

namespace Reason

/-- All kinds of ends, in the order of their names. -/
def all : List Reason :=
  [closeFrame, deadlineExpired, readError, socketClosed, streamEnded]

/-- The short name of a kind of end. -/
def name : Reason → String
  | closeFrame => "close_frame"
  | streamEnded => "stream_ended"
  | readError => "read_error"
  | deadlineExpired => "deadline_expired"
  | socketClosed => "socket_closed"

end Reason

namespace Exit

/-- The kind of an end. -/
def reason : Exit → Reason
  | closeFrame => .closeFrame
  | streamEnded => .streamEnded
  | readError _ => .readError
  | deadlineExpired => .deadlineExpired
  | socketClosed => .socketClosed

/-- What went wrong, if reading failed. -/
def fault? : Exit → Option Fault
  | readError fault => some fault
  | _ => none

end Exit

end BroadcastHub.Server
