import BroadcastHub.Octets

/-!
# Pipes

One direction of a connection: octets that have been written and not read yet,
at most as many as the pipe has room for.  After either end is gone the pipe
takes nothing more, but what it holds can still be read.
-/

namespace BroadcastHub.Server

/-- One direction of a connection. -/
structure Pipe where
  /-- The number of octets that the pipe has room for. -/
  capacity : Nat
  content : Octets := []
  /-- Whether one of the ends is gone. -/
  closed : Bool := false
deriving DecidableEq, Repr, Inhabited

namespace Pipe

def room (pipe : Pipe) : Nat := pipe.capacity - pipe.content.length

/-- Writes as many octets as there is room for; answers those left over as
well. -/
def write (pipe : Pipe) (octets : Octets) : Pipe × Octets :=
  let room := pipe.room
  ({ pipe with content := pipe.content ++ octets.take room }, octets.drop room)

def clear (pipe : Pipe) : Pipe := { pipe with content := [] }

def close (pipe : Pipe) : Pipe := { pipe with closed := true }

end Pipe

end BroadcastHub.Server
