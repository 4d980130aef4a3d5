import BroadcastHub.Settings.Basic
import BroadcastHub.Span

/-!
# Server configuration

What a running server takes from the settings.
-/

namespace BroadcastHub.Server

/-- The waiting times of a session. -/
structure Timing where
  /-- The window of silence after which a session ends. -/
  heartbeat : Span := .ofMillis 60000
  /-- The limit for writing a heartbeat reply. -/
  pongWrite : Span := .ofMillis 500
  /-- The greatest random delay of a heartbeat reply. -/
  pongJitter : Span := .ofMillis 0
  /-- The limit for writing a broadcast to one recipient. -/
  broadcastWrite : Span := .ofMillis 2000
deriving DecidableEq, Repr, Inhabited

/-- The configuration of a server.  Where no settings are given the system
chooses the port. -/
structure Configuration where
  host : String := "127.0.0.1"
  port : Nat := 0
  /-- The greatest number of sessions at a time; 0 sets no bound. -/
  maxConnections : Nat := 0
  /-- The longest message that is taken from a client, in octets. -/
  maxMessageSize : Nat := 1048576
  timing : Timing := {}
deriving DecidableEq, Repr, Inhabited

def Configuration.ofSettings (settings : Settings) : Configuration where
  host := settings.server.host
  port := settings.server.port.toNat
  maxConnections := settings.server.maxConnections.toNat
  maxMessageSize := settings.server.maxMessageSize.toNat
  timing :=
    { heartbeat := .ofMillis settings.liveness.heartbeatTimeout.toNat
      pongWrite := .ofMillis settings.liveness.pongWriteTimeout.toNat
      pongJitter := .ofMillis settings.liveness.pongJitter.toNat
      broadcastWrite := .ofMillis settings.broadcast.writeTimeout.toNat }

end BroadcastHub.Server
