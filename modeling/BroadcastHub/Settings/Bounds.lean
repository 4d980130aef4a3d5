import BroadcastHub.Settings.Basic

/-!
# Accepted settings

The bounds between which the waiting times of the settings must lie, and the one
further rule that some message must be short enough to be taken.  The first
setting out of bounds counts.
-/

namespace BroadcastHub.Settings

/-- The least and the greatest accepted value of a setting. -/
structure Bounds where
  least : Nat
  greatest : Nat
deriving DecidableEq, Repr

namespace Bounds

/-- Whether a value lies between the bounds. -/
def contain (bounds : Bounds) (value : Nat) : Bool :=
  bounds.least ≤ value && value ≤ bounds.greatest

def heartbeatTimeout : Bounds := ⟨100, 3600000⟩

def pongWriteTimeout : Bounds := ⟨10, 60000⟩

def pongJitter : Bounds := ⟨0, 10000⟩

def writeTimeout : Bounds := ⟨10, 60000⟩

/-- Milliseconds of waiting for open sessions. -/
def drainTimeout : Bounds := ⟨0, 600000⟩

end Bounds

/-- Why settings are not accepted. -/
inductive Rejection
  | outOfBounds (key : String) (bounds : Bounds) (value : Nat)
  /-- No message would be short enough. -/
  | noMessages
deriving DecidableEq, Repr

def Rejection.message : Rejection → String
  | outOfBounds key bounds value =>
      key ++ " must be between " ++ Nat.repr bounds.least ++ " and " ++
        Nat.repr bounds.greatest ++ ", got " ++ Nat.repr value
  | noMessages => "server.maxMessageSize must be greater than zero"

/-- The settings that have bounds, in the order in which they are looked at. -/
def bounded (settings : Settings) : List (String × Bounds × Nat) :=
  [("liveness.heartbeatTimeoutMs", .heartbeatTimeout,
    settings.liveness.heartbeatTimeout.toNat),
    ("liveness.pongWriteTimeoutMs", .pongWriteTimeout,
      settings.liveness.pongWriteTimeout.toNat),
    ("liveness.pongJitterMs", .pongJitter, settings.liveness.pongJitter.toNat),
    ("broadcast.writeTimeoutMs", .writeTimeout,
      settings.broadcast.writeTimeout.toNat),
    ("shutdown.drainTimeoutMs", .drainTimeout,
      settings.shutdown.drainTimeout.toNat)]

/-- The first reason not to accept the settings. -/
def rejection? (settings : Settings) : Option Rejection :=
  match settings.bounded.find? fun (_, bounds, value) =>
    !bounds.contain value with
  | some (key, bounds, value) => some (.outOfBounds key bounds value)
  | none =>
      if settings.server.maxMessageSize = 0 then some .noMessages else none

end BroadcastHub.Settings
