import BroadcastHub.Server.Hub

/-!
# Stopping a server

A server that stops closes every registered session, and closes those that
arrive later as they arrive.  Whoever wants to know when it is done waits for
the server's own task and then until the registry is empty, but not longer than
a limit.
-/

namespace BroadcastHub.Server.Hub

/-- Closes sessions one after the other; counts those that were open. -/
def closeEach (hub : Hub) (closed : Nat) : List PeerId → Hub × Nat
  | [] => (hub, closed)
  | id :: rest =>
      let closed := if (hub.peer id).closed then closed else closed + 1
      (hub.close id).closeEach closed rest

/-- Tells the server to stop; answers how many sessions that closed. -/
def stop (hub : Hub) : Hub × Nat :=
  let hub := { hub with stopping := true }
  hub.closeEach 0 hub.registry

/-- Lasts for a time. -/
def pollLinger
    (hub : Hub) (task : TaskId) (span : Span) (stage : Option Alarm) : Hub :=
  let alarm := stage.getD ⟨hub.now.after span, hub.alarmsSet⟩
  let hub := if stage.isNone then hub.noteAlarm else hub
  if alarm.hasRung hub.now then hub.finish task .over
  else hub.setTask task (.linger span (some alarm))

/-- The pause between two looks at the registry. -/
def drainPause : Span := .ofMillis 10

/-- Ends the wait if its limit is over, or waits on. -/
def boundDrain (hub : Hub) (task server : TaskId) (span : Span) (limit : Alarm)
    (stage : Draining) : Hub :=
  if limit.hasRung hub.now then hub.finish task (.drained false)
  else hub.setTask task (.drain server span stage)

def checkRegistry
    (hub : Hub) (task server : TaskId) (span : Span) (limit : Alarm) : Hub :=
  if hub.registry.isEmpty then hub.finish task (.drained true)
  else
    let pause : Alarm := ⟨hub.now.after drainPause, hub.alarmsSet⟩
    hub.noteAlarm.boundDrain task server span limit (.pausing pause limit)

/-- Looks whether the server's task has ended. -/
def checkServer
    (hub : Hub) (task server : TaskId) (span : Span) (limit : Alarm) : Hub :=
  if (hub.task server).isFinished then hub.checkRegistry task server span limit
  else hub.boundDrain task server span limit (.awaitingServer limit)

/-- Goes on waiting for the end of the server's task and of all sessions. -/
def pollDrain (hub : Hub) (task server : TaskId) (span : Span) : Draining → Hub
  | .unstarted =>
      hub.noteAlarm.checkServer task server span
        ⟨hub.now.after span, hub.alarmsSet⟩
  | .awaitingServer limit => hub.checkServer task server span limit
  | .pausing pause limit =>
      if pause.hasRung hub.now then hub.checkRegistry task server span limit
      else hub.boundDrain task server span limit (.pausing pause limit)

end BroadcastHub.Server.Hub
