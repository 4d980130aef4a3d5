import BroadcastHub.Server.Write

/-!
# Heartbeats

A heartbeat request moves the read deadline of its session and is answered by a
reply with the same data.  A session has one reply under way at a time, and
requests that come meanwhile are left to it.
-/

namespace BroadcastHub.Server.Hub

/-- The next random delay, at most as many whole milliseconds as the greatest
one has. -/
def nextDelay (hub : Hub) : Span :=
  .ofMillis (hub.chance hub.drawn % (hub.timing.pongJitter.wholeMillis + 1))

def finishPing (hub : Hub) (task : TaskId) (outcome : HeartbeatResult) : Hub :=
  hub.finish task (.heartbeat outcome)

/-- Ends a reply that had the slot. -/
def finishPong
    (hub : Hub) (task : TaskId) (id : PeerId) (result : Except Fault Unit) :
    Hub :=
  let hub := hub.setPonging id false
  match result with
  | .ok () =>
      (hub.count fun counters =>
        { counters with ponged := counters.ponged + 1 }).finishPing task
          .answered
  | .error _ => hub.finishPing task .failed

/-- Goes on with the write of a reply. -/
def writePong
    (hub : Hub) (task : TaskId) (id : PeerId) (payload : Octets)
    (stage : Writing) : Hub :=
  match hub.pollFrame id task (.pong payload) hub.timing.pongWrite stage with
  | (hub, .finished result) => hub.finishPong task id result
  | (hub, .pending stage) =>
      hub.setTask task (.pong (some id) payload (.writing stage))

/-- Lets the random delay run before a reply, if there is one. -/
def delayPong
    (hub : Hub) (task : TaskId) (id : PeerId) (payload : Octets) : Hub :=
  if hub.timing.pongJitter.nanos =
    0 then hub.writePong task id payload .unstarted
  else
    let delay := hub.nextDelay
    let hub := { hub with drawn := hub.drawn + 1 }
    if delay.nanos = 0 then hub.writePong task id payload .unstarted
    else
      hub.noteAlarm.setTask task
        (.pong (some id) payload
          (.delaying ⟨hub.now.after delay, hub.alarmsSet⟩))

/-- Takes up a heartbeat request. -/
def startPong
    (hub : Hub) (task : TaskId) (id : PeerId) (payload : Octets) : Hub :=
  if (hub.peer id).registered then
    let hub := hub.renewDeadline id hub.timing.heartbeat
    if (hub.peer id).ponging then
      (hub.count fun counters =>
        { counters with coalesced := counters.coalesced + 1 }).finishPing
          task .coalesced
    else (hub.setPonging id true).delayPong task id payload
  else hub.finishPing task .unknown

/-- Goes on with a heartbeat request. -/
def pollPong
    (hub : Hub) (task : TaskId) (peer : Option PeerId) (payload : Octets)
    (stage : Ponging) : Hub :=
  match peer, stage with
  | none, _ => hub.finishPing task .unknown
  | some id, .unstarted => hub.startPong task id payload
  | some id, .delaying ends =>
      if ends.hasRung hub.now then hub.writePong task id payload .unstarted
        else hub
  | some id, .writing stage => hub.writePong task id payload stage

end BroadcastHub.Server.Hub
