import BroadcastHub.Server.Write

/-!
# Broadcasting

A broadcast is brought to every session that is registered at its time, the
sender's included, by one task for each of them.  A recipient that cannot be
reached is closed; it stays registered until its own task takes it out.
-/

namespace BroadcastHub.Server.Hub

/-- Starts one delivery for each of the given peers. -/
def spawnDeliveries (hub : Hub) (frame : Frame) (limit : Span) :
    List PeerId → Hub
  | [] => hub
  | id :: rest =>
      (hub.spawn (.deliver id frame limit .unstarted)).spawnDeliveries frame
        limit rest

def startDeliveries (hub : Hub) (frame : Frame) (limit : Span) : Hub :=
  (hub.note (.broadcast hub.nextTask hub.registry frame limit)).spawnDeliveries
    frame limit hub.registry

/-- The numbers that the deliveries of a broadcast started now will have. -/
def deliveryTasks (hub : Hub) : List TaskId :=
  (List.range hub.registry.length).map fun position => hub.nextTask + position

def finishDelivery (hub : Hub) (task : TaskId) (id : PeerId) :
    Except Fault Unit → Hub
  | .ok () =>
      (hub.count fun counters =>
        { counters with delivered := counters.delivered + 1 }).finish task
          (.delivered true)
  | .error _ =>
      ((hub.count fun counters =>
        { counters with undelivered := counters.undelivered + 1 }).close
          id).finish task (.delivered false)

def pollDelivery
    (hub : Hub) (task : TaskId) (id : PeerId) (frame : Frame) (limit : Span)
    (stage : Writing) : Hub :=
  match hub.pollFrame id task frame limit stage with
  | (hub, .finished result) => hub.finishDelivery task id result
  | (hub, .pending stage) => hub.setTask task (.deliver id frame limit stage)

/-- Whether a delivery reached its recipient; nothing while it goes on. -/
def reached? (hub : Hub) (task : TaskId) : Option Bool :=
  match hub.task task with
  | .finished (.delivered reached) => some reached
  | .finished _ => some false
  | _ => none

/-- Waits for the deliveries of a broadcast. -/
def pollTally (hub : Hub) (task : TaskId) (deliveries : List TaskId) : Hub :=
  if deliveries.all fun delivery => (hub.reached? delivery).isSome then
    hub.finish task (.tallied deliveries.length
      (deliveries.countP fun delivery => hub.reached? delivery = some true))
  else hub

end BroadcastHub.Server.Hub
