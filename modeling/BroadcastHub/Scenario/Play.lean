import BroadcastHub.Scenario.Step
import BroadcastHub.Server.Run

/-!
# Playing a scenario

A play is a server together with what its audience knows: which sessions have
been seen, which tasks were started from outside, which slots and heartbeat
slots are held from outside.  Each action is followed by everything that can
happen at its instant.
-/

namespace BroadcastHub.Scenario

open Server

/-- How a peer came about. -/
inductive Origin
  | registered
  | served
  | wired
  | http
deriving DecidableEq, Repr, Inhabited

/-- What the audience knows about a peer. -/
structure Acquaintance where
  origin : Origin
  /-- Whether the session has been seen in the registry. -/
  seen : Bool := false
  /-- Whether the heartbeat slot is held from outside. -/
  holdsPong : Bool := false
  /-- The number of written frames that were told. -/
  sentTold : Nat := 0
  /-- The number of received pieces that were told. -/
  receivedTold : Nat := 0
  /-- The number of responses that were told. -/
  heardTold : Nat := 0
deriving Inhabited

/-- A server and its audience. -/
structure Play where
  hub : Hub
  known : Table Acquaintance := {}
  /-- The tasks started from outside, in their order, and whether their end was
  told. -/
  jobs : List (TaskId × Bool) := []
  slots : SlotBook

namespace Play

/-- A server that has just started.  Its random delays are all the middle one,
which is over before the greatest one and is not zero unless that is. -/
def start (configuration : Configuration) : Play where
  hub :=
    { Hub.start configuration with
      chance := fun _ => (configuration.timing.pongJitter.wholeMillis + 1) / 2 }
  slots := { admission := .ofMaximum configuration.maxConnections }

def withHub (play : Play) (change : Hub → Hub) : Play :=
  { play with hub := change play.hub }

/-- Lets everything happen that can happen at this instant. -/
def settle (play : Play) : Play := play.withHub Hub.settle

/-- What the audience knows about a peer. -/
def acquaintance (play : Play) (id : PeerId) : Acquaintance := play.known.get id

/-- Changes what the audience knows about a peer. -/
def updateKnown
    (play : Play) (id : PeerId) (change : Acquaintance → Acquaintance) : Play :=
  { play with known := play.known.update id change }

/-- How a peer's session ended, if it has. -/
def exit? (play : Play) (id : PeerId) : Option Exit :=
  match (play.hub.peer id).attendant with
  | none => none
  | some task =>
      match play.hub.task task with
      | .finished (.attended exit) => some exit
      | _ => none

def hasLink (play : Play) (id : PeerId) : Bool :=
  match (play.hub.peer id).socket with
  | .link _ => true
  | .scripted _ => false

/-- Whether a peer's session can still be used from outside.  One over a link is
over with its task. -/
def isAlive (play : Play) (id : PeerId) : Bool :=
  (play.acquaintance id).seen && !(play.hasLink id && (play.exit? id).isSome)

/-- Notes which sessions can be seen: all those of the given peers that are
registered. -/
def look (play : Play) (ids : List PeerId) : Play :=
  ids.foldl
    (fun play id =>
      if (play.hub.peer id).registered then
        play.updateKnown id fun known => { known with seen := true }
      else play)
    play

def addPeer (play : Play) (origin : Origin) (peer : Peer) : PeerId × Play :=
  (play.hub.peers.size,
    { play with
      hub := play.hub.addPeer peer, known := play.known.push { origin } })

/-- Adds a peer that is served by a task. -/
def addServed
    (play : Play) (origin : Origin) (socket : Socket) (task : PeerId → Task) :
    PeerId × Play :=
  let (id, play) :=
    play.addPeer origin { socket, attendant := some play.hub.nextTask }
  (id, play.withHub fun hub => hub.spawn (task id))

def startJob (play : Play) (task : Task) : Play :=
  { play with
    hub := play.hub.spawn task
    jobs := play.jobs ++ [(play.hub.nextTask, false)] }

/-! ### What arrives -/

/-- Whether a task waits for what its peer's client sends. -/
def isReader : Task → Bool
  | .attend _ (.reading _) => true
  | .converse _ => true
  | _ => false

/-- Wakes the task that waits for what a peer's client sends. -/
def wakeReader (hub : Hub) (id : PeerId) : Hub :=
  match (hub.peer id).attendant with
  | some task => if isReader (hub.task task) then hub.wake task else hub
  | none => hub

def updateScripted
    (hub : Hub) (id : PeerId) (change : ScriptedSocket → ScriptedSocket) :
    Hub :=
  hub.updatePeer id fun peer =>
    match peer.socket with
    | .scripted socket => { peer with socket := .scripted (change socket) }
    | .link _ => peer

/-- Whether a peer's scripted socket still takes what arrives. -/
def takesArrivals (play : Play) (id : PeerId) : Bool :=
  match (play.hub.peer id).socket with
  | .scripted socket =>
      !socket.ended && (play.hub.peer id).attendant.isSome &&
        (play.exit? id).isNone
  | .link _ => false

def itemArrives (hub : Hub) (id : PeerId) (item : Except Fault Frame) : Hub :=
  wakeReader (updateScripted (hub.note (.arrived id item)) id fun socket =>
    { socket with inbox := socket.inbox ++ [item] }) id

/-- Lets an item arrive; answers whether it was taken. -/
def deliverItem (play : Play) (id : PeerId) (item : Except Fault Frame) :
    Bool × Play :=
  if play.takesArrivals id then
    (true, play.withHub fun hub => itemArrives hub id item)
  else (false, play)

/-- Lets items arrive one after the other; answers for each whether it was
taken. -/
def deliverItems (play : Play) (id : PeerId) :
    List (Except Fault Frame) → List Bool × Play
  | [] => ([], play)
  | item :: rest =>
      let (taken, play) := play.deliverItem id item
      let (others, play) := play.deliverItems id rest
      (taken :: others, play)

/-- Lets nothing more arrive; answers whether that is new. -/
def endInbox (play : Play) (id : PeerId) : Bool × Play :=
  match (play.hub.peer id).socket with
  | .link _ => (false, play)
  | .scripted socket =>
      (!socket.ended && (play.hub.peer id).attendant.isSome,
        play.withHub fun hub =>
          wakeReader (updateScripted hub id fun socket =>
            { socket with ended := true }) id)

/-! ### Clients -/

def link? (play : Play) (id : PeerId) : Option Link :=
  match (play.hub.peer id).socket with
  | .link connection => some connection
  | .scripted _ => none

/-- A client writes octets for which there is room. -/
def clientWrites (hub : Hub) (id : PeerId) (octets : Octets) : Hub :=
  wakeReader ((hub.note (.fed id octets)).updateLink id fun link =>
    link.clientWrites octets) id

/-- Lets a client write at most `rounds` times as much as there is room for.  A
pipe that stays full for a millisecond is given up. -/
def feedWithin (play : Play) (id : PeerId) :
    (rounds : Nat) → Octets → Bool × Play
  | 0, _ => (false, play)
  | rounds + 1, octets =>
      if octets.isEmpty then (true, play)
      else
        match play.link? id with
        | none => (false, play)
        | some link =>
            if link.inbound.closed then (false, play)
            else if link.inbound.room = 0 then
              (false, play.withHub fun hub => hub.advance (.ofMillis 1))
            else
              let room := link.inbound.room
              let play :=
                play.withHub fun hub => clientWrites hub id (octets.take room)
              play.settle.feedWithin id rounds (octets.drop room)

/-- Lets a client write, unless it is gone. -/
def feed (play : Play) (id : PeerId) (octets : Octets) : Bool × Play :=
  match play.link? id with
  | none => (false, play)
  | some link =>
      if link.hungUp then (false, play)
        else play.feedWithin id (octets.length + 2) octets

/-- Lets a client end its writing direction; answers whether it was there. -/
def shut (play : Play) (id : PeerId) : Bool × Play :=
  match play.link? id with
  | none => (false, play)
  | some link =>
      if link.hungUp then (false, play)
      else (true, play.withHub fun hub =>
        wakeReader (hub.updateLink id fun link =>
          { link with inbound := link.inbound.close }) id)

/-- Wakes the task whose turn it is to write to a peer. -/
def wakeWriter (hub : Hub) (id : PeerId) : Hub :=
  match (hub.peer id).turn.holder with
  | some task => hub.wake task
  | none => hub

/-- Lets a client go away; answers whether it was there. -/
def hangUp (play : Play) (id : PeerId) : Bool × Play :=
  match play.link? id with
  | none => (false, play)
  | some link =>
      if link.hungUp then (false, play)
      else (true, play.withHub fun hub =>
        wakeWriter (wakeReader (hub.updateLink id Link.hangUp) id) id)

/-! ### Operations of the server -/

def registry (play : Play) : List PeerId := play.hub.registry

/-- How a session shows itself in messages. -/
def describe (closed : Bool) : String :=
  "Session \x7b id: <id>, closed: " ++ (if closed then "true" else "false") ++
    ", .. \x7d"

/-- Does something with a session unless it is gone. -/
def withSession (play : Play) (id : PeerId) (use : Play → Reply × Play) :
    Reply × Play :=
  if play.isAlive id then use play else (.gone, play)

/-- Closes a session; answers whether that is new. -/
def close (play : Play) (id : PeerId) : Reply × Play :=
  (.flag !(play.hub.peer id).closed, play.withHub fun hub => hub.close id)

/-- Takes the heartbeat slot of a session from outside, or gives it back. -/
def setPonging (play : Play) (id : PeerId) (holdsPong : Bool) : Play :=
  (play.withHub fun hub => hub.setPonging id holdsPong).updateKnown id
    fun known =>
    { known with holdsPong }

/-- Takes the heartbeat slot of a session; answers whether it was free. -/
def holdPong (play : Play) (id : PeerId) : Reply × Play :=
  if (play.hub.peer id).ponging then (.flag false, play)
    else (.flag true, play.setPonging id true)

/-- Gives the heartbeat slot of a session back; answers whether it was held from
outside. -/
def returnPong (play : Play) (id : PeerId) : Reply × Play :=
  if (play.acquaintance id).holdsPong
    then (.flag true, play.setPonging id false)
  else (.flag false, play)

/-- Takes a session out of the registry; answers whether it was there. -/
def remove (play : Play) (id : PeerId) : Reply × Play :=
  if play.isAlive id then
    (.flag (play.hub.peer id).registered, play.withHub fun hub =>
      hub.unregister id)
  else (.flag false, play)

/-- Starts a broadcast and a task that waits for its deliveries. -/
def broadcast (play : Play) (frame : Frame) (limit : Span) : Reply × Play :=
  let deliveries := play.hub.deliveryTasks
  let play := play.withHub fun hub => hub.startDeliveries frame limit
  let tally := play.hub.nextTask
  let play := play.withHub fun hub =>
    deliveries.foldl (fun hub delivery => hub.watch delivery tally) hub
  (.number deliveries.length, play.startJob (.tally deliveries))

/-- Starts a server task and a task that waits for it and for all sessions. -/
def wait (play : Play) (limit server : Span) : Reply × Play :=
  let serving := play.hub.nextTask
  let play := play.withHub fun hub => hub.spawn (.linger server none)
  let play := play.withHub fun hub => hub.watch serving hub.nextTask
  (.nothing, play.startJob (.drain serving limit .unstarted))

/-- Takes a slot for a session; answers its number. -/
def takeSlot (play : Play) : Reply × Play :=
  let (number, slots) :=
    { play.slots with admission := play.hub.admission }.issue
  (.perhaps number,
    { play with slots, hub := { play.hub with admission := slots.admission } })

/-- Gives a slot back; answers whether it was held. -/
def freeSlot (play : Play) (slot : Nat) : Reply × Play :=
  let (held, slots) :=
    { play.slots with admission := play.hub.admission }.free slot
  (.flag held,
    { play with slots, hub := { play.hub with admission := slots.admission } })

/-- Does what an action says. -/
def perform (play : Play) : Action → Reply × Play
  | .register script =>
      let (id, play) :=
        play.addPeer .registered { socket := .scripted { script } }
      (.number id, play.withHub fun hub => hub.register id Hub.firstWindow)
  | .serve script =>
      let (id, play) :=
        play.addServed .served (.scripted { script }) fun id =>
          .attend id .arriving
      (.number id, play)
  | .wire room limit =>
      let limit := limit.getD play.hub.configuration.maxMessageSize
      let (id, play) :=
        play.addServed .wired (.link (.connect room limit)) fun id =>
          .attend id .arriving
      (.number id, play)
  | .http room =>
      let link := Link.connect room play.hub.configuration.maxMessageSize
      let (id, play) := play.addServed .http (.link link) fun id => .converse id
      (.number id, play)
  | .arrive id items =>
      let (taken, play) := play.deliverItems id items
      (.flags taken, play)
  | .failRead id fault =>
      let (taken, play) := play.deliverItem id (.error fault)
      (.flag taken, play)
  | .endInbox id =>
      let (new, play) := play.endInbox id
      (.flag new, play)
  | .feed id octets =>
      let (fed, play) := play.feed id octets
      (.flag fed, play)
  | .shut id =>
      let (done, play) := play.shut id
      (.flag done, play)
  | .hangUp id =>
      let (done, play) := play.hangUp id
      (.flag done, play)
  | .pause id on =>
      (.nothing, play.withHub fun hub => hub.updateLink id fun link =>
        { link with paused := on })
  | .setScript id change =>
      (.nothing, play.withHub fun hub =>
        updateScripted hub id fun socket =>
          { socket with script := change.apply socket.script })
  | .send id frame limit =>
      play.withSession id fun play =>
        (.nothing, play.startJob (.send id frame limit .unstarted))
  | .ping peer payload =>
      let known := peer.filter fun id => play.isAlive id
      (.nothing, play.startJob (.pong known payload .unstarted))
  | .broadcast frame limit => play.broadcast frame limit
  | .close id => play.withSession id fun play => play.close id
  | .closeFrame id =>
      play.withSession id fun play =>
        (.nothing, play.startJob (.sendClose id none))
  | .awaitClose id =>
      play.withSession id fun play => (.nothing, play.startJob (.awaitClose id))
  | .extend id window =>
      play.withSession id fun play =>
        (.nothing, play.withHub fun hub => hub.renewDeadline id window)
  | .holdPong id => play.withSession id fun play => play.holdPong id
  | .returnPong id => play.returnPong id
  | .debug id =>
      play.withSession id fun play =>
        (.text (describe (play.hub.peer id).closed), play)
  | .remove id => play.remove id
  | .get id => (.flag (play.isAlive id && (play.hub.peer id).registered), play)
  | .visitAll remove =>
      let visited := play.registry
      (.numbers visited,
        if remove then play.withHub fun hub => visited.foldl Hub.unregister hub
          else play)
  | .visitTogether => (.numbers play.registry, play)
  | .advance millis =>
      (.nothing, play.withHub fun hub => hub.advance (.ofMillis millis))
  | .stop =>
      let (hub, closed) := play.hub.stop
      (.number closed, { play with hub })
  | .askStopping =>
      (.flags [play.hub.stopping, play.hub.stopping, play.registry.isEmpty],
        play)
  | .wait limit server => play.wait limit server
  | .request request =>
      let (hub, response, _) := Http.respond play.hub request false
      (.response response, { play with hub })
  | .takeSlot => play.takeSlot
  | .freeSlot slot => play.freeSlot slot

/-- The peers at which an action can make a new session seen. -/
def lookedAt (play : Play) : Action → List PeerId
  | .register _ => play.hub.peers.numbers.drop (play.hub.peers.size - 1)
  | .serve _ => play.hub.peers.numbers.drop (play.hub.peers.size - 1)
  | .wire _ _ => play.hub.peers.numbers.drop (play.hub.peers.size - 1)
  | .feed id _ => if (play.acquaintance id).origin = .http then [id] else []
  | _ => []

/-- Plays one step up to its report; answers its reply. -/
def playStep (play : Play) (step : Step) : Reply × Play :=
  let (reply, play) := play.perform step.action
  let play := play.settle
  let play := play.look (play.lookedAt step.action)
  let play :=
    if step.wait = 0 then play else play.withHub fun hub =>
      hub.advance (.ofMillis step.wait)
  (reply, play)

end Play

end BroadcastHub.Scenario
