import BroadcastHub.Proofs.Scenario.Outside
import Mathlib.Logic.Relation

/-!
# Runs of a server and its clients

A run is any interleaving of what is done from outside with what ready tasks
do.  Clients write and read as many octets at a time as they like, and the
clock moves only when no task is ready, by whole milliseconds, and not past
an alarm.
-/

namespace BroadcastHub.Scenario

open Server

namespace Action

/-- Whether an action is over at its instant and takes no steps of tasks. -/
def isImmediate : Action → Bool
  | feed _ _ => false
  | advance _ => false
  | _ => true

/-- The peer that an action is about. -/
def about? : Action → Option PeerId
  | arrive id _ => some id
  | failRead id _ => some id
  | endInbox id => some id
  | shut id => some id
  | hangUp id => some id
  | pause id _ => some id
  | setScript id _ => some id
  | send id _ _ => some id
  | ping peer _ => peer
  | close id => some id
  | closeFrame id => some id
  | awaitClose id => some id
  | extend id _ => some id
  | holdPong id => some id
  | returnPong id => some id
  | debug id => some id
  | remove id => some id
  | get id => some id
  | _ => none

/-- The tasks that an action starts to serve a new peer. -/
def Opens : Action → Task → Prop
  | serve _, task => ∃ id, task = .attend id .arriving
  | wire _ _, task => ∃ id, task = .attend id .arriving
  | http _, task => ∃ id, task = .converse id
  | _, _ => False

/-- The other tasks that an action starts. -/
def Starts : Action → Task → Prop
  | send id frame limit, task => task = .send id frame limit .unstarted
  | ping peer payload, task =>
      ∃ known, (known = none ∨ known = peer) ∧
        task = .pong known payload .unstarted
  | broadcast frame limit, task =>
      (∃ id, task = .deliver id frame limit .unstarted) ∨
        ∃ deliveries, task = .tally deliveries
  | closeFrame id, task => task = .sendClose id none
  | awaitClose id, task => task = .awaitClose id
  | wait limit server, task =>
      task = .linger server none ∨
        ∃ serving, task = .drain serving limit .unstarted
  | _, _ => False

/-- The sockets that an action brings. -/
def Adds : Action → Socket → Prop
  | register script, socket => socket = .scripted { script }
  | serve script, socket => socket = .scripted { script }
  | wire room _, socket => ∃ limit, socket = .link (.connect room limit)
  | http room, socket => ∃ limit, socket = .link (.connect room limit)
  | _, _ => False

def BringsPeer : Action → Prop
  | register _ => True
  | serve _ => True
  | wire _ _ => True
  | http _ => True
  | _ => False

/-- Whether an action sets a read deadline to a window of its own. -/
def SetsDeadline : Action → Prop
  | extend _ _ => True
  | _ => False

/-- Whether an action takes the slot of a session's heartbeat replies, or gives
it back. -/
def TakesPong : Action → Prop
  | holdPong _ => True
  | returnPong _ => True
  | _ => False

/-- Whether an action calls for a broadcast. -/
def Announces : Action → Prop
  | broadcast _ _ => True
  | _ => False

end Action

/-- What may happen in a run: which actions are taken, and whether tasks go
on in the order in which they were started or woken. -/
structure Manner where
  allows : Action → Prop
  inOrder : Prop

/-- Those who do what is allowed with the first so many peers. -/
def Manner.outsider (manner : Manner) (peers : Nat) : Outsider where
  feeds id := id < peers
  starts task := ∃ action, manner.allows action ∧ action.Starts task ∧
    ∀ id, action.about? = some id → id < peers
  opens task := ∃ action, manner.allows action ∧ action.Opens task
  adds socket := ∃ action, manner.allows action ∧ action.Adds socket
  setsDeadlines := ∃ action, manner.allows action ∧ action.SetsDeadline
  takesPongs := ∃ action, manner.allows action ∧ action.TakesPong
  announces := ∃ action, manner.allows action ∧ action.Announces
  inOrder := manner.inOrder

/-- One move of a server, its clients and its audience. -/
inductive Move (manner : Manner) : Play → Play → Prop
  | act {play : Play} {action : Action} (isAllowed : manner.allows action)
      (immediate : action.isImmediate = true)
      (isThere : ∀ id, action.about? = some id → id < play.hub.peers.size) :
      Move manner play (play.perform action).2
  | write
      {play : Play} {id : PeerId} {link : Link} {octets : Octets}
      (connected : play.link? id = some link)
      (isOpen : link.inbound.closed = false)
      (fits : octets.length ≤ link.inbound.room) :
      Move manner play (play.withHub fun hub => Play.clientWrites hub id octets)
  | go {play : Play} {task : TaskId} (isReady : task ∈ play.hub.ready)
      (first : manner.inOrder → play.hub.ready.head? = some task) :
      Move manner play (play.withHub fun hub => hub.goOn task)
  | tidy {play : Play} (id : PeerId) :
      Move manner play (play.withHub fun hub => hub.dropUnused id)
  | read {play : Play} (id : PeerId) :
      Move manner play (play.withHub fun hub => hub.letRead id)
  | sip {play : Play} (id : PeerId) (count : Nat) :
      Move manner play (play.withHub fun hub => hub.letSip id count)
  | tick {play : Play} {later : Instant} (still : play.hub.ready = [])
      (forward : play.hub.now ≤ later) (whole : Span.perMillisecond ∣ later)
      (passes : ∀ alarm task, (alarm, task) ∈ play.hub.alarms →
        later ≤ max play.hub.now alarm.due.tick) :
      Move manner play (play.withHub fun hub => { hub with now := later }.ring)
  | notice
      {play : Play} (known : Table Acquaintance) (jobs : List (TaskId × Bool)) :
      Move manner play { play with known, jobs }

theorem Move.goOn
    {manner : Manner} {play : Play} (task : TaskId)
    (isReady : task ∈ play.hub.ready)
    (first : manner.inOrder → play.hub.ready.head? = some task) :
    Move manner play (play.withHub fun hub => hub.goOn task) :=
  .go isReady first

/-- A client writes what fits into its pipe. -/
theorem Move.write_of_any
    {manner : Manner} {play : Play} {id : PeerId} {octets : Octets}
    (fits : (play.link? id).any (fun link =>
      !link.inbound.closed && octets.length ≤ link.inbound.room) = true) :
    Move manner play
      (play.withHub fun hub => Play.clientWrites hub id octets) := by
  obtain ⟨link, connected, both⟩ := (Option.any_eq_true _ _).mp fits
  rw [Bool.and_eq_true, Bool.not_eq_true'] at both
  exact .write connected both.1 (of_decide_eq_true both.2)

section

variable {manner : Manner} {play : Play} {later : Instant}
  (still : play.hub.ready = [])
  (forward : play.hub.now ≤ later) (whole : Span.perMillisecond ∣ later)
  (passes : ∀ entry ∈ play.hub.alarms,
    later ≤ max play.hub.now entry.1.due.tick)

include still forward whole passes

theorem Move.tickWaking
    {alarm : Alarm} {task : TaskId}
    (rung : { play.hub with now := later }.alarms.filter
      (fun entry : Alarm × TaskId => entry.1.hasRung later) = [(alarm, task)]) :
    Move manner play (play.withHub fun hub =>
      { hub with now := later }.wake task) := by
  have moves :
      Move manner play (play.withHub fun hub =>
        { hub with now := later }.ring) :=
    .tick still forward whole fun alarm task listed =>
      passes (alarm, task) listed
  have wakes : play.withHub (fun hub => { hub with now := later }.ring) =
      play.withHub fun hub => { hub with now := later }.wake task :=
    congrArg (fun hub => { play with hub })
      (Hub.ring_eq_wake { play.hub with now := later } task rung)
  exact wakes ▸ moves

theorem Move.tickQuietly
    (rung : { play.hub with now := later }.alarms.filter
      (fun entry : Alarm × TaskId => entry.1.hasRung later) = []) :
    Move manner play (play.withHub fun hub => { hub with now := later }) := by
  have moves :
      Move manner play (play.withHub fun hub =>
        { hub with now := later }.ring) :=
    .tick still forward whole fun alarm task listed =>
      passes (alarm, task) listed
  have sleeps : play.withHub (fun hub => { hub with now := later }.ring) =
      play.withHub fun hub => { hub with now := later } :=
    congrArg (fun hub => { play with hub })
      (Hub.ring_eq_self { play.hub with now := later } rung)
  exact sleeps ▸ moves

end

def Moves (manner : Manner) : Play → Play → Prop :=
  Relation.ReflTransGen (Move manner)

/-- The plays that can be reached by moves, where something holds all the
time.  The draws for random delays may be any. -/
inductive Run
    (manner : Manner) (holds : Play → Prop) (configuration : Configuration) :
    Play → Prop
  | start
      (chance : Nat → Nat)
      (held : holds { Play.start configuration with
        hub := { Hub.start configuration with chance } }) :
      Run manner holds configuration
        { Play.start configuration with
          hub := { Hub.start configuration with chance } }
  | move {before after : Play} (run : Run manner holds configuration before)
      (move : Move manner before after) (held : holds after) :
      Run manner holds configuration after

theorem Run.moves
    {manner : Manner} {configuration : Configuration} {play later : Play}
    (run : Run manner (fun _ => True) configuration play)
    (moves : Moves manner play later) :
    Run manner (fun _ => True) configuration later := by
  induction moves with
  | refl => exact run
  | tail moves move induction => exact induction.move move trivial

/-! ### A short run -/

/-- Runs in which clients connect and octets are broadcast. -/
def Manner.visits : Manner where
  allows action := (∃ room limit, action = .wire room limit) ∨
    ∃ content limit, action = .broadcast (.binary content) limit
  inOrder := False

/-- A client has connected, and its session has been opened. -/
def Play.visited : Play :=
  ((Play.start {}).perform (.wire 64 none)).2.withHub fun hub => hub.goOn 0

/-- An octet has been broadcast to that session, and its delivery has gone
on. -/
def Play.greeted : Play :=
  (Play.visited.perform (.broadcast (.binary [7]) (.ofMillis 1000))).2.withHub
    fun hub =>
    hub.goOn 1

theorem Run.visited : Run .visits (fun _ => True) {} .visited := by
  have started : Run .visits (fun _ => True) {} (Play.start {}) :=
    .start _ trivial
  have wired :=
    started.move (.act (.inl ⟨64, none, rfl⟩) rfl (by rintro _ ⟨⟩)) trivial
  exact wired.move (.go (by decide) (by rintro ⟨⟩)) trivial

theorem Run.greeted : Run .visits (fun _ => True) {} .greeted := by
  have announced := Run.visited.move
    (.act (.inr ⟨[7], .ofMillis 1000, rfl⟩) rfl (by rintro _ ⟨⟩)) trivial
  exact announced.move (.go (by decide) (by rintro ⟨⟩)) trivial

end BroadcastHub.Scenario
