import BroadcastHub.Proofs.Scenario.Keeping
import BroadcastHub.Proofs.Server.Upgrades

/-!
# Admission neither overshoots nor leaks

Clients ask for sessions in any number and order, well or badly, before and
after the server is told to stop; sessions end, and connections cannot be
turned over.  The main statement `slots_exact` says that all the time the slots
in use are those of the clients who were told that a session follows and whose
tasks go on, and what each request comes to follows from the slots left.
-/

namespace BroadcastHub.Scenario

open Server

/-- Whether slots are taken by requests only. -/
def Manner.SparesAdmission (manner : Manner) : Prop :=
  ∀ action, manner.allows action → ¬ action.HandlesSlots

/-- The plays that can be reached by moves and by upgrades that fail. -/
inductive Reception (manner : Manner) (configuration : Configuration) :
    Play → Prop
  | start (chance : Nat → Nat) :
      Reception manner configuration
        { Play.start configuration with
          hub := { Hub.start configuration with chance } }
  | move
      {before after : Play} (reception : Reception manner configuration before)
      (move : Move manner before after) : Reception manner configuration after
  | fail
      {play : Play} (reception : Reception manner configuration play)
      {task : TaskId} {id : PeerId} (upgrading : play.hub.Upgrading task id) :
      Reception manner configuration
        (play.withHub fun hub => hub.failUpgrade task id)

theorem Run.reception
    {manner : Manner} {holds : Play → Prop} {configuration : Configuration}
    {play : Play} (run : Run manner holds configuration play) :
    Reception manner configuration play := by
  induction run with
  | start chance held => exact .start chance
  | move run move held induction => exact induction.move move

end BroadcastHub.Scenario

namespace BroadcastHub.Server

open Scenario

theorem SeatsKept.ofOutside
    {outsider : Outsider} {before after : Hub}
    (outside : Outside outsider before after) :
    SeatsKept none before after where
  configuration := outside.configuration
  peers := outside.peers
  tasks_le := outside.tasks_le
  seat number below _ := congrArg Task.seat (outside.task number below)

namespace SlotsMatch

variable {manner : Manner}

theorem outside
    {outsider : Outsider} {before after : Hub} (slots : SlotsMatch before)
    (keeps : Keeps Peer.claim before after)
    (outside : Outside outsider before after) : SlotsMatch after :=
  slots.stays keeps (.ofOutside outside) (by rintro _ _ ⟨⟩)

theorem serve
    {hub : Hub} (slots : SlotsMatch hub) {socket : Socket} (task : Task)
    (fresh : socket.isSwitched = false) :
    SlotsMatch ((hub.addPeer { socket, attendant := some hub.nextTask }).spawn
      task) := by
  refine slots.joins rfl rfl rfl rfl fresh ?_ fun number below => ?_
  · rw [Hub.size_tasks_spawn]
    exact Nat.le_succ _
  · rw [Hub.task_spawn]
    exact if_neg (Nat.ne_of_lt below)

theorem perform
    {play : Play} (slots : SlotsMatch play.hub) {action : Action}
    (allowed : manner.allows action) (immediate : action.isImmediate = true)
    (isThere : ∀ id, action.about? = some id → id < play.hub.peers.size)
    (handles : ¬ action.HandlesSlots) :
    SlotsMatch (play.perform action).2.hub := by
  by_cases brings : action.BringsPeer
  · cases action with
    | register script =>
        have joined : (play.perform (.register script)).2.hub = _ :=
          Hub.updatePeer_addPeer play.hub { socket := .scripted { script } } _
        rw [joined]
        exact slots.joins rfl rfl rfl rfl rfl (Nat.le_refl _) fun _ _ => rfl
    | serve script => exact slots.serve _ rfl
    | wire room limit => exact slots.serve _ rfl
    | http room => exact slots.serve _ rfl
    | _ => exact brings.elim
  · refine slots.outside ?_
      (Outside.perform play allowed immediate isThere brings)
    exact Keeps.perform lasting_claim play immediate brings handles
      (fun _ => ignoresClosing_claim) fun _ => ignoresRegistry_claim

/-- Slots match whatever happens. -/
theorem move
    {before after : Play} (slots : SlotsMatch before.hub)
    (spares : manner.SparesAdmission) (housed : Housed before.hub)
    (attended : Attended before.hub) (move : Move manner before after) :
    SlotsMatch after.hub := by
  cases move with
  | @act action allowed immediate isThere =>
      exact slots.perform allowed immediate isThere (spares action allowed)
  | @write id link octets connected isOpen fits =>
      have isLink := Play.socket_of_link? connected
      have inside := Hub.lt_size_of_link _ _ isLink
      have outside : Outside (manner.outsider before.hub.peers.size) before.hub
          (Play.clientWrites before.hub id octets) :=
        .clientWrites _ inside isLink fits
      exact slots.outside (.clientWrites lasting_claim before.hub id octets)
        outside
  | go isReady first => exact slots.goOn housed attended _
  | tidy id =>
      have outside : Outside (manner.outsider before.hub.peers.size) before.hub
          (before.hub.dropUnused id) := .dropUnused _ id
      exact slots.outside (.dropUnused lasting_claim before.hub id) outside
  | read id =>
      have outside : Outside (manner.outsider before.hub.peers.size) before.hub
          (before.hub.letRead id) := .letRead _ id
      exact slots.outside (.letRead lasting_claim before.hub id) outside
  | sip id count =>
      have outside : Outside (manner.outsider before.hub.peers.size) before.hub
          (before.hub.letSip id count) := .letSip _ id count
      exact slots.outside (.letSip lasting_claim before.hub id count) outside
  | @tick later still forward whole passes =>
      show SlotsMatch { before.hub with now := later }.ring
      obtain ⟨ready, same, -⟩ := Hub.ring_eq { before.hub with now := later }
      rw [same]
      have seatsKept :
          SeatsKept none before.hub { before.hub with now := later, ready } :=
        ⟨rfl, rfl, Nat.le_refl _, fun _ _ _ => rfl⟩
      exact slots.stays (.ofPeers rfl rfl) seatsKept (by rintro _ _ ⟨⟩)
  | notice known jobs => exact slots

end SlotsMatch

open Http

/-- What a request comes to, as far as the slots go. -/
structure Reckoned
    (before : Hub) (request : Request) (after : Hub) (response : Response) :
    Prop where
  /-- The bound refuses a request for a session if and only if the server is at
  work and no slot is left, and counts it. -/
  refused_iff : response.status = 503 ∧
    after.counters.refused = before.counters.refused + 1 ↔
    AsksForSession request ∧ before.stopping = false ∧
      before.admission.available = some 0
  /-- No other request is counted. -/
  uncounted : ¬ (AsksForSession request ∧ before.stopping = false ∧
    before.admission.available = some 0) →
    after.counters.refused = before.counters.refused
  /-- A request that is not granted leaves the slots as they are. -/
  unslotted : response.status = 503 ∨ response.status = 400 ∨
    response.status = 426 →
    after.admission = before.admission
  /-- A request that is granted takes one slot. -/
  slotted : response.status = 101 →
    before.admission.available ≠ some 0 ∧
      after.admission = before.admission.take

theorem Responds.reckoned
    {before after : Hub} {request : Request} {upgradable begins : Bool}
    {response : Response}
    (responds : Responds before request upgradable after response begins) :
    Reckoned before request after response where
  refused_iff := by
    refine ⟨fun counted => ?_, fun full => ?_⟩
    · rcases responds.refused with ⟨asks, goesOn, full, -⟩ | ⟨-, same⟩
      · exact ⟨asks, goesOn, full⟩
      · exact absurd (same.symm.trans counted.2)
          (Nat.ne_of_lt (Nat.lt_succ_self _))
    · rcases responds.refused with ⟨-, -, -, status, counted⟩ | ⟨never, -⟩
      · exact ⟨status, counted⟩
      · exact absurd full never
  uncounted other := by
    rcases responds.refused with ⟨asks, goesOn, full, -⟩ | ⟨-, same⟩
    · exact absurd ⟨asks, goesOn, full⟩ other
    · exact same
  unslotted declined := by
    have notBegun : begins = false := by
      cases begun : begins with
      | false => rfl
      | true =>
          rw [responds.begins_iff.mp begun] at declined
          omega
    rw [responds.admission.1, notBegun]
    rfl
  slotted granted := by
    have begun := responds.begins_iff.mpr granted
    refine ⟨responds.admission.2 begun, ?_⟩
    rw [responds.admission.1, begun]
    rfl

end BroadcastHub.Server

namespace BroadcastHub.Scenario

open Server

/-- What holds in every reception. -/
structure Hosted (configuration : Configuration) (hub : Hub) : Prop where
  configuration : hub.configuration = configuration
  housed : Housed hub
  attended : Attended hub
  residence : ∀ id, Residence hub id
  slots : SlotsMatch hub

variable {manner : Manner} {configuration : Configuration} {play : Play}

theorem Reception.hosted
    (spares : manner.SparesAdmission)
    (reception : Reception manner configuration play) :
    Hosted configuration play.hub := by
  induction reception with
  | start chance =>
      exact ⟨rfl, .start configuration chance, .start configuration chance,
        fun id => .start configuration chance id, .start configuration chance⟩
  | @move before after reception move induction =>
      have turnover := Turnover.ofMove move
      exact ⟨turnover.configuration_eq.trans induction.configuration,
        induction.housed.turn turnover,
        induction.attended.turn induction.housed turnover,
        fun id => (induction.residence id).turn induction.housed
          induction.attended turnover,
        induction.slots.move spares induction.housed induction.attended move⟩
  | @fail play reception task id upgrading induction =>
      have isTask := upgrading.isTask
      have course := Hub.course_failUpgrade isTask
      exact ⟨course.configuration.trans induction.configuration,
        induction.housed.course course,
        induction.attended.failUpgrade isTask,
        fun other => (induction.residence other).failUpgrade isTask,
        induction.slots.failUpgrade induction.housed induction.attended isTask⟩

namespace Hosted

variable {hub : Hub}

/-- With a bound, the slots left are those that nobody who was admitted has. -/
theorem available
    (hosted : Hosted configuration hub)
    (bounded : configuration.maxConnections ≠ 0) :
    hub.admission.available =
        some (min configuration.maxConnections
          Admission.greatestCapacity - hub.admitted.length) ∧
      hub.admitted.length ≤
        min configuration.maxConnections Admission.greatestCapacity := by
  have capacity : hub.admission.capacity =
      some (min configuration.maxConnections Admission.greatestCapacity) := by
    rw [hosted.slots.capacity, hosted.configuration]
    exact if_neg bounded
  rw [← hosted.slots.held]
  exact ⟨Admission.available_eq_some capacity, hosted.slots.bound _ capacity⟩

theorem unbounded
    (hosted : Hosted configuration hub)
    (none : configuration.maxConnections = 0) :
    hub.admission.available ≠ some 0 := by
  have capacity : hub.admission.capacity = .none := by
    rw [hosted.slots.capacity, hosted.configuration]
    exact if_pos none
  rw [Admission.available_eq_none capacity]
  rintro ⟨⟩

theorem isAdmitted_of_registered
    (hosted : Hosted configuration hub) {id : PeerId}
    (isSwitched : (hub.peer id).socket.isSwitched = true)
    (isRegistered : (hub.peer id).registered = true) :
    hub.isAdmitted id = true := by
  obtain ⟨task, seated⟩ := hosted.slots.seated id isSwitched
  obtain ⟨⟨alarm, isReading⟩, -⟩ :=
    (hosted.residence id).reads seated.attendant isRegistered
  simp only [Hub.isAdmitted, Hub.isServed, isSwitched, seated.attendant,
    isReading]
  rfl

theorem registered_le (hosted : Hosted configuration hub) :
    (hub.registry.filter fun id => (hub.peer id).socket.isSwitched).length ≤
      hub.admitted.length := by
  rw [Hub.registry, List.filter_filter, Hub.length_admitted,
    ← List.countP_eq_length_filter]
  refine List.countP_mono_left fun id _ both => ?_
  have both := Bool.and_eq_true_iff.mp both
  exact hosted.isAdmitted_of_registered both.1 both.2

end Hosted

/-- Admission neither overshoots nor leaks.  The slots in use are exactly those
of the clients who were told that a session follows and whose tasks go on, so
with a bound they never exceed it, and neither do the registered sessions that
came by requests. Whatever request comes next is refused by the bound if and
only if it is one for a session, the server is at work and no slot is left; only
a request that is granted takes a slot, and an upgrade that fails gives it back.
Without a bound none is refused by it. -/
theorem slots_exact
    (spares : manner.SparesAdmission)
    (reception : Reception manner configuration play) :
    play.hub.admission.held = play.hub.admitted.length ∧
    (configuration.maxConnections ≠ 0 →
      play.hub.admission.available =
        some (min configuration.maxConnections Admission.greatestCapacity -
          play.hub.admitted.length) ∧
      play.hub.admitted.length ≤
        min configuration.maxConnections Admission.greatestCapacity ∧
      (play.hub.registry.filter fun id =>
        (play.hub.peer id).socket.isSwitched).length ≤
          configuration.maxConnections) ∧
    (∀ peers ready request upgradable,
      Reckoned { play.hub with peers, ready } request
        (Http.respond { play.hub with peers, ready } request upgradable).1
        (Http.respond { play.hub with peers, ready } request upgradable).2.1) ∧
    (∀ task id new, play.hub.task task = .converse id →
      (play.hub.goOn task).task new = .attend id .arriving →
      ((play.hub.goOn task).failUpgrade new id).admission =
        play.hub.admission) ∧
    (∀ task id, play.hub.Upgrading task id →
      0 < play.hub.admission.held ∧
      (play.hub.failUpgrade task id).admission = play.hub.admission.release) ∧
    (configuration.maxConnections = 0 → ∀ peers ready request upgradable,
      (Http.respond { play.hub with peers, ready } request
        upgradable).1.counters.refused =
        play.hub.counters.refused) := by
  have hosted := reception.hosted spares
  have reckoned : ∀ peers ready request upgradable,
      Reckoned { play.hub with peers, ready } request
        (Http.respond { play.hub with peers, ready } request upgradable).1
        (Http.respond { play.hub with peers, ready } request upgradable).2.1 :=
    fun peers ready request upgradable =>
      (respond_responds _ request upgradable).reckoned
  refine ⟨hosted.slots.held, fun bounded => ?_, reckoned,
    fun task id new isTask upgrades => ?_,
    fun task id upgrading => ?_, fun none peers ready request upgradable => ?_⟩
  · obtain ⟨available, bound⟩ := hosted.available bounded
    exact ⟨available, bound, Nat.le_trans hosted.registered_le
      (Nat.le_trans bound (Nat.min_le_left _ _))⟩
  · exact Hub.admission_granted_failed hosted.attended hosted.housed
      isTask upgrades
  · have holds := hosted.slots.holds_of_upgrading hosted.attended upgrading
    refine ⟨?_, Hub.admission_failUpgrade holds⟩
    rw [hosted.slots.held]
    refine List.length_pos_of_mem (List.mem_filter.mpr ⟨List.mem_range.mpr ?_,
      (hosted.slots.holds id).symm.trans holds⟩)
    refine hosted.housed.tasks task id (Task.regards_of_serves ?_)
    rw [upgrading.isTask]
    rfl
  · exact (reckoned peers ready request upgradable).uncounted fun full =>
      hosted.unbounded none full.2.2

/-! ### A client that asks for a session -/

/-- Runs in which clients connect and ask. -/
def Manner.asks : Manner where
  allows action := ∃ room, action = .http room
  inOrder := False

theorem Manner.sparesAdmission_asks : Manner.asks.SparesAdmission := by
  rintro _ ⟨room, rfl⟩ handles
  exact handles

def sessionRequest : Octets :=
  Text.utf8 <|
    "GET /ws HTTP/1.1\r\nconnection: upgrade\r\nupgrade: websocket\r\n" ++
    "sec-websocket-version: 13\r\n" ++
    "sec-websocket-key: dGhlIHNhbXBsZSBub25jZQ==\r\n\r\n"

/-- A client has connected to a server with one slot. -/
def Play.connected : Play :=
  ((Play.start { maxConnections := 1 }).perform (.http 4096)).2

/-- It has asked for a session. -/
def Play.asked : Play :=
  Play.connected.withHub fun hub => Play.clientWrites hub 0 sessionRequest

/-- It has been told that one follows. -/
def Play.granted : Play := Play.asked.withHub fun hub => hub.goOn 0

theorem Reception.granted :
    Reception .asks { maxConnections := 1 } .granted := by
  have started : Reception .asks { maxConnections := 1 }
      (Play.start { maxConnections := 1 }) :=
    .start _
  have connected : Reception .asks { maxConnections := 1 } .connected :=
    started.move (.act ⟨4096, rfl⟩ rfl (by rintro _ ⟨⟩))
  have asked : Reception .asks { maxConnections := 1 } .asked :=
    connected.move (.write rfl rfl (by decide +kernel))
  exact asked.move (.go (by decide +kernel) (by rintro ⟨⟩))

/-- The client has the one slot, and gives it back if its connection cannot be
turned over. -/
theorem slots_exact_of_granted :
    Manner.asks.SparesAdmission ∧
      Reception .asks { maxConnections := 1 } .granted ∧
      Play.granted.hub.admitted = [0] ∧ Play.granted.hub.admission.held = 1 ∧
      Play.granted.hub.admission.available =
        some (min 1 Admission.greatestCapacity - 1) ∧
      Play.granted.hub.Upgrading 1 0 ∧
      (Play.granted.hub.failUpgrade 1 0).admission =
        Play.granted.hub.admission.release := by
  obtain ⟨held, bounded, -, -, fails, -⟩ :=
    slots_exact Manner.sparesAdmission_asks Reception.granted
  obtain ⟨available, -, -⟩ := bounded (by decide)
  have admitted : Play.granted.hub.admitted = [0] := by decide +kernel
  have upgrading : Play.granted.hub.Upgrading 1 0 := by
    exact ⟨Task.eq_arriving (by decide +kernel) (by decide +kernel), by
      decide +kernel⟩
  rw [admitted] at held available
  exact ⟨Manner.sparesAdmission_asks, Reception.granted, admitted, held,
    available, upgrading, (fails 1 0 upgrading).2⟩

end BroadcastHub.Scenario
