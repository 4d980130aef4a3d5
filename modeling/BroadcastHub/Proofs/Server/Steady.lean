import BroadcastHub.Proofs.Server.SessionSteps

/-!
# Steps of sessions that stay

While no session ends and clients send only messages, a step of a session
changes little: it looks in vain, or it takes a message and starts the
deliveries of its envelope behind all tasks that are ready.
-/

namespace BroadcastHub.Server

/-- What the steps of sessions keep of a peer while these stay. -/
structure PeerKept (before after : Peer) : Prop where
  closed : after.closed = before.closed
  turn : after.turn = before.turn
  registered : after.registered = before.registered
  desk : after.socket.desk? = before.socket.desk?

/-- What the steps of sessions keep of a hub while these stay. -/
structure Kept (before after : Hub) : Prop where
  stopping : after.stopping = before.stopping
  watches : after.watches = before.watches
  peers : after.peers.size = before.peers.size
  peer : ∀ id, PeerKept (before.peer id) (after.peer id)

namespace Kept

variable {first second third : Hub}

theorem trans (one : Kept first second) (two : Kept second third) :
    Kept first third where
  stopping := two.stopping.trans one.stopping
  watches := two.watches.trans one.watches
  peers := two.peers.trans one.peers
  peer id :=
    { closed := (two.peer id).closed.trans (one.peer id).closed
      turn := (two.peer id).turn.trans (one.peer id).turn
      registered := (two.peer id).registered.trans (one.peer id).registered
      desk := (two.peer id).desk.trans (one.peer id).desk }

theorem ofPeers
    (stopping : second.stopping = first.stopping)
    (watches : second.watches = first.watches)
    (peers : second.peers = first.peers) : Kept first second := by
  have peer : ∀ id, second.peer id = first.peer id := by
    intro id
    rw [Hub.peer, peers]
    rfl
  refine ⟨stopping, watches, congrArg Table.size peers, fun id => ?_⟩
  rw [peer]
  exact ⟨rfl, rfl, rfl, rfl⟩

theorem ofPeer
    (hub : Hub) (id : PeerId) {change : Peer → Peer}
    (kept : PeerKept (hub.peer id) (change (hub.peer id))) :
    Kept hub (hub.updatePeer id change) := by
  refine ⟨rfl, rfl, Hub.size_peers_updatePeer hub id change, fun other => ?_⟩
  rw [Hub.peer_updatePeer]
  split
  · rename_i both
    rw [← both.1]
    exact kept
  · exact ⟨rfl, rfl, rfl, rfl⟩

theorem registry (kept : Kept first second) :
    second.registry = first.registry := by
  unfold Hub.registry Table.numbers
  rw [kept.peers]
  apply List.filter_congr
  intro id _
  exact (kept.peer id).registered

end Kept

/-- A session takes a message and starts the deliveries of its envelope. -/
structure Launches
    (task : TaskId) (id : PeerId) (frame envelope : Frame) (limit : Span)
    (before after : Hub) : Prop where
  message : frame.envelope? = some envelope
  size : after.tasks.size = before.tasks.size + before.registry.length
  own : after.task task = .attend id (.reading none)
  old : ∀ other < before.tasks.size, other ≠ task →
    after.task other = before.task other
  new : ∀ position (below : position < before.registry.length),
    after.task (before.tasks.size + position) =
      .deliver before.registry[position] envelope limit .unstarted
  ready : after.ready =
    task :: (before.ready ++ (List.range before.registry.length).map
    fun position => before.tasks.size + position).filter fun other =>
      other ≠ task
  chronicle : after.chronicle =
    [⟨before.now, .broadcast before.tasks.size before.registry envelope limit⟩,
      ⟨before.now, .took id (.ok frame)⟩] ++ before.chronicle

/-- A step of a session that stays. -/
inductive Reads (task : TaskId) (id : PeerId) (before after : Hub) : Prop
  /-- It looks in vain. -/
  | looks
      {alarm : Option Alarm}
      (tasks : after.tasks =
        (before.setTask task (.attend id (.reading alarm))).tasks)
      (ready : after.ready = before.ready ∨
        after.ready = task :: before.ready.filter fun other => other ≠ task)
      (chronicle : after.chronicle = before.chronicle)
  | takes {frame envelope : Frame} {limit : Span}
      (launches : Launches task id frame envelope limit before after)

/-- Whether no session has ended and clients have sent only messages. -/
structure Undisturbed (chronicle : List Entry) : Prop where
  stays : ∀ time id exit, ⟨time, .left id exit⟩ ∉ chronicle
  messages : ∀ time id frame, ⟨time, .took id (.ok frame)⟩ ∈ chronicle →
    frame.kind?.isSome = true

/-- The opening of a session while the server does not stop. -/
structure Joins (task : TaskId) (id : PeerId) (before after : Hub) : Prop where
  stopping : after.stopping = before.stopping
  watches : after.watches = before.watches
  peers : after.peers.size = before.peers.size
  peer : ∀ other, (after.peer other).closed = (before.peer other).closed ∧
    (after.peer other).turn = (before.peer other).turn ∧
    (after.peer other).socket.desk? = (before.peer other).socket.desk?
  registered : ∀ other, (after.peer other).registered =
    if other = id then true else (before.peer other).registered
  tasks : after.tasks = (before.setTask task (.attend id (.reading none))).tasks
  ready : after.ready = task :: before.ready.filter fun other => other ≠ task
  chronicle : after.chronicle = ⟨before.now, .joined id⟩ :: before.chronicle

namespace Hub

variable {hub : Hub} {task : TaskId} {id : PeerId}

theorem mem_chronicle_leave (below : task < hub.tasks.size) (exit : Exit) :
    ⟨hub.now, .left id exit⟩ ∈ (hub.leave task id exit).chronicle := by
  obtain ⟨news, isNews⟩ := (course_leave hub id below exit).news
  rw [isNews.chronicle]
  exact List.mem_append.mpr (.inr List.mem_cons_self)

theorem not_undisturbed_leave (below : task < hub.tasks.size) (exit : Exit) :
    ¬ Undisturbed (hub.leave task id exit).chronicle :=
  fun undisturbed => undisturbed.stays _ _ _ (mem_chronicle_leave below exit)

theorem reads_readOn (hub : Hub) (task : TaskId) (id : PeerId) :
    Kept hub (hub.readOn task id) ∧ Reads task id hub (hub.readOn task id) :=
  ⟨.ofPeers rfl rfl rfl, .looks rfl (.inr rfl) rfl⟩

/-- The deliveries that are started come behind all tasks that are ready. -/
theorem reads_message
    {noted : Hub} {frame envelope : Frame} (below : task < hub.tasks.size)
    (message : frame.envelope? = some envelope) (kept : Kept hub noted)
    (tasks : noted.tasks = hub.tasks) (ready : noted.ready = hub.ready)
    (now : noted.now = hub.now)
    (chronicle : noted.chronicle =
      ⟨hub.now, .took id (.ok frame)⟩ :: hub.chronicle) :
    Kept hub (noted.act task id frame) ∧
      Reads task id hub (noted.act task id frame) := by
  let renewed : Hub := noted.renewDeadline id noted.timing.heartbeat
  have keptOn : Kept hub renewed :=
    kept.trans (.ofPeer noted id ⟨rfl, rfl, rfl, rfl⟩)
  let limit : Span := noted.timing.broadcastWrite
  let announced : Hub :=
    renewed.note (.broadcast renewed.tasks.size renewed.registry envelope limit)
  obtain ⟨later, spawned, size, old, new⟩ :=
    spawnDeliveries_eq announced envelope limit renewed.registry
  let started : Hub := { announced with
    tasks := later
    ready := announced.ready ++ (List.range renewed.registry.length).map
      fun position => announced.tasks.size + position }
  have acted : noted.act task id frame = started.readOn task id := by
    rw [act_message noted task id message]
    exact congrArg (fun hub : Hub => hub.readOn task id) spawned
  have sameTasks : announced.tasks = hub.tasks := tasks
  have sameReady : announced.ready = hub.ready := ready
  have sameOld :
      ∀ other < hub.tasks.size, later.get other = hub.task other := by
    intro other inside
    rw [← sameTasks] at inside
    rw [old other inside, Hub.task, sameTasks]
    rfl
  rw [keptOn.registry, sameTasks] at size new
  have startedTasks : started.tasks = later := rfl
  have startedReady :
      started.ready = hub.ready ++ (List.range hub.registry.length).map
      fun position => hub.tasks.size + position := by
    rw [← sameReady, ← sameTasks, ← keptOn.registry]
  have inside : task < started.tasks.size := by
    rw [startedTasks, size]
    exact Nat.lt_add_right _ below
  rw [acted]
  refine ⟨keptOn.trans (.ofPeers rfl rfl rfl),
    @Reads.takes task id hub _ frame envelope limit
      ⟨message, ?_, ?_, ?_, ?_, ?_, ?_⟩⟩
  · exact (size_tasks_setTask started task _).trans size
  · exact task_setTask_self started task _ inside
  · intro other inside different
    exact (task_setTask_of_ne started task _ (Ne.symm different)).trans
      (sameOld other inside)
  · intro position inside
    have different : task ≠ hub.tasks.size + position :=
      Nat.ne_of_lt (Nat.lt_add_right position below)
    exact (task_setTask_of_ne started task _ different).trans
      (new position inside)
  · show task :: started.ready.filter _ = _
    rw [startedReady]
  · show ⟨noted.now, .broadcast noted.tasks.size renewed.registry
      envelope limit⟩ ::
      noted.chronicle = _
    rw [now, tasks, keptOn.registry, chronicle]
    rfl

/-- A frame that is taken is a message, and it is passed on. -/
theorem reads_act
    {noted : Hub} {frame : Frame} (below : task < hub.tasks.size)
    (kept : Kept hub noted) (tasks : noted.tasks = hub.tasks)
    (ready : noted.ready = hub.ready) (now : noted.now = hub.now)
    (chronicle : noted.chronicle =
      ⟨hub.now, .took id (.ok frame)⟩ :: hub.chronicle)
    (undisturbed : Undisturbed (noted.act task id frame).chronicle) :
    Kept hub (noted.act task id frame) ∧
      Reads task id hub (noted.act task id frame) := by
  cases message : frame.envelope? with
  | some envelope =>
      exact reads_message below message kept tasks ready now chronicle
  | none =>
      have told : ⟨hub.now, .took id (.ok frame)⟩ ∈ noted.chronicle := by
        rw [chronicle]
        exact List.mem_cons_self
      cases frame with
      | text content => cases message
      | binary content => cases message
      | ping payload => cases undisturbed.messages _ _ _ told
      | pong payload => cases undisturbed.messages _ _ _ told
      | close =>
          have inside : task <
              (noted.renewDeadline id noted.timing.heartbeat).tasks.size := by
            show task < noted.tasks.size
            rw [tasks]
            exact below
          exact absurd undisturbed (not_undisturbed_leave inside _)

theorem reads_takeArrival
    (below : task < hub.tasks.size) {alarm : Alarm}
    (undisturbed : Undisturbed (hub.takeArrival task id alarm).chronicle) :
    Kept hub (hub.takeArrival task id alarm) ∧
      Reads task id hub (hub.takeArrival task id alarm) := by
  have kept : Kept hub (hub.setSocket id (hub.peer id).socket.take.1) :=
    .ofPeer hub id ⟨rfl, rfl, rfl, Socket.desk?_take _⟩
  unfold takeArrival at undisturbed ⊢
  simp only at undisturbed ⊢
  cases found : (hub.peer id).socket.take.2 with
  | nothing =>
      rw [found] at undisturbed
      exact ⟨kept.trans (.ofPeers rfl rfl rfl), .looks rfl (.inl rfl) rfl⟩
  | ended =>
      rw [found] at undisturbed
      exact absurd undisturbed
        (@not_undisturbed_leave (hub.setSocket id (hub.peer id).socket.take.1)
          task id below _)
  | item item =>
      rw [found] at undisturbed
      cases item with
      | error fault =>
          exact absurd undisturbed (@not_undisturbed_leave ((hub.setSocket id
            (hub.peer id).socket.take.1).note (.took id (.error fault))) task
            id below _)
      | ok frame =>
          exact reads_act below (kept.trans (.ofPeers rfl rfl rfl)) rfl rfl rfl
            rfl undisturbed

theorem reads_checkDeadline (below : task < hub.tasks.size) {alarm : Alarm}
    (undisturbed : Undisturbed (hub.checkDeadline task id alarm).chronicle) :
    Kept hub (hub.checkDeadline task id alarm) ∧
      Reads task id hub (hub.checkDeadline task id alarm) := by
  unfold checkDeadline at undisturbed ⊢
  split at undisturbed
  · split at undisturbed
    · rw [if_pos ‹_›, if_pos ‹_›]
      exact reads_readOn hub task id
    · exact absurd undisturbed (not_undisturbed_leave below _)
  · rw [if_neg ‹_›]
    exact reads_takeArrival below undisturbed

/-- A session that reads and stays looks in vain or takes a message. -/
theorem reads_read
    (below : task < hub.tasks.size) (isOpen : (hub.peer id).closed = false)
    {alarm : Option Alarm}
    (undisturbed : Undisturbed (hub.read task id alarm).chronicle) :
    Kept hub (hub.read task id alarm) ∧
      Reads task id hub (hub.read task id alarm) := by
  have notClosed : ¬ (hub.peer id).closed = true := by
    rw [isOpen]
    exact Bool.false_ne_true
  unfold read at undisturbed ⊢
  rw [if_neg notClosed] at undisturbed ⊢
  cases alarm with
  | some alarm => exact reads_checkDeadline below undisturbed
  | none =>
      have noted : Kept hub hub.noteAlarm := .ofPeers rfl rfl rfl
      obtain ⟨kept, reads⟩ :=
        @reads_checkDeadline hub.noteAlarm task id below _ undisturbed
      refine ⟨noted.trans kept, ?_⟩
      cases reads with
      | looks tasks ready chronicle => exact .looks tasks ready chronicle
      | takes launches =>
          exact .takes ⟨launches.message, launches.size, launches.own,
            launches.old, launches.new, launches.ready, launches.chronicle⟩

/-- While the server does not stop, a session that is opened begins to read. -/
theorem joins_arrive
    (inside : id < hub.peers.size) (goesOn : hub.stopping = false) :
    Joins task id hub (hub.arrive task id) := by
  have notStopping : ¬ hub.stopping = true := by
    rw [goesOn]
    exact Bool.false_ne_true
  let registered : Hub := hub.register id firstWindow
  let noted : Hub := (registered.note (.joined id)).count Counters.noteOpened
  let renewed : Hub := noted.renewDeadline id registered.timing.heartbeat
  have arrived : hub.arrive task id = renewed.readOn task id := by
    rw [arrive_eq_enter, if_neg notStopping]
    rfl
  have kept : Kept registered (renewed.readOn task id) :=
    ((Kept.ofPeers rfl rfl rfl : Kept registered noted).trans
      (.ofPeer noted id ⟨rfl, rfl, rfl, rfl⟩)).trans (.ofPeers rfl rfl rfl)
  have size : registered.peers.size = hub.peers.size :=
    size_peers_updatePeer hub id _
  rw [arrived]
  refine ⟨kept.stopping, kept.watches, kept.peers.trans size,
    fun other => ⟨?_, ?_, ?_⟩, fun other => ?_, ?_, ?_, ?_⟩
  · exact (kept.peer other).closed.trans
      (peer_updatePeer_keeps hub id other fun _ => rfl)
  · exact (kept.peer other).turn.trans
      (peer_updatePeer_keeps hub id other fun _ => rfl)
  · exact (kept.peer other).desk.trans
      (@peer_updatePeer_keeps hub id other _ _ (fun peer => peer.socket.desk?)
        fun _ => rfl)
  · rw [(kept.peer other).registered]
    show ((hub.updatePeer id _).peer other).registered = _
    split
    · rename_i same
      rw [same, peer_updatePeer_self hub id _ inside]
    · rename_i different
      rw [peer_updatePeer_of_ne hub id other _ (Ne.symm different)]
  all_goals
    simp only [renewed, noted, registered, readOn, again, setTask,
      renewDeadline, updatePeer, count, note, register]

end Hub

end BroadcastHub.Server
