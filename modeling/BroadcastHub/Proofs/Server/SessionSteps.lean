import BroadcastHub.Proofs.Server.Reads
import BroadcastHub.Proofs.Server.WriteTurns

/-!
# What single steps of a session leave behind

A session is opened once, reads on after each frame that does not end it, and
leaves the registry once; after that only its close frame is left.
-/

namespace BroadcastHub.Server

/-- Whether a session has ended, apart from its close frame. -/
def Hub.IsOver (hub : Hub) (task : TaskId) (id : PeerId) : Prop :=
  (hub.task task).isFinished = true ∨
    ∃ closing, hub.task task = .attend id (.parting closing)

theorem Hub.not_isOver_of_arriving {hub : Hub} {task : TaskId} {id : PeerId}
    (isTask : hub.task task = .attend id .arriving) : ¬ hub.IsOver task id := by
  rintro (finished | ⟨closing, parting⟩)
  · rw [isTask] at finished
    cases finished
  · cases isTask.symm.trans parting

theorem Hub.not_isOver_of_reading
    {hub : Hub} {task : TaskId} {id : PeerId} {alarm : Option Alarm}
    (isTask : hub.task task = .attend id (.reading alarm)) :
    ¬ hub.IsOver task id := by
  rintro (finished | ⟨closing, parting⟩)
  · rw [isTask] at finished
    cases finished
  · cases isTask.symm.trans parting

/-- What a session does with a frame besides reading on: it passes a message on
in its envelope to all who are registered, and it starts a reply to a heartbeat
request. -/
inductive Acts (id : PeerId) (before after : Hub) : Frame → List Entry → Prop
  | message
      {frame envelope : Frame} (message : frame.envelope? = some envelope)
      (size : after.tasks.size = before.tasks.size + before.registry.length)
      (launched : Launched after before.tasks.size before.registry envelope
        before.timing.broadcastWrite) :
      Acts id before after frame
        [⟨before.now, .broadcast before.tasks.size before.registry envelope
        before.timing.broadcastWrite⟩]
  | ping
      {payload : Octets} (size : after.tasks.size = before.tasks.size + 1)
      (reply : after.task before.tasks.size =
        .pong (some id) payload .unstarted) :
      Acts id before after (.ping payload) []
  | pong {payload : Octets} (size : after.tasks.size = before.tasks.size) :
      Acts id before after (.pong payload) []

namespace Acts

variable {id : PeerId} {before other after : Hub} {frame : Frame}
  {acts : List Entry}

theorem tasks_le (did : Acts id before after frame acts) :
    before.tasks.size ≤ after.tasks.size := by
  cases did with
  | message message size launched => omega
  | ping size reply => omega
  | pong size => omega

theorem silent (did : Acts id before after frame acts) :
    ¬ Reached id acts ∧ took id acts = [] ∧
      ∀ entry ∈ acts, entry.time = before.now := by
  cases did with
  | message => exact ⟨by simp [Reached, Happening.Reaches], rfl, by simp⟩
  | ping => exact ⟨not_reached_nil id, rfl, by rintro _ ⟨⟩⟩
  | pong => exact ⟨not_reached_nil id, rfl, by rintro _ ⟨⟩⟩

/-- Only the clock, the configuration, the tasks and the registry matter. -/
theorem ofSame
    (did : Acts id other after frame acts) (now : other.now = before.now)
    (configuration : other.configuration = before.configuration)
    (tasks : other.tasks = before.tasks)
    (registry : other.registry = before.registry) :
    Acts id before after frame acts := by
  have timing :
      other.timing = before.timing := by rw [Hub.timing, configuration]; rfl
  cases did with
  | message message size launched =>
      rw [tasks, registry, timing] at launched
      rw [tasks, registry] at size
      rw [now, tasks, registry, timing]
      exact .message message size launched
  | ping size reply =>
      rw [tasks] at size reply
      exact .ping size reply
  | pong size =>
      rw [tasks] at size
      exact .pong size

end Acts

namespace Hub

variable (hub : Hub) {task : TaskId} (id : PeerId)

theorem peer_setSocket_self (socket : Socket) (inside : id < hub.peers.size) :
    (hub.setSocket id socket).peer id = { hub.peer id with socket } :=
  peer_updatePeer_self hub id _ inside

@[simp] theorem size_peers_setSocket (socket : Socket) :
    (hub.setSocket id socket).peers.size = hub.peers.size :=
  size_peers_updatePeer hub id _

theorem peer_renewDeadline_self (window : Span) (inside : id < hub.peers.size) :
    (hub.renewDeadline id window).peer id =
      { hub.peer id with readDeadline := hub.now.after window } :=
  peer_updatePeer_self hub id _ inside

@[simp] theorem size_peers_renewDeadline (window : Span) :
    (hub.renewDeadline id window).peers.size = hub.peers.size :=
  size_peers_updatePeer hub id _

@[simp] theorem tasks_releaseSlot : (hub.releaseSlot id).tasks = hub.tasks := by
  unfold releaseSlot
  split <;> rfl

theorem isOver_finishSession (below : task < hub.tasks.size) (exit : Exit) :
    (hub.finishSession task id exit).IsOver task id := by
  refine .inl (congrArg Task.isFinished
    (task_finish_self _ task (.attended exit) ?_))
  rw [tasks_releaseSlot]
  exact below

theorem isOver_settleParting
    (below : task < hub.tasks.size) (closing : Option Closing) :
    (hub.settleParting task id closing).IsOver task id := by
  cases closing with
  | none => exact isOver_finishSession hub id below .socketClosed
  | some closing => exact .inr ⟨closing, task_setTask_self hub task _ below⟩

theorem isOver_leave (below : task < hub.tasks.size) (exit : Exit) :
    (hub.leave task id exit).IsOver task id := by
  let gone := (hub.note (.left id exit)).unregister id
  have finished : (gone.finishSession task id exit).IsOver task id :=
    isOver_finishSession gone id below exit
  cases exit with
  | socketClosed =>
      have course :
          Course (.writer task id) gone (gone.startClosing id task).1 :=
        .startClosing gone (Doer.inside_writer below id) rfl rfl
      exact isOver_settleParting _ id (Nat.lt_of_lt_of_le below course.tasks_le)
        _
  | _ => exact finished

/-- Once its end is written down, a session is left like any other writer. -/
theorem course_leave (below : task < hub.tasks.size) (exit : Exit) :
    Course (.writer task id) ((hub.note (.left id exit)).unregister id)
      (hub.leave task id exit) := by
  let gone := (hub.note (.left id exit)).unregister id
  have inside : (Doer.writer task id).Inside gone := Doer.inside_writer below id
  have finished :
      Course (.writer task id) gone (gone.finishSession task id exit) :=
    .finishSession gone inside rfl (.ofWrites rfl) exit
  cases exit with
  | socketClosed =>
      have closing :
          Course (.writer task id) gone (gone.startClosing id task).1 :=
        .startClosing gone inside rfl rfl
      exact closing.trans
        (.settleParting rfl ⟨rfl, fun _ => trivial⟩ _ (closing.inside inside) _)
        inside
  | _ => exact finished

theorem readOn_eq (below : task < hub.tasks.size) :
    ∃ tasks ready, hub.readOn task id = { hub with tasks, ready } ∧
      tasks.get task = .attend id (.reading none) ∧ task ∈ ready :=
  ⟨_, _, rfl, task_setTask_self hub task _ below, List.mem_cons.mpr (.inl rfl)⟩

@[simp] theorem size_tasks_readOn (task : TaskId) :
    (hub.readOn task id).tasks.size = hub.tasks.size :=
  size_tasks_setTask hub task _

@[simp] theorem peers_readOn (task : TaskId) :
    (hub.readOn task id).peers = hub.peers := rfl

theorem task_readOn_of_ne {task number : TaskId} (other : task ≠ number) :
    (hub.readOn task id).task number = hub.task number :=
  task_setTask_of_ne hub task _ other

/-- A session that passes a message on. -/
theorem acts_message
    (below : task < hub.tasks.size) {frame envelope : Frame}
    (message : frame.envelope? = some envelope) :
    Acts id hub
      (((hub.renewDeadline id hub.timing.heartbeat).startDeliveries envelope
        hub.timing.broadcastWrite).readOn task id) frame
      [⟨hub.now, .broadcast hub.tasks.size hub.registry envelope
        hub.timing.broadcastWrite⟩] := by
  have registry := registry_renewDeadline hub id hub.timing.heartbeat
  have launched := launched_startDeliveries
    (hub.renewDeadline id hub.timing.heartbeat) envelope
    hub.timing.broadcastWrite
  obtain ⟨tasks, ready, same, size⟩ := startDeliveries_eq
    (hub.renewDeadline id hub.timing.heartbeat) envelope
    hub.timing.broadcastWrite
  rw [registry] at launched size
  refine .message message ?_ (launched.mono ?_ ?_ ?_)
  · rw [size_tasks_readOn, same]
    exact size
  · rw [peers_readOn]
  · exact Nat.le_of_eq (size_tasks_readOn _ id task).symm
  · intro number above _
    exact task_readOn_of_ne _ id (Nat.ne_of_lt (Nat.lt_of_lt_of_le below above))

theorem acts_ping
    (below : task < hub.tasks.size) (payload : Octets) (window : Span) :
    Acts id hub
      (((hub.renewDeadline id window).spawn
        (.pong (some id) payload .unstarted)).readOn task id)
      (.ping payload) [] := by
  refine .ping ?_ ?_
  · rw [size_tasks_readOn, size_tasks_spawn]
    rfl
  · rw [task_readOn_of_ne _ id (Nat.ne_of_lt below), task_spawn]
    exact if_pos rfl

/-- What a frame asks for that does not end the session. -/
theorem act_eq
    (below : task < hub.tasks.size) {frame : Frame} (stays : frame ≠ .close) :
    ∃ tasks ready acts, hub.act task id frame =
        { hub.renewDeadline id hub.timing.heartbeat with
          tasks, ready, chronicle := acts ++ hub.chronicle } ∧
      tasks.get task = .attend id (.reading none) ∧ task ∈ ready ∧
      Acts id hub (hub.act task id frame) frame acts := by
  cases message : frame.envelope? with
  | some envelope =>
      have acts := acts_message hub id below message
      obtain ⟨tasks, ready, same, size⟩ := startDeliveries_eq
        (hub.renewDeadline id hub.timing.heartbeat) envelope
        hub.timing.broadcastWrite
      rw [registry_renewDeadline] at same
      rw [act_message hub task id message]
      have inside : task <
        ((hub.renewDeadline id hub.timing.heartbeat).startDeliveries envelope
          hub.timing.broadcastWrite).tasks.size := by
        rw [same]
        show task < tasks.size
        rw [size]
        exact Nat.lt_add_right _ below
      obtain ⟨later, last, again, isTask, awake⟩ := readOn_eq _ id inside
      refine ⟨later, last, _, ?_, isTask, awake, acts⟩
      rw [again, same]
      rfl
  | none =>
      cases frame with
      | close => exact absurd rfl stays
      | text content => cases message
      | binary content => cases message
      | pong payload =>
          obtain ⟨tasks, ready, same, isTask, awake⟩ :=
            readOn_eq (hub.renewDeadline id hub.timing.heartbeat) id below
          have acted : hub.act task id (.pong payload) =
              (hub.renewDeadline id hub.timing.heartbeat).readOn task id := rfl
          rw [acted]
          exact ⟨tasks, ready, [], same, isTask, awake,
            .pong (size_tasks_readOn _ id task)⟩
      | ping payload =>
          obtain ⟨tasks, ready, same, isTask, awake⟩ := readOn_eq
            ((hub.renewDeadline id hub.timing.heartbeat).spawn
              (.pong (some id) payload .unstarted))
            id (by rw [size_tasks_spawn]; exact Nat.lt_succ_of_lt below)
          have acted : hub.act task id (.ping payload) =
              ((hub.renewDeadline id hub.timing.heartbeat).spawn
                (.pong (some id) payload .unstarted)).readOn task id := rfl
          rw [acted]
          exact ⟨tasks, ready, [], same, isTask, awake,
            acts_ping hub id below payload hub.timing.heartbeat⟩

theorem socket_close (other : PeerId) :
    ((hub.close id).peer other).socket = (hub.peer other).socket := by
  obtain ⟨ready, same⟩ | ⟨same, -⟩ := close_eq hub id
  · rw [same]
    exact peer_updatePeer_keeps hub id other fun _ => rfl
  · rw [same]

theorem peers_close : (hub.close id).peers.size = hub.peers.size := by
  obtain ⟨ready, same⟩ | ⟨same, -⟩ := close_eq hub id
  · rw [same]
    exact size_peers_updatePeer hub id _
  · rw [same]

/-- A session that is opened is registered, and perhaps closed at once. -/
theorem arrive_eq (task : TaskId) :
    ∃ middle : Hub, middle.now = hub.now ∧ middle.tasks = hub.tasks ∧
      middle.chronicle = hub.chronicle ∧
      middle.configuration = hub.configuration ∧
      middle.peers.size = hub.peers.size ∧
      (middle.peer id).socket = (hub.peer id).socket ∧
      hub.arrive task id =
        (((middle.note (.joined id)).count Counters.noteOpened).renewDeadline id
        middle.timing.heartbeat).readOn task id := by
  let registered := hub.register id firstWindow
  have socket : (registered.peer id).socket = (hub.peer id).socket :=
    peer_updatePeer_keeps hub id id fun _ => rfl
  have size : registered.peers.size = hub.peers.size :=
    size_peers_updatePeer hub id _
  have arrived : ∀ middle : Hub,
      (if registered.stopping then registered.close id else registered) =
        middle →
      hub.arrive task id =
        (((middle.note (.joined id)).count Counters.noteOpened).renewDeadline id
        middle.timing.heartbeat).readOn task id := by
    rintro _ rfl
    rfl
  cases stopping : registered.stopping with
  | false =>
      have same : (if registered.stopping then registered.close id
          else registered) = registered := by
        rw [stopping, if_neg Bool.false_ne_true]
      exact ⟨registered, rfl, rfl, rfl, rfl, size, socket,
        arrived registered same⟩
  | true =>
      have same :
          (if registered.stopping then registered.close id else registered) =
          registered.close id := by
        rw [stopping, if_pos rfl]
      have kept : (registered.close id).now = hub.now ∧
          (registered.close id).configuration = hub.configuration := by
        obtain ⟨ready, closed⟩ | ⟨closed, -⟩ := close_eq registered id
        · rw [closed]
          exact ⟨rfl, rfl⟩
        · rw [closed]
          exact ⟨rfl, rfl⟩
      exact ⟨registered.close id, kept.1, tasks_close registered id,
        chronicle_close registered id,
        kept.2, (peers_close registered id).trans size,
        (socket_close registered id id).trans socket, arrived _ same⟩

end Hub

end BroadcastHub.Server
