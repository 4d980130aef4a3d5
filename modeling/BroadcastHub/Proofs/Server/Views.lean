import BroadcastHub.Http.Conversation
import BroadcastHub.Server.Run

/-!
# What the elementary steps of a hub leave behind

Peers, tasks and ready tasks after each of the steps from which all others
are made.
-/

namespace BroadcastHub.Server.Hub

variable (hub : Hub) (id other : PeerId) (number : TaskId)

/-! ### Peers -/

theorem peer_updatePeer (change : Peer → Peer) :
    (hub.updatePeer id change).peer other =
      if id = other ∧ other < hub.peers.size then change (hub.peer other)
      else hub.peer other :=
  Table.get_update hub.peers id other change

theorem peer_updatePeer_of_ne (change : Peer → Peer) (different : id ≠ other) :
    (hub.updatePeer id change).peer other = hub.peer other := by
  rw [peer_updatePeer, if_neg]
  exact fun both => different both.1

theorem peer_updatePeer_self
    (change : Peer → Peer) (inside : id < hub.peers.size) :
    (hub.updatePeer id change).peer id = change (hub.peer id) := by
  rw [peer_updatePeer, if_pos ⟨rfl, inside⟩]

@[simp] theorem size_peers_updatePeer (change : Peer → Peer) :
    (hub.updatePeer id change).peers.size = hub.peers.size :=
  Table.size_update hub.peers id change

theorem peer_of_size_le (outside : hub.peers.size ≤ id) :
    hub.peer id = default := by
  have above : ¬ id < hub.peers.entries.size := Nat.not_lt.mpr outside
  simp [peer, Table.get, Array.getD, above]

theorem peer_addPeer (peer : Peer) :
    (hub.addPeer peer).peer id = if id = hub.peers.size then peer
      else hub.peer id :=
  Table.get_push hub.peers peer id

theorem size_peers_addPeer (peer : Peer) :
    (hub.addPeer peer).peers.size = hub.peers.size + 1 :=
  Table.size_push hub.peers peer

theorem peer_updatePeer_keeps
    {α : Type} {change : Peer → Peer} {view : Peer → α}
    (keeps : ∀ peer, view (change peer) = view peer) :
    view ((hub.updatePeer id change).peer other) = view (hub.peer other) := by
  rw [peer_updatePeer]
  split
  · exact keeps _
  · rfl

theorem closed_updatePeer
    {change : Peer → Peer}
    (closed : (change (hub.peer id)).closed = (hub.peer id).closed) :
    ((hub.updatePeer id change).peer other).closed =
      (hub.peer other).closed := by
  rw [peer_updatePeer]
  split
  · rename_i both
    rw [← both.1, closed]
  · rfl

/-! ### Links -/

theorem lt_size_of_link
    {link : Link} (connected : (hub.peer id).socket = .link link) :
    id < hub.peers.size := by
  apply Nat.lt_of_not_le
  intro outside
  rw [peer_of_size_le hub id outside] at connected
  cases connected

theorem peer_updateLink_self
    {link : Link} (connected : (hub.peer id).socket = .link link)
    (change : Link → Link) :
    (hub.updateLink id change).peer id =
      { hub.peer id with socket := .link (change link) } := by
  rw [updateLink, peer_updatePeer_self hub id _
    (lt_size_of_link hub id connected)]
  simp only [connected]

theorem peer_updateLink_of_ne (change : Link → Link) (different : id ≠ other) :
    (hub.updateLink id change).peer other = hub.peer other :=
  peer_updatePeer_of_ne hub id other _ different

/-! ### The registry -/

theorem registry_updatePeer {change : Peer → Peer}
    (keeps : ∀ peer, (change peer).registered = peer.registered) :
    (hub.updatePeer id change).registry = hub.registry := by
  unfold registry Table.numbers
  rw [size_peers_updatePeer]
  apply List.filter_congr
  intro other _
  exact peer_updatePeer_keeps hub id other keeps

theorem registry_renewDeadline (window : Span) :
    (hub.renewDeadline id window).registry = hub.registry :=
  registry_updatePeer hub id fun _ => rfl

theorem registry_setSocket (socket : Socket) :
    (hub.setSocket id socket).registry = hub.registry :=
  registry_updatePeer hub id fun _ => rfl

theorem registry_note (happening : Happening) :
    (hub.note happening).registry = hub.registry := rfl

/-! ### Tasks -/

theorem task_setTask (task : Task) (another : TaskId) :
    (hub.setTask number task).task another =
      if number = another ∧
      another < hub.tasks.size then task else hub.task another :=
  Table.get_update hub.tasks number another fun _ => task

theorem task_setTask_self (task : Task) (inside : number < hub.tasks.size) :
    (hub.setTask number task).task number = task := by
  rw [task_setTask, if_pos ⟨rfl, inside⟩]

theorem task_setTask_of_ne
    (task : Task) {another : TaskId} (different : number ≠ another) :
    (hub.setTask number task).task another = hub.task another := by
  rw [task_setTask, if_neg]
  exact fun both => different both.1

@[simp] theorem size_tasks_setTask (task : Task) :
    (hub.setTask number task).tasks.size = hub.tasks.size :=
  Table.size_update hub.tasks number fun _ => task

theorem task_of_size_le (outside : hub.tasks.size ≤ number) :
    hub.task number = default := by
  have above : ¬ number < hub.tasks.entries.size := Nat.not_lt.mpr outside
  simp [task, Table.get, Array.getD, above]

theorem lt_size_of_task (other : hub.task number ≠ default) :
    number < hub.tasks.size :=
  Nat.lt_of_not_le fun outside => other (task_of_size_le hub number outside)

theorem task_spawn (task : Task) (another : TaskId) :
    (hub.spawn task).task another =
      if another = hub.tasks.size then task else hub.task another :=
  Table.get_push hub.tasks task another

@[simp] theorem size_tasks_spawn (task : Task) :
    (hub.spawn task).tasks.size = hub.tasks.size + 1 :=
  Table.size_push hub.tasks task

@[simp] theorem ready_spawn (task : Task) :
    (hub.spawn task).ready = hub.ready ++ [hub.tasks.size] := rfl

/-! ### Ready tasks -/

theorem wake_eq : ∃ ready, hub.wake number = { hub with ready } ∧
    (∀ task, task ∈ ready ↔ task ∈ hub.ready ∨ task = number) := by
  unfold wake
  split
  · rename_i already
    refine ⟨hub.ready, rfl, fun task => ⟨Or.inl, ?_⟩⟩
    rintro (member | rfl)
    · exact member
    · exact List.contains_iff_mem.mp already
  · exact ⟨hub.ready ++ [number], rfl, fun task => by simp⟩

theorem wakeAll_eq (numbers : List TaskId) :
    ∃ ready, hub.wakeAll numbers = { hub with ready } ∧
      (∀ task, task ∈ ready ↔ task ∈ hub.ready ∨ task ∈ numbers) := by
  induction numbers generalizing hub with
  | nil => exact ⟨hub.ready, rfl, fun task => by simp⟩
  | cons first rest induction =>
      obtain ⟨ready, same, mem_ready⟩ := wake_eq hub first
      obtain ⟨last, sameLast, mem_last⟩ := induction (hub.wake first)
      refine ⟨last, ?_, fun task => ?_⟩
      · show (hub.wake first).wakeAll rest = _
        rw [sameLast, same]
      · rw [mem_last, same, mem_ready, List.mem_cons, or_assoc]

/-- Whom a hub wakes does not depend on what its tasks are or wait for. -/
theorem wakeAll_with (tasks : Table Task) (watches : List (TaskId × TaskId))
    (numbers : List TaskId) :
    ({ hub with tasks, watches } : Hub).wakeAll numbers =
      { hub.wakeAll numbers with tasks, watches } := by
  induction numbers generalizing hub with
  | nil => rfl
  | cons first rest induction =>
      have woken : ({ hub with tasks, watches } : Hub).wake first =
          { hub.wake first with tasks, watches } := by
        unfold wake
        split <;> rfl
      show (({ hub with tasks, watches } : Hub).wake first).wakeAll rest = _
      rw [woken]
      exact induction (hub.wake first)

theorem finish_eq_wakeAll (outcome : Outcome) :
    hub.finish number outcome =
      { (hub.wakeAll ((hub.watches.filter fun entry => entry.1 = number).map
        Prod.snd)).setTask
          number (.finished outcome) with
        watches := hub.watches.filter fun entry => entry.1 ≠ number } := by
  have woken := wakeAll_with hub (hub.setTask number (.finished outcome)).tasks
    (hub.watches.filter fun entry => entry.1 ≠ number)
    ((hub.watches.filter fun entry => entry.1 = number).map Prod.snd)
  obtain ⟨ready, same, -⟩ := wakeAll_eq hub
    ((hub.watches.filter fun entry => entry.1 = number).map Prod.snd)
  refine Eq.trans ?_ (woken.trans ?_)
  · rfl
  · rw [same]
    rfl

theorem foldl_watch_eq (watched : List TaskId) (watcher : TaskId) :
    ∃ watches, watched.foldl (fun hub task => hub.watch task watcher) hub =
      { hub with watches } ∧
      ∀ watch ∈ watches, watch ∈ hub.watches ∨ watch.2 = watcher := by
  induction watched generalizing hub with
  | nil => exact ⟨hub.watches, rfl, fun _ => .inl⟩
  | cons first rest induction =>
      obtain ⟨watches, same, listed⟩ := induction (hub.watch first watcher)
      refine ⟨watches, same, fun watch member => ?_⟩
      rcases listed watch member with earlier | new
      · rcases List.mem_cons.mp earlier with rfl | before
        · exact .inr rfl
        · exact .inl before
      · exact .inr new

theorem finish_eq (outcome : Outcome) :
    ∃ ready watches, hub.finish number outcome =
        { hub.setTask number (.finished outcome) with ready, watches } ∧
      ∀ task ∈ hub.ready, task ∈ ready := by
  obtain ⟨ready, same, mem_ready⟩ := wakeAll_eq
    { hub.setTask number (.finished outcome) with
      watches := hub.watches.filter fun entry => entry.1 ≠ number }
    ((hub.watches.filter fun entry => entry.1 = number).map Prod.snd)
  exact ⟨ready, _, same, fun task member => (mem_ready task).mpr (.inl member)⟩

theorem task_finish_self
    (outcome : Outcome) (inside : number < hub.tasks.size) :
    (hub.finish number outcome).task number = .finished outcome := by
  obtain ⟨ready, watches, same, -⟩ := finish_eq hub number outcome
  rw [same]
  exact task_setTask_self hub number _ inside

@[simp] theorem chronicle_finish (outcome : Outcome) :
    (hub.finish number outcome).chronicle = hub.chronicle := by
  obtain ⟨ready, watches, same, -⟩ := finish_eq hub number outcome
  rw [same]
  rfl

@[simp] theorem peer_finish (outcome : Outcome) :
    (hub.finish number outcome).peer id = hub.peer id := by
  obtain ⟨ready, watches, same, -⟩ := finish_eq hub number outcome
  rw [same]
  rfl

/-! ### Closing -/

theorem close_eq :
    (∃ ready, hub.close id =
      { hub.updatePeer id fun peer => { peer with closed := true } with
        ready }) ∨
    hub.close id = hub ∧ (hub.peer id).closed = true := by
  unfold close
  split
  · rename_i already
    exact .inr ⟨rfl, already⟩
  · obtain ⟨ready, same, -⟩ := wakeAll_eq
      (hub.updatePeer id fun peer => { peer with closed := true })
      (hub.closeWaiters id)
    exact .inl ⟨ready, same⟩

theorem closed_close (inside : id < hub.peers.size) :
    ((hub.close id).peer id).closed = true := by
  obtain ⟨ready, same⟩ | ⟨same, already⟩ := close_eq hub id
  · rw [same]
    show ((hub.updatePeer id fun peer => { peer with closed := true }).peer
      id).closed = true
    rw [peer_updatePeer_self hub id _ inside]
  · rw [same]
    exact already

@[simp] theorem chronicle_close : (hub.close id).chronicle = hub.chronicle := by
  obtain ⟨ready, same⟩ | ⟨same, -⟩ := close_eq hub id
  · rw [same]
    rfl
  · rw [same]

@[simp] theorem tasks_close : (hub.close id).tasks = hub.tasks := by
  obtain ⟨ready, same⟩ | ⟨same, -⟩ := close_eq hub id
  · rw [same]
    rfl
  · rw [same]

/-! ### Ends of writes -/

section

variable (result : Except Fault Unit)

theorem task_finishDelivery (inside : number < hub.tasks.size) :
    (hub.finishDelivery number id result).task number =
      .finished (.delivered (Except.isOk result)) := by
  cases result with
  | ok => exact task_finish_self (hub.count _) number _ inside
  | error fault =>
      refine task_finish_self ((hub.count _).close id) number _ ?_
      rw [tasks_close]
      exact inside

@[simp] theorem chronicle_finishDelivery :
    (hub.finishDelivery number id result).chronicle = hub.chronicle := by
  cases result with
  | ok => exact chronicle_finish (hub.count _) number _
  | error fault =>
      exact (chronicle_finish ((hub.count _).close id) number _).trans
        (chronicle_close (hub.count _) id)

theorem closed_finishDelivery (inside : id < hub.peers.size)
    (failed : Except.isOk result = false) :
    ((hub.finishDelivery number id result).peer id).closed = true := by
  cases result with
  | ok => cases failed
  | error fault =>
      rw [finishDelivery, peer_finish]
      exact closed_close (hub.count _) id inside

end

/-! ### Alarms -/

theorem toList_tasks :
    hub.tasks.toList = hub.tasks.numbers.map fun number =>
      (number, hub.task number) := by
  apply List.ext_getElem
  · simp [Table.toList, Table.numbers, Table.size]
  · intro position first second
    have below : position < hub.tasks.entries.size := by
      simpa [Table.toList] using first
    simp [Table.toList, Table.numbers, task, Table.get, Array.getD, below]

theorem mem_toList_tasks (inside : number < hub.tasks.size) :
    (number, hub.task number) ∈ hub.tasks.toList := by
  rw [toList_tasks]
  exact List.mem_map.mpr ⟨number, List.mem_range.mpr inside, rfl⟩

theorem alarms_eq :
    hub.alarms = hub.tasks.numbers.flatMap fun number =>
      (hub.task number).alarms.map fun alarm => (alarm, number) := by
  rw [alarms, toList_tasks, List.flatMap_map]

theorem mem_alarms
    {alarm : Alarm} (inside : number < hub.tasks.size)
    (member : alarm ∈ (hub.task number).alarms) :
    (alarm, number) ∈ hub.alarms :=
  List.mem_flatMap.mpr
    ⟨_, mem_toList_tasks hub number inside,
      List.mem_map.mpr ⟨alarm, member, rfl⟩⟩

theorem lt_size_of_mem_alarms
    {alarm : Alarm} (member : (alarm, number) ∈ hub.alarms) :
    number < hub.tasks.size := by
  rw [alarms_eq] at member
  obtain ⟨task, listed, isAlarm⟩ := List.mem_flatMap.mp member
  obtain ⟨_, -, same⟩ := List.mem_map.mp isAlarm
  cases same
  exact List.mem_range.mp listed

theorem closeWaiters_eq :
    hub.closeWaiters id =
      hub.tasks.numbers.filter fun number =>
        awaitsClose id (hub.task number) := by
  rw [closeWaiters, toList_tasks, List.filter_map, List.map_map]
  exact List.map_id _

theorem lt_size_of_closeWaiters :
    ∀ number ∈ hub.closeWaiters id, number < hub.tasks.size := by
  intro number waits
  rw [closeWaiters_eq] at waits
  exact List.mem_range.mp (List.mem_filter.mp waits).1

theorem mem_closeWaiters (awaits : awaitsClose id (hub.task number) = true) :
    number ∈ hub.closeWaiters id := by
  have inside : number < hub.tasks.size := by
    apply lt_size_of_task
    intro same
    rw [same] at awaits
    cases awaits
  rw [closeWaiters_eq]
  exact List.mem_filter.mpr ⟨List.mem_range.mpr inside, awaits⟩

theorem ring_eq :
    ∃ ready, hub.ring = { hub with ready } ∧
    (∀ task ∈ hub.ready, task ∈ ready) ∧
    ∀ alarm task, (alarm, task) ∈ hub.alarms → alarm.hasRung hub.now = true →
    task ∈ ready := by
  obtain ⟨ready, same, mem_ready⟩ := wakeAll_eq hub
    (((hub.alarms.filter fun entry => entry.1.hasRung hub.now).mergeSort
      fun first second => first.1.ringsBefore second.1).map Prod.snd)
  refine ⟨ready, same, fun task member => (mem_ready task).mpr (.inl member),
    ?_⟩
  intro alarm task member rung
  refine (mem_ready task).mpr (.inr (List.mem_map.mpr ⟨(alarm, task), ?_, rfl⟩))
  exact List.mem_mergeSort.mpr (List.mem_filter.mpr ⟨member, rung⟩)

theorem ring_eq_wake
    {alarm : Alarm}
    (rung : hub.alarms.filter (fun (alarm, _) => alarm.hasRung hub.now) =
      [(alarm, number)]) :
    hub.ring = hub.wake number := by
  unfold ring
  simp only [rung, List.mergeSort_singleton]
  rfl

theorem ring_eq_self
    (rung : hub.alarms.filter (fun (alarm, _) => alarm.hasRung hub.now) = []) :
    hub.ring = hub := by
  unfold ring
  simp only [rung, List.mergeSort_nil]
  rfl

@[simp] theorem chronicle_ring : hub.ring.chronicle = hub.chronicle := by
  obtain ⟨ready, same, -⟩ := ring_eq hub
  rw [same]

@[simp] theorem tasks_ring : hub.ring.tasks = hub.tasks := by
  obtain ⟨ready, same, -⟩ := ring_eq hub
  rw [same]

@[simp] theorem peers_ring : hub.ring.peers = hub.peers := by
  obtain ⟨ready, same, -⟩ := ring_eq hub
  rw [same]

end BroadcastHub.Server.Hub
