import BroadcastHub.Proofs.Server.Views

/-!
# The order of those that can go on

Whoever becomes ready stands behind those that are ready already, and tasks that
are started stand in the order of their numbers.  Only a task that goes on may
put itself before others.  `Queued` says so of a step; it needs that all tasks
of which a hub speaks are there, which is `Grounded`.
-/

namespace BroadcastHub.Server

/-- All tasks of which a hub speaks are there. -/
structure Grounded (hub : Hub) : Prop where
  ready : ∀ task ∈ hub.ready, task < hub.tasks.size
  holder : ∀ id task, (hub.peer id).turn.holder = some task →
    task < hub.tasks.size
  waiting : ∀ id, ∀ task ∈ (hub.peer id).turn.waiting, task < hub.tasks.size
  watchers : ∀ watch ∈ hub.watches, watch.2 < hub.tasks.size

namespace Grounded

variable {before after : Hub}

theorem start (configuration : Configuration) (chance : Nat → Nat) :
    Grounded { Hub.start configuration with chance } := by
  have noPeer :
      ∀ id, ({ Hub.start configuration with chance } : Hub).peer id = default :=
    fun id => Hub.peer_of_size_le _ id (Nat.zero_le id)
  refine ⟨by rintro _ ⟨⟩, fun id task held => ?_,
    fun id task waits => ?_, by rintro _ ⟨⟩⟩
  · rw [noPeer] at held
    cases held
  · rw [noPeer] at waits
    cases waits

theorem keep
    (grounded : Grounded before)
    (tasks_le : before.tasks.size ≤ after.tasks.size)
    (ready : ∀ task ∈ after.ready, task < after.tasks.size)
    (turn : ∀ id, (after.peer id).turn = (before.peer id).turn)
    (watches : ∀ watch ∈ after.watches, watch ∈ before.watches) :
    Grounded after where
  ready := ready
  holder id task held := by
    rw [turn] at held
    exact Nat.lt_of_lt_of_le (grounded.holder id task held) tasks_le
  waiting id task waits := by
    rw [turn] at waits
    exact Nat.lt_of_lt_of_le (grounded.waiting id task waits) tasks_le
  watchers watch member :=
    Nat.lt_of_lt_of_le (grounded.watchers watch (watches watch member)) tasks_le

theorem keepReady
    (grounded : Grounded before) (peers : after.peers = before.peers)
    (tasks : after.tasks = before.tasks)
    (watches : ∀ watch ∈ after.watches, watch ∈ before.watches)
    (ready : ∀ task ∈ after.ready, task < after.tasks.size) :
    Grounded after := by
  refine grounded.keep (Nat.le_of_eq (by rw [tasks])) ready
    (fun id => ?_) watches
  rw [Hub.peer, peers]
  rfl

theorem updatePeer
    {hub : Hub} (grounded : Grounded hub) {id : PeerId} {change : Peer → Peer}
    (holder : ∀ task, (change (hub.peer id)).turn.holder = some task →
      task < hub.tasks.size)
    (waiting : ∀ task ∈ (change (hub.peer id)).turn.waiting,
      task < hub.tasks.size) :
    Grounded (hub.updatePeer id change) where
  ready := grounded.ready
  holder other task held := by
    rw [Hub.peer_updatePeer] at held
    split at held
    · rename_i both
      rw [← both.1] at held
      exact holder task held
    · exact grounded.holder other task held
  waiting other task waits := by
    rw [Hub.peer_updatePeer] at waits
    split at waits
    · rename_i both
      rw [← both.1] at waits
      exact waiting task waits
    · exact grounded.waiting other task waits
  watchers := grounded.watchers

theorem release
    {hub : Hub} (grounded : Grounded hub) (id : PeerId) (task : TaskId) :
    ((hub.peer id).turn.release.holder = some task → task < hub.tasks.size) ∧
      (task ∈ (hub.peer id).turn.release.waiting → task < hub.tasks.size) := by
  have waits := grounded.waiting id
  unfold Turn.release
  split
  · rename_i nobody
    rw [nobody]
    exact ⟨by rintro ⟨⟩, by rintro ⟨⟩⟩
  · rename_i next rest line
    rw [line] at waits
    refine ⟨?_, fun member => waits task (List.mem_cons_of_mem _ member)⟩
    rintro ⟨⟩
    exact waits _ List.mem_cons_self

end Grounded

/-- Those that can go on, apart from a task that goes on already. -/
def Hub.readyBut (hub : Hub) (running : Option TaskId) : List TaskId :=
  hub.ready.filter fun task => running ≠ some task

/-- Who becomes ready in a step stands behind those that are ready, and those
that are new stand in the order of their numbers. -/
structure Queued (running : Option TaskId) (before after : Hub) : Prop where
  grounded : Grounded after
  behind : ∃ woken, after.readyBut running = before.readyBut running ++ woken ∧
    (∀ task ∈ woken, task ∉ before.ready) ∧
    (woken.filter fun task => before.tasks.size ≤ task).Pairwise (· < ·)

namespace Queued

variable {running : Option TaskId} {first second third before after : Hub}

theorem ofSame
    (grounded : Grounded after)
    (ready : after.readyBut running = before.readyBut running) :
    Queued running before after :=
  ⟨grounded, [], by rw [ready, List.append_nil], by rintro _ ⟨⟩, .nil⟩

theorem updatePeer {hub : Hub} {id : PeerId} {change : Peer → Peer}
    (grounded : Grounded (hub.updatePeer id change)) :
    Queued running hub (hub.updatePeer id change) :=
  ofSame grounded rfl

theorem trans
    (one : Queued running first second) (two : Queued running second third)
    (tasks_le : first.tasks.size ≤ second.tasks.size)
    (started : ∀ task, first.tasks.size ≤ task → task < second.tasks.size →
      task ∈ second.ready) :
    Queued running first third := by
  obtain ⟨early, sameEarly, newEarly, risesEarly⟩ := one.behind
  obtain ⟨late, sameLate, newLate, risesLate⟩ := two.behind
  have awake : ∀ task ∈ early, task ∈ second.ready := by
    intro task member
    have listed : task ∈ second.readyBut running := by
      rw [sameEarly]
      exact List.mem_append_right _ member
    exact (List.mem_filter.mp listed).1
  have apart : ∀ task ∈ late, decide (running ≠ some task) = true := by
    intro task member
    have listed : task ∈ third.readyBut running := by
      rw [sameLate]
      exact List.mem_append_right _ member
    exact (List.mem_filter.mp listed).2
  refine ⟨two.grounded, early ++ late, ?_, fun task member wasReady => ?_, ?_⟩
  · rw [sameLate, sameEarly, List.append_assoc]
  · rcases List.mem_append.mp member with inEarly | inLate
    · exact newEarly task inEarly wasReady
    · have listed : task ∈ second.readyBut running := by
        rw [sameEarly]
        exact List.mem_append_left _
          (List.mem_filter.mpr ⟨wasReady, apart task inLate⟩)
      exact newLate task inLate (List.mem_filter.mp listed).1
  · -- Those that were started in the first step are ready after it.
    have narrow : late.filter (fun task => first.tasks.size ≤ task) =
        late.filter fun task => second.tasks.size ≤ task := by
      refine List.filter_congr fun task member => 
        decide_eq_decide.mpr ⟨fun above => ?_, Nat.le_trans tasks_le⟩
      exact Nat.le_of_not_lt fun below =>
        newLate task member (started task above below)
    rw [List.filter_append, narrow]
    refine List.pairwise_append.mpr ⟨risesEarly, risesLate,
      fun older inEarly newer inLate => ?_⟩
    have below :=
      one.grounded.ready older (awake older (List.mem_filter.mp inEarly).1)
    exact Nat.lt_of_lt_of_le below
      (of_decide_eq_true (List.mem_filter.mp inLate).2)

theorem wake
    {hub : Hub} (grounded : Grounded hub) {number : TaskId}
    (inside : number < hub.tasks.size) :
    Queued running hub (hub.wake number) := by
  have still : Grounded (hub.wake number) := by
    obtain ⟨ready, same, mem_ready⟩ := Hub.wake_eq hub number
    rw [same]
    refine grounded.keepReady rfl rfl (fun _ member => member)
      fun task member => ?_
    rcases (mem_ready task).mp member with earlier | rfl
    · exact grounded.ready task earlier
    · exact inside
  by_cases already : number ∈ hub.ready
  · have same : hub.wake number = hub :=
      if_pos (List.contains_iff_mem.mpr already)
    exact .ofSame still (by rw [same])
  · have same : hub.wake number = { hub with ready := hub.ready ++ [number] } :=
      if_neg fun listed => already (List.contains_iff_mem.mp listed)
    refine ⟨still, [number].filter fun task => running ≠ some task, ?_,
      fun task member => ?_, ?_⟩
    · rw [same]
      exact List.filter_append ..
    · rw [List.mem_singleton.mp (List.mem_filter.mp member).1]
      exact already
    · exact ((List.pairwise_singleton _ number).filter _).filter _

theorem wakeAll {hub : Hub} (grounded : Grounded hub) {numbers : List TaskId}
    (inside : ∀ number ∈ numbers, number < hub.tasks.size) :
    Queued running hub (hub.wakeAll numbers) := by
  induction numbers generalizing hub with
  | nil => exact .ofSame grounded rfl
  | cons first rest induction =>
      have ⟨firstInside, restInside⟩ := List.forall_mem_cons.mp inside
      have woken : Queued running hub (hub.wake first) :=
        wake grounded firstInside
      have sameTasks : (hub.wake first).tasks = hub.tasks := by
        obtain ⟨ready, same, -⟩ := Hub.wake_eq hub first
        rw [same]
      refine woken.trans (induction woken.grounded ?_) ?_
        fun task above below => ?_
      · rw [sameTasks]
        exact restInside
      · exact Nat.le_of_eq (by rw [sameTasks])
      · rw [sameTasks] at below
        exact absurd below (Nat.not_lt.mpr above)

theorem ring {hub : Hub} (grounded : Grounded hub) :
    Queued running hub hub.ring := by
  refine wakeAll grounded fun number member => ?_
  obtain ⟨⟨alarm, task⟩, listed, rfl⟩ := List.mem_map.mp member
  have isAlarm := (List.mem_filter.mp (List.mem_mergeSort.mp listed)).1
  exact hub.lt_size_of_mem_alarms task isAlarm

/-- New tasks are started one after the other. -/
theorem start
    {count : Nat} (grounded : Grounded before)
    (inside : ∀ task, running = some task → task < before.tasks.size)
    (peers : after.peers = before.peers)
    (watches : ∀ watch ∈ after.watches, watch ∈ before.watches ∨
      watch.2 < after.tasks.size)
    (size : after.tasks.size = before.tasks.size + count)
    (ready : after.ready =
      before.ready ++ (List.range count).map fun position =>
        before.tasks.size + position) :
    Queued running before after := by
  have tasks_le : before.tasks.size ≤ after.tasks.size := by
    rw [size]
    exact Nat.le_add_right _ _
  have turn : ∀ id, (after.peer id).turn = (before.peer id).turn := by
    intro id
    rw [Hub.peer, peers]
    rfl
  refine ⟨⟨fun task member => ?_, ?_, ?_, fun watch member => ?_⟩,
    (List.range count).map (fun position => before.tasks.size + position), ?_,
    fun task member => ?_, ?_⟩
  · rw [ready] at member
    rcases List.mem_append.mp member with earlier | new
    · exact Nat.lt_of_lt_of_le (grounded.ready task earlier) tasks_le
    · obtain ⟨position, listed, rfl⟩ := List.mem_map.mp new
      rw [size]
      exact Nat.add_lt_add_left (List.mem_range.mp listed) _
  · intro id task held
    rw [turn] at held
    exact Nat.lt_of_lt_of_le (grounded.holder id task held) tasks_le
  · intro id task waits
    rw [turn] at waits
    exact Nat.lt_of_lt_of_le (grounded.waiting id task waits) tasks_le
  · rcases watches watch member with earlier | there
    · exact Nat.lt_of_lt_of_le (grounded.watchers watch earlier) tasks_le
    · exact there
  · have kept :
        ((List.range count).map fun position =>
          before.tasks.size + position).filter
        (fun task => running ≠ some task) = _ :=
      List.filter_eq_self.mpr fun task member => by
        obtain ⟨position, -, rfl⟩ := List.mem_map.mp member
        refine decide_eq_true fun own => ?_
        exact Nat.not_lt.mpr (Nat.le_add_right _ _) (inside _ own)
    rw [Hub.readyBut, ready, List.filter_append, kept]
    rfl
  · obtain ⟨position, -, rfl⟩ := List.mem_map.mp member
    intro wasReady
    exact Nat.not_lt.mpr (Nat.le_add_right _ _) (grounded.ready _ wasReady)
  · refine List.Pairwise.filter _ (List.pairwise_map.mpr ?_)
    exact List.pairwise_lt_range.imp fun less => Nat.add_lt_add_left less _

/-- A task that goes on may stand before all others. -/
theorem again
    {hub : Hub} (grounded : Grounded hub) {number : TaskId}
    (inside : number < hub.tasks.size) :
    Queued (some number) hub (hub.again number) := by
  refine .ofSame (grounded.keepReady rfl rfl (fun _ member => member)
    fun task member => ?_) ?_
  · rcases List.mem_cons.mp member with rfl | earlier
    · exact inside
    · exact grounded.ready task (List.mem_filter.mp earlier).1
  · simp only [Hub.readyBut, Hub.again, List.filter_cons, List.filter_filter]
    simp only [ne_eq, not_true_eq_false, decide_false,
      Bool.false_eq_true, if_false]
    refine List.filter_congr fun other _ => ?_
    by_cases same : other = number
    · simp [same]
    · simp [same, Ne.symm same]

theorem takeUp {hub : Hub} (grounded : Grounded hub) (number : TaskId) :
    Queued (some number) hub { hub with ready := hub.ready.erase number } := by
  refine .ofSame (grounded.keepReady rfl rfl (fun _ member => member)
    fun task member =>
    grounded.ready task (List.mem_of_mem_erase member)) ?_
  show (hub.ready.erase number).filter _ = hub.ready.filter _
  rw [← List.erase_filter]
  refine List.erase_of_not_mem fun member => ?_
  exact of_decide_eq_true (List.mem_filter.mp member).2 rfl

end Queued

end BroadcastHub.Server
