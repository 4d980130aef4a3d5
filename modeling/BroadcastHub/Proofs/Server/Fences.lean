import BroadcastHub.Proofs.Server.Views

/-!
# A fence around one session

The tasks of a server are divided into those that only concern one session,
together with those that only count what has become of others, and the rest.
`Fenced` says that nothing of the rest serves that session, waits for it or
stands in its line, and nobody of the rest waits for the end of another task.
`Enclosed` says what a step leaves that stays on the session's side: the other
sessions as they are, and the rest ready in the same order.
-/

namespace BroadcastHub.Server

/-- Whether a task concerns no session but one.  A task that counts the
deliveries of a broadcast, answers a request for an unknown session or is over
concerns none. -/
def Task.isWithin (id : PeerId) : Task → Bool
  | attend peer _ => peer = id
  | deliver peer _ _ _ => peer = id
  | pong (some peer) _ _ => peer = id
  | pong none _ _ => true
  | send peer _ _ _ => peer = id
  | sendClose peer _ => peer = id
  | awaitClose peer => peer = id
  | tally _ => true
  | finished _ => true
  | linger _ _ => false
  | drain _ _ _ => false
  | converse _ => false

theorem Task.isWithin_of_isFinished
    {task : Task} (id : PeerId) (finished : task.isFinished = true) :
    task.isWithin id = true := by
  cases task <;> first | rfl | cases finished

def Entry.isAnnouncement (entry : Entry) : Bool :=
  match entry.happening with
  | .broadcast _ _ _ _ => true
  | _ => false

namespace Hub

/-- Those of some tasks that can go on, next one first. -/
def queue (hub : Hub) (others : List TaskId) : List TaskId :=
  hub.ready.filter fun task => task ∈ others

/-- The number of broadcasts so far. -/
def announcements (hub : Hub) : Nat := hub.chronicle.countP Entry.isAnnouncement

end Hub

/-- A task that is there and not one of the given ones. -/
structure Hub.Excludes
    (hub : Hub) (others : List TaskId) (task : TaskId) : Prop where
  below : task < hub.tasks.size
  elsewhere : task ∉ others

/-- What the given tasks do does not depend on the tasks of one session, and no
other tasks concern any other session. -/
structure Fenced (id : PeerId) (others : List TaskId) (hub : Hub) : Prop where
  within : ∀ task, task ∉ others → (hub.task task).isWithin id = true
  below : ∀ task ∈ others, task < hub.tasks.size
  unmoved : ∀ task ∈ others, Hub.awaitsClose id (hub.task task) = false
  ready : ∀ task ∈ hub.ready, task < hub.tasks.size
  holder : ∀ task, (hub.peer id).turn.holder = some task →
    hub.Excludes others task
  waiting : ∀ task ∈ (hub.peer id).turn.waiting, hub.Excludes others task
  attendant : ∀ task, (hub.peer id).attendant = some task →
    hub.Excludes others task
  watchers : ∀ watch ∈ hub.watches, hub.Excludes others watch.2

/-- A step stays inside the fence around a session. -/
structure Enclosed
    (id : PeerId) (others : List TaskId) (before after : Hub) : Prop where
  fenced : Fenced id others after
  peer : ∀ other, other ≠ id → after.peer other = before.peer other
  queue : after.queue others = before.queue others
  alarms_le : before.alarmsSet ≤ after.alarmsSet

namespace Hub

variable (hub : Hub) {others : List TaskId} {number : TaskId}

theorem announcements_note_broadcast
    (first : TaskId) (recipients : List PeerId) (frame : Frame) (limit : Span) :
    (hub.note (.broadcast first recipients frame limit)).announcements =
      hub.announcements + 1 :=
  List.countP_cons_of_pos rfl

/-- Puts a task behind a queue unless it stands there already. -/
def enqueue (queue : List TaskId) (task : TaskId) : List TaskId :=
  if task ∈ queue then queue else queue ++ [task]

theorem queue_wake :
    (hub.wake number).queue others =
      if number ∈ others then enqueue (hub.queue others) number
        else hub.queue others := by
  have mem_queue :
      number ∈ others → (number ∈ hub.queue others ↔ number ∈ hub.ready) := by
    intro kept
    simp [queue, kept]
  unfold wake enqueue
  by_cases kept : number ∈ others
  · by_cases already : number ∈ hub.ready
    · simp [kept, already, mem_queue kept]
    · simp [kept, already, queue]
  · by_cases already : number ∈ hub.ready
    · simp [kept, already]
    · simp [kept, already, queue]

theorem queue_wakeAll (numbers : List TaskId) :
    (hub.wakeAll numbers).queue others =
      (numbers.filter fun number => number ∈ others).foldl enqueue
        (hub.queue others) := by
  induction numbers generalizing hub with
  | nil => rfl
  | cons first rest induction =>
      have later := (induction (hub.wake first)).trans (by rw [queue_wake])
      refine later.trans ?_
      by_cases kept : first ∈ others
      · simp [kept]
      · simp [kept]

theorem queue_again (elsewhere : number ∉ others) :
    (hub.again number).queue others = hub.queue others := by
  simp only [again, queue, List.filter_cons, elsewhere, decide_false,
    Bool.false_eq_true, if_false, List.filter_filter]
  refine List.filter_congr fun other _ => ?_
  by_cases same : other = number
  · simp [same, elsewhere]
  · simp [same]

theorem queue_erase (elsewhere : number ∉ others) :
    ({ hub with ready := hub.ready.erase number } : Hub).queue others =
      hub.queue others := by
  show (hub.ready.erase number).filter _ = _
  rw [← List.erase_filter]
  refine List.erase_of_not_mem fun member => ?_
  exact elsewhere (of_decide_eq_true (List.mem_filter.mp member).2)

end Hub

namespace Fenced

variable {id : PeerId} {others : List TaskId} {before after : Hub}

theorem nextTask_notMem (fenced : Fenced id others before) :
    before.tasks.size ∉ others :=
  fun member => Nat.lt_irrefl _ (fenced.below _ member)

theorem closeWaiters (fenced : Fenced id others before) :
    ∀ task ∈ before.closeWaiters id, before.Excludes others task := by
  intro task member
  rw [Hub.closeWaiters_eq] at member
  obtain ⟨inside, awaits⟩ := List.mem_filter.mp member
  refine ⟨List.mem_range.mp inside, fun kept => ?_⟩
  exact absurd awaits (by simp [fenced.unmoved task kept])

/-- Steps that leave peers and tasks alone. -/
theorem mono
    (fenced : Fenced id others before) (peers : after.peers = before.peers)
    (tasks : after.tasks = before.tasks)
    (watches : ∀ watch ∈ after.watches, watch ∈ before.watches)
    (ready : ∀ task ∈ after.ready, task < before.tasks.size) :
    Fenced id others after := by
  have samePeer : after.peer id = before.peer id := by
    rw [Hub.peer, peers]
    rfl
  have sameTask : ∀ task, after.task task = before.task task := fun task => by
    rw [Hub.task, tasks]
    rfl
  have excludes :
      ∀ task, before.Excludes others task → after.Excludes others task :=
    fun task excluded => ⟨tasks ▸ excluded.below, excluded.elsewhere⟩
  refine ⟨?_, ?_, ?_, ?_, ?_, ?_, ?_, ?_⟩
  · intro task elsewhere
    rw [sameTask]
    exact fenced.within task elsewhere
  · rw [tasks]
    exact fenced.below
  · intro task kept
    rw [sameTask]
    exact fenced.unmoved task kept
  · rw [tasks]
    exact ready
  · rw [samePeer]
    exact fun task held => excludes task (fenced.holder task held)
  · rw [samePeer]
    exact fun task waits => excludes task (fenced.waiting task waits)
  · rw [samePeer]
    exact fun task attends => excludes task (fenced.attendant task attends)
  · exact fun watch member =>
      excludes _ (fenced.watchers watch (watches watch member))

theorem wakeAll (fenced : Fenced id others before) {numbers : List TaskId}
    (below : ∀ number ∈ numbers, number < before.tasks.size) :
    Fenced id others (before.wakeAll numbers) := by
  obtain ⟨ready, same, mem_ready⟩ := Hub.wakeAll_eq before numbers
  rw [same]
  refine fenced.mono rfl rfl (fun _ member => member) fun task member => ?_
  rcases (mem_ready task).mp member with earlier | woken
  · exact fenced.ready task earlier
  · exact below task woken

/-- A change of one peer, which may be that of the session if it keeps to those
who are on its side. -/
theorem updatePeer
    (fenced : Fenced id others before) {peer : PeerId} {change : Peer → Peer}
    (holder : peer = id →
      ∀ task, (change (before.peer id)).turn.holder = some task →
        before.Excludes others task)
    (waiting : peer = id → ∀ task ∈ (change (before.peer id)).turn.waiting,
      before.Excludes others task)
    (attendant : peer = id →
      (change (before.peer id)).attendant = (before.peer id).attendant) :
    Fenced id others (before.updatePeer peer change) := by
  have own : (peer = id ∧
    (before.updatePeer peer change).peer id = change (before.peer id)) ∨
      (before.updatePeer peer change).peer id = before.peer id := by
    rw [Hub.peer_updatePeer]
    split
    · rename_i both
      exact .inl ⟨both.1, rfl⟩
    · exact .inr rfl
  exact
    { within := fenced.within
      below := fenced.below
      unmoved := fenced.unmoved
      ready := fenced.ready
      holder := fun task held => by
        rcases own with ⟨isOwn, same⟩ | same <;> rw [same] at held
        · exact ⟨(holder isOwn task held).below,
            (holder isOwn task held).elsewhere⟩
        · exact ⟨(fenced.holder task held).below,
            (fenced.holder task held).elsewhere⟩
      waiting := fun task waits => by
        rcases own with ⟨isOwn, same⟩ | same <;> rw [same] at waits
        · exact ⟨(waiting isOwn task waits).below,
            (waiting isOwn task waits).elsewhere⟩
        · exact ⟨(fenced.waiting task waits).below,
            (fenced.waiting task waits).elsewhere⟩
      attendant := fun task attends => by
        have before : (before.peer id).attendant = some task := by
          rcases own with ⟨isOwn, same⟩ | same <;> rw [same] at attends
          · exact (attendant isOwn).symm.trans attends
          · exact attends
        exact ⟨(fenced.attendant task before).below,
          (fenced.attendant task before).elsewhere⟩
      watchers := fun watch member =>
        ⟨(fenced.watchers watch member).below,
          (fenced.watchers watch member).elsewhere⟩ }

theorem setTask
    (fenced : Fenced id others before) {number : TaskId} {task : Task}
    (within : number ∉ others → task.isWithin id = true)
    (unmoved : number ∈ others → Hub.awaitsClose id task = false) :
    Fenced id others (before.setTask number task) := by
  have excludes : ∀ task', before.Excludes others task' →
      (before.setTask number task).Excludes others task' :=
    fun task' excluded =>
      ⟨by rw [Hub.size_tasks_setTask]; exact excluded.below, excluded.elsewhere⟩
  refine ⟨?_, ?_, ?_, ?_, ?_, ?_, ?_, ?_⟩
  · intro other outside
    rw [Hub.task_setTask]
    split
    · rename_i both
      exact within (both.1 ▸ outside)
    · exact fenced.within other outside
  · rw [Hub.size_tasks_setTask]
    exact fenced.below
  · intro other kept
    rw [Hub.task_setTask]
    split
    · rename_i both
      exact unmoved (both.1 ▸ kept)
    · exact fenced.unmoved other kept
  · rw [Hub.size_tasks_setTask]
    exact fenced.ready
  · exact fun other held => excludes other (fenced.holder other held)
  · exact fun other waits => excludes other (fenced.waiting other waits)
  · exact fun other attends => excludes other (fenced.attendant other attends)
  · exact fun watch member => excludes _ (fenced.watchers watch member)

/-- A new task counts among the others or concerns the session only. -/
theorem spawn
    (fenced : Fenced id others before) {task : Task} {more : List TaskId}
    (side : task.isWithin id = true ∧ more = [] ∨
      Hub.awaitsClose id task = false ∧ more = [before.tasks.size]) :
    Fenced id (others ++ more) (before.spawn task) := by
  have excludes : ∀ number, before.Excludes others number →
      (before.spawn task).Excludes (others ++ more) number := by
    rintro number ⟨below, elsewhere⟩
    refine ⟨by rw [Hub.size_tasks_spawn]; exact Nat.lt_succ_of_lt below,
      fun member => ?_⟩
    rcases List.mem_append.mp member with kept | new
    · exact elsewhere kept
    · rcases side with ⟨-, rfl⟩ | ⟨-, rfl⟩
      · cases new
      · exact absurd (List.mem_singleton.mp new) (Nat.ne_of_lt below)
  refine ⟨?_, ?_, ?_, ?_, ?_, ?_, ?_, ?_⟩
  · intro number outside
    rw [Hub.task_spawn]
    split
    · rename_i last
      rcases side with ⟨within, -⟩ | ⟨-, rfl⟩
      · exact within
      · exact absurd (List.mem_append_right others
          (List.mem_singleton.mpr last)) outside
    · exact fenced.within number fun kept =>
        outside (List.mem_append_left more kept)
  · intro number kept
    rw [Hub.size_tasks_spawn]
    rcases List.mem_append.mp kept with earlier | new
    · exact Nat.lt_succ_of_lt (fenced.below number earlier)
    · rcases side with ⟨-, rfl⟩ | ⟨-, rfl⟩
      · cases new
      · rw [List.mem_singleton.mp new]
        exact Nat.lt_succ_self _
  · intro number kept
    rw [Hub.task_spawn]
    rcases List.mem_append.mp kept with earlier | new
    · rw [if_neg (Nat.ne_of_lt (fenced.below number earlier))]
      exact fenced.unmoved number earlier
    · rcases side with ⟨-, rfl⟩ | ⟨unmoved, rfl⟩
      · cases new
      · rw [if_pos (List.mem_singleton.mp new)]
        exact unmoved
  · intro number member
    rw [Hub.size_tasks_spawn]
    rcases List.mem_append.mp member with earlier | last
    · exact Nat.lt_succ_of_lt (fenced.ready number earlier)
    · rw [List.mem_singleton.mp last]
      exact Nat.lt_succ_self _
  · exact fun number held => excludes number (fenced.holder number held)
  · exact fun number waits => excludes number (fenced.waiting number waits)
  · exact fun number attends =>
      excludes number (fenced.attendant number attends)
  · exact fun watch member => excludes _ (fenced.watchers watch member)

end Fenced

namespace Enclosed

variable {id : PeerId} {others : List TaskId} {first second third hub : Hub}

theorem trans
    (one : Enclosed id others first second)
    (two : Enclosed id others second third) :
    Enclosed id others first third where
  fenced := two.fenced
  peer other different :=
    (two.peer other different).trans (one.peer other different)
  queue := two.queue.trans one.queue
  alarms_le := Nat.le_trans one.alarms_le two.alarms_le

theorem idle
    (fenced : Fenced id others first) (peers : second.peers = first.peers)
    (tasks : second.tasks = first.tasks)
    (watches : ∀ watch ∈ second.watches, watch ∈ first.watches)
    (ready : ∀ task ∈ second.ready, task < first.tasks.size)
    (queue : second.queue others = first.queue others)
    (alarms_le : first.alarmsSet ≤ second.alarmsSet) :
    Enclosed id others first second where
  fenced := fenced.mono peers tasks watches ready
  peer other _ := by
    rw [Hub.peer, peers]
    rfl
  queue := queue
  alarms_le := alarms_le

/-- A change of the session itself, and of those who stand in its line. -/
theorem updatePeer
    {change : Peer → Peer} (fenced : Fenced id others hub)
    (holder : ∀ task, (change (hub.peer id)).turn.holder = some task →
      hub.Excludes others task)
    (waiting : ∀ task ∈ (change (hub.peer id)).turn.waiting,
      hub.Excludes others task)
    (attendant : (change (hub.peer id)).attendant = (hub.peer id).attendant) :
    Enclosed id others hub (hub.updatePeer id change) where
  fenced :=
    fenced.updatePeer (fun _ => holder) (fun _ => waiting) fun _ => attendant
  peer other different :=
    Hub.peer_updatePeer_of_ne hub id other change different.symm
  queue := rfl
  alarms_le := Nat.le_refl _

theorem setTask
    (fenced : Fenced id others hub) {number : TaskId}
    (elsewhere : number ∉ others) {task : Task}
    (within : task.isWithin id = true) :
    Enclosed id others hub (hub.setTask number task) where
  fenced := fenced.setTask (fun _ => within) fun kept => absurd kept elsewhere
  peer _ _ := rfl
  queue := rfl
  alarms_le := Nat.le_refl _

theorem spawn
    (fenced : Fenced id others hub) {task : Task}
    (within : task.isWithin id = true) :
    Enclosed id others hub (hub.spawn task) where
  fenced := by
    have spawned := fenced.spawn (.inl ⟨within, rfl⟩)
    rwa [List.append_nil] at spawned
  peer _ _ := rfl
  queue := by
    simp [Hub.queue, fenced.nextTask_notMem]
  alarms_le := Nat.le_refl _

theorem wakeAll (fenced : Fenced id others hub) {numbers : List TaskId}
    (excluded : ∀ number ∈ numbers, hub.Excludes others number) :
    Enclosed id others hub (hub.wakeAll numbers) := by
  have queue : (hub.wakeAll numbers).queue others = hub.queue others := by
    have none : numbers.filter (fun number => number ∈ others) = [] :=
      List.filter_eq_nil_iff.mpr fun number member => by
        simp [(excluded number member).elsewhere]
    rw [Hub.queue_wakeAll, none]
    rfl
  have later :=
    fenced.wakeAll fun number member => (excluded number member).below
  obtain ⟨ready, same, -⟩ := Hub.wakeAll_eq hub numbers
  rw [same] at queue later ⊢
  exact ⟨later, fun _ _ => rfl, queue, Nat.le_refl _⟩

theorem close (fenced : Fenced id others hub) :
    Enclosed id others hub (hub.close id) := by
  unfold Hub.close
  split
  · exact idle fenced rfl rfl (fun _ member => member) fenced.ready rfl
      (Nat.le_refl _)
  · have closed : Enclosed id others hub
        (hub.updatePeer id fun peer => { peer with closed := true }) :=
      updatePeer fenced fenced.holder fenced.waiting rfl
    refine closed.trans (wakeAll closed.fenced fun number member => ?_)
    exact ⟨(fenced.closeWaiters number member).below,
      (fenced.closeWaiters number member).elsewhere⟩

theorem releaseTurn (fenced : Fenced id others hub) :
    Enclosed id others hub (hub.releaseTurn id) := by
  -- The turn goes to somebody who stood in line.
  have queued : ∀ task, (hub.peer id).turn.release.holder = some task →
      task ∈ (hub.peer id).turn.waiting := by
    intro task held
    unfold Turn.release at held
    split at held <;> rename_i waiting
    · cases held
    · cases held
      rw [waiting]
      exact List.mem_cons_self ..
  have still : ∀ task ∈ (hub.peer id).turn.release.waiting,
      task ∈ (hub.peer id).turn.waiting := by
    intro task waits
    unfold Turn.release at waits
    split at waits <;> rename_i waiting
    · rw [waiting]
      exact waiting ▸ waits
    · rw [waiting]
      exact List.mem_cons_of_mem _ waits
  have released : Enclosed id others hub
      (hub.updatePeer id fun peer =>
        { peer with turn := (hub.peer id).turn.release }) :=
    updatePeer fenced (fun task held => fenced.waiting task (queued task held))
      (fun task waits => fenced.waiting task (still task waits)) rfl
  unfold Hub.releaseTurn
  simp only
  split
  · rename_i next held
    have excluded := fenced.waiting next (queued next held)
    have woken : Enclosed id others _ (Hub.wakeAll _ [next]) :=
      wakeAll released.fenced fun number member => by
        rw [List.mem_singleton.mp member]
        exact ⟨excluded.below, excluded.elsewhere⟩
    exact released.trans woken
  · exact released

end Enclosed

end BroadcastHub.Server
