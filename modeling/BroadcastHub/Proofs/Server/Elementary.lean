import BroadcastHub.Proofs.Server.Course

/-!
# Courses of the elementary steps
-/

namespace BroadcastHub.Server

namespace Course

variable {doer : Doer} {before after : Hub}

/-- Steps that only change which tasks are ready, and what no course looks
at. -/
theorem ofReady
    (now : after.now = before.now)
    (configuration : after.configuration = before.configuration)
    (stopping : after.stopping = before.stopping)
    (peers : after.peers = before.peers) (tasks : after.tasks = before.tasks)
    (chronicle : after.chronicle = before.chronicle)
    (drawn_le : before.drawn ≤ after.drawn)
    (ready : ∀ id ∈ before.ready, doer.task ≠ some id → id ∈ after.ready)
    (queued : doer.Inside before → Grounded before →
      Queued doer.task before after)
    (enclosed : ∀ id others, doer.StaysWithin id others → doer.Inside before →
      Fenced id others before → Enclosed id others before after) :
    Course doer before after where
  now := now
  configuration := configuration
  stopping := stopping
  peers := by rw [peers]
  peer id := by
    have same : after.peer id = before.peer id := by rw [Hub.peer, peers]; rfl
    rw [same]
    exact PeerCourse.refl _ _ _ _ _
  tasks_le := Nat.le_of_eq (by rw [tasks])
  drawn_le := drawn_le
  task id _ _ := by rw [Hub.task, tasks]; rfl
  own id _ := .inl (by rw [Hub.task, tasks]; rfl)
  newTask id above below := by
    rw [tasks] at below
    exact absurd below (Nat.not_lt.mpr above)
  ready := ready
  closes id number wasOpen isClosed := by
    have same : after.peer id = before.peer id := by rw [Hub.peer, peers]; rfl
    rw [same] at isClosed
    exact absurd (wasOpen.symm.trans isClosed) Bool.false_ne_true
  turns id number held := by
    have same : after.peer id = before.peer id := by rw [Hub.peer, peers]; rfl
    rw [same] at held
    exact .inl held
  news := ⟨[], .silent chronicle (by rw [tasks])⟩
  queued := queued
  enclosed id others stays inside _ fenced :=
    enclosed id others stays inside fenced

/-- Steps that change nothing that a course looks at. -/
theorem idle
    (now : after.now = before.now)
    (configuration : after.configuration = before.configuration)
    (stopping : after.stopping = before.stopping)
    (peers : after.peers = before.peers) (tasks : after.tasks = before.tasks)
    (chronicle : after.chronicle = before.chronicle)
    (ready : after.ready = before.ready) (drawn_le : before.drawn ≤ after.drawn)
    (alarms_le : before.alarmsSet ≤ after.alarmsSet)
    (watches : ∀ watch ∈ after.watches, watch ∈ before.watches) :
    Course doer before after := by
  refine ofReady now configuration stopping peers tasks chronicle drawn_le ?_
    (fun _ grounded => .ofSame (grounded.keepReady peers tasks watches ?_) ?_)
    fun id others _ _ fenced => ?_
  · rw [ready]
    exact fun _ member _ => member
  · rw [ready, tasks]
    exact grounded.ready
  · rw [Hub.readyBut, ready]
    rfl
  · exact .idle fenced peers tasks watches (ready ▸ fenced.ready)
      (by rw [Hub.queue, ready]; rfl) alarms_le

theorem unnoticed
    (now : after.now = before.now)
    (configuration : after.configuration = before.configuration)
    (stopping : after.stopping = before.stopping)
    (peers : after.peers = before.peers) (tasks : after.tasks = before.tasks)
    (chronicle : after.chronicle = before.chronicle)
    (ready : after.ready = before.ready)
    (watches : after.watches = before.watches)
    (alarmsSet : after.alarmsSet = before.alarmsSet)
    (drawn : after.drawn = before.drawn) : Course doer before after :=
  idle now configuration stopping peers tasks chronicle ready
    (Nat.le_of_eq drawn.symm)
    (Nat.le_of_eq alarmsSet.symm) fun _ member => watches ▸ member

theorem refl (doer : Doer) (hub : Hub) : Course doer hub hub :=
  unnoticed rfl rfl rfl rfl rfl rfl rfl rfl rfl rfl

/-- Steps that change one peer, and neither close it nor give anybody else its
turn. -/
theorem ofTurn {id : PeerId} {change : Peer → Peer} (hub : Hub)
    (reaches : doer.Reaches id)
    (peer : PeerCourse doer hub.now hub.timing.heartbeat id (hub.peer id)
      (change (hub.peer id)))
    (closed : (change (hub.peer id)).closed = (hub.peer id).closed)
    (turns : ∀ number, (change (hub.peer id)).turn.holder = some number →
      (hub.peer id).turn.holder = some number ∨ doer.task = some number)
    (line : ∀ number ∈ (change (hub.peer id)).turn.waiting,
      number ∈ (hub.peer id).turn.waiting ∨ doer.task = some number) :
    Course doer hub (hub.updatePeer id change) where
  now := rfl
  configuration := rfl
  stopping := rfl
  peers := Hub.size_peers_updatePeer hub id change
  peer other := by
    rw [Hub.peer_updatePeer]
    split
    · rename_i both
      rw [← both.1]
      exact peer
    · exact PeerCourse.refl _ _ _ _ _
  tasks_le := Nat.le_refl _
  drawn_le := Nat.le_refl _
  task _ _ _ := rfl
  own _ _ := .inl rfl
  newTask id above below := absurd below (Nat.not_lt.mpr above)
  ready _ member _ := member
  closes other number wasOpen isClosed := by
    rw [Hub.closed_updatePeer hub id other closed] at isClosed
    exact absurd (wasOpen.symm.trans isClosed) Bool.false_ne_true
  turns other number held := by
    rw [Hub.peer_updatePeer] at held
    split at held
    · rename_i both
      rw [← both.1] at held ⊢
      exact (turns number held).imp_right .inl
    · exact .inl held
  news := ⟨[], .silent rfl rfl⟩
  queued inside grounded := by
    refine .ofSame (grounded.updatePeer (fun number held => ?_)
      fun number waits => ?_) rfl
    · exact (turns number held).elim (grounded.holder id number) (inside number)
    · exact (line number waits).elim (grounded.waiting id number)
        (inside number)
  enclosed fence others stays inside _ fenced := by
    cases stays.reaches id reaches
    refine .updatePeer fenced (fun number held => ?_) (fun number waits => ?_)
      (peer.attendant fun _ => stays.opens)
    · rcases turns number held with earlier | running
      · exact fenced.holder number earlier
      · exact ⟨inside number running, stays.elsewhere running⟩
    · rcases line number waits with earlier | running
      · exact fenced.waiting number earlier
      · exact ⟨inside number running, stays.elsewhere running⟩

theorem ofPeer {id : PeerId} {change : Peer → Peer} (hub : Hub)
    (reaches : doer.Reaches id)
    (peer : PeerCourse doer hub.now hub.timing.heartbeat id (hub.peer id)
      (change (hub.peer id)))
    (closed : (change (hub.peer id)).closed = (hub.peer id).closed)
    (turn : (change (hub.peer id)).turn = (hub.peer id).turn) :
    Course doer hub (hub.updatePeer id change) :=
  ofTurn hub reaches peer closed (fun _ held => .inl (turn ▸ held))
    fun _ waits => .inl (turn ▸ waits)

theorem count (hub : Hub) (change : Counters → Counters) :
    Course doer hub (hub.count change) :=
  unnoticed rfl rfl rfl rfl rfl rfl rfl rfl rfl rfl

theorem noteAlarm (hub : Hub) : Course doer hub hub.noteAlarm :=
  idle rfl rfl rfl rfl rfl rfl rfl (Nat.le_refl _) (Nat.le_succ _)
    fun _ member => member

theorem wakeAll (hub : Hub) (numbers : List TaskId)
    (there : Grounded hub → ∀ number ∈ numbers, number < hub.tasks.size)
    (excluded : ∀ id others, doer.StaysWithin id others → Fenced id others hub →
      ∀ number ∈ numbers, hub.Excludes others number) :
    Course doer hub (hub.wakeAll numbers) := by
  have enclosed := fun id others stays (_ : doer.Inside hub) fenced =>
    Enclosed.wakeAll fenced (excluded id others stays fenced)
  have queued : Grounded hub → Queued doer.task hub (hub.wakeAll numbers) :=
    fun grounded => .wakeAll grounded (there grounded)
  obtain ⟨ready, same, mem_ready⟩ := Hub.wakeAll_eq hub numbers
  rw [same] at queued enclosed ⊢
  exact ofReady rfl rfl rfl rfl rfl rfl (Nat.le_refl _)
    (fun id member _ => (mem_ready id).mpr (.inl member))
    (fun _ => queued) enclosed

theorem again
    (hub : Hub) {number : TaskId} (running : doer.task = some number) :
    Course doer hub (hub.again number) := by
  refine ofReady rfl rfl rfl rfl rfl rfl (Nat.le_refl _) (fun id member _ => ?_)
    (fun inside grounded => running ▸ .again grounded (inside number running))
    fun id others stays inside fenced => ?_
  · by_cases same : id = number
    · exact List.mem_cons.mpr (.inl same)
    · exact List.mem_cons.mpr
        (.inr (List.mem_filter.mpr ⟨member, decide_eq_true same⟩))
  · refine .idle fenced rfl rfl (fun _ member => member) (fun task member => ?_)
      (Hub.queue_again hub (stays.elsewhere running)) (Nat.le_refl _)
    rcases List.mem_cons.mp member with rfl | earlier
    · exact inside task running
    · exact fenced.ready task (List.mem_filter.mp earlier).1

/-- An entry that does not announce a broadcast. -/
theorem note
    (hub : Hub) {happening : Happening} (brought : doer.Brings happening)
    (plain : ∀ first recipients frame limit,
      happening ≠ .broadcast first recipients frame limit) :
    Course doer hub (hub.note happening) := by
  refine
    { refl doer hub with
      news :=
        ⟨[⟨hub.now, happening⟩], rfl, ?_, ?_, ?_, ?_, inTurn_singleton _ _⟩
      queued := fun _ grounded =>
        .ofSame (grounded.keepReady rfl rfl (fun _ member => member)
          grounded.ready) rfl
      enclosed := fun id others _ _ _ fenced =>
        .idle fenced rfl rfl (fun _ member => member) fenced.ready rfl
          (Nat.le_refl _) }
  · intro entry member
    rw [List.mem_singleton.mp member]
  · intro entry member
    rw [List.mem_singleton.mp member]
    exact brought
  · intro entry member first recipients frame limit same
    rw [List.mem_singleton.mp member] at same
    exact absurd same (plain first recipients frame limit)
  · intro task peer frame limit stage above below
    exact absurd below (Nat.not_lt.mpr above)

/-- Setting the running task. -/
theorem setTask_of
    (hub : Hub) {number : TaskId} (running : doer.task = some number)
    (task : Task) (becomes : task.isFinished = true ∨ doer.becomes task) :
    Course doer hub (hub.setTask number task) where
  now := rfl
  configuration := rfl
  stopping := rfl
  peers := rfl
  peer id := PeerCourse.refl _ _ _ _ _
  tasks_le := Nat.le_of_eq (Hub.size_tasks_setTask hub number task).symm
  drawn_le := Nat.le_refl _
  task id _ other := by
    apply Hub.task_setTask_of_ne
    intro same
    exact other (running.trans (congrArg some same))
  own id same := by
    rw [Hub.task_setTask]
    split
    · exact .inr becomes
    · exact .inl rfl
  newTask id above below := by
    rw [Hub.size_tasks_setTask] at below
    exact absurd below (Nat.not_lt.mpr above)
  ready _ member _ := member
  closes _ _ wasOpen isClosed :=
    absurd (wasOpen.symm.trans isClosed) Bool.false_ne_true
  turns _ _ held := .inl held
  news := ⟨[], .silent rfl (Hub.size_tasks_setTask hub number task)⟩
  queued _ grounded := by
    have size := Hub.size_tasks_setTask hub number task
    refine .ofSame (grounded.keep (Nat.le_of_eq size.symm) ?_ (fun _ => rfl)
      fun _ member => member) rfl
    rw [size]
    exact grounded.ready
  enclosed id _ stays _ _ fenced := by
    refine .setTask fenced (stays.elsewhere running) ?_
    rcases becomes with isOver | becomes
    · exact task.isWithin_of_isFinished id isOver
    · exact stays.becomes task becomes

theorem setTask
    (hub : Hub) {number : TaskId} (running : doer.task = some number)
    {task : Task} (becomes : doer.becomes task) :
    Course doer hub (hub.setTask number task) :=
  setTask_of hub running task (.inr becomes)

theorem finish (hub : Hub) (inside : doer.Inside hub) {number : TaskId}
    (running : doer.task = some number) (outcome : Outcome) :
    Course doer hub (hub.finish number outcome) := by
  have woken : Course doer hub _ := wakeAll hub
    ((hub.watches.filter fun entry => entry.1 = number).map Prod.snd)
    (fun grounded watcher member => by
      obtain ⟨watch, listed, rfl⟩ := List.mem_map.mp member
      exact grounded.watchers watch (List.mem_filter.mp listed).1)
    fun id others _ fenced watcher member => by
      obtain ⟨watch, listed, rfl⟩ := List.mem_map.mp member
      exact fenced.watchers watch (List.mem_filter.mp listed).1
  have ended :=
    woken.trans (setTask_of _ running (.finished outcome) (.inl rfl)) inside
  have watches := (Hub.wakeAll_eq hub
    ((hub.watches.filter fun entry => entry.1 = number).map Prod.snd))
  rw [Hub.finish_eq_wakeAll]
  refine ended.trans (idle rfl rfl rfl rfl rfl rfl rfl (Nat.le_refl _)
    (Nat.le_refl _) fun watch member => ?_) inside
  obtain ⟨ready, same, -⟩ := watches
  rw [same]
  exact (List.mem_filter.mp member).1

/-- Starting a task that is not a delivery. -/
theorem spawn
    (hub : Hub) (inside : doer.Inside hub) {task : Task}
    (starts : doer.starts task)
    (plain : ∀ peer frame limit stage, task ≠ .deliver peer frame limit stage) :
    Course doer hub (hub.spawn task) where
  now := rfl
  configuration := rfl
  stopping := rfl
  peers := rfl
  peer id := PeerCourse.refl _ _ _ _ _
  tasks_le := by
    rw [Hub.size_tasks_spawn]
    exact Nat.le_succ _
  drawn_le := Nat.le_refl _
  task id below _ := by
    rw [Hub.task_spawn, if_neg (Nat.ne_of_lt below)]
  own id running := by
    rw [Hub.task_spawn, if_neg (Nat.ne_of_lt (inside id running))]
    exact .inl rfl
  newTask id above below := by
    rw [Hub.size_tasks_spawn] at below
    have same : id = hub.tasks.size :=
      Nat.le_antisymm (Nat.le_of_lt_succ below) above
    rw [Hub.task_spawn, if_pos same, Hub.ready_spawn, same]
    exact ⟨starts, List.mem_append.mpr (.inr (List.mem_singleton.mpr rfl))⟩
  ready id member _ := by
    rw [Hub.ready_spawn]
    exact List.mem_append.mpr (.inl member)
  closes _ _ wasOpen isClosed :=
    absurd (wasOpen.symm.trans isClosed) Bool.false_ne_true
  turns _ _ held := .inl held
  news := by
    refine ⟨[], ⟨rfl, ?_, ?_, ?_, ?_, .nil⟩⟩
    · intro entry member
      cases member
    · intro entry member
      cases member
    · intro entry member
      cases member
    · intro number peer frame limit stage above below same
      rw [Hub.size_tasks_spawn] at below
      have last : number = hub.tasks.size :=
        Nat.le_antisymm (Nat.le_of_lt_succ below) above
      rw [Hub.task_spawn, if_pos last] at same
      exact absurd same (plain peer frame limit stage)
  queued _ grounded :=
    .start grounded inside rfl (fun _ member => .inl member)
      (Hub.size_tasks_spawn hub task) rfl
  enclosed id _ stays _ _ fenced := by
    refine .spawn fenced ((stays.starts task starts).resolve_right ?_)
    rintro ⟨peer, frame, limit, stage, same⟩
    exact plain peer frame limit stage same

/-! ### Single peers -/

theorem close (hub : Hub) {id : PeerId} (reaches : doer.Reaches id) :
    Course doer hub (hub.close id) := by
  by_cases already : (hub.peer id).closed = true
  · have same : hub.close id = hub := if_pos already
    rw [same]
    exact refl doer hub
  · let change : Peer → Peer := fun peer => { peer with closed := true }
    obtain ⟨ready, same, mem_ready⟩ :=
      Hub.wakeAll_eq (hub.updatePeer id change) (hub.closeWaiters id)
    have closed : hub.close id = { hub.updatePeer id change with ready } :=
      (if_neg already).trans same
    have enclosed : ∀ fence others, doer.StaysWithin fence others →
        Fenced fence others hub →
        Enclosed fence others hub (hub.close id) := by
      intro fence others stays fenced
      cases stays.reaches id reaches
      exact Enclosed.close fenced
    have queued : Grounded hub → Queued doer.task hub (hub.close id) := by
      intro grounded
      rw [show hub.close id =
        (hub.updatePeer id change).wakeAll (hub.closeWaiters id) from
        if_neg already]
      have still : Grounded (hub.updatePeer id change) :=
        grounded.updatePeer (grounded.holder id) (grounded.waiting id)
      exact (Queued.updatePeer still).trans
        (.wakeAll still (Hub.lt_size_of_closeWaiters hub id))
        (Nat.le_refl _) fun _ above below => absurd below (Nat.not_lt.mpr above)
    rw [closed] at queued enclosed ⊢
    refine
      { now := rfl
        configuration := rfl
        stopping := rfl
        peers := Hub.size_peers_updatePeer hub id change
        peer := fun other => ?_
        tasks_le := Nat.le_refl _
        drawn_le := Nat.le_refl _
        task := fun _ _ _ => rfl
        own := fun _ _ => .inl rfl
        newTask := fun _ above below => absurd below (Nat.not_lt.mpr above)
        ready := fun number member _ => (mem_ready number).mpr (.inl member)
        closes := fun other number wasOpen isClosed _ awaits => ?_
        turns := fun other number held => ?_
        news := ⟨[], .silent rfl rfl⟩
        queued := fun _ => queued
        enclosed :=
      fun fence others stays _ _ fenced => enclosed fence others stays fenced }
    · show PeerCourse doer hub.now hub.timing.heartbeat other (hub.peer other)
        ((hub.updatePeer id change).peer other)
      rw [Hub.peer_updatePeer]
      split
      · exact
          { PeerCourse.refl doer hub.now hub.timing.heartbeat other
            (hub.peer other) with
            closed := fun _ => rfl }
      · exact PeerCourse.refl _ _ _ _ _
    · change ((hub.updatePeer id change).peer other).closed = true at isClosed
      rw [Hub.peer_updatePeer] at isClosed
      split at isClosed
      · rename_i both
        rw [← both.1] at awaits
        exact (mem_ready number).mpr
          (.inr (Hub.mem_closeWaiters hub id number awaits))
      · exact absurd (wasOpen.symm.trans isClosed) Bool.false_ne_true
    · change ((hub.updatePeer id change).peer other).turn.holder =
        some number at held
      rw [Hub.peer_updatePeer] at held
      split at held <;> exact .inl held

theorem setPonging
    (hub : Hub) {id : PeerId} (answers : doer.answers = some id)
    (ponging : Bool) : Course doer hub (hub.setPonging id ponging) :=
  ofPeer hub (.ofAnswers answers)
    { PeerCourse.refl doer hub.now hub.timing.heartbeat id (hub.peer id) with
      ponging := fun other => absurd answers other }
    rfl rfl

/-- The window that the configuration asks for is the only one that is used
where nobody looks. -/
theorem renewDeadline (hub : Hub) (id : PeerId)
    (renews : doer.serves = some id ∨ doer.renews id) :
    Course doer hub (hub.renewDeadline id hub.timing.heartbeat) :=
  ofPeer hub (renews.elim .ofServes .ofRenews)
    { PeerCourse.refl doer hub.now hub.timing.heartbeat id (hub.peer id) with
      deadline := fun other =>
        .inr ⟨renews.resolve_left other, rfl⟩ }
    rfl rfl

theorem unregister (hub : Hub) {id : PeerId} (serves : doer.serves = some id) :
    Course doer hub (hub.unregister id) :=
  ofPeer hub (.ofServes serves)
    { PeerCourse.refl doer hub.now hub.timing.heartbeat id (hub.peer id) with
      registered := fun other => absurd serves other
      joins := by rintro ⟨⟩ }
    rfl rfl

theorem register (hub : Hub) {id : PeerId} (serves : doer.serves = some id)
    (joins : doer.joins id) (window : Span) :
    Course doer hub (hub.register id window) :=
  ofPeer hub (.ofServes serves)
    { PeerCourse.refl doer hub.now hub.timing.heartbeat id (hub.peer id) with
      registered := fun other => absurd serves other
      joins := fun _ => .inr joins
      deadline := fun other => absurd serves other }
    rfl rfl

theorem requestTurn
    (hub : Hub) {id : PeerId} {number : TaskId}
    (running : doer.task = some number) (writes : doer.writes = some id) :
    Course doer hub (hub.requestTurn id number) :=
  ofTurn hub (.ofWrites writes)
    { PeerCourse.refl doer hub.now hub.timing.heartbeat id (hub.peer id) with
      turn := fun other => absurd writes other }
    rfl
    (fun other held => by
      by_cases own : other = number
      · exact .inr (own ▸ running)
      · refine .inl ?_
        change ((hub.peer id).turn.request number).holder = some other at held
        unfold Turn.request at held
        split at held
        · exact absurd (Option.some.inj held).symm own
        · exact held)
    fun other waits => by
      change other ∈ ((hub.peer id).turn.request number).waiting at waits
      unfold Turn.request at waits
      split at waits
      · exact .inl waits
      · rcases List.mem_append.mp waits with earlier | last
        · exact .inl earlier
        · exact .inr (List.mem_singleton.mp last ▸ running)

theorem leaveLine (hub : Hub) {id : PeerId} (writes : doer.writes = some id)
    (number : TaskId) : Course doer hub (hub.leaveLine id number) :=
  ofTurn hub (.ofWrites writes)
    { PeerCourse.refl doer hub.now hub.timing.heartbeat id (hub.peer id) with
      turn := fun other => absurd writes other }
    rfl (fun _ held => .inl held) fun _ waits =>
      .inl (List.mem_filter.mp waits).1

theorem releaseTurn (hub : Hub) {id : PeerId} (writes : doer.writes = some id) :
    Course doer hub (hub.releaseTurn id) := by
  let change : Peer → Peer :=
    fun peer => { peer with turn := (hub.peer id).turn.release }
  -- In between somebody has the turn who is not awake, so this is one step.
  obtain ⟨ready, same, mem_ready, awake⟩ : ∃ ready,
      hub.releaseTurn id = { hub.updatePeer id change with ready } ∧
      (∀ number ∈ hub.ready, number ∈ ready) ∧
      ∀ number, (hub.peer id).turn.release.holder = some number →
      number ∈ ready := by
    unfold Hub.releaseTurn
    simp only
    cases (hub.peer id).turn.release.holder with
    | none => exact ⟨hub.ready, rfl, fun _ member => member, by rintro _ ⟨⟩⟩
    | some next =>
        obtain ⟨ready, same, mem_ready⟩ :=
          Hub.wake_eq (hub.updatePeer id change) next
        refine ⟨ready, same, fun number member =>
          (mem_ready number).mpr (.inl member), ?_⟩
        rintro _ ⟨⟩
        exact (mem_ready next).mpr (.inr rfl)
  have changed := fun other => Hub.peer_updatePeer hub id other change
  have enclosed : ∀ fence others, doer.StaysWithin fence others →
      Fenced fence others hub →
      Enclosed fence others hub (hub.releaseTurn id) := by
    intro fence others stays fenced
    cases stays.reaches id (.ofWrites writes)
    exact Enclosed.releaseTurn fenced
  have queued : Grounded hub → Queued doer.task hub (hub.releaseTurn id) := by
    intro grounded
    have passes := fun number => grounded.release id number
    have still : Grounded (hub.updatePeer id change) :=
      grounded.updatePeer (fun number => (passes number).1) fun number =>
        (passes number).2
    unfold Hub.releaseTurn
    simp only
    cases holder : (hub.peer id).turn.release.holder with
    | none => exact .ofSame still rfl
    | some next =>
        exact (Queued.updatePeer still).trans
          (.wake still ((passes next).1 holder)) (Nat.le_refl _)
          fun _ above below => absurd below (Nat.not_lt.mpr above)
  rw [same] at queued enclosed ⊢
  refine
    { now := rfl
      configuration := rfl
      stopping := rfl
      peers := Hub.size_peers_updatePeer hub id change
      peer := fun other => ?_
      tasks_le := Nat.le_refl _
      drawn_le := Nat.le_refl _
      task := fun _ _ _ => rfl
      own := fun _ _ => .inl rfl
      newTask := fun _ above below => absurd below (Nat.not_lt.mpr above)
      ready := fun number member _ => mem_ready number member
      closes := fun other number wasOpen isClosed => ?_
      turns := fun other number held => ?_
      news := ⟨[], .silent rfl rfl⟩
      queued := fun _ => queued
      enclosed :=
    fun fence others stays _ _ fenced => enclosed fence others stays fenced }
  · show PeerCourse doer hub.now hub.timing.heartbeat other (hub.peer other)
      ((hub.updatePeer id change).peer other)
    rw [changed]
    split
    · rename_i both
      exact
        { PeerCourse.refl doer hub.now hub.timing.heartbeat other
          (hub.peer other) with
          turn := fun elsewhere => absurd (both.1 ▸ writes) elsewhere }
    · exact PeerCourse.refl _ _ _ _ _
  · change ((hub.updatePeer id change).peer other).closed = true at isClosed
    rw [changed] at isClosed
    split at isClosed <;> exact absurd (wasOpen.symm.trans isClosed)
      Bool.false_ne_true
  · change ((hub.updatePeer id change).peer other).turn.holder =
      some number at held
    rw [changed] at held
    split at held
    · exact .inr (.inr (awake number held))
    · exact .inl held

/-! ### Broadcasts -/

end Course

namespace Hub

variable (hub : Hub) (frame : Frame) (limit : Span)

/-- The deliveries are started behind all other tasks, in the order of their
recipients. -/
theorem spawnDeliveries_eq (recipients : List PeerId) :
    ∃ tasks, hub.spawnDeliveries frame limit recipients =
        { hub with
          tasks
          ready := hub.ready ++
            (List.range recipients.length).map fun position =>
              hub.tasks.size + position } ∧
      tasks.size = hub.tasks.size + recipients.length ∧
      (∀ id < hub.tasks.size, tasks.get id = hub.task id) ∧
      ∀ position (below : position < recipients.length),
        tasks.get (hub.tasks.size + position) =
          .deliver recipients[position] frame limit .unstarted := by
  induction recipients generalizing hub with
  | nil =>
      refine ⟨hub.tasks, ?_, rfl, fun id _ => rfl, ?_⟩
      · simp [spawnDeliveries]
      · intro position below
        exact absurd below (Nat.not_lt_zero position)
  | cons first rest induction =>
      obtain ⟨tasks, same, size, old, new⟩ :=
        induction (hub.spawn (.deliver first frame limit .unstarted))
      rw [size_tasks_spawn] at size new
      refine ⟨tasks, ?_, ?_, ?_, ?_⟩
      · rw [spawnDeliveries, same, size_tasks_spawn, ready_spawn,
          List.length_cons, List.range_succ_eq_map, List.map_cons, List.map_map,
          List.append_assoc]
        have shift : (fun position => hub.tasks.size + 1 + position) =
            (fun position => hub.tasks.size + position) ∘ Nat.succ := by
          funext position
          simp only [Function.comp_apply]
          omega
        rw [shift]
        rfl
      · rw [size, List.length_cons]
        omega
      · intro id below
        rw [old id (by rw [size_tasks_spawn]; omega), task_spawn,
          if_neg (Nat.ne_of_lt below)]
      · intro position below
        cases position with
        | zero =>
            rw [Nat.add_zero, old _ (by rw [size_tasks_spawn]; omega),
              task_spawn, if_pos rfl]
            rfl
        | succ position =>
            have shifted : hub.tasks.size + (position + 1) =
                hub.tasks.size + 1 + position := by
              omega
            rw [shifted, new position (Nat.lt_of_succ_lt_succ below)]
            rfl

theorem mem_registry {id : PeerId} :
    id ∈ hub.registry ↔ id < hub.peers.size ∧
      (hub.peer id).registered = true := by
  simp [registry, Table.numbers]

theorem nodup_registry : hub.registry.Nodup :=
  List.Pairwise.filter _ List.nodup_range

theorem startDeliveries_eq :
    ∃ tasks ready, hub.startDeliveries frame limit =
        { hub with
          tasks, ready,
          chronicle :=
            ⟨hub.now, .broadcast hub.tasks.size hub.registry frame limit⟩ ::
              hub.chronicle } ∧
      tasks.size = hub.tasks.size + hub.registry.length := by
  obtain ⟨tasks, same, size, -⟩ := spawnDeliveries_eq
    (hub.note (.broadcast hub.nextTask hub.registry frame limit)) frame limit
    hub.registry
  exact ⟨tasks, _, same, size⟩

theorem launched_startDeliveries :
    Launched (hub.startDeliveries frame limit) hub.nextTask hub.registry frame
      limit := by
  obtain ⟨tasks, same, size, -, new⟩ := spawnDeliveries_eq
    (hub.note (.broadcast hub.nextTask hub.registry frame limit)) frame limit
    hub.registry
  rw [startDeliveries, same]
  exact
    { distinct := nodup_registry hub
      inside := fun id member => ((mem_registry hub).mp member).1
      last_le := Nat.le_of_eq size.symm
      delivery := new }

end Hub

namespace Course

variable {doer : Doer}

theorem startDeliveries
    (hub : Hub) (inside : doer.Inside hub) (frame : Frame) (limit : Span)
    (announces : doer.announces)
    (starts : ∀ peer, doer.starts (.deliver peer frame limit .unstarted)) :
    Course doer hub (hub.startDeliveries frame limit) := by
  have launched := Hub.launched_startDeliveries hub frame limit
  obtain ⟨tasks, same, size, old, new⟩ := Hub.spawnDeliveries_eq
    (hub.note (.broadcast hub.nextTask hub.registry frame limit)) frame limit
    hub.registry
  have started : hub.startDeliveries frame limit = _ := same
  rw [started] at launched ⊢
  -- The new tasks are the deliveries, one for each registered peer in its
  -- order.
  have member_new : ∀ id : Nat, hub.tasks.size ≤ id → id < tasks.size →
      ∃ position, ∃ below : position < hub.registry.length,
        id = hub.tasks.size + position ∧
          tasks.get id =
            .deliver hub.registry[position] frame limit .unstarted := by
    intro id above below
    have size' : tasks.size = hub.tasks.size + hub.registry.length := size
    refine ⟨id - hub.tasks.size, by omega, by omega, ?_⟩
    have place : id = hub.tasks.size + (id - hub.tasks.size) := by omega
    conv => lhs; rw [place]
    exact new (id - hub.tasks.size) (by omega)
  exact
    { now := rfl
      configuration := rfl
      stopping := rfl
      peers := rfl
      peer := fun id => PeerCourse.refl _ _ _ _ _
      tasks_le := by
        show hub.tasks.size ≤ tasks.size
        rw [size]
        exact Nat.le_add_right _ _
      drawn_le := Nat.le_refl _
      task := fun id below _ => old id below
      own := fun id running => .inl (old id (inside id running))
      newTask := by
        intro id above below
        obtain ⟨position, inside, place, same⟩ := member_new id above below
        refine ⟨?_, ?_⟩
        · show doer.starts (tasks.get id)
          rw [same]
          exact starts _
        · apply List.mem_append.mpr
          exact .inr (List.mem_map.mpr ⟨position, List.mem_range.mpr inside,
            place.symm⟩)
      ready := fun id member _ => List.mem_append.mpr (.inl member)
      closes := fun _ _ wasOpen isClosed =>
        absurd (wasOpen.symm.trans isClosed) Bool.false_ne_true
      turns := fun _ _ held => .inl held
      news := by
        refine ⟨[⟨hub.now, .broadcast hub.nextTask hub.registry frame limit⟩],
          rfl, ?_, ?_, ?_, ?_, inTurn_singleton _ _⟩
        · intro entry member
          rw [List.mem_singleton.mp member]
        · intro entry member
          rw [List.mem_singleton.mp member]
          exact announces
        · intro entry member first recipients other span same
          rw [List.mem_singleton.mp member] at same
          cases same
          exact ⟨Nat.le_refl _, launched⟩
        · intro task peer other span stage above below same
          obtain ⟨position, inside, place, delivery⟩ :=
            member_new task above below
          have both : Task.deliver peer other span stage = _ :=
            same.symm.trans delivery
          cases both
          refine ⟨_, List.mem_singleton.mpr rfl, hub.nextTask, hub.registry,
            position, rfl, ?_, ?_⟩
          · exact List.getElem?_eq_getElem inside
          · exact place
      queued := fun inside grounded =>
        .start grounded inside rfl (fun _ member => .inl member) size rfl
      enclosed := fun _ _ _ _ silent _ => absurd
        ((Hub.announcements_note_broadcast hub _ _ frame limit).symm.trans
          silent)
        (Nat.succ_ne_self _) }

end Course

end BroadcastHub.Server
