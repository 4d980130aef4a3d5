import BroadcastHub.Proofs.Server.Keeping
import BroadcastHub.Proofs.Server.Latecomers

/-!
# Who is registered

A session is registered only while its task reads.  Before that it has not been
opened, and when it ends it is taken out of the registry first; the close frame
comes after that.  A session that is closed on this side has a task that is
about to find that out.

`Residence` says where a session stands, and every turnover keeps to it.
-/

namespace BroadcastHub.Server

open Scenario

/-! ### Ends of sessions -/

/-- A session is as registered and as closed as before. -/
structure Unmoved (id : PeerId) (before after : Hub) : Prop where
  tasks_le : before.tasks.size ≤ after.tasks.size
  peers : after.peers.size = before.peers.size
  registered : (after.peer id).registered = (before.peer id).registered
  closed : (after.peer id).closed = (before.peer id).closed

namespace Unmoved

variable {first second third : Hub} {id : PeerId}

theorem trans (one : Unmoved id first second) (two : Unmoved id second third) :
    Unmoved id first third where
  tasks_le := Nat.le_trans one.tasks_le two.tasks_le
  peers := two.peers.trans one.peers
  registered := two.registered.trans one.registered
  closed := two.closed.trans one.closed

theorem ofPeers
    (tasks : second.tasks = first.tasks) (peers : second.peers = first.peers) :
    Unmoved id first second := by
  have same : second.peer id = first.peer id := by rw [Hub.peer, peers]; rfl
  exact ⟨Nat.le_of_eq (congrArg Table.size tasks.symm),
    congrArg Table.size peers, by rw [same], by rw [same]⟩

theorem ofPeer (hub : Hub) (id : PeerId) {change : Peer → Peer}
    (keeps : (change (hub.peer id)).registered = (hub.peer id).registered ∧
      (change (hub.peer id)).closed = (hub.peer id).closed) :
    Unmoved id hub (hub.updatePeer id change) := by
  refine ⟨Nat.le_refl _, Hub.size_peers_updatePeer hub id change, ?_, ?_⟩
  all_goals
    rw [Hub.peer_updatePeer]
    split
  · exact keeps.1
  · rfl
  · exact keeps.2
  · rfl

end Unmoved

/-- What a session that reads comes to when it goes on: it reads on where it is
registered, or it ends and is taken out of the registry. -/
structure ReadsOrEnds
    (task : TaskId) (id : PeerId) (before after : Hub) : Prop where
  stands :
    ((∃ alarm, after.task task = .attend id (.reading alarm)) ∧
      (after.peer id).registered = (before.peer id).registered) ∨
    (after.IsOver task id ∧ (after.peer id).registered = false)
  closed : (after.peer id).closed = (before.peer id).closed

namespace Hub

variable {α : Type} {view : Peer → α} (hub : Hub) (task : TaskId)
  (id other : PeerId)

theorem view_finishSession
    (ignores : ∀ (peer : Peer) (holdsSlot : Bool),
      view { peer with holdsSlot } = view peer)
    (exit : Exit) :
    view ((hub.finishSession task id exit).peer other) =
      view (hub.peer other) := by
  unfold finishSession
  rw [peer_finish]
  unfold releaseSlot
  split
  · exact peer_updatePeer_keeps (hub.count _) id other fun peer =>
      ignores peer false
  · rfl

theorem view_settleParting
    (ignores : ∀ (peer : Peer) (holdsSlot : Bool),
      view { peer with holdsSlot } = view peer)
    (closing : Option Closing) :
    view ((hub.settleParting task id closing).peer other) =
      view (hub.peer other) := by
  cases closing with
  | none => exact view_finishSession hub task id other ignores .socketClosed
  | some closing => rfl

/-- The end of a session takes it out of the registry and does nothing else to
peers but write to them. -/
theorem view_leave
    (lasting : Lasting view)
    (ignores : ∀ (peer : Peer) (holdsSlot : Bool),
      view { peer with holdsSlot } = view peer)
    (exit : Exit) :
    view ((hub.leave task id exit).peer other) =
      view ((hub.unregister id).peer other) := by
  let gone := (hub.note (.left id exit)).unregister id
  have finished : ∀ exit, view ((gone.finishSession task id exit).peer other) =
      view (gone.peer other) :=
    fun exit => view_finishSession gone task id other ignores exit
  cases exit with
  | socketClosed =>
      have closing := (Keeps.startClosing lasting gone id task).peer other
      exact (view_settleParting _ task id other ignores _).trans closing
  | _ => exact finished _

theorem closed_leave (exit : Exit) :
    ((hub.leave task id exit).peer other).closed = (hub.peer other).closed :=
  (view_leave hub task id other lasting_closed (fun _ _ => rfl) exit).trans
    (peer_updatePeer_keeps hub id other fun _ => rfl)

theorem registered_leave (inside : id < hub.peers.size) (exit : Exit) :
    ((hub.leave task id exit).peer id).registered = false := by
  rw [view_leave hub task id id lasting_registered (fun _ _ => rfl) exit,
    unregister, peer_updatePeer_self hub id _ inside]

theorem readsOrEnds_leave
    {middle : Hub} (stays : Unmoved id hub middle)
    (inside : id < hub.peers.size) (below : task < hub.tasks.size)
    (exit : Exit) : ReadsOrEnds task id hub (middle.leave task id exit) where
  stands :=
    .inr ⟨isOver_leave middle id (Nat.lt_of_lt_of_le below stays.tasks_le) exit,
      registered_leave middle task id (stays.peers ▸ inside) exit⟩
  closed := (closed_leave middle task id id exit).trans stays.closed

variable {task id}

/-- A session that goes on reading reads on where it is registered, or ends and
is taken out of the registry. -/
theorem goOn_reading
    {hub : Hub} {alarm : Option Alarm}
    (isTask : hub.task task = .attend id (.reading alarm))
    (inside : id < hub.peers.size) (below : task < hub.tasks.size) :
    ReadsOrEnds task id hub (hub.goOn task) := by
  let start : Hub := { hub with ready := hub.ready.erase task }
  have polled : hub.goOn task = start.read task id alarm := by
    have same : start.task task = .attend id (.reading alarm) := isTask
    show start.poll task = _
    rw [poll, same]
    rfl
  have begun : Unmoved id hub start := .ofPeers rfl rfl
  have unset : Unmoved id hub (start.withAlarm alarm) := by
    cases alarm <;> exact begun.trans (.ofPeers rfl rfl)
  have set :
      ∀ socket, Unmoved id hub ((start.withAlarm alarm).setSocket id socket) :=
    fun _ => unset.trans (.ofPeer _ id ⟨rfl, rfl⟩)
  have waiting : task < (start.withAlarm alarm).tasks.size :=
    Nat.lt_of_lt_of_le below unset.tasks_le
  have turn := read_turn start task id alarm
  rw [polled]
  generalize start.read task id alarm = after at turn ⊢
  cases turn with
  | closed isClosed =>
      exact readsOrEnds_leave hub task id begun inside below .socketClosed
  | moved isOpen rung moved =>
      obtain ⟨tasks, ready, same, isReading, -⟩ :=
        readOn_eq (start.withAlarm alarm) id waiting
      rw [same]
      exact ⟨.inl ⟨⟨none, isReading⟩, unset.registered⟩, unset.closed⟩
  | expired isOpen rung notMoved =>
      exact readsOrEnds_leave hub task id unset inside below _
  | @waits socket isOpen early taken =>
      exact ⟨.inl ⟨⟨_, task_setTask_self _ task _ waiting⟩,
        (set socket).registered⟩, (set socket).closed⟩
  | @ended socket isOpen early taken =>
      exact readsOrEnds_leave hub task id (set socket) inside below _
  | @failed socket fault isOpen early taken =>
      have noted :
          Unmoved id hub (((start.withAlarm alarm).setSocket id socket).note
          (.took id (.error fault))) := (set socket).trans (.ofPeers rfl rfl)
      exact readsOrEnds_leave hub task id noted inside below _
  | @takes socket frame isOpen early taken =>
      let noted := ((start.withAlarm alarm).setSocket id socket).note
        (.took id (.ok frame))
      have took : Unmoved id hub noted := (set socket).trans (.ofPeers rfl rfl)
      have renewed :
          Unmoved id hub (noted.renewDeadline id noted.timing.heartbeat) :=
        took.trans (.ofPeer noted id ⟨rfl, rfl⟩)
      by_cases isClose : frame = .close
      · subst isClose
        exact readsOrEnds_leave hub task id renewed inside below .closeFrame
      · obtain ⟨tasks, ready, acts, same, isReading, -⟩ :=
          act_eq noted id waiting isClose
        rw [same]
        exact ⟨.inl ⟨⟨none, isReading⟩, renewed.registered⟩, renewed.closed⟩

end Hub

/-! ### Residence -/

/-- Where a session stands. -/
inductive Residence (hub : Hub) (id : PeerId) : Prop
  /-- It has not been opened, and it is not registered unless it has no task. -/
  | unopened
      (unopened : Unopened hub id)
      (isGuest : (hub.peer id).registered = true →
        (hub.peer id).attendant = none)
  /-- Its task reads, and wakes up if the session is closed. -/
  | reading {task : TaskId} {alarm : Option Alarm} (seated : Seated hub task id)
      (isTask : hub.task task = .attend id (.reading alarm))
      (awake : (hub.peer id).closed = true → task ∈ hub.ready)
      (stays : ∀ time exit, ⟨time, .left id exit⟩ ∉ hub.chronicle)
  /-- It has ended and is not registered. -/
  | finished
      {task : TaskId} (seated : Seated hub task id)
      (isOver : hub.IsOver task id) (isGone : (hub.peer id).registered = false)

namespace Residence

variable {manner : Manner} {before after : Hub} {id : PeerId}

theorem start
    (configuration : Configuration) (chance : Nat → Nat) (id : PeerId) :
    Residence { Hub.start configuration with chance } id := by
  refine .unopened (.start configuration chance id) ?_
  rw [Hub.peer_of_size_le { Hub.start configuration with chance } id
    (Nat.zero_le id)]
  rintro ⟨⟩

theorem ofOpens
    {task : TaskId} {news : List Entry} (unopened : Unopened before id)
    (chronicle : after.chronicle = news ++ before.chronicle)
    (opens : Opens task id before after news) : Residence after id := by
  refine .reading opens.seated opens.isTask (fun _ => opens.awake)
    fun time exit member => ?_
  rw [chronicle, opens.told] at member
  rcases List.mem_cons.mp member with same | early
  · cases same
  · exact unopened.silent _ early rfl

/-- A session that is opened after a turnover is so before. -/
theorem arriving_of_unopened
    (attended : Attended before) (housed : Housed before)
    (turnover : Turnover (manner.outsider before.peers.size) before after)
    (later : Unopened after id) (task : TaskId)
    (isTask : before.task task = .attend id .arriving) :
    after.task task = .attend id .arriving := by
  have begun : ∀ {alarm}, after.task task ≠ .attend id (.reading alarm) := by
    intro alarm isReading
    have serves : (after.task task).serves? = some id := by
      rw [isReading]
      rfl
    rcases later.tasks task serves with same | same
    · cases isReading.symm.trans same
    · cases isReading.symm.trans same
  obtain ⟨news, passage, turn⟩ := SessionTurn.ofTurnover attended
    (attended.seated housed isTask) turnover
  cases turn with
  | aside now quiet sameTask => exact sameTask.trans isTask
  | ticks still silent forward whole passes tasks =>
      rw [Hub.task, tasks]
      exact isTask
  | ended now quiet wasOver =>
      exact absurd wasOver (Hub.not_isOver_of_arriving isTask)
  | arrives now wasTask isReading => exact absurd isReading begun
  | reads now wasTask => cases isTask.symm.trans wasTask

/-- A peer without a task has none afterwards. -/
theorem attendant_of_none (attended : Attended before)
    (inside : id < before.peers.size) (none : (before.peer id).attendant = none)
    (turnover : Turnover (manner.outsider before.peers.size) before after) :
    (after.peer id).attendant = .none := by
  have notNew : id ≠ before.peers.size := Nat.ne_of_lt inside
  cases turnover with
  | outside outside =>
      obtain ⟨news, -, peer, -⟩ := outside.news
      exact (peer id).attendant.trans none
  | register added => rw [Hub.peer_addPeer, if_neg notNew, none]
  | @serve socket task added opened serves =>
      change ((before.addPeer
        { socket, attendant := some before.nextTask }).peer id).attendant = _
      rw [Hub.peer_addPeer, if_neg notNew, none]
  | @go task isReady =>
      refine (((Course.goOn before task).peer id).attendant fun serves =>
        ?_).trans none
      cases none.symm.trans (attended task id serves)
  | @tick later still forward whole passes =>
      obtain ⟨ready, same, -⟩ := Hub.ring_eq { before with now := later }
      rw [same]
      exact none

/-- A peer that joins is registered only if it has no task. -/
theorem guest_of_joined
    (outside : before.peers.size ≤ id)
    (turnover : Turnover (manner.outsider before.peers.size) before after)
    (isRegistered : (after.peer id).registered = true) :
    (after.peer id).attendant = none := by
  have absent := Hub.peer_of_size_le before id outside
  have notBefore : ∀ {hub : Hub}, hub.peers.size = before.peers.size →
      (hub.peer id).registered = true → (hub.peer id).attendant = none := by
    intro hub size isRegistered
    rw [Hub.peer_of_size_le hub id (size ▸ outside)]
    rfl
  cases turnover with
  | outside outside => exact notBefore outside.peers isRegistered
  | register added =>
      rw [Hub.peer_addPeer, absent]
      split <;> rfl
  | @serve socket task added opened serves =>
      change ((before.addPeer
        { socket, attendant := some before.nextTask }).peer
        id).registered = true at isRegistered
      rw [Hub.peer_addPeer, absent] at isRegistered
      split at isRegistered <;> cases isRegistered
  | go isReady => exact notBefore (Course.goOn before _).peers isRegistered
  | @tick later still forward whole passes =>
      obtain ⟨ready, same, -⟩ := Hub.ring_eq { before with now := later }
      rw [same] at isRegistered ⊢
      exact notBefore rfl isRegistered

/-- What becomes of a session that has not been opened. -/
theorem ofUnopened
    (housed : Housed before) (attended : Attended before)
    (turnover : Turnover (manner.outsider before.peers.size) before after)
    (unopened : Unopened before id)
    (isGuest : (before.peer id).registered = true →
      (before.peer id).attendant = none) :
    Residence after id := by
  obtain ⟨news, chronicle, ⟨waits, -⟩ | ⟨task, opens⟩⟩ :=
    unopened.turn housed attended turnover
  · refine .unopened waits fun isRegistered => ?_
    by_cases inside : id < before.peers.size
    · have was := turnover.joins inside
        (arriving_of_unopened attended housed turnover waits) isRegistered
      exact attendant_of_none attended inside (isGuest was) turnover
    · exact guest_of_joined (Nat.not_lt.mp inside) turnover isRegistered
  · exact ofOpens unopened chronicle opens

/-- A turnover that ends a session takes it out of the registry. -/
theorem gone_of_isOver
    {outsider : Outsider} {task : TaskId} {alarm : Option Alarm}
    (turnover : Turnover outsider before after) (seated : Seated before task id)
    (isTask : before.task task = .attend id (.reading alarm))
    (isOver : after.IsOver task id) : (after.peer id).registered = false := by
  have still : ∀ {hub : Hub}, hub.task task = before.task task →
      ¬ hub.IsOver task id :=
    fun same => Hub.not_isOver_of_reading (same.trans isTask)
  cases turnover with
  | outside outside =>
      exact absurd isOver (still (outside.task task seated.below))
  | register added => exact absurd isOver (still rfl)
  | serve added opened serves =>
      refine absurd isOver (still ?_)
      rw [Hub.task_spawn]
      exact if_neg (Nat.ne_of_lt seated.below)
  | @go number isReady =>
      by_cases own : number = task
      · subst own
        rcases (Hub.goOn_reading isTask seated.inside seated.below).stands with
          ⟨⟨later, isReading⟩, -⟩ | ⟨-, gone⟩
        · exact absurd isOver (Hub.not_isOver_of_reading isReading)
        · exact gone
      · refine absurd isOver (still ?_)
        exact (Course.goOn before number).task task seated.below fun same =>
          own (Option.some.inj same)
  | @tick later stands forward whole passes =>
      obtain ⟨ready, same, -⟩ := Hub.ring_eq { before with now := later }
      rw [same] at isOver
      exact absurd isOver (still rfl)

/-- What becomes of a session that reads. -/
theorem ofReading
    (attended : Attended before) {task : TaskId} {alarm : Option Alarm}
    (turnover : Turnover (manner.outsider before.peers.size) before after)
    (seated : Seated before task id)
    (isTask : before.task task = .attend id (.reading alarm))
    (awake : (before.peer id).closed = true → task ∈ before.ready)
    (stays : ∀ time exit, ⟨time, .left id exit⟩ ∉ before.chronicle) :
    Residence after id := by
  obtain ⟨news, passage, turn⟩ :=
    SessionTurn.ofTurnover attended seated turnover
  have later := seated.turn passage turn
  have left : (∀ entry ∈ news, ∀ exit, entry.happening ≠ .left id exit) →
      ∀ time exit, ⟨time, .left id exit⟩ ∉ after.chronicle := by
    intro quiet time exit member
    rw [passage.chronicle] at member
    rcases List.mem_append.mp member with late | early
    · exact quiet _ late exit rfl
    · exact stays time exit early
  have unpaced : (∀ entry ∈ news, ¬ entry.happening.Paces id) →
      ∀ time exit, ⟨time, .left id exit⟩ ∉ after.chronicle := by
    intro quiet
    refine left fun entry member exit same => quiet entry member ?_
    rw [same]
    rfl
  -- A session that reads is among those that are woken when it is closed.
  have still : ∀ {alarm}, after.task task = .attend id (.reading alarm) →
      Hub.awaitsClose id (after.task task) = true := by
    intro alarm isReading
    rw [isReading]
    exact decide_eq_true rfl
  cases turn with
  | aside now quiet sameTask kept wakes closes =>
      have isReading := sameTask.trans isTask
      refine .reading later isReading (fun isClosed => ?_) (unpaced quiet)
      cases wasClosed : (before.peer id).closed with
      | true => exact kept (awake wasClosed)
      | false => exact closes wasClosed isClosed (still isReading)
  | ticks stands silent forward whole passes tasks peers =>
      have isReading : after.task task = .attend id (.reading alarm) := by
        rw [Hub.task, tasks]
        exact isTask
      refine .reading later isReading (fun isClosed => ?_)
        (unpaced (by subst silent; rintro _ ⟨⟩))
      rw [Hub.peer, peers] at isClosed
      have ready := awake isClosed
      rw [stands] at ready
      cases ready
  | ended now quiet wasOver =>
      exact absurd wasOver (Hub.not_isOver_of_reading isTask)
  | arrives now wasTask => cases isTask.symm.trans wasTask
  | reads now wasTask step =>
      cases step with
      | moves isOpen rung moved isReading ready silent =>
          exact .reading later isReading (fun _ => ready)
            (unpaced (by subst silent; rintro _ ⟨⟩))
      | waits isOpen early found isReading silent intake stillOpen =>
          refine .reading later isReading (fun isClosed => ?_)
            (unpaced (by subst silent; rintro _ ⟨⟩))
          cases stillOpen.symm.trans isClosed
      | @takes frame acts isOpen early found isReading ready did told =>
          refine .reading later isReading (fun _ => ready)
            (left fun entry member exit same => ?_)
          rw [told] at member
          rcases List.mem_append.mp member with isAct | isTaken
          · cases did with
            | message message size launched =>
                rw [List.mem_singleton.mp isAct] at same
                cases same
            | _ => cases isAct
          · rw [List.mem_singleton.mp isTaken] at same
            cases same
      | leaves ends isOver =>
          exact .finished later isOver
            (gone_of_isOver turnover seated isTask isOver)

/-- What becomes of a session that has ended. -/
theorem ofOver (attended : Attended before) {task : TaskId}
    (turnover : Turnover (manner.outsider before.peers.size) before after)
    (seated : Seated before task id) (isOver : before.IsOver task id)
    (isGone : (before.peer id).registered = false) : Residence after id := by
  obtain ⟨news, passage, turn⟩ :=
    SessionTurn.ofTurnover attended seated turnover
  refine .finished (seated.turn passage turn) (turn.of_isOver isOver).1 ?_
  have never : ∀ number, before.task number ≠ .attend id .arriving := by
    intro number isTask
    have serves : (before.task number).serves? = some id := by
      rw [isTask]
      rfl
    cases seated.attendant.symm.trans (attended number id serves)
    exact Hub.not_isOver_of_arriving isTask isOver
  cases isRegistered : (after.peer id).registered with
  | false => rfl
  | true =>
      have was := turnover.joins seated.inside
        (fun number isTask => absurd isTask (never number)) isRegistered
      cases isGone.symm.trans was

theorem turn
    (residence : Residence before id) (housed : Housed before)
    (attended : Attended before)
    (turnover : Turnover (manner.outsider before.peers.size) before after) :
    Residence after id := by
  cases residence with
  | unopened unopened isGuest =>
      exact ofUnopened housed attended turnover unopened isGuest
  | reading seated isTask awake stays =>
      exact ofReading attended turnover seated isTask awake stays
  | finished seated isOver isGone =>
      exact ofOver attended turnover seated isOver isGone

/-! ### What follows -/

theorem reads (residence : Residence before id) {task : TaskId}
    (attends : (before.peer id).attendant = some task)
    (isRegistered : (before.peer id).registered = true) :
    (∃ alarm, before.task task = .attend id (.reading alarm)) ∧
      ((before.peer id).closed = true → task ∈ before.ready) := by
  cases residence with
  | unopened unopened isGuest => cases attends.symm.trans (isGuest isRegistered)
  | reading seated isTask awake =>
      cases seated.attendant.symm.trans attends
      exact ⟨⟨_, isTask⟩, awake⟩
  | finished seated isOver isGone => cases isGone.symm.trans isRegistered

theorem isGone
    (residence : Residence before id) {time : Instant} {exit : Exit}
    (left : ⟨time, .left id exit⟩ ∈ before.chronicle) :
    (before.peer id).registered = false := by
  cases residence with
  | unopened unopened => exact absurd rfl (unopened.silent _ left)
  | reading seated isTask awake stays => exact absurd left (stays time exit)
  | finished seated isOver isGone => exact isGone

end Residence

end BroadcastHub.Server
