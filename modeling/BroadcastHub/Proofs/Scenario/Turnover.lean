import BroadcastHub.Proofs.Scenario.Moves

/-!
# What moves do to a hub

For the hub all moves from outside look alike: a peer joins, or something is
done that is `Outside`.  With the steps of tasks and of the clock there are
five kinds of turnover, and what they all preserve holds in every run.
-/

namespace BroadcastHub.Server

open Scenario

/-- What a move is for the hub. -/
inductive Turnover (outsider : Outsider) : Hub → Hub → Prop
  | outside {before after : Hub} (outside : Outside outsider before after) :
      Turnover outsider before after
  | register {hub : Hub} {socket : Socket} (added : outsider.adds socket) :
      Turnover outsider hub
        (hub.addPeer
          { socket
            arrived := true
            registered := true
            readDeadline := hub.now.after Hub.firstWindow })
  | serve
      {hub : Hub} {socket : Socket} {task : Task} (added : outsider.adds socket)
      (opened : outsider.opens task)
      (serves : task = .attend hub.peers.size .arriving ∨
        task = .converse hub.peers.size) :
      Turnover outsider hub
        ((hub.addPeer { socket, attendant := some hub.nextTask }).spawn task)
  | go {hub : Hub} {task : TaskId} (isReady : task ∈ hub.ready)
      (first : outsider.inOrder → hub.ready.head? = some task) :
      Turnover outsider hub (hub.goOn task)
  | tick
      {hub : Hub} {later : Instant} (still : hub.ready = [])
      (forward : hub.now ≤ later) (whole : Span.perMillisecond ∣ later)
      (passes : ∀ alarm task, (alarm, task) ∈ hub.alarms →
        later ≤ max hub.now alarm.due.tick) :
      Turnover outsider hub { hub with now := later }.ring

end BroadcastHub.Server

namespace BroadcastHub.Scenario

open Server

namespace Outside

variable {outsider : Outsider}

theorem spawn (hub : Hub) {task : Task} (starts : outsider.starts task)
    (plain : ∀ peer frame limit stage, task ≠ .deliver peer frame limit stage) :
    Outside outsider hub (hub.spawn task) :=
  ofCourse (Course.spawn hub (by rintro _ ⟨⟩) starts plain)
    (Uncounted.spawn hub task).refusing

/-- A task is started that waits for the end of others. -/
theorem spawnWatching
    (hub : Hub) {task : Task} {watches : List (TaskId × TaskId)}
    (starts : outsider.starts task)
    (plain : ∀ peer frame limit stage, task ≠ .deliver peer frame limit stage)
    (only : ∀ watch ∈ watches, watch ∈ hub.watches ∨ watch.2 = hub.tasks.size) :
    Outside outsider hub ({ hub with watches }.spawn task) := by
  have spawned :
      Outside outsider { hub with watches } ({ hub with watches }.spawn task) :=
    spawn _ starts plain
  obtain ⟨news, isNews, peers, readers⟩ := spawned.news
  have size :
      ({ hub with watches }.spawn task).tasks.size = hub.tasks.size + 1 :=
    Hub.size_tasks_spawn _ task
  exact
    { now := spawned.now
      configuration := spawned.configuration
      peers := spawned.peers
      tasks_le := spawned.tasks_le
      task := spawned.task
      newTask := spawned.newTask
      ready := spawned.ready
      closes := spawned.closes
      news :=
    ⟨news, ⟨isNews.chronicle, isNews.time, isNews.brought, isNews.launched,
        isNews.announced, isNews.inTurn⟩, peers, readers⟩
      queued := fun grounded => by
        refine .start grounded (by rintro _ ⟨⟩) rfl
          (fun watch member => ?_) size rfl
        refine (only watch member).imp_right fun own => ?_
        rw [own, size]
        exact Nat.lt_succ_self _
      refusing := ⟨spawned.refusing.counters, spawned.refusing.tally⟩ }

theorem close (hub : Hub) (id : PeerId) : Outside outsider hub (hub.close id) :=
  ofCourse (Course.close hub (.inl rfl)) (Uncounted.close hub id).refusing

theorem setPonging
    (hub : Hub) (id : PeerId) (ponging : Bool) (takes : outsider.takesPongs) :
    Outside outsider hub (hub.setPonging id ponging) :=
  ofPeer hub
    { PeerOutside.refl outsider (hub.peer id) with
      ponging := fun never => absurd takes never }
    rfl

theorem unregister (hub : Hub) (id : PeerId) :
    Outside outsider hub (hub.unregister id) :=
  ofPeer hub
    { PeerOutside.refl outsider (hub.peer id) with
      joins := by rintro ⟨⟩ }
    rfl

theorem renewDeadline
    (hub : Hub) (id : PeerId) (window : Span) (sets : outsider.setsDeadlines) :
    Outside outsider hub (hub.renewDeadline id window) :=
  ofPeer hub
    { PeerOutside.refl outsider (hub.peer id) with
      deadline := fun never => absurd sets never }
    rfl

theorem closeEach (hub : Hub) (closed : Nat) (ids : List PeerId) :
    Outside outsider hub (hub.closeEach closed ids).1 := by
  induction ids generalizing hub closed with
  | nil => exact refl outsider hub
  | cons first rest induction => exact (close hub first).trans (induction _ _)

theorem stop (hub : Hub) : Outside outsider hub hub.stop.1 := by
  have told : Outside outsider hub { hub with stopping := true } :=
    ofSame rfl rfl rfl rfl rfl rfl rfl rfl
  exact told.trans (closeEach _ _ _)

theorem deliverItem
    (play : Play) {id : PeerId} (feeds : outsider.feeds id)
    (item : Except Fault Frame) :
    Outside outsider play.hub (play.deliverItem id item).2.hub := by
  unfold Play.deliverItem
  split
  · rename_i takes
    unfold Play.takesArrivals at takes
    split at takes
    · rename_i socket isScripted
      have inside : id < play.hub.peers.size := by
        apply Nat.lt_of_not_le
        intro outside
        rw [Hub.peer_of_size_le play.hub id outside] at takes
        simp only [Bool.and_eq_true] at takes
        cases takes.1.2
      exact itemArrives play.hub inside feeds isScripted
    · cases takes
  · exact refl _ _

theorem deliverItems (play : Play) {id : PeerId} (feeds : outsider.feeds id)
    (items : List (Except Fault Frame)) :
    Outside outsider play.hub (play.deliverItems id items).2.hub := by
  induction items generalizing play with
  | nil => exact refl _ _
  | cons item rest induction =>
      exact (deliverItem play feeds item).trans (induction _)

theorem endInbox (play : Play) (id : PeerId) :
    Outside outsider play.hub (play.endInbox id).2.hub := by
  unfold Play.endInbox
  split
  · exact refl _ _
  · have ended : Outside outsider play.hub
        (Play.updateScripted play.hub id fun socket =>
          { socket with ended := true }) :=
      updateScripted play.hub id (fun _ => rfl) fun _ => rfl
    exact ended.trans (wakeReader _ _)

theorem shut (play : Play) (id : PeerId) :
    Outside outsider play.hub (play.shut id).2.hub := by
  unfold Play.shut
  split
  · exact refl _ _
  · split
    · exact refl _ _
    · refine Outside.trans (updateLink _ ?_ ?_) (wakeReader _ _)
      · exact fun _ => ⟨rfl, rfl, rfl⟩
      · exact fun _ => ⟨rfl, rfl, rfl⟩

theorem hangUp (play : Play) (id : PeerId) :
    Outside outsider play.hub (play.hangUp id).2.hub := by
  unfold Play.hangUp
  split
  · exact refl _ _
  · split
    · exact refl _ _
    · refine (Outside.trans (updateLink _ ?_ ?_) (wakeReader _ _)).trans
        (wakeWriter _ _)
      · exact fun _ => ⟨rfl, rfl, rfl⟩
      · exact fun _ => ⟨rfl, rfl, rfl⟩

theorem withSession {play : Play} {id : PeerId} {use : Play → Reply × Play}
    (used : Outside outsider play.hub (use play).2.hub) :
    Outside outsider play.hub (play.withSession id use).2.hub := by
  unfold Play.withSession
  split
  · exact used
  · exact refl _ _

theorem broadcast
    (play : Play) (frame : Frame) (limit : Span)
    (announces : outsider.announces)
    (deliver : ∀ id, outsider.starts (.deliver id frame limit .unstarted))
    (tally : ∀ deliveries, outsider.starts (.tally deliveries)) :
    Outside outsider play.hub (play.broadcast frame limit).2.hub := by
  have started :
      Outside outsider play.hub (play.hub.startDeliveries frame limit) :=
    ofCourse (Course.startDeliveries play.hub (by rintro _ ⟨⟩) frame limit
      announces deliver)
      (Uncounted.startDeliveries play.hub frame limit).refusing
  obtain ⟨watches, same, only⟩ :=
    Hub.foldl_watch_eq (play.hub.startDeliveries frame limit)
      play.hub.deliveryTasks (play.hub.startDeliveries frame limit).nextTask
  have performed : (play.broadcast frame limit).2.hub =
      { play.hub.startDeliveries frame limit with watches }.spawn
        (.tally play.hub.deliveryTasks) :=
    congrArg (fun hub => hub.spawn (.tally play.hub.deliveryTasks)) same
  rw [performed]
  exact started.trans (spawnWatching _ (tally _) (by rintro _ _ _ _ ⟨⟩) only)

theorem wait
    (play : Play) (limit server : Span)
    (linger : outsider.starts (.linger server none))
    (drain : ∀ serving, outsider.starts (.drain serving limit .unstarted)) :
    Outside outsider play.hub (play.wait limit server).2.hub := by
  have started :
      Outside outsider play.hub (play.hub.spawn (.linger server none)) :=
    spawn _ linger (by rintro _ _ _ _ ⟨⟩)
  refine started.trans (spawnWatching _ (drain _) (by rintro _ _ _ _ ⟨⟩)
    fun watch member => ?_)
  rcases List.mem_cons.mp member with rfl | earlier
  · exact .inr rfl
  · exact .inl earlier

/-- What an action is for the hub that brings no peer. -/
theorem perform
    {manner : Manner} (play : Play) {action : Action}
    (allowed : manner.allows action) (immediate : action.isImmediate = true)
    (isThere : ∀ id, action.about? = some id → id < play.hub.peers.size)
    (brings : ¬ action.BringsPeer) :
    Outside (manner.outsider play.hub.peers.size) play.hub
      (play.perform action).2.hub := by
  cases action with
  | register script => exact absurd trivial brings
  | serve script => exact absurd trivial brings
  | wire room limit => exact absurd trivial brings
  | http room => exact absurd trivial brings
  | arrive id items => exact .deliverItems play (isThere id rfl) items
  | failRead id fault => exact .deliverItem play (isThere id rfl) _
  | endInbox id => exact .endInbox play id
  | feed id octets => cases immediate
  | shut id => exact .shut play id
  | hangUp id => exact .hangUp play id
  | pause id on =>
      exact .updateLink _ (fun _ => ⟨rfl, rfl, rfl⟩) fun _ => ⟨rfl, rfl, rfl⟩
  | setScript id change => exact .updateScripted _ _ (fun _ => rfl) fun _ => rfl
  | send id frame limit =>
      exact .withSession
        (.spawn _ ⟨_, allowed, rfl, isThere⟩ (by rintro _ _ _ _ ⟨⟩))
  | ping peer payload =>
      refine .spawn _ ⟨_, allowed, ⟨_, ?_, rfl⟩, isThere⟩ (by rintro _ _ _ _ ⟨⟩)
      cases peer with
      | none => exact .inl rfl
      | some id =>
          by_cases alive : play.isAlive id = true
          · exact .inr (by simp [alive])
          · exact .inl (by simp [alive])
  | broadcast frame limit =>
      exact .broadcast play frame limit ⟨_, allowed, trivial⟩
        (fun id => ⟨_, allowed, .inl ⟨id, rfl⟩, isThere⟩)
        fun deliveries => ⟨_, allowed, .inr ⟨deliveries, rfl⟩, isThere⟩
  | close id => exact .withSession (.close _ _)
  | closeFrame id =>
      exact .withSession
        (.spawn _ ⟨_, allowed, rfl, isThere⟩ (by rintro _ _ _ _ ⟨⟩))
  | awaitClose id =>
      exact .withSession
        (.spawn _ ⟨_, allowed, rfl, isThere⟩ (by rintro _ _ _ _ ⟨⟩))
  | extend id window =>
      exact .withSession (.renewDeadline _ _ _ ⟨_, allowed, trivial⟩)
  | holdPong id =>
      refine .withSession ?_
      unfold Play.holdPong
      split
      · exact .refl _ _
      · exact .setPonging _ _ _ ⟨_, allowed, trivial⟩
  | returnPong id =>
      show Outside _ _ (play.returnPong id).2.hub
      unfold Play.returnPong
      split
      · exact .setPonging _ _ _ ⟨_, allowed, trivial⟩
      · exact .refl _ _
  | debug id => exact .withSession (.refl _ _)
  | remove id =>
      show Outside _ _ (play.remove id).2.hub
      unfold Play.remove
      split
      · exact .unregister _ _
      · exact .refl _ _
  | get id => exact .refl _ _
  | visitAll remove =>
      cases remove with
      | true => exact .fold Outside.unregister _ _
      | false => exact .refl _ _
  | visitTogether => exact .refl _ _
  | advance millis => cases immediate
  | stop => exact .stop _
  | askStopping => exact .refl _ _
  | wait limit server =>
      exact .wait play limit server ⟨_, allowed, .inl rfl, isThere⟩
        fun serving => ⟨_, allowed, .inr ⟨serving, rfl⟩, isThere⟩
  | request request => exact .ofCourse (Course.respond _ _ _) (.respond _ _ _)
  | takeSlot => exact .ofSame rfl rfl rfl rfl rfl rfl rfl rfl
  | freeSlot slot => exact .ofSame rfl rfl rfl rfl rfl rfl rfl rfl

end Outside

theorem Play.socket_of_link?
    {play : Play} {id : PeerId} {link : Link}
    (connected : play.link? id = some link) :
    (play.hub.peer id).socket = .link link := by
  unfold Play.link? at connected
  split at connected
  · rename_i same
    rw [same, Option.some.inj connected]
  · cases connected

end BroadcastHub.Scenario

namespace BroadcastHub.Server

open Scenario

theorem Hub.updatePeer_addPeer
    (hub : Hub) (peer : Peer) (change : Peer → Peer) :
    (hub.addPeer peer).updatePeer hub.peers.size change =
      hub.addPeer (change peer) := by
  have entries :
      (hub.peers.entries.push peer).modify hub.peers.entries.size change =
      hub.peers.entries.push (change peer) := by
    apply Array.ext
    · simp
    · intro position first second
      rw [Array.size_push] at second
      by_cases last : position = hub.peers.entries.size
      · simp [Array.getElem_modify, Array.getElem_push, last]
      · have below : position < hub.peers.entries.size := by omega
        simp [Array.getElem_modify, Array.getElem_push, below, Ne.symm last]
  simp only [Hub.updatePeer, Hub.addPeer, Table.update, Table.push,
    Table.size, entries]

/-- What an action is for the hub. -/
theorem Turnover.act
    {manner : Manner} (play : Play) {action : Action}
    (allowed : manner.allows action) (immediate : action.isImmediate = true)
    (isThere : ∀ id, action.about? = some id → id < play.hub.peers.size) :
    Turnover (manner.outsider play.hub.peers.size) play.hub
      (play.perform action).2.hub := by
  by_cases brings : action.BringsPeer
  · cases action with
    | register script =>
        have added :
            (manner.outsider play.hub.peers.size).adds (.scripted { script }) :=
          ⟨_, allowed, rfl⟩
        have joined : (play.perform (.register script)).2.hub = _ :=
          Hub.updatePeer_addPeer play.hub { socket := .scripted { script } } _
        rw [joined]
        exact .register added
    | serve script =>
        exact .serve ⟨_, allowed, rfl⟩ ⟨_, allowed, play.hub.peers.size, rfl⟩
          (.inl rfl)
    | wire room limit =>
        exact .serve ⟨_, allowed, _, rfl⟩ ⟨_, allowed, play.hub.peers.size, rfl⟩
          (.inl rfl)
    | http room =>
        exact .serve ⟨_, allowed, _, rfl⟩ ⟨_, allowed, play.hub.peers.size, rfl⟩
          (.inr rfl)
    | _ => exact brings.elim
  · exact .outside (.perform play allowed immediate isThere brings)

theorem Turnover.ofMove
    {manner : Manner} {before after : Play} (move : Move manner before after) :
    Turnover (manner.outsider before.hub.peers.size) before.hub after.hub := by
  cases move with
  | act allowed immediate isThere => exact .act before allowed immediate isThere
  | write connected isOpen fits =>
      have isLink := Play.socket_of_link? connected
      exact .outside
        (.clientWrites _ (Hub.lt_size_of_link _ _ isLink) isLink fits)
  | go isReady first => exact .go isReady first
  | tidy id => exact .outside (.dropUnused _ id)
  | read id => exact .outside (.letRead _ id)
  | sip id count => exact .outside (.letSip _ id count)
  | tick still forward whole passes => exact .tick still forward whole passes
  | notice known jobs => exact .outside (.refl _ _)

/-- A session that is closed stays so. -/
theorem Turnover.closed
    {outsider : Outsider} {before after : Hub}
    (turnover : Turnover outsider before after) {id : PeerId}
    (closed : (before.peer id).closed = true) :
    (after.peer id).closed = true := by
  -- Somebody who has just joined was not closed before.
  have joins :
      ∀ peer : Peer, ((before.addPeer peer).peer id).closed = true := by
    intro peer
    rw [Hub.peer_addPeer]
    split
    · rename_i joined
      rw [Hub.peer_of_size_le before id (Nat.le_of_eq joined.symm)] at closed
      cases closed
    · exact closed
  cases turnover with
  | outside outside =>
      obtain ⟨news, isNews, peers, -⟩ := outside.news
      exact (peers id).closed closed
  | register added => exact joins _
  | serve added opened serves => exact joins _
  | go isReady => exact ((Course.goOn before _).peer id).closed closed
  | @tick later still forward whole passes =>
      obtain ⟨ready, same, -⟩ := Hub.ring_eq { before with now := later }
      rw [same]
      exact closed

theorem Turnover.configuration_eq
    {outsider : Outsider} {before after : Hub}
    (turnover : Turnover outsider before after) :
    after.configuration = before.configuration := by
  cases turnover with
  | outside outside => exact outside.configuration
  | register added => rfl
  | serve added opened serves => rfl
  | go isReady => exact (Course.goOn before _).configuration
  | @tick later still forward whole passes =>
      obtain ⟨ready, same, -⟩ := Hub.ring_eq { before with now := later }
      rw [same]

theorem Turnover.whole
    {outsider : Outsider} {before after : Hub}
    (turnover : Turnover outsider before after)
    (whole : Span.perMillisecond ∣ before.now) :
    Span.perMillisecond ∣ after.now := by
  cases turnover with
  | outside outside => exact outside.now.symm ▸ whole
  | register added => exact whole
  | serve added opened serves => exact whole
  | go isReady => exact (Course.goOn before _).now.symm ▸ whole
  | @tick later still forward isWhole passes =>
      obtain ⟨ready, same, -⟩ := Hub.ring_eq { before with now := later }
      rw [same]
      exact isWhole

theorem Turnover.exists_news {outsider : Outsider} {before after : Hub}
    (turnover : Turnover outsider before after) :
    ∃ news, after.chronicle = news ++ before.chronicle := by
  cases turnover with
  | outside outside =>
      obtain ⟨news, isNews, -⟩ := outside.news
      exact ⟨news, isNews.chronicle⟩
  | register added => exact ⟨[], rfl⟩
  | serve added opened serves => exact ⟨[], rfl⟩
  | go isReady =>
      obtain ⟨news, isNews⟩ := (Course.goOn before _).news
      exact ⟨news, isNews.chronicle⟩
  | tick still forward whole passes => exact ⟨[], Hub.chronicle_ring _⟩

theorem Turnover.now_le {outsider : Outsider} {before after : Hub}
    (turnover : Turnover outsider before after) : before.now ≤ after.now := by
  cases turnover with
  | outside outside => exact Nat.le_of_eq outside.now.symm
  | register added => exact Nat.le_refl _
  | serve added opened serves => exact Nat.le_refl _
  | go isReady => exact Nat.le_of_eq (Course.goOn before _).now.symm
  | @tick later still forward whole passes =>
      obtain ⟨ready, same, -⟩ := Hub.ring_eq { before with now := later }
      rw [same]
      exact forward

theorem Turnover.peers_le
    {outsider : Outsider} {before after : Hub}
    (turnover : Turnover outsider before after) :
    before.peers.size ≤ after.peers.size := by
  cases turnover with
  | outside outside => exact Nat.le_of_eq outside.peers.symm
  | register added => exact Hub.size_peers_addPeer before _ ▸ Nat.le_succ _
  | serve added opened serves =>
      exact Hub.size_peers_addPeer before _ ▸ Nat.le_succ _
  | go isReady => exact Nat.le_of_eq (Course.goOn before _).peers.symm
  | @tick later still forward whole passes =>
      exact Nat.le_of_eq
        (congrArg Table.size (Hub.peers_ring { before with now := later })).symm

theorem Turnover.now_eq
    {outsider : Outsider} {before after : Hub}
    (turnover : Turnover outsider before after) {task : TaskId}
    (isReady : task ∈ before.ready) : after.now = before.now := by
  cases turnover with
  | outside outside => exact outside.now
  | register added => rfl
  | serve added opened serves => rfl
  | go isReady => exact (Course.goOn before _).now
  | tick still forward whole passes =>
      rw [still] at isReady
      cases isReady

end BroadcastHub.Server

namespace BroadcastHub.Scenario

open Server

/-- What holds of every fresh hub and is preserved in every turnover holds in
every run. -/
theorem Run.invariant
    {manner : Manner} {holds : Play → Prop} {configuration : Configuration}
    {property : Hub → Prop} {play : Play}
    (run : Run manner holds configuration play)
    (start : ∀ chance, property { Hub.start configuration with chance })
    (turn : ∀ before after, Run manner holds configuration before →
      Turnover (manner.outsider before.hub.peers.size) before.hub after →
      property before.hub → property after) : property play.hub := by
  induction run with
  | start chance held => exact start chance
  | move run move held induction => exact turn _ _ run (.ofMove move) induction

theorem Moves.exists_news
    {manner : Manner} {before after : Play}
    (moves : Moves manner before after) :
    ∃ news, after.hub.chronicle = news ++ before.hub.chronicle := by
  induction moves with
  | refl => exact ⟨[], rfl⟩
  | tail _ move induction =>
      obtain ⟨older, grown⟩ := induction
      obtain ⟨newer, grows⟩ := (Turnover.ofMove move).exists_news
      exact ⟨newer ++ older, by rw [grows, grown, List.append_assoc]⟩

theorem Moves.whole
    {manner : Manner} {before after : Play} (moves : Moves manner before after)
    (whole : Span.perMillisecond ∣ before.hub.now) :
    Span.perMillisecond ∣ after.hub.now := by
  induction moves with
  | refl => exact whole
  | tail _ move induction => exact (Turnover.ofMove move).whole induction

theorem Moves.peers_le
    {manner : Manner} {before after : Play}
    (moves : Moves manner before after) :
    before.hub.peers.size ≤ after.hub.peers.size := by
  induction moves with
  | refl => exact Nat.le_refl _
  | tail _ move induction =>
      exact Nat.le_trans induction (Turnover.ofMove move).peers_le

end BroadcastHub.Scenario
