import BroadcastHub.Proofs.Scenario.Moves
import BroadcastHub.Proofs.Server.Asides
import BroadcastHub.Proofs.Server.Rings
import BroadcastHub.Proofs.Server.SessionDoubles

/-!
# What clients do to hubs that are alike

What a client or a scripted socket does to another session it does to two hubs
that are alike in the same way.  What is done to the session in which they
differ may be done to either of them alone.
-/

namespace BroadcastHub.Server

open Scenario

/-! ### Tasks that are alike -/

namespace Task.Like

variable {id : PeerId} {orders : AlarmPairs} {first second : Task}

theorem isReader_eq (like : first.Like id orders second) :
    Play.isReader first = Play.isReader second := by
  cases like with
  | attend different stages => cases stages <;> rfl
  | _ => rfl

theorem uses_eq (like : first.Like id orders second) (peer : PeerId) :
    first.uses peer = second.uses peer := by
  cases like with
  | pong different payload stages => cases stages <;> rfl
  | _ => rfl

end Task.Like

/-- A task that concerns one session keeps no other one's socket in use. -/
theorem Task.uses_of_isWithin
    {id peer : PeerId} {task : Task} (within : task.isWithin id = true)
    (different : peer ≠ id) : task.uses peer = false := by
  have other : ∀ {own : PeerId}, decide (own = id) = true →
      decide (own = peer) = false :=
    fun isOwn => decide_eq_false fun same =>
      different (same.symm.trans (of_decide_eq_true isOwn))
  cases task
  case pong known payload stage =>
    cases known with
    | none => cases stage <;> rfl
    | some own =>
        cases stage with
        | unstarted => rfl
        | _ =>
            exact decide_eq_false fun same =>
              of_decide_eq_false (other within) (Option.some.inj same)
  case attend | deliver | send | sendClose | awaitClose => exact other within
  case converse => cases within
  all_goals rfl

namespace Hub

variable (hub : Hub) (id : PeerId)

theorem usesSocket_iff :
    hub.usesSocket id = true ↔ ∃ number, (hub.task number).uses id = true := by
  unfold usesSocket
  rw [Array.any_eq_true]
  constructor
  · rintro ⟨number, below, uses⟩
    refine ⟨number, ?_⟩
    unfold task Table.get
    rwa [Array.getD_eq_getD_getElem?, Array.getElem?_eq_getElem below]
  · rintro ⟨number, uses⟩
    have below : number < hub.tasks.size :=
      hub.lt_size_of_task number fun finished => by
        rw [finished] at uses
        cases uses
    refine ⟨number, below, ?_⟩
    unfold task Table.get at uses
    rwa [Array.getD_eq_getD_getElem?, Array.getElem?_eq_getElem below] at uses

theorem letSip_eq (count : Nat) :
    hub.letSip id count =
      Play.wakeWriter (hub.updateLink id (Link.clientSips count)) id := by
  have turn : ((hub.updateLink id (Link.clientSips count)).peer id).turn =
      (hub.peer id).turn :=
    hub.peer_updatePeer_keeps id id fun peer => by split <;> rfl
  have holder := congrArg Turn.holder turn
  unfold letSip Play.wakeWriter
  cases isHolder : (hub.peer id).turn.holder <;> simp only [holder, isHolder]

end Hub

/-! ### Other sessions -/

namespace Alike

variable {id : PeerId} {pairs : TaskPairs} {orders : AlarmPairs}
  {first second : Hub} (alike : Alike id pairs orders first second)
  {peer : PeerId} (different : peer ≠ id)

include alike different

theorem usesSocket_eq : first.usesSocket peer = second.usesSocket peer := by
  rw [Bool.eq_iff_iff, Hub.usesSocket_iff, Hub.usesSocket_iff]
  constructor
  · rintro ⟨number, uses⟩
    by_cases kept : number ∈ pairs.map Prod.fst
    · obtain ⟨pair, member, rfl⟩ := List.mem_map.mp kept
      exact ⟨pair.2, (alike.task pair member).uses_eq peer ▸ uses⟩
    · rw [Task.uses_of_isWithin (alike.firstFenced.within number kept)
        different] at uses
      cases uses
  · rintro ⟨number, uses⟩
    by_cases kept : number ∈ pairs.map Prod.snd
    · obtain ⟨pair, member, rfl⟩ := List.mem_map.mp kept
      exact ⟨pair.1, (alike.task pair member).uses_eq peer ▸ uses⟩
    · rw [Task.uses_of_isWithin (alike.secondFenced.within number kept)
        different] at uses
      cases uses

theorem updateLink (change : Link → Link) :
    Alike id pairs orders (first.updateLink peer change)
      (second.updateLink peer change) := by
  refine alike.updatePeer different fun like => ?_
  rw [like.socket]
  split
  · exact { like with socket := rfl }
  · exact like

theorem updateScripted (change : ScriptedSocket → ScriptedSocket) :
    Alike id pairs orders (Play.updateScripted first peer change)
      (Play.updateScripted second peer change) := by
  refine alike.updatePeer different fun like => ?_
  rw [like.socket]
  split
  · exact { like with socket := rfl }
  · exact like

theorem wakeReader :
    Alike id pairs orders (Play.wakeReader first peer)
      (Play.wakeReader second peer) := by
  unfold Play.wakeReader
  rcases (alike.peer peer different).attendant.option_cases with
    ⟨none, noneToo⟩ | ⟨one, two, attends, attendsToo, pair⟩
  · rw [none, noneToo]
    exact alike
  · simp only [attends, attendsToo, (alike.task _ pair).isReader_eq]
    split
    · exact alike.wake pair
    · exact alike

theorem wakeWriter :
    Alike id pairs orders (Play.wakeWriter first peer)
      (Play.wakeWriter second peer) := by
  unfold Play.wakeWriter
  rcases (alike.peer peer different).turn.holder.option_cases with
    ⟨none, noneToo⟩ | ⟨one, two, held, heldToo, pair⟩
  · rw [none, noneToo]
    exact alike
  · rw [held, heldToo]
    exact alike.wake pair

theorem clientWrites (octets : Octets) :
    Alike id pairs orders (Play.clientWrites first peer octets)
      (Play.clientWrites second peer octets) := by
  have noted : Alike id pairs orders (first.note (.fed peer octets))
      (second.note (.fed peer octets)) := alike.note fun _ _ => rfl
  exact (noted.updateLink different _).wakeReader different

theorem itemArrives (item : Except Fault Frame) :
    Alike id pairs orders (Play.itemArrives first peer item)
      (Play.itemArrives second peer item) := by
  have noted : Alike id pairs orders (first.note (.arrived peer item))
      (second.note (.arrived peer item)) := alike.note fun _ _ => rfl
  exact (noted.updateScripted different _).wakeReader different

theorem dropUnused :
    Alike id pairs orders (first.dropUnused peer) (second.dropUnused peer) := by
  unfold Hub.dropUnused
  rw [(alike.peer peer different).socket, alike.usesSocket_eq different]
  split
  · exact alike
  · split
    · exact alike
    · exact alike.updateLink different _

theorem letRead :
    Alike id pairs orders (first.letRead peer) (second.letRead peer) := by
  have read := alike.updateLink different Link.clientReads
  unfold Hub.letRead
  rw [(alike.peer peer different).socket]
  split
  · exact alike
  · simp only
    split
    · exact read.wakeWriter different
    · exact read

theorem letSip (count : Nat) :
    Alike id pairs orders (first.letSip peer count)
      (second.letSip peer count) := by
  rw [Hub.letSip_eq, Hub.letSip_eq]
  exact (alike.updateLink different _).wakeWriter different

end Alike

/-! ### The session in which they differ -/

namespace Apart

variable {id : PeerId} {others : List TaskId} {hub : Hub}
  (fenced : Fenced id others hub)

include fenced

theorem updateScripted (change : ScriptedSocket → ScriptedSocket) :
    Apart id others hub (Play.updateScripted hub id change) :=
  updatePeer fenced (by split <;> rfl) (by split <;> rfl)

theorem wakeReader : Apart id others hub (Play.wakeReader hub id) := by
  unfold Play.wakeReader
  split
  · rename_i task attends
    split
    · exact wake fenced (fenced.attendant task attends)
    · exact refl fenced
  · exact refl fenced

theorem wakeWriter : Apart id others hub (Play.wakeWriter hub id) := by
  unfold Play.wakeWriter
  split
  · rename_i task held
    exact wake fenced (fenced.holder task held)
  · exact refl fenced

theorem clientWrites (octets : Octets) :
    Apart id others hub (Play.clientWrites hub id octets) := by
  have noted : Apart id others hub (hub.note (.fed id octets)) :=
    note fenced fun _ _ => rfl
  have changed :=
    noted.trans (updateLink noted.fenced fun link => link.clientWrites octets)
  exact changed.trans (wakeReader changed.fenced)

theorem itemArrives (item : Except Fault Frame) :
    Apart id others hub (Play.itemArrives hub id item) := by
  have noted : Apart id others hub (hub.note (.arrived id item)) :=
    note fenced fun _ _ => rfl
  have changed := noted.trans (updateScripted noted.fenced fun socket =>
    { socket with inbox := socket.inbox ++ [item] })
  exact changed.trans (wakeReader changed.fenced)

theorem dropUnused : Apart id others hub (hub.dropUnused id) := by
  unfold Hub.dropUnused
  split
  · exact refl fenced
  · split
    · exact refl fenced
    · exact updateLink fenced _

theorem letRead : Apart id others hub (hub.letRead id) := by
  have read := updateLink fenced Link.clientReads
  unfold Hub.letRead
  split
  · exact refl fenced
  · simp only
    split
    · exact read.trans (wakeWriter read.fenced)
    · exact read

theorem letSip (count : Nat) : Apart id others hub (hub.letSip id count) := by
  have read := updateLink fenced (Link.clientSips count)
  rw [Hub.letSip_eq]
  exact read.trans (wakeWriter read.fenced)

/-- A task is started that counts what becomes of deliveries. -/
theorem tally (deliveries : List TaskId) :
    Apart id others hub
      ((deliveries.foldl (fun later delivery =>
        later.watch delivery hub.nextTask)
      hub).spawn (.tally deliveries)) := by
  obtain ⟨watches, same, listed⟩ := hub.foldl_watch_eq deliveries hub.nextTask
  have spawned : Apart id others hub (hub.spawn (.tally deliveries)) :=
    spawn fenced rfl
  have rewatched :
      Fenced id others { hub.spawn (.tally deliveries) with watches } :=
    spawned.fenced.withWatches fun watch member => by
      rcases listed watch member with earlier | new
      · exact spawned.fenced.watchers watch earlier
      · rw [new]
        exact ⟨(Hub.size_tasks_spawn hub _).symm ▸ Nat.lt_succ_self _,
          fenced.nextTask_notMem⟩
  rw [same]
  exact spawned.trans
    (ofEnclosed ⟨rewatched, fun _ _ => rfl, rfl, Nat.le_refl _⟩ rfl rfl rfl rfl
    (fun _ _ => rfl) rfl)

end Apart

/-! ### New sessions -/

/-- A new peer whose turn is free, and who is served by none of the others if it
has the session's number. -/
theorem Fenced.addPeer {id : PeerId} {others : List TaskId} {hub : Hub}
    (fenced : Fenced id others hub) {peer : Peer} (turn : peer.turn = {})
    (attendant : hub.peers.size = id → ∀ task, peer.attendant = some task →
      hub.Excludes others task) : Fenced id others (hub.addPeer peer) := by
  have own : id = hub.peers.size ∧ (hub.addPeer peer).peer id = peer ∨
      (hub.addPeer peer).peer id = hub.peer id := by
    rw [Hub.peer_addPeer]
    split
    · rename_i isNew
      exact .inl ⟨isNew, rfl⟩
    · exact .inr rfl
  have excludes : ∀ {task}, hub.Excludes others task →
      (hub.addPeer peer).Excludes others task :=
    fun excluded => ⟨excluded.below, excluded.elsewhere⟩
  refine
    { within := fenced.within
      below := fenced.below
      unmoved := fenced.unmoved
      ready := fenced.ready
      holder := fun task held => ?_
      waiting := fun task waits => ?_
      attendant := fun task attends => ?_
      watchers := fun watch member => excludes (fenced.watchers watch member) }
  · rcases own with ⟨-, same⟩ | same <;> rw [same] at held
    · rw [turn] at held
      cases held
    · exact excludes (fenced.holder task held)
  · rcases own with ⟨-, same⟩ | same <;> rw [same] at waits
    · rw [turn] at waits
      cases waits
    · exact excludes (fenced.waiting task waits)
  · rcases own with ⟨isNew, same⟩ | same <;> rw [same] at attends
    · exact excludes (attendant isNew.symm task attends)
    · exact excludes (fenced.attendant task attends)

namespace Alike

variable {id : PeerId} {pairs : TaskPairs} {orders : AlarmPairs}
  {first second : Hub} (alike : Alike id pairs orders first second)

include alike

theorem addPeer
    {peer other : Peer} (like : first.peers.size ≠ id → peer.Like pairs other)
    (firstFenced : Fenced id (pairs.map Prod.fst) (first.addPeer peer))
    (secondFenced : Fenced id (pairs.map Prod.snd) (second.addPeer other)) :
    Alike id pairs orders (first.addPeer peer) (second.addPeer other) :=
  { alike with
    peers := by
      rw [Hub.size_peers_addPeer, Hub.size_peers_addPeer, alike.peers]
    peer := fun number different => by
      rw [Hub.peer_addPeer, Hub.peer_addPeer, ← alike.peers]
      split
      · rename_i isNew
        exact like (isNew ▸ different)
      · exact alike.peer number different
    firstFenced, secondFenced }

theorem enroll (socket : Socket) (window : Span) :
    Alike id pairs orders
      ((first.addPeer { socket }).register first.peers.size window)
      ((second.addPeer { socket }).register second.peers.size window) := by
  have free : Turn.Like pairs {} {} := ⟨.nil, .nil⟩
  have added : Alike id pairs orders (first.addPeer { socket })
      (second.addPeer { socket }) :=
    alike.addPeer (fun _ => ⟨rfl, rfl, rfl, rfl, rfl, rfl, rfl, free, .nil⟩)
      (alike.firstFenced.addPeer rfl (by rintro _ _ ⟨⟩))
      (alike.secondFenced.addPeer rfl (by rintro _ _ ⟨⟩))
  rw [← alike.peers]
  by_cases own : first.peers.size = id
  · rw [own]
    exact added.apart (.updatePeer added.firstFenced rfl rfl)
      (.updatePeer added.secondFenced rfl rfl)
  · exact added.register own window

/-- A session begins to be served. -/
theorem serve (socket : Socket) :
    Leads id pairs
      ((first.addPeer { socket, attendant := some first.nextTask }).spawn
        (.attend first.peers.size .arriving))
      ((second.addPeer { socket, attendant := some second.nextTask }).spawn
        (.attend second.peers.size .arriving)) := by
  rw [← alike.peers]
  by_cases own : first.peers.size = id
  · have within : (Task.attend first.peers.size .arriving).isWithin id = true :=
      decide_eq_true own
    have excludes : ∀ {hub : Hub} {others : List TaskId} {task : Task},
        Fenced id others hub →
        (hub.spawn task).Excludes others hub.nextTask := fun fenced =>
      ⟨(Hub.size_tasks_spawn _ _).symm ▸ Nat.lt_succ_self _,
        fenced.nextTask_notMem⟩
    have spawned := alike.apart (.spawn alike.firstFenced within)
      (.spawn alike.secondFenced within)
    refine .now (spawned.addPeer (fun isOther => absurd own isOther)
      (spawned.firstFenced.addPeer rfl ?_)
      (spawned.secondFenced.addPeer rfl ?_))
    · rintro - _ ⟨⟩
      exact excludes alike.firstFenced
    · rintro - _ ⟨⟩
      exact excludes alike.secondFenced
  · have spawned := alike.spawn (.attend own .arriving)
    have listed : (first.tasks.size, second.tasks.size) ∈
        pairs ++ [(first.tasks.size, second.tasks.size)] :=
      List.mem_append_right _ (List.mem_singleton.mpr rfl)
    refine ⟨_, orders, spawned.addPeer
      (fun _ => ⟨rfl, rfl, rfl, rfl, rfl, rfl, rfl, ⟨.nil, .nil⟩,
        .cons listed .nil⟩)
      (spawned.firstFenced.addPeer rfl fun isOwn => absurd isOwn own)
      (spawned.secondFenced.addPeer rfl fun isOwn =>
        absurd (alike.peers.trans isOwn) own)⟩

end Alike

end BroadcastHub.Server
