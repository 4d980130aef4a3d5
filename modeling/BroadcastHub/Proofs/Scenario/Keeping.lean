import BroadcastHub.Proofs.Scenario.Turnover
import BroadcastHub.Proofs.Server.Admitting
import BroadcastHub.Proofs.Server.Keeping

/-!
# What moves from outside keep of peers and slots

Clients and operators only write, read, start tasks, close sessions, take them
out of the registry and let peers join.  So the slots and lasting views of
peers stay as they are, unless the view depends on what an operator does.
-/

namespace BroadcastHub.Scenario

open Server

namespace Action

def Closes : Action → Prop
  | close _ => True
  | stop => True
  | _ => False

/-- Whether an action takes sessions out of the registry. -/
def Unregisters : Action → Prop
  | remove _ => True
  | visitAll _ => True
  | _ => False

/-- Whether an action takes slots by itself, or gives them back. -/
def HandlesSlots : Action → Prop
  | takeSlot => True
  | freeSlot _ => True
  | _ => False

end Action

end BroadcastHub.Scenario

namespace BroadcastHub.Server.Keeps

open Scenario

variable {α : Type} {view : Peer → α} (lasting : Lasting view)

/-! ### Clients -/

theorem wakeReader (hub : Hub) (id : PeerId) :
    Keeps view hub (Play.wakeReader hub id) := by
  unfold Play.wakeReader
  split
  · split
    · exact wake hub _
    · exact refl hub
  · exact refl hub

theorem wakeWriter (hub : Hub) (id : PeerId) :
    Keeps view hub (Play.wakeWriter hub id) := by
  unfold Play.wakeWriter
  split
  · exact wake hub _
  · exact refl hub

include lasting

theorem updateScripted
    (hub : Hub) (id : PeerId) (change : ScriptedSocket → ScriptedSocket) :
    Keeps view hub (Play.updateScripted hub id change) := by
  refine updatePeer hub id fun peer => ?_
  cases same : peer.socket with
  | link link => rfl
  | scripted socket => exact lasting.socket peer _ (by rw [same]; rfl)

theorem clientWrites (hub : Hub) (id : PeerId) (octets : Octets) :
    Keeps view hub (Play.clientWrites hub id octets) := by
  have fed : Keeps view hub (hub.note (.fed id octets)) := ofPeers rfl rfl
  have written : Keeps view (hub.note (.fed id octets))
      ((hub.note (.fed id octets)).updateLink id fun link =>
        link.clientWrites octets) :=
    updateLink lasting _ id fun _ => rfl
  exact (fed.trans written).trans (wakeReader _ id)

theorem dropUnused (hub : Hub) (id : PeerId) :
    Keeps view hub (hub.dropUnused id) := by
  unfold Hub.dropUnused
  split
  · exact refl hub
  · split
    · exact refl hub
    · exact updateLink lasting hub id fun _ => rfl

theorem letRead (hub : Hub) (id : PeerId) :
    Keeps view hub (hub.letRead id) := by
  have read : Keeps view hub (hub.updateLink id Link.clientReads) := by
    refine updateLink lasting hub id fun link => ?_
    unfold Link.clientReads
    split
    · exact List.append_nil _
    · rfl
  unfold Hub.letRead
  split
  · exact refl hub
  · simp only
    split
    · split
      · exact read.trans (wake _ _)
      · exact read
    · exact read

theorem letSip (hub : Hub) (id : PeerId) (count : Nat) :
    Keeps view hub (hub.letSip id count) := by
  have read : Keeps view hub (hub.updateLink id (Link.clientSips count)) :=
    updateLink lasting hub id fun _ => rfl
  unfold Hub.letSip
  split
  · exact read.trans (wake _ _)
  · exact read

theorem deliverItem (play : Play) (id : PeerId) (item : Except Fault Frame) :
    Keeps view play.hub (play.deliverItem id item).2.hub := by
  unfold Play.deliverItem
  split
  · have arrived : Keeps view play.hub (play.hub.note (.arrived id item)) :=
      ofPeers rfl rfl
    exact (arrived.trans (updateScripted lasting _ id _)).trans
      (wakeReader _ id)
  · exact refl play.hub

theorem deliverItems
    (play : Play) (id : PeerId) (items : List (Except Fault Frame)) :
    Keeps view play.hub (play.deliverItems id items).2.hub := by
  induction items generalizing play with
  | nil => exact refl play.hub
  | cons item rest induction =>
      exact (deliverItem lasting play id item).trans (induction _)

theorem endInbox (play : Play) (id : PeerId) :
    Keeps view play.hub (play.endInbox id).2.hub := by
  unfold Play.endInbox
  split
  · exact refl play.hub
  · exact (updateScripted lasting play.hub id _).trans (wakeReader _ id)

theorem shut (play : Play) (id : PeerId) :
    Keeps view play.hub (play.shut id).2.hub := by
  unfold Play.shut
  split
  · exact refl play.hub
  · split
    · exact refl play.hub
    · have ended : Keeps view play.hub
          (play.hub.updateLink id fun link =>
            { link with inbound := link.inbound.close }) :=
        updateLink lasting play.hub id fun _ => rfl
      exact ended.trans (wakeReader _ id)

theorem hangUp (play : Play) (id : PeerId) :
    Keeps view play.hub (play.hangUp id).2.hub := by
  unfold Play.hangUp
  split
  · exact refl play.hub
  · split
    · exact refl play.hub
    · have gone : Keeps view play.hub (play.hub.updateLink id Link.hangUp) :=
        updateLink lasting play.hub id fun _ => rfl
      exact (gone.trans (wakeReader _ id)).trans (wakeWriter _ id)

omit lasting

/-! ### Operators -/

theorem withSession {play : Play} {id : PeerId} {use : Play → Reply × Play}
    (used : Keeps view play.hub (use play).2.hub) :
    Keeps view play.hub (play.withSession id use).2.hub := by
  unfold Play.withSession
  split
  · exact used
  · exact refl play.hub

theorem closeEach
    (ignores : IgnoresClosing view) (hub : Hub) (closed : Nat)
    (ids : List PeerId) : Keeps view hub (hub.closeEach closed ids).1 := by
  induction ids generalizing hub closed with
  | nil => exact refl hub
  | cons first rest induction =>
      exact (close ignores hub first).trans (induction _ _)

theorem stop (ignores : IgnoresClosing view) (hub : Hub) :
    Keeps view hub hub.stop.1 := by
  have told : Keeps view hub { hub with stopping := true } := ofPeers rfl rfl
  exact told.trans (closeEach ignores _ _ _)

theorem broadcast (play : Play) (frame : Frame) (limit : Span) :
    Keeps view play.hub (play.broadcast frame limit).2.hub := by
  have started : Keeps view play.hub (play.hub.startDeliveries frame limit) :=
    startDeliveries play.hub frame limit
  exact (started.trans (fold (fun hub delivery => watch hub delivery _) _
    _)).trans (ofPeers rfl rfl)

theorem request (hub : Hub) (request : Http.Request) :
    Keeps view hub (Http.respond hub request false).1 := by
  have responds := respond_responds hub request false
  obtain ⟨admission, counters, same⟩ := responds.eq_with
  have unchanged :
      (Http.respond hub request false).1.admission = hub.admission := by
    generalize (Http.respond hub request false).1 = after at responds ⊢
    generalize (Http.respond hub request false).2.1 = response at responds
    generalize (Http.respond hub request false).2.2 = begins at responds
    cases responds with
    | aside other plain => rfl
    | session asks admits status =>
        cases admits with
        | accepted goesOn free hasKey turns => cases turns
        | _ => rfl
  exact ofPeers unchanged (by rw [same])

/-- What an action keeps that brings no peer and handles no slots. -/
theorem perform
    (lasting : Lasting view) (play : Play) {action : Action}
    (immediate : action.isImmediate = true) (brings : ¬ action.BringsPeer)
    (handles : ¬ action.HandlesSlots)
    (closes : action.Closes → IgnoresClosing view)
    (unregisters : action.Unregisters → IgnoresRegistry view) :
    Keeps view play.hub (play.perform action).2.hub := by
  cases action with
  | register script => exact absurd trivial brings
  | serve script => exact absurd trivial brings
  | wire room limit => exact absurd trivial brings
  | http room => exact absurd trivial brings
  | arrive id items => exact deliverItems lasting play id items
  | failRead id fault => exact deliverItem lasting play id _
  | endInbox id => exact endInbox lasting play id
  | feed id octets => cases immediate
  | shut id => exact shut lasting play id
  | hangUp id => exact hangUp lasting play id
  | pause id on => exact updateLink lasting play.hub id fun _ => rfl
  | setScript id change => exact updateScripted lasting play.hub id _
  | send id frame limit => exact withSession (ofPeers rfl rfl)
  | ping peer payload => exact ofPeers rfl rfl
  | broadcast frame limit => exact broadcast play frame limit
  | close id => exact withSession (close (closes trivial) play.hub id)
  | closeFrame id => exact withSession (ofPeers rfl rfl)
  | awaitClose id => exact withSession (ofPeers rfl rfl)
  | extend id window =>
      exact withSession (renewDeadline lasting play.hub id window)
  | holdPong id =>
      refine withSession ?_
      unfold Play.holdPong
      split
      · exact refl play.hub
      · exact setPonging lasting play.hub id true
  | returnPong id =>
      show Keeps view play.hub (play.returnPong id).2.hub
      unfold Play.returnPong
      split
      · exact setPonging lasting play.hub id false
      · exact refl play.hub
  | debug id => exact withSession (refl play.hub)
  | remove id =>
      show Keeps view play.hub (play.remove id).2.hub
      unfold Play.remove
      split
      · exact unregister (unregisters trivial) play.hub id
      · exact refl play.hub
  | get id => exact refl play.hub
  | visitAll remove =>
      cases remove with
      | true => exact fold (unregister (unregisters trivial)) _ _
      | false => exact refl play.hub
  | visitTogether => exact refl play.hub
  | advance millis => cases immediate
  | stop => exact stop (closes trivial) play.hub
  | askStopping => exact refl play.hub
  | wait limit server => exact ofPeers rfl rfl
  | request request => exact Keeps.request play.hub request
  | takeSlot => exact absurd trivial handles
  | freeSlot slot => exact absurd trivial handles

end BroadcastHub.Server.Keeps

namespace BroadcastHub.Scenario

open Server

variable {α : Type} {view : Peer → α} {id : PeerId}

/-- What an action shows of a peer that is there already. -/
theorem Play.view_perform
    (lasting : Lasting view) (play : Play) {action : Action}
    (immediate : action.isImmediate = true) (inside : id < play.hub.peers.size)
    (closes : action.Closes → IgnoresClosing view)
    (unregisters : action.Unregisters → IgnoresRegistry view) :
    view ((play.perform action).2.hub.peer id) = view (play.hub.peer id) := by
  have notNew : id ≠ play.hub.peers.size := Nat.ne_of_lt inside
  by_cases brings : action.BringsPeer
  · cases action <;> first | exact brings.elim | skip
    case register script =>
      have joined : (play.perform (.register script)).2.hub = _ :=
        Hub.updatePeer_addPeer play.hub { socket := .scripted { script } } _
      rw [joined, Hub.peer_addPeer, if_neg notNew]
    all_goals
      show view ((play.hub.addPeer _).peer id) = _
      rw [Hub.peer_addPeer, if_neg notNew]
  · by_cases handles : action.HandlesSlots
    · cases action <;> first | exact handles.elim | rfl
    · exact (Keeps.perform lasting play immediate brings handles closes
        unregisters).peer id

/-- A move lets a task go on, or shows at peers only what its action does to
them. -/
theorem Move.view_or_goes
    (lasting : Lasting view) {manner : Manner} {play after : Play}
    (move : Move manner play after) (inside : id < play.hub.peers.size)
    (spares : ∀ action, manner.allows action →
      (action.Closes → IgnoresClosing view) ∧
        (action.Unregisters → IgnoresRegistry view)) :
    (∃ task ∈ play.hub.ready, after.hub = play.hub.goOn task) ∨
      view (after.hub.peer id) = view (play.hub.peer id) := by
  have kept : ∀ {later : Hub}, Keeps view play.hub later →
      view (later.peer id) = view (play.hub.peer id) :=
    fun keeps => keeps.peer id
  cases move with
  | @act action allowed immediate isThere =>
      obtain ⟨closes, unregisters⟩ := spares action allowed
      exact .inr (play.view_perform lasting immediate inside closes unregisters)
  | write connected isOpen fits =>
      exact .inr (kept (.clientWrites lasting play.hub _ _))
  | @go task isReady first => exact .inl ⟨task, isReady, rfl⟩
  | tidy peer => exact .inr (kept (.dropUnused lasting play.hub peer))
  | read peer => exact .inr (kept (.letRead lasting play.hub peer))
  | sip peer count => exact .inr (kept (.letSip lasting play.hub peer count))
  | @tick later still forward whole passes =>
      refine .inr ?_
      show view (({ play.hub with now := later } : Hub).ring.peer id) = _
      rw [Hub.peer, Hub.peers_ring]
      rfl
  | notice known jobs => exact .inr rfl

end BroadcastHub.Scenario
