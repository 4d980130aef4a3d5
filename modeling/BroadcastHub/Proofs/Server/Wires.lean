import BroadcastHub.Proofs.Server.Housing

/-!
# The ledgers of all links

For every link there is a ledger at any time: each turnover keeps it, whoever
goes on, whatever is given up and however much the pipe takes.
-/

namespace BroadcastHub.Server

open Scenario

/-- What the tasks of a hub have under way at the socket of a peer. -/
def Hub.operations (hub : Hub) (id : PeerId) (task : TaskId) :
    Option (SinkRequest × Operation) :=
  (hub.task task).operationAt id

/-- Every link has a ledger. -/
def Wires (hub : Hub) : Prop :=
  ∀ id link, (hub.peer id).socket = .link link →
    ∃ placed, Wired id (hub.operations id) (hub.peer id).turn link.desk
      hub.chronicle placed

theorem Socket.desk?_eq_some
    {socket : Socket} {desk : Desk} (same : socket.desk? = some desk) :
    ∃ link, socket = .link link ∧ link.desk = desk := by
  cases socket with
  | scripted scripted => cases same
  | link link => exact ⟨link, rfl, Option.some.inj same⟩

theorem Socket.exists_link
    {before after : Socket} {link : Link}
    (isLink : after.desk?.isSome = before.desk?.isSome)
    (connected : after = .link link) : ∃ earlier, before = .link earlier := by
  cases before with
  | scripted scripted =>
      rw [connected] at isLink
      cases isLink
  | link earlier => exact ⟨earlier, rfl⟩

namespace Wired

variable {id : PeerId} {ops : TaskId → Option (SinkRequest × Operation)}
  {turn : Turn} {desk after : Desk} {chronicle : List Entry}
  {placed : List Call}

theorem read
    (wired : Wired id ops turn desk chronicle placed)
    (onward : desk.Onward after []) :
    Wired id ops turn after chronicle placed where
  ledger := wired.ledger.onward onward
  holder := wired.holder
  stage := wired.stage

theorem ofAside
    {before later : Hub} (aside : Aside id before later)
    (wired : Wired id (before.operations id) (before.peer id).turn desk
      before.chronicle placed) :
    Wired id (later.operations id) (later.peer id).turn desk later.chronicle
      placed := by
  obtain ⟨news, chronicle, elsewhere⟩ := aside.chronicle
  rw [chronicle]
  exact wired.keep aside.operations (congrArg Turn.holder aside.turn) news
    (calls_of_elsewhere elsewhere) (successes_of_elsewhere elsewhere)

/-- The turn of a task keeps the ledger of a link. -/
theorem ofWriteTurn
    {task : TaskId} {before later : Hub} {link next : Link}
    (turned : WriteTurn id task before later)
    (connected : (before.peer id).socket = .link link)
    (connectedLater : (later.peer id).socket = .link next)
    (wired : Wired id (before.operations id) (before.peer id).turn link.desk
      before.chronicle placed) :
    ∃ placed, Wired id (later.operations id) (later.peer id).turn next.desk
      later.chronicle
      placed := by
  cases turned with
  | aside own aside =>
      have same : next.desk = link.desk := by
        have desk := aside.desk
        rw [connected, connectedLater] at desk
        exact Option.some.inj desk
      rw [same]
      exact ⟨placed, ofAside aside wired⟩
  | frame sends within own step stationAfter chronicle ended posts =>
      rw [Hub.station, connected] at step
      obtain ⟨last, placed, isLast, kept⟩ :=
        wired.frameStep (Task.operationAt_of_post? own) step
      rw [← stationAfter] at isLast kept
      have same : next = last :=
        Socket.link.inj (connectedLater.symm.trans isLast)
      have ops : later.operations id = _ :=
        funext (WriteTurn.operations_frame posts)
      rw [same, chronicle, ops]
      exact ⟨placed, kept⟩
  | @close current following told station earlier asks own step stationAfter
    chronicle elsewhere
      ended posts =>
      rw [Hub.station, connected] at step
      have left :
        Wired id (before.operations id) (before.peer id).turn link.desk
          (earlier ++ before.chronicle) placed :=
        wired.keep (fun _ => rfl) rfl earlier (calls_of_elsewhere elsewhere)
          (successes_of_elsewhere elsewhere)
      obtain ⟨last, placed, isLast, kept⟩ :=
    left.closeStep (Task.operationAt_of_closing own) step
      rw [← stationAfter] at isLast kept
      have same : next = last :=
    Socket.link.inj (connectedLater.symm.trans isLast)
      have ops : later.operations id = _ :=
    funext (WriteTurn.operations_closing posts)
      rw [same, chronicle, ops]
      exact ⟨placed, kept⟩

end Wired

namespace Wires

variable {before after hub : Hub}

theorem postAt_of_starts {manner : Manner} {peers : Nat} {task : Task}
    {id : PeerId} (starts : (manner.outsider peers).starts task) :
    task.postAt id = none := by
  obtain ⟨action, -, started, -⟩ := starts
  cases action <;> simp only [Action.Starts] at started
  case send => subst started; exact ite_self _
  case ping => obtain ⟨known, -, rfl⟩ := started; rfl
  case broadcast =>
    rcases started with ⟨peer, rfl⟩ | ⟨deliveries, rfl⟩
    · exact ite_self _
    · rfl
  case closeFrame => subst started; exact ite_self _
  case awaitClose => subst started; rfl
  case wait => rcases started with rfl | ⟨serving, rfl⟩ <;> rfl

theorem start (configuration : Configuration) (chance : Nat → Nat) :
    Wires { Hub.start configuration with chance } := by
  intro id link connected
  exact absurd (Hub.lt_size_of_link _ id connected) (Nat.not_lt_zero id)

/-- Somebody who has just joined has an empty ledger. -/
theorem joins
    {manner : Manner} {peers : Nat} {socket : Socket} {link : Link}
    {turn : Turn} {ops : TaskId → Option (SinkRequest × Operation)}
    (housed : Housed hub) (added : (manner.outsider peers).adds socket)
    (connected : socket = .link link) (idle : ∀ task, ops task = none) :
    Wired hub.peers.size ops turn link.desk hub.chronicle [] := by
  have elsewhere :
      ∀ entry ∈ hub.chronicle, ¬ entry.happening.isAt hub.peers.size := by
    intro entry member isAt
    exact Nat.lt_irrefl _
      (housed.told entry member _ (Happening.concerns_of_isAt isAt))
  have fresh : ∃ room limit, link = .connect room limit := by
    obtain ⟨action, -, adds⟩ := added
    rw [connected] at adds
    cases action <;> simp only [Action.Adds] at adds
    case register => cases adds
    case serve => cases adds
    case wire room limit =>
      obtain ⟨limit, same⟩ := adds
      exact ⟨room, limit, Socket.link.inj same⟩
    case http room =>
      obtain ⟨limit, same⟩ := adds
      exact ⟨room, limit, Socket.link.inj same⟩
  obtain ⟨room, limit, rfl⟩ := fresh
  refine Wired.rest ⟨List.nil_sublist _, rfl, ?_⟩ turn idle
  rw [successes_of_elsewhere elsewhere]
  rintro _ ⟨⟩

theorem outside {manner : Manner} {peers : Nat} (wires : Wires before)
    (outside : Outside (manner.outsider peers) before after) : Wires after := by
  intro id link connected
  obtain ⟨news, isNews, peerOutside, -⟩ := outside.news
  have left := peerOutside id
  obtain ⟨earlier, wasConnected⟩ := Socket.exists_link left.isLink connected
  obtain ⟨placed, wired⟩ := wires id earlier wasConnected
  have onward : earlier.desk.Onward link.desk [] := by
    obtain ⟨desk, same, encoded, accepted, written⟩ :=
      left.desk earlier.desk (by rw [wasConnected]; rfl)
    rw [connected] at same
    rw [← Option.some.inj same] at encoded accepted written
    refine ⟨?_, written ▸ List.prefix_rfl⟩
    rw [List.append_nil, Desk.stream, Desk.stream, written, encoded, accepted]
  have elsewhere : ∀ entry ∈ news, ¬ entry.happening.isAt id := by
    intro entry member isAt
    have brings := isNews.brought entry member
    cases same : entry.happening <;> rw [same] at brings isAt <;>
      first | cases brings; done | cases isAt
  have same :
      ∀ other, after.operations id other = before.operations id other := by
    intro other
    unfold Hub.operations
    by_cases below : other < before.tasks.size
    · rw [outside.task other below]
    · rw [Hub.task_of_size_le before other (Nat.not_lt.mp below)]
      by_cases inside : other < after.tasks.size
      · exact Task.operationAt_of_postAt (postAt_of_starts
          (outside.newTask other (Nat.not_lt.mp below) inside).1)
      · rw [Hub.task_of_size_le after other (Nat.not_lt.mp inside)]
  refine ⟨placed, ?_⟩
  rw [isNews.chronicle]
  exact (wired.read onward).keep same (congrArg Turn.holder left.turn) news
    (calls_of_elsewhere elsewhere) (successes_of_elsewhere elsewhere)

theorem goOn {task : TaskId} (housed : Housed hub) (wires : Wires hub) :
    Wires (hub.goOn task) := by
  intro id link connected
  obtain ⟨earlier, wasConnected⟩ :=
    Socket.exists_link ((Course.goOn hub task).peer id).isLink connected
  obtain ⟨placed, wired⟩ := wires id earlier wasConnected
  exact Wired.ofWriteTurn
    (WriteTurn.goOn (fun peer writes =>
      housed.tasks task peer (Task.regards_of_writes writes)) id)
    wasConnected connected wired

/-- Every turnover keeps the ledgers. -/
theorem turn
    {manner : Manner} (housed : Housed before) (wires : Wires before)
    (turnover : Turnover (manner.outsider before.peers.size) before after) :
    Wires after := by
  have idle : ∀ task, before.operations before.peers.size task = none := by
    intro task
    apply Task.operationAt_of_postAt
    refine Task.postAt_of_writes_ne fun writes =>
      Nat.lt_irrefl before.peers.size ?_
    exact housed.tasks task _ (Task.regards_of_writes writes)
  cases turnover with
  | outside outside => exact wires.outside outside
  | @register socket added =>
      intro id link connected
      rw [Hub.peer_addPeer] at connected ⊢
      by_cases joined : id = before.peers.size
      · rw [if_pos joined] at connected ⊢
        subst joined
        exact ⟨[], joins housed added connected idle⟩
      · rw [if_neg joined] at connected ⊢
        exact wires id link connected
  | @serve socket task added opened serves =>
      have sameOps : ∀ id other, (((before.addPeer
          { socket, attendant := some before.nextTask }).spawn task).operations
          id other) =
          before.operations id other := by
        intro id other
        unfold Hub.operations
        rw [Hub.task_spawn]
        split
        · rename_i isNew
          have none : before.task other = default :=
            Hub.task_of_size_le before other (Nat.le_of_eq isNew.symm)
          rw [none]
          rcases serves with rfl | rfl <;> rfl
        · rfl
      have peer : ∀ id, (((before.addPeer
          { socket, attendant := some before.nextTask }).spawn task).peer id) =
          if id =
          before.peers.size then { socket, attendant := some before.nextTask }
          else before.peer id :=
        fun id => Hub.peer_addPeer before id _
      intro id link connected
      rw [peer] at connected ⊢
      by_cases joined : id = before.peers.size
      · rw [if_pos joined] at connected ⊢
        subst joined
        exact ⟨[], joins housed added connected fun other =>
          (sameOps _ other).trans (idle other)⟩
      · rw [if_neg joined] at connected ⊢
        obtain ⟨placed, wired⟩ := wires id link connected
        exact ⟨placed, wired.keep (sameOps id) rfl [] rfl rfl⟩
  | go isReady => exact goOn housed wires
  | @tick later still forward whole passes =>
      obtain ⟨ready, same, -⟩ := Hub.ring_eq { before with now := later }
      rw [same]
      exact wires

end Wires

end BroadcastHub.Server
