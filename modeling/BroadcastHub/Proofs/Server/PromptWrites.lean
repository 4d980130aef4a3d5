import BroadcastHub.Proofs.Server.Sessions

/-!
# Writes that are done at once

Where nobody writes, nothing is left over from earlier writes and the pipe has
room for it, a frame is in the pipe as soon as its delivery goes on.
-/

namespace BroadcastHub.Server

/-- Whether nothing is left over from earlier writes and the pipe is open. -/
structure Desk.IsClear (desk : Desk) : Prop where
  accepted : desk.accepted = none
  encoded : desk.encoded = []
  isOpen : desk.outbound.closed = false

namespace Link

/-- A link with the octets of another frame in its pipe. -/
def pass (link : Link) (frame : Frame) : Link :=
  { link with
    outbound :=
      { link.outbound with
        content := link.outbound.content ++ Wire.encode frame } }

variable {link : Link} {frame : Frame}

theorem clear_pass (clear : link.desk.IsClear) :
    (link.pass frame).desk.IsClear :=
  ⟨clear.accepted, clear.encoded, clear.isOpen⟩

theorem written_pass :
    (link.pass frame).desk.written = link.desk.written ++ Wire.encode frame :=
  (List.append_assoc _ _ _).symm

theorem proceedPlacing_of_room (clear : link.desk.IsClear)
    (fits : (Wire.encode frame).length ≤ link.outbound.room) :
    link.proceedPlacing (.frame frame) = (link.pass frame, .done (.ok ())) := by
  have accepted : link.accepted = none := clear.accepted
  have encoded : link.encoded = [] := clear.encoded
  have isOpen : link.outbound.closed = false := clear.isOpen
  have isLong : (Wire.encode frame).isEmpty = false := rfl
  have all : (Wire.encode frame).take link.outbound.room = Wire.encode frame :=
    List.take_of_length_le fits
  have none : (Wire.encode frame).drop link.outbound.room = [] :=
    List.drop_of_length_le fits
  have placed :
      link.place frame = ({ link with accepted := some frame }, .through) := by
    simp [place, encodeAccepted, accepted]
  have pushed : { link with accepted := some frame }.push =
      (link.pass frame, .through) := by
    simp [push, encodeAccepted, encoded, enough, flush, isLong, isOpen,
      Pipe.write, all, none, pass, accepted]
  rw [proceedPlacing, frameOf, placed]
  simp only
  rw [proceedFlushing, pushed]
  rfl

end Link

/-- What a hub looks like after a frame has been written to a peer at once. -/
structure Passed
    (task : TaskId) (id : PeerId) (frame : Frame) (link : Link)
    (before after : Hub) : Prop where
  peers : after.peers.size = before.peers.size
  peer : ∀ other, after.peer other =
    if other = id then { before.peer id with socket := .link (link.pass frame) }
    else before.peer other
  tasks : after.tasks = before.tasks
  ready : after.ready = before.ready
  watches : after.watches = before.watches
  stopping : after.stopping = before.stopping
  chronicle : after.chronicle =
    ⟨before.now, .wrote task id frame (.ok ())⟩ ::
      ⟨before.now, .answered task id (.frame frame) (.ok ())⟩ ::
      ⟨before.now, .asked task id (.frame frame)⟩ :: before.chronicle

/-- What a hub looks like after a delivery has been made at once. -/
structure Delivered (task : TaskId) (id : PeerId) (frame : Frame) (link : Link)
    (before after : Hub) : Prop where
  stopping : after.stopping = before.stopping
  watches : after.watches = before.watches
  peers : after.peers.size = before.peers.size
  peer : ∀ other, after.peer other =
    if other = id then { before.peer id with socket := .link (link.pass frame) }
    else before.peer other
  tasks :
    after.tasks = (before.setTask task (.finished (.delivered true))).tasks
  ready : after.ready = before.ready.erase task
  chronicle : after.chronicle = [⟨before.now, .wrote task id frame (.ok ())⟩,
    ⟨before.now, .answered task id (.frame frame) (.ok ())⟩,
    ⟨before.now, .asked task id (.frame frame)⟩] ++ before.chronicle

namespace Hub

variable {hub : Hub} {task : TaskId} {id : PeerId} {frame : Frame} {link : Link}

theorem pollFrame_at_once
    (inside : id < hub.peers.size)
    (connected : (hub.peer id).socket = .link link) (clear : link.desk.IsClear)
    (fits : (Wire.encode frame).length ≤ link.outbound.room)
    (isOpen : (hub.peer id).closed = false) (free : (hub.peer id).turn = {})
    (span : Span) :
    ∃ after, hub.pollFrame id task frame span .unstarted =
      (after, .finished (.ok ())) ∧
      Passed task id frame link hub after := by
  let asking : Hub := hub.requestTurn id task
  have self : asking.peer id =
      { hub.peer id with turn := { holder := some task } } := by
    show (hub.updatePeer id _).peer id = _
    rw [peer_updatePeer_self hub id _ inside, free]
    rfl
  have size : asking.peers.size = hub.peers.size :=
    size_peers_updatePeer hub id _
  have still : id < asking.peers.size := size ▸ inside
  have has : asking.hasTurn id task = true := by
    rw [hasTurn, self]
    exact decide_eq_true rfl
  have socket :
      (asking.peer id).socket = .link link := by rw [self]; exact connected
  have started :
      (asking.peer id).socket.start asking.now asking.alarmsSet (.frame frame) =
      (.link (link.pass frame), .done (.ok ())) := by
    rw [socket, Socket.start, Link.proceedPlacing_of_room clear fits]
  have isOpenStill :
      (asking.peer id).closed = false := by rw [self]; exact isOpen
  let asked : Hub := ((asking.note (.asked task id (.frame frame))).setSocket id
    (.link (link.pass frame))).noteAlarm.note
    (.answered task id (.frame frame) (.ok ()))
  have begun :
      asking.startRequest id task (.frame frame) = (asked, .done (.ok ())) := by
    rw [startRequest, started]
    rfl
  have askedPeer : asked.peer id =
      { hub.peer id with
        socket := .link (link.pass frame),
        turn := { holder := some task } } := by
    show (asking.updatePeer id _).peer id = _
    rw [peer_updatePeer_self asking id _ still, self]
  let released : Hub := asked.updatePeer id fun peer => { peer with turn := {} }
  have freed : asked.releaseTurn id = released := by
    rw [releaseTurn, askedPeer]
    rfl
  have tried : (hub.requestTurn id task).tryFrame id task frame =
      (released, .settled (.ok ())) := by
    show asking.tryFrame id task frame = _
    rw [tryFrame, if_pos has, beginFrame,
      if_neg (by rw [isOpenStill]; exact Bool.false_ne_true), begun]
    show (asked.releaseTurn id, _) = _
    rw [freed]
  refine ⟨released.noteAlarm.note (.wrote task id frame (.ok ())), ?_, ?_⟩
  · rw [pollFrame, advanceFrame,
      if_neg (by rw [isOpen]; exact Bool.false_ne_true), tried]
    rfl
  · have sizeAsked : asked.peers.size = asking.peers.size :=
      size_peers_updatePeer (asking.note (.asked task id (.frame frame))) id _
    have sizeReleased : released.peers.size = asked.peers.size :=
      size_peers_updatePeer asked id _
    refine ⟨sizeReleased.trans (sizeAsked.trans size), fun other => ?_, ?_, ?_,
      ?_, ?_, ?_⟩
    case refine_2 | refine_3 | refine_4 | refine_5 | refine_6 =>
      simp only [released, asked, asking, note, noteAlarm, setSocket,
        updatePeer, requestTurn]
    show ((asked.updatePeer id _).peer other) = _
    split
    · rename_i same
      have stillAsked : id < asked.peers.size := sizeAsked ▸ still
      rw [same, peer_updatePeer_self asked id _ stillAsked, askedPeer, ← free]
    · rename_i different
      rw [peer_updatePeer_of_ne asked id other _ (Ne.symm different)]
      show (asking.updatePeer id _).peer other = _
      rw [peer_updatePeer_of_ne asking id other _ (Ne.symm different)]
      exact peer_updatePeer_of_ne hub id other _ (Ne.symm different)

theorem finish_unwatched
    {hub : Hub} (unwatched : hub.watches = []) (outcome : Outcome) :
    hub.finish task outcome = hub.setTask task (.finished outcome) := by
  cases hub
  cases unwatched
  rfl

/-- A delivery that goes on for the first time is over. -/
theorem delivered_goOn
    {limit : Span} (isTask : hub.task task = .deliver id frame limit .unstarted)
    (inside : id < hub.peers.size)
    (connected : (hub.peer id).socket = .link link) (clear : link.desk.IsClear)
    (fits : (Wire.encode frame).length ≤ link.outbound.room)
    (isOpen : (hub.peer id).closed = false) (free : (hub.peer id).turn = {})
    (unwatched : hub.watches = []) :
    Delivered task id frame link hub (hub.goOn task) := by
  let start : Hub := { hub with ready := hub.ready.erase task }
  obtain ⟨after, polled, passed⟩ :=
    @pollFrame_at_once start task id frame link inside connected clear fits
      isOpen free limit
  let counted : Hub := after.count fun counters =>
    { counters with delivered := counters.delivered + 1 }
  have goes :
      hub.goOn task = counted.setTask task (.finished (.delivered true)) := by
    have same : start.task task = .deliver id frame limit .unstarted := isTask
    show start.poll task = _
    rw [poll, same]
    show start.pollDelivery task id frame limit .unstarted = _
    rw [pollDelivery, polled]
    have unwatchedStill : counted.watches = [] := passed.watches.trans unwatched
    exact finish_unwatched unwatchedStill _
  rw [goes]
  exact ⟨passed.stopping, passed.watches, passed.peers, passed.peer,
    congrArg (fun tasks : Table Task => tasks.update task fun _ =>
      .finished (.delivered true))
        passed.tasks, passed.ready, passed.chronicle⟩

end Hub

end BroadcastHub.Server
