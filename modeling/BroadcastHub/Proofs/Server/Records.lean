import Mathlib.Algebra.BigOperators.Group.Finset.Piecewise
import BroadcastHub.Proofs.Server.Uncounted
import BroadcastHub.Proofs.Server.Wires

/-!
# What scripted sockets record

A scripted socket records a frame when its write succeeds, and at no other time:
neither a write that is given up nor a close frame leaves anything there.  So
what it has recorded are the frames of the writes to its peer that have
succeeded, in their order.
-/

namespace BroadcastHub.Server

open Scenario

/-- The frames of the writes to a peer that have succeeded. -/
def framesTo (id : PeerId) (chronicle : List Entry) : List Frame :=
  (successes id chronicle).map fun call => Link.frameOf call.2

theorem framesTo_append (id : PeerId) (newer older : List Entry) :
    framesTo id (newer ++ older) = framesTo id older ++ framesTo id newer := by
  rw [framesTo, successes_append, List.map_append]
  rfl

theorem framesTo_of_elsewhere
    {id : PeerId} {news : List Entry}
    (elsewhere : ∀ entry ∈ news, ¬ entry.happening.isAt id) :
    framesTo id news = [] :=
  congrArg _ (successes_of_elsewhere elsewhere)

/-- What a request records when it has come so far. -/
def SinkRequest.recorded : SinkRequest → Progress → List Frame
  | .frame content, .done (.ok ()) => [content]
  | _, _ => []

theorem ScriptedSocket.sent_conclude
    (socket : ScriptedSocket) (request : SinkRequest) (fails : Bool) :
    (socket.conclude request fails).1.sent =
      socket.sent ++ request.recorded
        (.done (socket.conclude request fails).2) := by
  cases request <;> cases fails <;> first | rfl | exact (List.append_nil _).symm

theorem ScriptedSocket.sent_noteRequest
    (socket : ScriptedSocket) (request : SinkRequest) :
    (socket.noteRequest request).sent = socket.sent := by
  cases request <;> rfl

namespace Socket

variable {socket after : Socket} {now : Instant} {request : SinkRequest}
  {progress : Progress}

theorem sent?_of_start {order : Nat}
    (started : socket.start now order request = (after, progress)) :
    after.sent? = socket.sent?.map (· ++ request.recorded progress) := by
  cases socket with
  | link connection =>
      cases started
      rfl
  | scripted scripted =>
      simp only [start, ScriptedSocket.start] at started
      split at started <;> cases started
      · exact congrArg some ((ScriptedSocket.sent_conclude _ _ _).trans
          (by rw [ScriptedSocket.sent_noteRequest]))
      · refine congrArg some ((ScriptedSocket.sent_noteRequest _ _).trans ?_)
        cases request <;> exact (List.append_nil _).symm

theorem sent?_of_proceed {operation : Operation}
    (proceeded : socket.proceed now request operation = (after, progress)) :
    after.sent? = socket.sent?.map (· ++ request.recorded progress) := by
  have still : ∀ scripted : ScriptedSocket, ∀ operation : Operation,
      some scripted.sent =
        some (scripted.sent ++ request.recorded (.underway operation)) := by
    intro scripted operation
    cases request <;> exact congrArg some (List.append_nil _).symm
  cases socket with
  | link connection => cases operation <;> cases proceeded <;> rfl
  | scripted scripted =>
      cases operation with
      | pausing alarm fails =>
          simp only [proceed] at proceeded
          split at proceeded <;> cases proceeded
          · exact congrArg some (ScriptedSocket.sent_conclude _ _ _)
          · exact still _ _
      | placing =>
          cases proceeded
          exact still _ _
      | flushing =>
          cases proceeded
          exact still _ _

theorem sent?_abandon (socket : Socket) (request : SinkRequest) :
    (socket.abandon request).sent? = socket.sent? := by
  cases socket with
  | link connection => rfl
  | scripted scripted => cases request <;> rfl

end Socket

/-! ### Single turns -/

section

variable {now : Instant} {closed : Bool} {task : TaskId} {id : PeerId}
  {frame : Frame} {span : Span}
  {stage : Writing} {station later : Station} {told : List Happening}
  {written : Written}

theorem framesTo_wrote (result : Except Fault Unit) {older : List Entry}
    (silent : framesTo id older = []) :
    framesTo id (⟨now, .wrote task id frame result⟩ :: older) =
      (SinkRequest.frame frame).recorded (.done result) := by
  have alone : framesTo id [⟨now, .wrote task id frame result⟩] =
      (SinkRequest.frame frame).recorded (.done result) := by
    cases result with
    | ok =>
        simp [framesTo, successes, Happening.successesAt, SinkRequest.recorded,
          Link.frameOf]
    | error fault => rfl
  rw [← List.singleton_append, framesTo_append, silent, alone]
  rfl

theorem map_append_nil {α : Type} (items : Option (List α)) :
    items = items.map (· ++ []) := by
  cases items <;> simp

/-- The turn of a writer records the frame if the write has succeeded. -/
theorem FrameStep.sent?_eq
    (step : FrameStep now closed task id frame span stage station told later
      written) :
    later.socket.sent? =
      station.socket.sent?.map (· ++ framesTo id (entriesAt now told)) := by
  cases step with
  | refused isClosed => exact map_append_nil _
  | refusedInTurn isClosed held => exact map_append_nil _
  | @answeredAtOnce _ _ _ _ _ result early isOpen held started =>
      rw [Socket.sent?_of_start started]
      rw [entriesAt, List.map_cons, framesTo_wrote result rfl]
  | cutAtOnce early isOpen held started late =>
      rw [Socket.sent?_abandon, Socket.sent?_of_start started]
      rfl
  | begun early isOpen held started due inTime =>
      rw [Socket.sent?_of_start started]
      rfl
  | cutInLine early waits late opens => exact map_append_nil _
  | inLine early waits due inTime opens => exact map_append_nil _
  | @answered _ _ _ _ _ result proceeded =>
      rw [Socket.sent?_of_proceed proceeded]
      rw [entriesAt, List.map_cons, framesTo_wrote result rfl]
  | cut proceeded late =>
      rw [Socket.sent?_abandon, Socket.sent?_of_proceed proceeded]
      rfl
  | goesOn proceeded inTime =>
      rw [Socket.sent?_of_proceed proceeded]
      rfl

/-- The sending of a close frame records nothing. -/
theorem CloseStep.sent?_eq
    {current next : Option Closing}
    (step : CloseStep now task id current station told later next) :
    later.socket.sent? = station.socket.sent? ∧
      framesTo id (entriesAt now told) = [] := by
  have closes : ∀ (socket : Socket) (progress : Progress),
      socket.sent?.map (· ++ SinkRequest.close.recorded progress) =
        socket.sent? := by
    intro socket progress
    exact (map_append_nil _).symm
  cases step with
  | busy taken => exact ⟨rfl, rfl⟩
  | answeredAtOnce free started =>
      exact ⟨(Socket.sent?_of_start started).trans (closes _ _), rfl⟩
  | cutAtOnce free started =>
      exact ⟨(Socket.sent?_abandon _ _).trans
        ((Socket.sent?_of_start started).trans (closes _ _)), rfl⟩
  | begun free started =>
      exact ⟨(Socket.sent?_of_start started).trans (closes _ _), rfl⟩
  | answered proceeded =>
      exact ⟨(Socket.sent?_of_proceed proceeded).trans (closes _ _), rfl⟩
  | cut proceeded =>
      exact ⟨(Socket.sent?_abandon _ _).trans
        ((Socket.sent?_of_proceed proceeded).trans (closes _ _)), rfl⟩
  | goesOn proceeded =>
      exact ⟨(Socket.sent?_of_proceed proceeded).trans (closes _ _), rfl⟩

/-- The turn of a task records the frames of its writes that have succeeded. -/
theorem WriteTurn.sent?_eq
    {before after : Hub} (turned : WriteTurn id task before after) :
    ∃ news, after.chronicle = news ++ before.chronicle ∧
      (after.peer id).socket.sent? =
        (before.peer id).socket.sent?.map (· ++ framesTo id news) := by
  cases turned with
  | aside own aside =>
      obtain ⟨news, chronicle, elsewhere⟩ := aside.chronicle
      refine ⟨news, chronicle, ?_⟩
      rw [framesTo_of_elsewhere elsewhere, aside.sent]
      exact map_append_nil _
  | frame sends within own step stationAfter chronicle ended posts =>
      refine ⟨_, chronicle, ?_⟩
      rw [← stationAfter] at step
      exact step.sent?_eq
  | @close current next told station earlier asks own step stationAfter
      chronicle elsewhere ended posts =>
    rw [← stationAfter] at step
    obtain ⟨same, silent⟩ := step.sent?_eq
    refine ⟨entriesAt before.now told ++ earlier, by
      rw [chronicle, List.append_assoc], ?_⟩
    rw [framesTo_append, silent, framesTo_of_elsewhere elsewhere]
    exact Eq.trans same (map_append_nil _)

end

/-! ### All peers -/

/-- Every scripted socket has recorded the frames of the writes that have
succeeded. -/
def Recorded (hub : Hub) : Prop :=
  ∀ id < hub.peers.size, ∀ frames, (hub.peer id).socket.sent? = some frames →
    frames = framesTo id hub.chronicle

namespace Recorded

variable {hub before after : Hub}

theorem start (configuration : Configuration) (chance : Nat → Nat) :
    Recorded { Hub.start configuration with chance } :=
  fun _ below => absurd below (Nat.not_lt_zero _)

theorem keep
    (recorded : Recorded before) (peers : after.peers.size = before.peers.size)
    (turned : ∀ id < before.peers.size, ∃ news,
      after.chronicle = news ++ before.chronicle ∧
      (after.peer id).socket.sent? =
        (before.peer id).socket.sent?.map (· ++ framesTo id news)) :
    Recorded after := by
  intro id below frames isSent
  rw [peers] at below
  obtain ⟨news, chronicle, grown⟩ := turned id below
  rw [grown] at isSent
  obtain ⟨earlier, wasSent, rfl⟩ := Option.map_eq_some_iff.mp isSent
  rw [recorded id below earlier wasSent, chronicle, framesTo_append]

theorem goOn (recorded : Recorded hub) (housed : Housed hub) (task : TaskId) :
    Recorded (hub.goOn task) :=
  recorded.keep (Course.goOn hub task).peers fun id _ =>
    WriteTurn.sent?_eq (WriteTurn.goOn
      (fun peer writes => housed.tasks task peer
        (Task.regards_of_writes writes)) id)

theorem outside
    {manner : Manner} {peers : Nat} (recorded : Recorded before)
    (outside : Outside (manner.outsider peers) before after) :
    Recorded after := by
  obtain ⟨news, isNews, peerOutside, -⟩ := outside.news
  refine recorded.keep outside.peers fun id _ => ⟨news, isNews.chronicle, ?_⟩
  have elsewhere : ∀ entry ∈ news, ¬ entry.happening.isAt id := by
    intro entry member isAt
    have brings := isNews.brought entry member
    cases same : entry.happening <;> rw [same] at brings isAt <;>
      first | cases brings; done | cases isAt
  rw [framesTo_of_elsewhere elsewhere, (peerOutside id).sent]
  exact map_append_nil _

/-- A new peer's socket has recorded nothing, and nothing is told of the
peer. -/
theorem addPeer
    {manner : Manner} {peers : Nat} {peer : Peer} (recorded : Recorded before)
    (housed : Housed before)
    (added : (manner.outsider peers).adds peer.socket) :
    Recorded (before.addPeer peer) := by
  intro id below frames isSent
  rw [Hub.peer_addPeer] at isSent
  show frames = framesTo id before.chronicle
  split at isSent
  · rename_i isNew
    subst isNew
    have untold : framesTo before.peers.size before.chronicle = [] := by
      refine framesTo_of_elsewhere fun entry member isAt => ?_
      exact Nat.lt_irrefl _
        (housed.told entry member _ (Happening.concerns_of_isAt isAt))
    rw [untold]
    obtain ⟨action, -, adds⟩ := added
    cases action <;> simp only [Action.Adds] at adds
    case register script =>
      rw [adds] at isSent
      exact (Option.some.inj isSent).symm
    case serve script =>
      rw [adds] at isSent
      exact (Option.some.inj isSent).symm
    case wire room limit =>
      obtain ⟨_, same⟩ := adds
      rw [same] at isSent
      cases isSent
    case http room =>
      obtain ⟨_, same⟩ := adds
      rw [same] at isSent
      cases isSent
  · rename_i isOld
    rw [Hub.size_peers_addPeer] at below
    exact recorded id (Nat.lt_of_le_of_ne (Nat.le_of_lt_succ below) isOld)
      frames isSent

theorem turn
    {manner : Manner} (housed : Housed before) (recorded : Recorded before)
    (turnover : Turnover (manner.outsider before.peers.size) before after) :
    Recorded after := by
  cases turnover with
  | outside outside => exact recorded.outside outside
  | register added => exact recorded.addPeer housed added
  | serve added opened serves => exact recorded.addPeer housed added
  | go isReady => exact recorded.goOn housed _
  | @tick later still forward whole passes =>
      obtain ⟨ready, same, -⟩ := Hub.ring_eq { before with now := later }
      rw [same]
      exact recorded

end Recorded

/-- The number of frames that all sockets have recorded. -/
def Hub.recorded (hub : Hub) : Nat :=
  ∑ id ∈ Finset.range hub.peers.size,
    ((hub.peer id).socket.sent?.getD []).length

/-- The frames of successful writes, peer by peer, are as many as the successful
writes. -/
theorem sum_length_framesTo
    {peers : Nat} {chronicle : List Entry}
    (told : ∀ entry ∈ chronicle, ∀ id, entry.happening.Concerns id →
      id < peers) :
    ∑ id ∈ Finset.range peers, (framesTo id chronicle).length =
      (Tally.ofChronicle chronicle).written := by
  induction chronicle with
  | nil => exact Finset.sum_const_zero
  | cons entry older induction =>
      have single : (Tally.ofChronicle (entry :: older)).written =
          (Tally.ofChronicle older).written +
          ∑ id ∈ Finset.range peers, (framesTo id [entry]).length := by
        have concerns := told entry List.mem_cons_self
        have silent : (Tally.ofChronicle older).written + 0 =
            (Tally.ofChronicle older).written + ∑ id ∈ Finset.range peers, 0 :=
          congrArg _ Finset.sum_const_zero.symm
        obtain ⟨time, happening⟩ := entry
        cases happening with
        | wrote task peer frame result =>
            cases result with
            | error fault => exact silent
            | ok =>
                have length :
                    ∀ id,
                      (framesTo id
                        [⟨time, .wrote task peer frame (.ok ())⟩]).length =
                    if peer = id then 1 else 0 := by
                  intro id
                  simp only [framesTo, successes, account,
                    Happening.successesAt]
                  split <;> simp_all
                simp only [length, Finset.sum_ite_eq, Finset.mem_range,
                  concerns peer rfl, if_true]
                rfl
        | _ => exact silent
      have grown : ∀ id, (framesTo id (entry :: older)).length =
          (framesTo id older).length + (framesTo id [entry]).length := by
        intro id
        rw [← List.singleton_append, framesTo_append, List.length_append]
      rw [Finset.sum_congr rfl fun id _ => grown id, Finset.sum_add_distrib,
        single,
        induction fun later member =>
          told later (List.mem_cons_of_mem _ member)]

/-- If all sockets are scripted, they have recorded as many frames as writes
have succeeded. -/
theorem Recorded.recorded_eq
    {hub : Hub} (recorded : Recorded hub) (housed : Housed hub)
    (scripted : ∀ id < hub.peers.size, ∃ socket,
      (hub.peer id).socket = .scripted socket) :
    hub.recorded = hub.tally.written := by
  rw [Hub.tally, ← sum_length_framesTo housed.told]
  refine Finset.sum_congr rfl fun id member => ?_
  have below := Finset.mem_range.mp member
  obtain ⟨socket, isScripted⟩ := scripted id below
  have isSent : (hub.peer id).socket.sent? = some socket.sent := by
    rw [isScripted]; rfl
  rw [isSent, Option.getD_some, recorded id below socket.sent isSent]

end BroadcastHub.Server
