import BroadcastHub.Proofs.Scenario.Clients
import BroadcastHub.Proofs.Scenario.SessionLoop
import BroadcastHub.Proofs.Server.Hearing
import BroadcastHub.Proofs.Wire.ClientMessage

/-!
# Clients receive what clients have sent

While clients send only messages and the pipes to them have room, a server
echoes: each client receives, in one order that is the same for all, the
envelopes of the messages that anybody has completed since its own session
was opened.
-/

namespace BroadcastHub.Server

open Scenario

/-! ### Sessions from their start -/

/-- Whether the session of a peer has been heard from its start. -/
def Hub.Listens (hub : Hub) (id : PeerId) : Prop :=
  ∃ task limit, Seated hub task id ∧
    Hearing ⟨task, id, .fresh limit, []⟩ hub hub.chronicle

def Happening.isLeaving : Happening → Bool
  | .left _ _ => true
  | _ => false

theorem Hub.Listens.exists_link
    {hub : Hub} {id : PeerId} (listens : hub.Listens id)
    (stays : Stays id hub.chronicle) :
    ∃ link, (hub.peer id).socket = .link link := by
  obtain ⟨task, limit, -, hearing⟩ := listens
  obtain ⟨intake, isIntake, -⟩ := hearing.heard stays
  change (hub.peer id).socket.intake? = some intake at isIntake
  cases connected : (hub.peer id).socket with
  | scripted socket =>
      rw [connected] at isIntake
      cases isIntake
  | link link => exact ⟨link, rfl⟩

/-- What has been taken is the beginning of what can be decoded, and all of it
when nothing can go on. -/
theorem Hub.Listens.decoded
    {hub : Hub} {id : PeerId} {link : Link} (listens : hub.Listens id)
    (stays : Stays id hub.chronicle)
    (connected : (hub.peer id).socket = .link link) :
    ∃ rest, ((Wire.Decoder.fresh link.decoder.limit).drain
      (fed id hub.chronicle)).frames =
      taken id hub.chronicle ++ rest ∧
      (Prompt hub → hub.ready = [] → rest = []) := by
  obtain ⟨task, limit, -, hearing⟩ := listens
  obtain ⟨intake, isIntake, found⟩ := hearing.heard stays
  have isLink : link.intake = intake := by
    rw [connected] at isIntake
    exact Option.some.inj isIntake
  have whole := found []
  have sameLimit : link.decoder.limit = limit := by
    have same :=
      congrArg (fun drained : Wire.Decoder.Drained => drained.decoder.limit)
        whole
    rw [Wire.Decoder.limit_drain, Intake.found, Wire.Decoder.limit_drain,
      ← isLink] at same
    exact same.symm
  rw [List.append_nil] at whole
  refine ⟨(intake.found []).frames, ?_, fun prompt still => ?_⟩
  · rw [sameLimit]
    exact congrArg Wire.Decoder.Drained.frames whole
  · have all := hearing.all_taken prompt still stays
    have same := congrArg Wire.Decoder.Drained.frames whole
    change Opening.finished _ _ = _ at same
    rw [← all] at same
    exact List.append_right_eq_self.mp same.symm

namespace Hub.Listens

variable {outsider : Outsider} {before after : Hub} {id : PeerId}

theorem turn (listens : before.Listens id) (attended : Attended before)
    (turnover : Turnover outsider before after) : after.Listens id := by
  obtain ⟨task, limit, seated, hearing⟩ := listens
  obtain ⟨news, passage, turn⟩ :=
    SessionTurn.ofTurnover attended seated turnover
  refine ⟨task, limit, seated.turn passage turn, ?_⟩
  rw [passage.chronicle]
  exact hearing.turn turn

/-- A client that connects has not written anything. -/
theorem wire (housed : Housed before) (room limit : Nat) :
    (before.wire room limit).Listens before.peers.size := by
  have untold : ∀ entry ∈ before.chronicle,
      ¬ entry.happening.Concerns before.peers.size :=
    fun entry member concerns =>
      Nat.lt_irrefl _ (housed.told entry member _ concerns)
  have self :=
    (Hub.peer_wire before room limit before.peers.size).trans (if_pos rfl)
  have isTask :=
    (Hub.task_wire before room limit before.tasks.size).trans (if_pos rfl)
  refine ⟨before.tasks.size, limit, ⟨?_, ?_, ?_, .inl ⟨.arriving, isTask⟩⟩,
    .arriving isTask ?_ ⟨(Link.connect room limit).intake, ?_, fun more => ?_⟩⟩
  · rw [Hub.size_peers_wire]
    exact Nat.lt_succ_self _
  · rw [Hub.size_tasks_wire]
    exact Nat.lt_succ_self _
  · rw [self]
    rfl
  · intro time exit member
    exact untold _ member rfl
  · rw [self]
    rfl
  · have unfed : fed before.peers.size before.chronicle = [] := by
      refine account_of_untold (fun happening other => ?_) untold
      cases happening with
      | fed peer octets => exact if_neg other
      | _ => rfl
    have untaken : taken before.peers.size before.chronicle = [] := by
      refine account_of_untold (fun happening other => ?_) untold
      cases happening with
      | took peer item =>
          cases item with
          | error fault => rfl
          | ok frame => exact if_neg other
      | _ => rfl
    simp only [Opening.stream, Hub.chronicle_wire, unfed, untaken]
    rfl

end Hub.Listens

/-! ### Turns -/

/-- What happens to a hub to which clients connect and write. -/
inductive LinkTurn (before after : Hub) : Prop
  | gentle (gentle : Gentle before after)
  | connects {room limit : Nat} (same : after = before.wire room limit)
  | goes
      {task : TaskId} {rest : List TaskId} (line : before.ready = task :: rest)
      (same : after = before.goOn task)

theorem Echoes.turn
    {before after : Hub} (echoes : Echoes before) (housed : Housed before)
    (attended : Attended before) (hasRoom : before.HasRoom)
    (turn : LinkTurn before after) (undisturbed : Undisturbed after.chronicle) :
    Echoes after := by
  cases turn with
  | gentle gentle => exact echoes.gentle gentle
  | connects same =>
      rw [same]
      exact echoes.wire _ _ housed
  | goes line same =>
      subst same
      exact echoes.goOn housed attended line hasRoom undisturbed

/-- All sessions are heard from their start. -/
theorem Hub.Listens.all
    {outsider : Outsider} {before after : Hub}
    (all : ∀ id < before.peers.size, before.Listens id) (housed : Housed before)
    (attended : Attended before) (turnover : Turnover outsider before after)
    (turn : LinkTurn before after) :
    ∀ id < after.peers.size, after.Listens id := by
  intro id inside
  by_cases isOld : id < before.peers.size
  · exact (all id isOld).turn attended turnover
  · cases turn with
    | gentle gentle =>
        rw [gentle.peers] at inside
        exact absurd inside isOld
    | goes line same =>
        rw [same, (Course.goOn before _).peers] at inside
        exact absurd inside isOld
    | @connects room limit same =>
        rw [same, Hub.size_peers_wire] at inside
        have isNew : id = before.peers.size :=
          Nat.le_antisymm (Nat.le_of_lt_succ inside) (Nat.not_lt.mp isOld)
        rw [isNew, same]
        exact .wire housed room limit

end BroadcastHub.Server

namespace BroadcastHub.Scenario

open Server Wire

/-- Runs in which clients connect, write, read and stop reading for a time, and
tasks go on in the order in which they were started or woken. -/
def Manner.chats : Manner where
  allows action := (∃ room limit, action = .wire room limit) ∨
    ∃ id on, action = .pause id on
  inOrder := True

/-- Whether clients have sent only messages that their sessions take, no session
has ended, and the frame that is written next fits into its pipe. -/
structure Play.Chats (play : Play) : Prop where
  stays : ∀ id, Stays id play.hub.chronicle
  messages : ∀ id link, (play.hub.peer id).socket = .link link →
    ∃ messages : List ClientMessage,
      (∀ message ∈ messages, message.Fits link.decoder.limit) ∧
      fed id play.hub.chronicle <+: messages.flatMap ClientMessage.octets
  hasRoom : play.hub.HasRoom

/-- What a client receives. -/
structure Echo (hub : Hub) (id : PeerId) (link : Link) : Prop where
  /-- With what deliveries that are ready are to write, it is the envelopes of
  all messages that sessions have taken since its own was opened. -/
  reached : link.reached ++ (hub.callsAhead id).flatMap Call.octets =
    (envelopesSince id hub.chronicle).flatMap encode
  /-- Its own session takes the messages that it has completed, in that
  order. -/
  taken : ∀ messages : List ClientMessage,
    (∀ message ∈ messages, message.Fits link.decoder.limit) →
      fed id hub.chronicle <+: messages.flatMap ClientMessage.octets →
        Server.taken id hub.chronicle <+:
          ClientMessage.completed messages (fed id hub.chronicle)
  /-- When nothing can go on, nothing is missing. -/
  settled : hub.ready = [] →
    link.reached = (envelopesSince id hub.chronicle).flatMap encode ∧
      ∀ messages : List ClientMessage,
        (∀ message ∈ messages, message.Fits link.decoder.limit) →
          fed id hub.chronicle <+: messages.flatMap ClientMessage.octets →
            Server.taken id hub.chronicle =
              ClientMessage.completed messages (fed id hub.chronicle)

theorem LinkTurn.ofMove {before after : Play} (move : Move .chats before after)
    (echoes : Echoes before.hub) (prompt : Prompt before.hub) :
    LinkTurn before.hub after.hub := by
  have free : ∀ id, (before.hub.peer id).turn = {} := by
    intro id
    by_cases inside : id < before.hub.peers.size
    · exact (echoes.echoing id inside).free
    · rw [Hub.peer_of_size_le before.hub id (Nat.not_lt.mp inside)]
      rfl
  cases move with
  | act allowed immediate isThere =>
      rcases allowed with ⟨room, limit, rfl⟩ | ⟨id, on, rfl⟩
      · exact .connects rfl
      · exact .gentle (.updateLink _ _ fun _ => ⟨rfl, rfl, rfl, rfl⟩)
  | write connected isOpen fits => exact .gentle (.clientWrites _ _ _)
  | @go task isReady first =>
      obtain ⟨rest, line⟩ := List.head?_eq_some_iff.mp (first trivial)
      exact .goes line rfl
  | tidy id =>
      exact .gentle (.dropUnused _ id fun inside =>
        (echoes.echoing id inside).attended)
  | read id => exact .gentle (.letRead _ id (free id))
  | sip id count => exact .gentle (.letSip _ id count (free id))
  | tick still forward whole passes => exact .gentle (.ring _ _ prompt still)
  | notice known jobs => exact .gentle (.refl _)

theorem Play.Chats.undisturbed
    {play : Play} (chats : play.Chats) (housed : Housed play.hub)
    (listens : ∀ id < play.hub.peers.size, play.hub.Listens id) :
    Undisturbed play.hub.chronicle := by
  refine ⟨fun time id => chats.stays id time, fun time id frame member => ?_⟩
  have inside : id < play.hub.peers.size := housed.told _ member id rfl
  obtain ⟨link, connected⟩ := (listens id inside).exists_link (chats.stays id)
  obtain ⟨messages, fit, written⟩ := chats.messages id link connected
  obtain ⟨rest, decoded, -⟩ :=
    (listens id inside).decoded (chats.stays id) connected
  rw [ClientMessage.frames_drain fit written] at decoded
  refine @ClientMessage.kind_of_mem_completed _ messages fit
    (fed id play.hub.chronicle) frame ?_
  rw [decoded]
  refine List.mem_append.mpr (.inl ((mem_account _).mpr ⟨_, member, ?_⟩))
  simp [Happening.takenBy]

variable {configuration : Configuration} {play : Play}

theorem Run.holds {manner : Manner} {holds : Play → Prop}
    (run : Run manner holds configuration play) : holds play := by
  cases run with
  | start chance held => exact held
  | move run move held => exact held

/-- At any time of a chat the hub echoes, and all sessions have been heard from
their start. -/
theorem Run.echoes (run : Run .chats Play.Chats configuration play) :
    Echoes play.hub ∧ ∀ id < play.hub.peers.size, play.hub.Listens id := by
  induction run with
  | start chance held =>
      refine ⟨⟨⟨rfl, rfl, List.nodup_nil, by rintro _ ⟨⟩, fun number => ?_,
        fun number id isTask => ?_⟩, by rintro _ ⟨⟩⟩, by rintro _ ⟨⟩⟩
      · exact .finished .over
      · cases isTask
  | @move before after run move held induction =>
      obtain ⟨echoes, listens⟩ := induction
      have turn := LinkTurn.ofMove move echoes run.prompt
      -- What sessions take after the move is known from what they have heard by
      -- then, and that it is a message is what the step of a session needs.
      have listensAfter :=
        Hub.Listens.all listens run.housed run.attended (.ofMove move) turn
      have undisturbed :=
        held.undisturbed (run.move move held).housed listensAfter
      exact ⟨echoes.turn run.housed run.attended run.holds.hasRoom turn
        undisturbed, listensAfter⟩

/-- At any time of a chat, what has reached a client and what is on its way to
it are the envelopes of the messages that anybody has completed since its own
session was opened, in the order in which the sessions took them. -/
theorem echo
    (run : Run .chats Play.Chats configuration play) {id : PeerId} {link : Link}
    (connected : (play.hub.peer id).socket = .link link) :
    Echo play.hub id link := by
  obtain ⟨echoes, listens⟩ := run.echoes
  have inside := play.hub.lt_size_of_link id connected
  have echoing := echoes.echoing id inside
  have reached : link.reached ++ (play.hub.callsAhead id).flatMap Call.octets =
      (envelopesSince id play.hub.chronicle).flatMap encode := by
    obtain ⟨desk, isDesk, -, written⟩ := echoing.desk
    rw [connected] at isDesk
    cases isDesk
    have isReached : link.reached =
        (calls id play.hub.chronicle).flatMap Call.octets := written
    calc
      link.reached ++ (play.hub.callsAhead id).flatMap Call.octets
          = (due id play.hub.chronicle).flatMap Call.octets := by
            rw [isReached, ← List.flatMap_append, ← echoing.inLine]
      _ = ((due id play.hub.chronicle).map Prod.snd).flatMap fun request =>
            encode (Link.frameOf request) := by
            rw [List.flatMap_map]
            rfl
      _ = (envelopesSince id play.hub.chronicle).flatMap encode := by
            rw [echoing.passedOn, List.flatMap_map]
            rfl
  obtain ⟨rest, decoded, complete⟩ :=
    (listens id inside).decoded (run.holds.stays id) connected
  have all : ∀ messages : List ClientMessage,
      (∀ message ∈ messages, message.Fits link.decoder.limit) →
        fed id play.hub.chronicle <+: messages.flatMap ClientMessage.octets →
          ClientMessage.completed messages (fed id play.hub.chronicle) =
            taken id play.hub.chronicle ++ rest := by
    intro messages fit written
    rw [← ClientMessage.frames_drain fit written]
    exact decoded
  refine ⟨reached, fun messages fit written => ?_,
    fun still => ⟨?_, fun messages fit written => ?_⟩⟩
  · exact ⟨rest, (all messages fit written).symm⟩
  · have none : play.hub.callsAhead id = [] := by
      rw [Hub.callsAhead, still]
      rfl
    rw [none] at reached
    exact (List.append_nil _).symm.trans reached
  · rw [all messages fit written, complete run.prompt still, List.append_nil]

/-! ### A message in two pieces -/

/-- A message of two octets in two pieces. -/
def greeting : ClientMessage where
  message := .binary [7, 8]
  first := ⟨⟨1, 2, 3, 4⟩, .inline, [7]⟩
  rest := [⟨⟨5, 6, 7, 8⟩, .two, [8]⟩]

theorem fits_greeting {limit : Nat} (longEnough : 2 ≤ limit) :
    greeting.Fits limit :=
  ⟨rfl, rfl, by decide, longEnough⟩

/-- Whether all that is asked of a chat holds where at most one client has
connected and writes the greeting. -/
def Play.greets (play : Play) : Bool :=
  play.hub.peers.size ≤ 1 &&
    play.hub.chronicle.all (fun entry => !entry.happening.isLeaving) &&
    (fed 0 play.hub.chronicle).isPrefixOf greeting.octets &&
    (play.hub.peer 0).socket.intake?.all
    (fun intake => 2 ≤ intake.decoder.limit) &&
    play.hub.ready.head?.all fun task =>
      ((play.hub.task task).callsTo 0 task).all fun call =>
        (play.hub.peer 0).socket.desk?.all fun desk => call.octets.length ≤
          desk.outbound.room

theorem Play.chats_of_greets {play : Play} (checked : play.greets = true) :
    play.Chats := by
  simp only [Play.greets, Bool.and_eq_true, decide_eq_true_eq] at checked
  obtain ⟨⟨⟨⟨alone, stays⟩, written⟩, longEnough⟩, fits⟩ := checked
  have only : ∀ id link, (play.hub.peer id).socket = .link link → id = 0 := by
    intro id link connected
    have inside := play.hub.lt_size_of_link id connected
    exact Nat.lt_one_iff.mp (Nat.lt_of_lt_of_le inside alone)
  refine ⟨fun id time exit member => ?_, fun id link connected => ?_,
    fun task id frame limit link line isTask connected => ?_⟩
  · have none := List.all_eq_true.mp stays _ member
    cases none
  · cases only id link connected
    rw [connected] at longEnough
    refine ⟨[greeting], fun message member => ?_, ?_⟩
    · rw [List.mem_singleton.mp member]
      exact fits_greeting (of_decide_eq_true longEnough)
    · rw [List.flatMap_singleton]
      exact List.isPrefixOf_iff_prefix.mp written
  · cases only id link connected
    rw [line, Option.all_some, isTask, connected] at fits
    have small :=
      List.all_eq_true.mp fits (task, .frame frame) (by simp [Task.callsTo])
    exact of_decide_eq_true small

/-- The client has written the greeting. -/
def Play.spoken : Play :=
  Play.visited.withHub fun hub => Play.clientWrites hub 0 greeting.octets

/-- Its session has taken the greeting. -/
def Play.heard : Play := Play.spoken.withHub fun hub => hub.goOn 0

/-- Its session has found nothing more. -/
def Play.looked : Play := Play.heard.withHub fun hub => hub.goOn 0

/-- The envelope of the greeting has been delivered. -/
def Play.echoed : Play := Play.looked.withHub fun hub => hub.goOn 1

theorem Run.echoed : Run .chats Play.Chats {} .echoed := by
  have started : Run .chats Play.Chats {} (Play.start {}) :=
    .start _ (Play.chats_of_greets (by decide +kernel))
  have wired := started.move (.act (.inl ⟨64, none, rfl⟩) rfl (by rintro _ ⟨⟩))
    (Play.chats_of_greets (by decide +kernel))
  have visited : Run .chats Play.Chats {} Play.visited :=
    wired.move (.go (by decide) fun _ => rfl)
      (Play.chats_of_greets (by decide +kernel))
  have spoken : Run .chats Play.Chats {} Play.spoken :=
    visited.move (@Move.write .chats .visited 0 _ greeting.octets rfl rfl
      (by decide)) (Play.chats_of_greets (by decide +kernel))
  have heard : Run .chats Play.Chats {} Play.heard :=
    spoken.move (.go (by decide +kernel) fun _ => by decide +kernel)
      (Play.chats_of_greets (by decide +kernel))
  have looked : Run .chats Play.Chats {} Play.looked :=
    heard.move (.go (by decide +kernel) fun _ => by decide +kernel)
      (Play.chats_of_greets (by decide +kernel))
  exact looked.move (.go (by decide +kernel) fun _ => by decide +kernel)
    (Play.chats_of_greets (by decide +kernel))

/-- The client has received the envelope of its greeting. -/
theorem echo_of_greeting :
    ∃ link, (Play.echoed.hub.peer 0).socket = .link link ∧
      Play.echoed.hub.ready = [] ∧
      Server.taken 0 Play.echoed.hub.chronicle = [.binary [7, 8]] ∧
      link.reached =
        [130, 14, 77, 69, 83, 83, 65, 71, 69, 91, 50, 93, 58, 32, 7, 8] ∧
      Echo Play.echoed.hub 0 link := by
  have isWritten : (Play.echoed.hub.peer 0).socket.desk?.map Desk.written =
      some [130, 14, 77, 69, 83, 83, 65, 71, 69, 91, 50, 93, 58, 32, 7, 8] := by
    decide +kernel
  obtain ⟨desk, isDesk, written⟩ := Option.map_eq_some_iff.mp isWritten
  obtain ⟨link, connected, rfl⟩ := Socket.desk?_eq_some isDesk
  exact ⟨link, connected, by decide +kernel, by decide +kernel, written,
    echo Run.echoed connected⟩

end BroadcastHub.Scenario
