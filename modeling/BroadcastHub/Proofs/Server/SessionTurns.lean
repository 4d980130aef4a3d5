import BroadcastHub.Proofs.Server.Attendants
import BroadcastHub.Proofs.Server.Beginnings
import BroadcastHub.Proofs.Server.SessionSteps

/-!
# What turns mean for a session

Seen from a session, a turn is one of its own steps, or the clock moves, or
somebody else does something: then the session stays where it is, what arrives
for it stands behind what was there, and its read deadline stays or is moved
by a heartbeat request.
-/

namespace BroadcastHub.Server

open Scenario

/-- Whether something that happened is a step of a session. -/
def Happening.Paces (id : PeerId) : Happening → Prop
  | .joined peer => peer = id
  | .took peer _ => peer = id
  | .left peer _ => peer = id
  | _ => False

/-- Whether a heartbeat request of a session has not been taken up. -/
def Hub.Pinged (hub : Hub) (id : PeerId) : Prop :=
  ∃ number payload, hub.task number = .pong (some id) payload .unstarted

/-- A session that has its task. -/
structure Seated (hub : Hub) (task : TaskId) (id : PeerId) : Prop where
  inside : id < hub.peers.size
  below : task < hub.tasks.size
  attendant : (hub.peer id).attendant = some task
  isTask : (∃ stage, hub.task task = .attend id stage) ∨
    (hub.task task).isFinished = true

/-- What every turn leaves of a session. -/
structure Passage
    (id : PeerId) (before after : Hub) (news : List Entry) : Prop where
  configuration : after.configuration = before.configuration
  peers_le : before.peers.size ≤ after.peers.size
  tasks_le : before.tasks.size ≤ after.tasks.size
  attendant : (after.peer id).attendant = (before.peer id).attendant
  chronicle : after.chronicle = news ++ before.chronicle
  time : ∀ entry ∈ news, entry.time = before.now
  /-- What is taken from a scripted socket stood first, and what arrives stands
  last. -/
  inbox : ∀ inbox, (before.peer id).socket.inbox? = some inbox →
    ∃ rest, (after.peer id).socket.inbox? = some rest ∧
      inbox ++ arrived id news = took id news ++ rest

/-- Why a session ends, and what it takes last.  That it was closed on this side
comes before the read deadline, and that before what has arrived. -/
inductive Ends (id : PeerId) (alarm : Option Alarm) (hub : Hub) :
    Exit → List Entry → Prop
  | closed (isClosed : (hub.peer id).closed = true) :
      Ends id alarm hub .socketClosed []
  | expired
      (isOpen : (hub.peer id).closed = false)
      (rung : (hub.alarmOf id alarm).due ≤ hub.now)
      (notMoved : (hub.peer id).readDeadline ≤ (hub.alarmOf id alarm).due) :
      Ends id alarm hub .deadlineExpired []
  | streamEnded
      (isOpen : (hub.peer id).closed = false)
      (early : hub.now < (hub.alarmOf id alarm).due)
      (found : (hub.peer id).socket.take.2 = .ended) :
      Ends id alarm hub .streamEnded []
  | failed {fault : Fault} (isOpen : (hub.peer id).closed = false)
      (early : hub.now < (hub.alarmOf id alarm).due)
      (found : (hub.peer id).socket.take.2 = .item (.error fault)) :
      Ends id alarm hub (.readError fault) [⟨hub.now, .took id (.error fault)⟩]
  | closeFrame (isOpen : (hub.peer id).closed = false)
      (early : hub.now < (hub.alarmOf id alarm).due)
      (found : (hub.peer id).socket.take.2 = .item (.ok .close)) :
      Ends id alarm hub .closeFrame [⟨hub.now, .took id (.ok .close)⟩]

/-- What a session that reads does when its task goes on. -/
inductive ReadStep
    (task : TaskId) (id : PeerId) (alarm : Option Alarm) (before after : Hub)
    (news : List Entry) : Prop
  /-- It finds that its read deadline was moved. -/
  | moves
      (isOpen : (before.peer id).closed = false)
      (rung : (before.alarmOf id alarm).due ≤ before.now)
      (moved : (before.alarmOf id alarm).due < (before.peer id).readDeadline)
      (isTask : after.task task = .attend id (.reading none))
      (awake : task ∈ after.ready) (silent : news = [])
      (peer : after.peer id = before.peer id)
      (size : after.tasks.size = before.tasks.size)
      (pinged : after.Pinged id → before.Pinged id)
  /-- It finds nothing. -/
  | waits
      (isOpen : (before.peer id).closed = false)
      (early : before.now < (before.alarmOf id alarm).due)
      (found : (before.peer id).socket.take.2 = .nothing)
      (isTask : after.task task =
        .attend id (.reading (some (before.alarmOf id alarm))))
      (silent : news = [])
      (intake : ∀ intake, (before.peer id).socket.intake? = some intake →
        ∃ later, (after.peer id).socket.intake? = some later ∧
          (∀ more, intake.found more = later.found more) ∧
          (later.found []).frames = [])
      (stillOpen : (after.peer id).closed = false)
      (deadline : (after.peer id).readDeadline = (before.peer id).readDeadline)
      (size : after.tasks.size = before.tasks.size)
      (pinged : after.Pinged id → before.Pinged id)
  /-- It takes a frame and reads on. -/
  | takes
      {frame : Frame} {acts : List Entry}
      (isOpen : (before.peer id).closed = false)
      (early : before.now < (before.alarmOf id alarm).due)
      (found : (before.peer id).socket.take.2 = .item (.ok frame))
      (isTask : after.task task = .attend id (.reading none))
      (awake : task ∈ after.ready) (did : Acts id before after frame acts)
      (told : news = acts ++ [⟨before.now, .took id (.ok frame)⟩])
      (intake : ∀ intake, (before.peer id).socket.intake? = some intake →
        ∃ later, (after.peer id).socket.intake? = some later ∧
          ∀ more, intake.found more =
            { later.found more with
              frames := frame :: (later.found more).frames })
      (deadline : (after.peer id).readDeadline =
        before.now.after before.timing.heartbeat)
  /-- It ends. -/
  | leaves
      {exit : Exit} {last quiet : List Entry}
      (ends : Ends id alarm before exit last) (isOver : after.IsOver task id)
      (told : news = quiet ++ ⟨before.now, .left id exit⟩ :: last)
      (isQuiet : ∀ entry ∈ quiet, ¬ entry.happening.Paces id)

/-- What a turn is for a session. -/
inductive SessionTurn
    (outsider : Outsider) (task : TaskId) (id : PeerId) (before after : Hub)
    (news : List Entry) : Prop
  /-- Somebody else does something. -/
  | aside
      (now : after.now = before.now)
      (quiet : ∀ entry ∈ news, ¬ entry.happening.Paces id)
      (sameTask : after.task task = before.task task)
      (kept : task ∈ before.ready → task ∈ after.ready)
      (wakes : Reached id news → Play.isReader (after.task task) = true →
        task ∈ after.ready)
      (closes : (before.peer id).closed = false →
        (after.peer id).closed = true →
        Hub.awaitsClose id (after.task task) = true → task ∈ after.ready)
      (intake : ∀ intake, (before.peer id).socket.intake? = some intake →
        ∃ inbound, (after.peer id).socket.intake? =
          some { intake with inbound } ∧
          inbound.content = intake.inbound.content ++ fed id news)
      (deadline : ¬ outsider.setsDeadlines →
        (after.peer id).readDeadline = (before.peer id).readDeadline ∨
          before.Pinged id ∧
            (after.peer id).readDeadline =
              before.now.after before.timing.heartbeat)
      (pinged : after.Pinged id →
        before.Pinged id ∨ ∃ payload,
          outsider.starts (.pong (some id) payload .unstarted))
  /-- The clock moves. -/
  | ticks
      (still : before.ready = []) (silent : news = [])
      (forward : before.now ≤ after.now)
      (whole : Span.perMillisecond ∣ after.now)
      (passes : ∀ alarm ∈ (before.task task).alarms,
        after.now ≤ max before.now alarm.due.tick ∧
          (alarm.due ≤ after.now → task ∈ after.ready))
      (tasks : after.tasks = before.tasks) (peers : after.peers = before.peers)
  /-- The session has ended already. -/
  | ended
      (now : after.now = before.now)
      (quiet : ∀ entry ∈ news, ¬ entry.happening.Paces id)
      (wasOver : before.IsOver task id) (isOver : after.IsOver task id)
  /-- The session is opened. -/
  | arrives
      (now : after.now = before.now)
      (wasTask : before.task task = .attend id .arriving)
      (isTask : after.task task = .attend id (.reading none))
      (awake : task ∈ after.ready) (told : news = [⟨before.now, .joined id⟩])
      (socket : (after.peer id).socket = (before.peer id).socket)
      (deadline : (after.peer id).readDeadline =
        before.now.after before.timing.heartbeat)
  /-- The session reads. -/
  | reads {alarm : Option Alarm} (now : after.now = before.now)
      (wasTask : before.task task = .attend id (.reading alarm))
      (step : ReadStep task id alarm before after news)

/-! ### What happens aside -/

section

variable {id : PeerId} {news : List Entry}

theorem taken_of_quiet (quiet : ∀ entry ∈ news, ¬ entry.happening.Paces id) :
    taken id news = [] := by
  apply account_of_silent
  intro entry member
  have notPaced := quiet entry member
  cases same : entry.happening with
  | took peer item =>
      rw [same] at notPaced
      cases item with
      | error fault => rfl
      | ok frame => exact if_neg notPaced
  | _ => rfl

theorem took_of_quiet (quiet : ∀ entry ∈ news, ¬ entry.happening.Paces id) :
    took id news = [] := by
  apply account_of_silent
  intro entry member
  have notPaced := quiet entry member
  cases same : entry.happening with
  | took peer item =>
      rw [same] at notPaced
      exact if_neg notPaced
  | _ => rfl

variable {doer : Doer} {before after : Hub}

theorem quiet_of_news
    (isNews : News doer.Brings before after news)
    (serves : doer.serves ≠ some id) :
    ∀ entry ∈ news, ¬ entry.happening.Paces id := by
  intro entry member paces
  have brings := isNews.brought entry member
  cases same : entry.happening <;> rw [same] at brings paces
  case joined peer => exact serves (paces ▸ brings)
  case took peer item => exact serves (paces ▸ brings)
  case left peer exit => exact serves (paces ▸ brings)
  all_goals cases paces

theorem quiet_of_outside {outsider : Outsider}
    (isNews : News outsider.Brings before after news) (id : PeerId) :
    ∀ entry ∈ news, ¬ entry.happening.Paces id := by
  intro entry member paces
  have brings := isNews.brought entry member
  cases same : entry.happening <;> rw [same] at brings paces <;>
    first | exact brings.elim | exact paces.elim

theorem not_reached_of_news (isNews : News doer.Brings before after news) :
    ¬ Reached id news := by
  rintro ⟨entry, member, reaches⟩
  have brings := isNews.brought entry member
  cases same : entry.happening <;> rw [same] at brings reaches
  case fed peer octets => exact brings
  case arrived peer item => exact brings
  all_goals cases reaches

end

namespace Passage

variable {doer : Doer} {id : PeerId} {before middle after : Hub}
  {news : List Entry}

theorem ofCourse
    (course : Course doer before after)
    (isNews : News doer.Brings before after news)
    (serves : doer.serves ≠ some id) : Passage id before after news where
  configuration := course.configuration
  peers_le := Nat.le_of_eq course.peers.symm
  tasks_le := course.tasks_le
  attendant := (course.peer id).attendant fun isServed => absurd isServed serves
  chronicle := isNews.chronicle
  time := isNews.time
  inbox inbox same := by
    refine ⟨inbox, ((course.peer id).inbox serves).trans same, ?_⟩
    rw [arrived_of_not_reached (not_reached_of_news isNews),
      took_of_quiet (quiet_of_news isNews serves),
      List.append_nil, List.nil_append]

end Passage

namespace ReadStep

variable {task : TaskId} {id : PeerId}

/-- The end of a session is written down, with what was taken last. -/
theorem ofLeave
    {hub middle : Hub} {exit : Exit} {alarm : Option Alarm} {last : List Entry}
    (session : Seated hub task id) (ends : Ends id alarm hub exit last)
    (now : middle.now = hub.now)
    (configuration : middle.configuration = hub.configuration)
    (peers : middle.peers.size = hub.peers.size)
    (tasks : middle.tasks = hub.tasks)
    (attendant : (middle.peer id).attendant = (hub.peer id).attendant)
    (chronicle : middle.chronicle = last ++ hub.chronicle)
    (inbox : ∀ inbox, (hub.peer id).socket.inbox? = some inbox →
      ∃ rest, (middle.peer id).socket.inbox? = some rest ∧
        inbox = took id last ++ rest) :
    ∃ news, Passage id hub (middle.leave task id exit) news ∧
      ReadStep task id alarm hub (middle.leave task id exit) news := by
  have below : task < middle.tasks.size := by
    rw [tasks]
    exact session.below
  have course := Hub.course_leave middle id below exit
  obtain ⟨quiet, isNews⟩ := course.news
  have isQuiet : ∀ entry ∈ quiet, ¬ entry.happening.Paces id :=
    quiet_of_news isNews (by rintro ⟨⟩)
  have unreached : ¬ Reached id quiet := not_reached_of_news isNews
  have told : (middle.leave task id exit).chronicle =
      (quiet ++ ⟨hub.now, .left id exit⟩ :: last) ++ hub.chronicle := by
    rw [isNews.chronicle, List.append_assoc, List.cons_append,
      ← chronicle, ← now]
    rfl
  have sameSize : (middle.leave task id exit).peers.size = middle.peers.size :=
    course.peers.trans
      (Hub.size_peers_updatePeer (middle.note (.left id exit)) id _)
  have samePeer : ∀ {α : Type} (view : Peer → α),
      (∀ peer : Peer, view { peer with registered := false } = view peer) →
      view (((middle.note (.left id exit)).unregister id).peer id) =
        view (middle.peer id) :=
    fun _ keeps => Hub.peer_updatePeer_keeps (middle.note (.left id exit))
      id id keeps
  have lastTime : ∀ entry ∈ last, entry.time = hub.now := by
    intro entry member
    cases ends with
    | failed => rw [List.mem_singleton.mp member]
    | closeFrame => rw [List.mem_singleton.mp member]
    | _ => cases member
  have lastUnreached : arrived id last = [] := by
    cases ends <;> rfl
  refine ⟨_, ⟨course.configuration.trans configuration, ?_, ?_, ?_,
    told, ?_, ?_⟩, .leaves ends (Hub.isOver_leave middle id below exit)
    rfl isQuiet⟩
  · exact Nat.le_of_eq (by rw [sameSize, peers])
  · refine Nat.le_trans (Nat.le_of_eq ?_) course.tasks_le
    exact congrArg Table.size tasks.symm
  · rw [(course.peer id).attendant (by rintro ⟨⟩)]
    exact (samePeer Peer.attendant fun _ => rfl).trans attendant
  · intro entry member
    rcases List.mem_append.mp member with late | member
    · exact (isNews.time entry late).trans now
    · rcases List.mem_cons.mp member with rfl | early
      · rfl
      · exact lastTime entry early
  · intro items isInbox
    obtain ⟨rest, isRest, same⟩ := inbox items isInbox
    refine ⟨rest, ?_, ?_⟩
    · rw [(course.peer id).inbox (by rintro ⟨⟩)]
      exact (samePeer (fun peer => peer.socket.inbox?) fun _ => rfl).trans
        isRest
    · rw [arrived_append, arrived_cons, lastUnreached,
        arrived_of_not_reached unreached, took_append,
        took_cons, took_of_quiet isQuiet, same]
      simp [Happening.arrivedAt, Happening.tookBy]

theorem pinged_setTask
    {hub : Hub} {later : Task}
    (plain : ∀ payload, later ≠ .pong (some id) payload .unstarted)
    (isPinged : (hub.setTask task later).Pinged id) : hub.Pinged id := by
  obtain ⟨number, payload, same⟩ := isPinged
  rw [Hub.task_setTask] at same
  split at same
  · exact absurd same (plain payload)
  · exact ⟨number, payload, same⟩

/-- A session does what a frame asks for that it has taken. -/
theorem ofAct
    {hub noted : Hub} {alarm : Option Alarm} {socket : Socket} {frame : Frame}
    (session : Seated hub task id) (isOpen : (hub.peer id).closed = false)
    (early : hub.now < (hub.alarmOf id alarm).due)
    (taking : (hub.peer id).socket.take = (socket, .item (.ok frame)))
    (now : noted.now = hub.now)
    (configuration : noted.configuration = hub.configuration)
    (size : noted.peers.size = hub.peers.size) (tasks : noted.tasks = hub.tasks)
    (registry : noted.registry = hub.registry)
    (peer : noted.peer id = { hub.peer id with socket })
    (told : noted.chronicle =
      [⟨hub.now, .took id (.ok frame)⟩] ++ hub.chronicle) :
    ∃ news, Passage id hub (noted.act task id frame) news ∧
      ReadStep task id alarm hub (noted.act task id frame) news := by
  have inside : id < noted.peers.size := by
    rw [size]
    exact session.inside
  have below : task < noted.tasks.size := by
    rw [tasks]
    exact session.below
  have renewed : (noted.renewDeadline id noted.timing.heartbeat).peer id =
      { hub.peer id with
        socket
        readDeadline := hub.now.after hub.timing.heartbeat } := by
    rw [Hub.peer_renewDeadline_self noted id _ inside, peer, now, Hub.timing,
      configuration]
    rfl
  have sameSize : (noted.renewDeadline id noted.timing.heartbeat).peers.size =
      hub.peers.size := by
    rw [Hub.size_peers_renewDeadline, size]
  have found : (hub.peer id).socket.take.2 = .item (.ok frame) := by rw [taking]
  -- A close frame ends the session; after every other frame it reads on.
  by_cases isClose : frame = .close
  · subst isClose
    have leaves : noted.act task id .close =
        (noted.renewDeadline id noted.timing.heartbeat).leave task id
          .closeFrame := rfl
    rw [leaves]
    refine ofLeave session (.closeFrame isOpen early found) now configuration
      sameSize tasks ?_ told ?_
    · rw [renewed]
    · rw [renewed]
      intro items isInbox
      obtain ⟨rest, isRest, same⟩ := Socket.inbox_of_item taking isInbox
      exact ⟨rest, isRest, by simp [same, took, Happening.tookBy]⟩
  · obtain ⟨later, ready, acts, same, isReading, awake, did⟩ :=
      Hub.act_eq noted id below isClose
    have did : Acts id hub (noted.act task id frame) frame acts :=
      did.ofSame now configuration tasks registry
    have tasks_le : hub.tasks.size ≤ (noted.act task id frame).tasks.size :=
      did.tasks_le
    obtain ⟨unreached, untaken, times⟩ := did.silent
    have peerAfter : (noted.act task id frame).peer id =
        { hub.peer id with
          socket, readDeadline := hub.now.after hub.timing.heartbeat } := by
      rw [same]
      exact renewed
    have chronicle : (noted.act task id frame).chronicle =
        (acts ++ [⟨hub.now, .took id (.ok frame)⟩]) ++ hub.chronicle := by
      rw [same, List.append_assoc, ← told]
    have sizeAfter : (noted.act task id frame).peers.size = hub.peers.size := by
      rw [same]
      exact sameSize
    refine ⟨_, ⟨?_, Nat.le_of_eq sizeAfter.symm, tasks_le, ?_,
      chronicle, ?_, ?_⟩, .takes isOpen early found ?_ ?_ did rfl ?_ ?_⟩
    · rw [same]
      exact configuration
    · rw [peerAfter]
    · intro entry member
      rcases List.mem_append.mp member with late | first
      · exact times entry late
      · rw [List.mem_singleton.mp first]
    · intro items isInbox
      obtain ⟨rest, isRest, isItems⟩ := Socket.inbox_of_item taking isInbox
      refine ⟨rest, ?_, ?_⟩
      · rw [peerAfter]
        exact isRest
      · rw [arrived_append, arrived_of_not_reached unreached, took_append,
          untaken, isItems]
        simp [arrived, took, Happening.arrivedAt, Happening.tookBy]
    · rw [same]
      exact isReading
    · rw [same]
      exact awake
    · intro intake isIntake
      obtain ⟨next, isNext, taking⟩ := Socket.take_spec taking isIntake
      cases taking with
      | frame found =>
          refine ⟨next, ?_, found⟩
          rw [peerAfter]
          exact isNext
    · rw [peerAfter]

/-- A session takes a frame and does what it asks for. -/
theorem ofTake
    {hub start : Hub} {alarm : Option Alarm} {socket : Socket} {frame : Frame}
    (session : Seated hub task id) (now : start.now = hub.now)
    (configuration : start.configuration = hub.configuration)
    (peers : start.peers = hub.peers) (tasks : start.tasks = hub.tasks)
    (chronicle : start.chronicle = hub.chronicle)
    (isOpen : (hub.peer id).closed = false)
    (early : hub.now < (hub.alarmOf id alarm).due)
    (taking : (hub.peer id).socket.take = (socket, .item (.ok frame))) :
    ∃ news, Passage id hub
      (((start.setSocket id socket).note (.took id (.ok frame))).act task id
        frame) news ∧
      ReadStep task id alarm hub
        (((start.setSocket id socket).note (.took id (.ok frame))).act task id
          frame) news := by
  have inside : id < start.peers.size := by
    rw [peers]
    exact session.inside
  have samePeer : start.peer id = hub.peer id := by
    rw [Hub.peer, peers]
    rfl
  have registry : start.registry = hub.registry := by
    rw [Hub.registry, peers]
    exact List.filter_congr fun other _ => by rw [Hub.peer, peers]; rfl
  refine ofAct session isOpen early taking now configuration ?_ tasks ?_ ?_ ?_
  · exact (Hub.size_peers_setSocket start id socket).trans
      (congrArg Table.size peers)
  · rw [Hub.registry_note, Hub.registry_setSocket, registry]
  · rw [← samePeer]
    exact Hub.peer_setSocket_self start id socket inside
  · show ⟨start.now, _⟩ :: start.chronicle = _
    rw [now, chronicle]
    rfl

/-- A session reads. -/
theorem goOn {hub : Hub} {alarm : Option Alarm} (session : Seated hub task id)
    (isTask : hub.task task = .attend id (.reading alarm)) :
    ∃ news, Passage id hub (hub.goOn task) news ∧
      ReadStep task id alarm hub (hub.goOn task) news := by
  let start : Hub := { hub with ready := hub.ready.erase task }
  have polled : hub.goOn task = start.read task id alarm := by
    have same : start.task task = .attend id (.reading alarm) := isTask
    show start.poll task = _
    rw [Hub.poll, same]
    rfl
  have turn := Hub.read_turn start task id alarm
  rw [← polled] at turn
  obtain ⟨alarmsSet, woken⟩ := Hub.withAlarm_eq start alarm
  let woke : Hub := { start with alarmsSet }
  have inside : id < woke.peers.size := session.inside
  have below : task < hub.tasks.size := session.below
  have peer : ∀ socket, (woke.setSocket id socket).peer id =
      { hub.peer id with socket } :=
    fun socket => Hub.peer_setSocket_self woke id socket inside
  have attendant : ∀ socket, ((woke.setSocket id socket).peer id).attendant =
      (hub.peer id).attendant := fun socket => by rw [peer]
  have deadline : ∀ socket, ((woke.setSocket id socket).peer id).readDeadline =
      (hub.peer id).readDeadline := fun socket => by rw [peer]
  have size :
      ∀ socket, (woke.setSocket id socket).peers.size = hub.peers.size :=
    Hub.size_peers_setSocket woke id
  have unread : ∀ inbox, (hub.peer id).socket.inbox? = some inbox →
      ∃ rest, (hub.peer id).socket.inbox? = some rest ∧
        inbox = took id [] ++ rest :=
    fun inbox same => ⟨inbox, same, rfl⟩
  -- Where no item can be taken, the inbox is empty before and after.
  have empty : ∀ {socket : Socket} {arrival : Link.Arrival},
      (hub.peer id).socket.take = (socket, arrival) →
      (∀ item, arrival ≠ .item item) →
      ∀ inbox, (hub.peer id).socket.inbox? = some inbox →
        ∃ rest, ((woke.setSocket id socket).peer id).socket.inbox? = some rest ∧
          inbox = took id [] ++ rest := by
    intro socket arrival taking none inbox isInbox
    rcases Socket.take_inbox taking isInbox with
      ⟨item, -, same, -⟩ | ⟨-, rfl, isRest⟩
    · exact absurd same (none item)
    · exact ⟨[], by rw [peer]; exact isRest, rfl⟩
  generalize hub.goOn task = after at turn
  cases turn with
  | closed isClosed =>
      exact ofLeave session (.closed isClosed) rfl rfl rfl rfl rfl rfl unread
  | moved isOpen rung moved =>
      rw [woken]
      refine ⟨[], ⟨rfl, Nat.le_refl _, ?_, rfl, rfl, by rintro _ ⟨⟩, ?_⟩,
        .moves isOpen rung moved (Hub.task_setTask_self start task _ below)
          (List.mem_cons.mpr (.inl rfl)) rfl rfl
          (Hub.size_tasks_readOn woke id task) ?_⟩
      · exact Nat.le_of_eq (Hub.size_tasks_readOn woke id task).symm
      · exact fun inbox same => ⟨inbox, same, List.append_nil inbox⟩
      · exact pinged_setTask (by rintro _ ⟨⟩)
  | expired isOpen rung notMoved =>
      rw [woken]
      exact ofLeave session (.expired isOpen rung notMoved) rfl rfl rfl rfl rfl
        rfl unread
  | @waits socket isOpen early taking =>
      rw [woken]
      let waiting : Task :=
        .attend id (.reading (some (start.alarmOf id alarm)))
      have sameSize :
          ((woke.setSocket id socket).setTask task waiting).tasks.size =
          hub.tasks.size :=
        Hub.size_tasks_setTask (woke.setSocket id socket) task _
      refine ⟨[], ⟨rfl, Nat.le_of_eq (size socket).symm,
          Nat.le_of_eq sameSize.symm, ?_, rfl, by rintro _ ⟨⟩, ?_⟩,
        .waits isOpen early (congrArg Prod.snd taking)
          (Hub.task_setTask_self (woke.setSocket id socket) task _ below) rfl ?_
          ?_ ?_ sameSize (pinged_setTask (by rintro _ ⟨⟩))⟩
      · exact attendant socket
      · intro inbox isInbox
        obtain ⟨rest, isRest, same⟩ :=
          empty taking (by rintro _ ⟨⟩) inbox isInbox
        exact ⟨rest, isRest, by rw [same]; exact List.append_nil rest⟩
      · intro intake isIntake
        obtain ⟨later, isLater, taking⟩ := Socket.take_spec taking isIntake
        cases taking with
        | nothing same none =>
            refine ⟨later, ?_, same, none⟩
            exact (congrArg (fun peer => peer.socket.intake?)
              (peer socket)).trans isLater
      · exact (congrArg Peer.closed (peer socket)).trans isOpen
      · exact deadline socket
  | @ended socket isOpen early taking =>
      rw [woken]
      exact ofLeave session (.streamEnded isOpen early
        (congrArg Prod.snd taking)) rfl rfl (size socket)
        rfl (attendant socket) rfl (empty taking (by rintro _ ⟨⟩))
  | @failed socket fault isOpen early taking =>
      rw [woken]
      refine ofLeave session (.failed isOpen early (congrArg Prod.snd taking))
        rfl rfl (size socket) rfl (attendant socket) rfl ?_
      intro inbox isInbox
      obtain ⟨rest, isRest, same⟩ := Socket.inbox_of_item taking isInbox
      refine ⟨rest, ?_, ?_⟩
      · exact (congrArg (fun peer => peer.socket.inbox?) (peer socket)).trans
          isRest
      · simp [same, took, Happening.tookBy]
  | @takes socket frame isOpen early taking =>
      rw [woken]
      exact ofTake session rfl rfl rfl rfl rfl isOpen early taking

variable {alarm : Option Alarm} {before after : Hub} {news : List Entry}

theorem of_closed
    (step : ReadStep task id alarm before after news)
    (isClosed : (before.peer id).closed = true) :
    after.IsOver task id ∧
      ∃ quiet, (∀ entry ∈ quiet, ¬ entry.happening.Paces id) ∧
        news = quiet ++ [⟨before.now, .left id .socketClosed⟩] := by
  have notOpen : ¬ (before.peer id).closed = false := by
    rw [isClosed]
    exact Bool.noConfusion
  cases step with
  | moves isOpen => exact absurd isOpen notOpen
  | waits isOpen => exact absurd isOpen notOpen
  | takes isOpen => exact absurd isOpen notOpen
  | leaves ends isOver told quiet =>
      cases ends with
      | closed => exact ⟨isOver, _, quiet, told⟩
      | expired isOpen => exact absurd isOpen notOpen
      | streamEnded isOpen => exact absurd isOpen notOpen
      | failed isOpen => exact absurd isOpen notOpen
      | closeFrame isOpen => exact absurd isOpen notOpen

/-- The read deadline comes before what has arrived. -/
theorem of_due (step : ReadStep task id alarm before after news)
    (isOpen : (before.peer id).closed = false)
    (isDue : (before.alarmOf id alarm).due ≤ before.now)
    (due : (before.alarmOf id alarm).due = (before.peer id).readDeadline) :
    ∃ quiet, (∀ entry ∈ quiet, ¬ entry.happening.Paces id) ∧
      news = quiet ++ [⟨before.now, .left id .deadlineExpired⟩] := by
  have notEarly : ¬ before.now < (before.alarmOf id alarm).due :=
    Nat.not_lt.mpr isDue
  cases step with
  | moves _ rung moved =>
      rw [due] at moved
      exact absurd moved (Nat.lt_irrefl _)
  | waits _ early => exact absurd early notEarly
  | takes _ early => exact absurd early notEarly
  | leaves ends isOver told quiet =>
      cases ends with
      | closed isClosed =>
          exact absurd (isOpen.symm.trans isClosed) Bool.false_ne_true
      | expired => exact ⟨_, quiet, told⟩
      | streamEnded _ early => exact absurd early notEarly
      | failed _ early => exact absurd early notEarly
      | closeFrame _ early => exact absurd early notEarly

end ReadStep

namespace SessionTurn

variable {outsider : Outsider} {task : TaskId} {id : PeerId}
  {before after : Hub} {news : List Entry}

section

variable {doer : Doer}

/-- What somebody else does who serves other sessions at most. -/
theorem ofCourse
    (course : Course doer before after)
    (isNews : News doer.Brings before after news)
    (serves : doer.serves ≠ some id) (other : doer.task ≠ some task)
    (below : task < before.tasks.size)
    (renews : doer.renews id → before.Pinged id)
    (pinged : after.Pinged id → before.Pinged id) :
    SessionTurn outsider task id before after news := by
  have unreached : ¬ Reached id news := not_reached_of_news isNews
  have unfed := fed_of_not_reached unreached
  have peer := course.peer id
  refine .aside course.now (quiet_of_news isNews serves)
    (course.task task below other)
    (fun awake => course.ready task awake other)
    (fun reached => absurd reached unreached)
    (fun wasOpen isClosed => course.closes id task wasOpen isClosed other) ?_ ?_
    fun isPinged => .inl (pinged isPinged)
  · intro intake same
    refine ⟨intake.inbound, (peer.intake serves).trans same, ?_⟩
    rw [unfed, List.append_nil]
  · intro
    rcases peer.deadline serves with same | ⟨moves, renewed⟩
    · exact .inl same
    · exact .inr ⟨renews moves, renewed⟩

end

/-- Another task goes on. -/
theorem goOther {hub : Hub} {number : TaskId} (session : Seated hub task id)
    (serves : (hub.task number).serves? ≠ some id) (other : number ≠ task) :
    ∃ news, Passage id hub (hub.goOn number) news ∧
      SessionTurn outsider task id hub (hub.goOn number) news := by
  have course := Course.goOn hub number
  obtain ⟨news, isNews⟩ := course.news
  have notOwn : (Doer.running number (hub.task number)).task ≠ some task :=
    fun same => other (Option.some.inj same)
  refine ⟨news, .ofCourse course isNews serves,
    .ofCourse course isNews serves notOwn session.below ?_ ?_⟩
  · intro renews
    change (hub.task number).Renews id at renews
    cases isTask : hub.task number with
    | pong peer payload stage =>
        rw [isTask] at renews
        cases stage with
        | unstarted =>
            cases renews
            exact ⟨number, payload, isTask⟩
        | _ => cases renews
    | _ =>
        rw [isTask] at renews
        cases renews
  · rintro ⟨reply, payload, isReply⟩
    by_cases inside : reply < hub.tasks.size
    · by_cases own : reply = number
      · subst own
        have begun := Hub.begun_goOn hub inside
        rw [isReply] at begun
        cases begun
      · rw [course.task reply inside fun same =>
          own (Option.some.inj same).symm] at isReply
        exact ⟨reply, payload, isReply⟩
    · by_cases new : reply < (hub.goOn number).tasks.size
      · have starts := (course.newTask reply (Nat.not_lt.mp inside) new).1
        rw [isReply] at starts
        cases isTask : hub.task number with
        | attend peer stage =>
            rw [isTask] at starts
            refine absurd ?_ serves
            rw [isTask]
            exact starts.1.symm
        | _ =>
            rw [isTask] at starts
            cases starts
      · rw [Hub.task_of_size_le _ reply (Nat.not_lt.mp new)] at isReply
        cases isReply

/-- A session that has ended goes on. -/
theorem goOver
    {hub : Hub} (session : Seated hub task id) (isOver : hub.IsOver task id) :
    ∃ news, Passage id hub (hub.goOn task) news ∧
      SessionTurn outsider task id hub (hub.goOn task) news := by
  let start : Hub := { hub with ready := hub.ready.erase task }
  have taken : Course (.writer task id) hub start := .takeUp hub rfl
  have inside : (Doer.writer task id).Inside hub :=
    Doer.inside_writer session.below id
  have polled : hub.goOn task = start.poll task := rfl
  have ofWriter : Course (.writer task id) start (hub.goOn task) →
      (hub.goOn task).IsOver task id →
        ∃ news, Passage id hub (hub.goOn task) news ∧
          SessionTurn outsider task id hub (hub.goOn task) news := by
    intro course later
    have whole := taken.trans course inside
    obtain ⟨news, isNews⟩ := whole.news
    exact ⟨news, .ofCourse whole isNews (by rintro ⟨⟩),
      .ended whole.now (quiet_of_news isNews (by rintro ⟨⟩)) isOver later⟩
  rcases isOver with finished | ⟨closing, parting⟩
  · cases isTask : hub.task task with
    | finished outcome =>
        have same : start.task task = .finished outcome := isTask
        have still : hub.goOn task = start := by rw [polled, Hub.poll, same]
        rw [still] at ofWriter ⊢
        exact ofWriter (.refl _ start) (.inl finished)
    | _ =>
        rw [isTask] at finished
        cases finished
  · have same : start.task task = .attend id (.parting closing) := parting
    have goes :
        hub.goOn task = start.pollSession task id (.parting closing) := by
      rw [polled, Hub.poll, same]
    have proceeded : Course (.writer task id) start
        (start.proceedClosing id task closing).1 :=
      .proceedClosing start inside rfl rfl closing
    rw [goes] at ofWriter ⊢
    exact ofWriter (.proceedParting rfl ⟨rfl, fun _ => trivial⟩ start
      inside closing) (Hub.isOver_settleParting _ id
      (Nat.lt_of_lt_of_le session.below proceeded.tasks_le) _)

/-- A session is opened. -/
theorem goArriving {hub : Hub} (session : Seated hub task id)
    (isTask : hub.task task = .attend id .arriving) :
    ∃ news, Passage id hub (hub.goOn task) news ∧
      SessionTurn outsider task id hub (hub.goOn task) news := by
  let start : Hub := { hub with ready := hub.ready.erase task }
  obtain ⟨middle, now, tasks, chronicle, configuration, size, socket,
    arrived⟩ :=
    Hub.arrive_eq start id task
  let opened : Hub :=
    ((middle.note (.joined id)).count Counters.noteOpened).renewDeadline id
      middle.timing.heartbeat
  have below : task < opened.tasks.size := by
    show task < middle.tasks.size
    rw [tasks]
    exact session.below
  have inside : id < middle.peers.size := by
    rw [size]
    exact session.inside
  have polled : hub.goOn task = opened.readOn task id := by
    have same : start.task task = .attend id .arriving := isTask
    show start.poll task = _
    rw [Hub.poll, same]
    exact arrived
  have renewed : (hub.goOn task).peer id =
      { middle.peer id with
        readDeadline := middle.now.after middle.timing.heartbeat } := by
    rw [polled]
    exact Hub.peer_updatePeer_self middle id _ inside
  have window : middle.timing.heartbeat = hub.timing.heartbeat := by
    rw [Hub.timing, configuration]
    rfl
  obtain ⟨later, ready, same, isReading, awake⟩ := Hub.readOn_eq opened id below
  have told :
      (hub.goOn task).chronicle = [⟨hub.now, .joined id⟩] ++ hub.chronicle := by
    rw [polled]
    show ⟨middle.now, .joined id⟩ :: middle.chronicle = _
    rw [now, chronicle]
    rfl
  have nowAfter : (hub.goOn task).now = hub.now := by
    rw [polled]
    exact now
  have course := Course.goOn hub task
  refine ⟨_, ⟨course.configuration, Nat.le_of_eq course.peers.symm,
    course.tasks_le, ?_, told, ?_, ?_⟩,
    .arrives nowAfter isTask ?_ ?_ rfl ?_ ?_⟩
  · refine (course.peer id).attendant fun serves starts => ?_
    change (hub.task task).MayStart _ at starts
    rw [isTask] at starts
    cases starts
  · intro entry member
    rw [List.mem_singleton.mp member]
  · intro inbox isInbox
    refine ⟨inbox, ?_, List.append_nil inbox⟩
    rw [renewed]
    exact (congrArg Socket.inbox? socket).trans isInbox
  · rw [polled, same]
    exact isReading
  · rw [polled, same]
    exact awake
  · rw [renewed]
    exact socket
  · rw [renewed, now, window]

theorem goOn {hub : Hub} {number : TaskId} (attended : Attended hub)
    (session : Seated hub task id) :
    ∃ news, Passage id hub (hub.goOn number) news ∧
      SessionTurn outsider task id hub (hub.goOn number) news := by
  by_cases own : number = task
  · subst own
    rcases session.isTask with ⟨stage, isTask⟩ | finished
    · cases stage with
      | arriving => exact goArriving session isTask
      | reading alarm =>
          obtain ⟨news, passage, step⟩ := ReadStep.goOn session isTask
          exact ⟨news, passage, .reads (Course.goOn hub number).now isTask step⟩
      | parting closing => exact goOver session (.inr ⟨closing, isTask⟩)
    · exact goOver session (.inl finished)
  · refine goOther session (fun serves => own ?_) own
    exact Option.some.inj
      ((attended number id serves).symm.trans session.attendant)

/-- Something is done from outside. -/
theorem ofOutside
    (session : Seated before task id)
    (outside : Outside outsider before after) :
    ∃ news, Passage id before after news ∧
      SessionTurn outsider task id before after news := by
  obtain ⟨news, isNews, peer, wakes⟩ := outside.news
  have sameTask := outside.task task session.below
  have quiet := quiet_of_outside isNews id
  refine ⟨news, ⟨outside.configuration, Nat.le_of_eq outside.peers.symm,
      outside.tasks_le, (peer id).attendant, isNews.chronicle, isNews.time, ?_⟩,
    .aside outside.now quiet sameTask (outside.ready task) ?_
      (outside.closes id task) (peer id).intake
      (fun fixed => .inl ((peer id).deadline fixed)) ?_⟩
  · intro inbox isInbox
    refine ⟨_, (peer id).inbox inbox isInbox, ?_⟩
    rw [took_of_quiet quiet, List.nil_append]
  · intro reached isReader
    exact wakes id task reached ((peer id).attendant.trans session.attendant)
      isReader
  · rintro ⟨number, payload, same⟩
    by_cases below : number < before.tasks.size
    · rw [outside.task number below] at same
      exact .inl ⟨number, payload, same⟩
    · by_cases inside : number < after.tasks.size
      · refine .inr ⟨payload, ?_⟩
        rw [← same]
        exact (outside.newTask number (Nat.not_lt.mp below) inside).1
      · rw [Hub.task_of_size_le _ number (Nat.not_lt.mp inside)] at same
        cases same

/-- Another peer joins, perhaps with a task that serves it. -/
theorem ofJoined
    (session : Seated before task id) (now : after.now = before.now)
    (configuration : after.configuration = before.configuration)
    (chronicle : after.chronicle = before.chronicle)
    (peers_le : before.peers.size ≤ after.peers.size)
    (tasks_le : before.tasks.size ≤ after.tasks.size)
    (peer : after.peer id = before.peer id)
    (tasks : ∀ number < before.tasks.size,
      after.task number = before.task number)
    (ready : ∀ number ∈ before.ready, number ∈ after.ready)
    (plain : ∀ number, before.tasks.size ≤ number → ∀ payload,
      after.task number ≠ .pong (some id) payload .unstarted) :
    ∃ news, Passage id before after news ∧
      SessionTurn outsider task id before after news := by
  refine ⟨[], ⟨configuration, peers_le, tasks_le, by rw [peer],
    chronicle, by rintro _ ⟨⟩, ?_⟩,
    .aside now (by rintro _ ⟨⟩) (tasks task session.below) (ready task)
      (fun reached => absurd reached (not_reached_nil id)) ?_ ?_
      (fun _ => .inl (by rw [peer])) ?_⟩
  · intro inbox isInbox
    exact ⟨inbox, by rw [peer]; exact isInbox, List.append_nil inbox⟩
  · intro wasOpen isClosed
    rw [peer] at isClosed
    exact absurd (wasOpen.symm.trans isClosed) Bool.false_ne_true
  · intro intake same
    refine ⟨intake.inbound, ?_, (List.append_nil _).symm⟩
    rw [peer]
    exact same
  · rintro ⟨number, payload, same⟩
    by_cases below : number < before.tasks.size
    · rw [tasks number below] at same
      exact .inl ⟨number, payload, same⟩
    · exact absurd same (plain number (Nat.not_lt.mp below) payload)

/-- What any turnover is for a session. -/
theorem ofTurnover
    (attended : Attended before) (session : Seated before task id)
    (turnover : Turnover outsider before after) :
    ∃ news, Passage id before after news ∧
      SessionTurn outsider task id before after news := by
  have notNew : id ≠ before.peers.size := Nat.ne_of_lt session.inside
  cases turnover with
  | outside outside => exact ofOutside session outside
  | register added =>
      refine ofJoined session rfl rfl rfl ?_ (Nat.le_refl _) ?_ (fun _ _ => rfl)
        (fun _ member => member) ?_
      · rw [Hub.size_peers_addPeer]
        exact Nat.le_succ _
      · rw [Hub.peer_addPeer, if_neg notNew]
      · intro number above payload same
        have none : before.task number = default :=
          Hub.task_of_size_le before number above
        have same :
            before.task number = .pong (some id) payload .unstarted := same
        rw [none] at same
        cases same
  | @serve socket opened isOpened isAdded serves =>
      refine ofJoined session rfl rfl rfl ?_ ?_ ?_ ?_ ?_ ?_
      · exact Nat.le_trans (Nat.le_succ _)
          (Nat.le_of_eq (Hub.size_peers_addPeer before _).symm)
      · rw [Hub.size_tasks_spawn]
        exact Nat.le_succ _
      · show (before.addPeer _).peer id = _
        rw [Hub.peer_addPeer, if_neg notNew]
      · intro number below
        rw [Hub.task_spawn]
        exact if_neg (Nat.ne_of_lt below)
      · intro number member
        exact List.mem_append.mpr (.inl member)
      · intro number above payload same
        rw [Hub.task_spawn] at same
        split at same
        · rcases serves with isSession | isConversation
          · rw [isSession] at same
            cases same
          · rw [isConversation] at same
            cases same
        · have none : before.task number = default :=
            Hub.task_of_size_le before number above
          have same :
              before.task number = .pong (some id) payload .unstarted := same
          rw [none] at same
          cases same
  | go isReady => exact goOn attended session
  | @tick later still forward whole passes =>
      obtain ⟨ready, same, kept, rung⟩ :=
        Hub.ring_eq { before with now := later }
      rw [same]
      refine ⟨[], ⟨rfl, Nat.le_refl _, Nat.le_refl _, rfl, rfl, by rintro _ ⟨⟩,
          fun inbox same => ⟨inbox, same, List.append_nil inbox⟩⟩,
        .ticks still rfl forward whole ?_ rfl rfl⟩
      intro alarm member
      have isAlarm := Hub.mem_alarms before task session.below member
      exact ⟨passes alarm task isAlarm,
        fun due => rung alarm task isAlarm (decide_eq_true due)⟩

/-- A session that has ended stays so. -/
theorem of_isOver (turn : SessionTurn outsider task id before after news)
    (isOver : before.IsOver task id) :
    after.IsOver task id ∧ ∀ entry ∈ news, ¬ entry.happening.Paces id := by
  cases turn with
  | aside now quiet sameTask =>
      refine ⟨?_, quiet⟩
      rw [Hub.IsOver, sameTask]
      exact isOver
  | ticks still silent forward whole passes tasks peers =>
      subst silent
      have sameTask : after.task task = before.task task := by
        rw [Hub.task, tasks]
        rfl
      refine ⟨?_, by rintro _ ⟨⟩⟩
      rw [Hub.IsOver, sameTask]
      exact isOver
  | ended now quiet wasOver isLater => exact ⟨isLater, quiet⟩
  | arrives now wasTask =>
      exact absurd isOver (Hub.not_isOver_of_arriving wasTask)
  | reads now wasTask => exact absurd isOver (Hub.not_isOver_of_reading wasTask)

end SessionTurn

/-- A session keeps its task. -/
theorem Seated.turn
    {outsider : Outsider} {task : TaskId} {id : PeerId} {before after : Hub}
    {news : List Entry} (session : Seated before task id)
    (passage : Passage id before after news)
    (turn : SessionTurn outsider task id before after news) :
    Seated after task id where
  inside := Nat.lt_of_lt_of_le session.inside passage.peers_le
  below := Nat.lt_of_lt_of_le session.below passage.tasks_le
  attendant := passage.attendant.trans session.attendant
  isTask := by
    cases turn with
    | aside now quiet sameTask =>
        rw [sameTask]
        exact session.isTask
    | ticks still silent forward whole passes tasks peers =>
        have sameTask : after.task task = before.task task := by
          rw [Hub.task, tasks]
          rfl
        rw [sameTask]
        exact session.isTask
    | ended now quiet wasOver isOver =>
        rcases isOver with finished | ⟨closing, parting⟩
        · exact .inr finished
        · exact .inl ⟨_, parting⟩
    | arrives now wasTask isTask => exact .inl ⟨_, isTask⟩
    | reads now wasTask step =>
        cases step with
        | moves isOpen rung moved isTask => exact .inl ⟨_, isTask⟩
        | waits isOpen early found isTask => exact .inl ⟨_, isTask⟩
        | takes isOpen early found isTask => exact .inl ⟨_, isTask⟩
        | leaves ends isOver =>
            rcases isOver with finished | ⟨closing, parting⟩
            · exact .inr finished
            · exact .inl ⟨_, parting⟩

end BroadcastHub.Server
