import BroadcastHub.Proofs.Server.SessionTurns

/-!
# Before a session is opened

Until its session is opened, a peer is served by a conversation or by a task
that has not begun.  Nothing is told of the session then.  What arrives at a
scripted socket waits there, from the time before the session on, until the
session takes it in that order.
-/

namespace BroadcastHub.Server

open Scenario

/-! ### Conversations -/

/-- Whether nothing is written down, and scripted sockets keep what has
arrived. -/
structure Hushed (before after : Hub) : Prop where
  chronicle : after.chronicle = before.chronicle
  inbox : ∀ id, (after.peer id).socket.inbox? = (before.peer id).socket.inbox?

namespace Hushed

variable {first second third : Hub}

theorem trans (one : Hushed first second) (two : Hushed second third) :
    Hushed first third where
  chronicle := two.chronicle.trans one.chronicle
  inbox id := (two.inbox id).trans (one.inbox id)

theorem ofPeers (chronicle : second.chronicle = first.chronicle)
    (peers : second.peers = first.peers) : Hushed first second where
  chronicle := chronicle
  inbox id := by
    rw [Hub.peer, peers]
    rfl

theorem ofPeer (hub : Hub) (id : PeerId) {change : Peer → Peer}
    (inbox : ∀ peer, (change peer).socket.inbox? = peer.socket.inbox?) :
    Hushed hub (hub.updatePeer id change) where
  chronicle := rfl
  inbox other := by
    rw [Hub.peer_updatePeer]
    split
    · exact inbox _
    · rfl

theorem updateLink (hub : Hub) (id : PeerId) (change : Link → Link) :
    Hushed hub (hub.updateLink id change) := by
  refine ofPeer hub id fun peer => ?_
  cases same : peer.socket with
  | scripted socket => exact congrArg Socket.inbox? same
  | link link => rfl

theorem finish (hub : Hub) (task : TaskId) (outcome : Outcome) :
    Hushed hub (hub.finish task outcome) := by
  obtain ⟨ready, watches, same, -⟩ := Hub.finish_eq hub task outcome
  rw [same]
  exact ofPeers rfl rfl

theorem beginSession (hub : Hub) (task : TaskId) (id : PeerId) :
    Hushed hub (hub.beginSession task id) := by
  let change : Peer → Peer := fun peer =>
    { peer with holdsSlot := true, attendant := some hub.nextTask }
  have changed : Hushed hub (hub.updatePeer id change) :=
    ofPeer hub id fun _ => rfl
  have started :
      Hushed hub ((hub.updatePeer id change).spawn (.attend id .arriving)) :=
    changed.trans (ofPeers rfl rfl)
  exact started.trans (finish _ task .over)

theorem reply (hub : Hub) (id : PeerId) (response : Http.Response) :
    Hushed hub (hub.reply id response) :=
  updateLink hub id _

theorem refuse
    (hub : Hub) (task : TaskId) (id : PeerId) (offence : Http.Offence) :
    Hushed hub (hub.refuse task id offence) :=
  (reply hub id _).trans (finish _ task .over)

theorem converseOn
    (hub : Hub) (task : TaskId) (id : PeerId) (request : Http.Request)
    (content : Http.Content) (rest : Octets) :
    Hushed hub (hub.converseOn task id request content rest) := by
  let read := hub.updateLink id fun link =>
    { link with unread := (content.behind? rest).getD [] }
  have responded :
      Hushed read (Http.respond read request request.isUpgradable).1 := by
    obtain ⟨admission, counters, same⟩ :=
      respond_eq read request request.isUpgradable
    rw [same]
    exact ofPeers rfl rfl
  have replied :=
    ((updateLink hub id _).trans responded).trans (reply _ id (Hub.asSent
      (Http.respond read request request.isUpgradable).2.1 request.version
      request.keepsAlive))
  unfold Hub.converseOn
  simp only
  split
  · exact replied.trans (beginSession _ task id)
  · split
    · exact replied.trans (ofPeers rfl rfl)
    · exact replied.trans (finish _ task .over)

theorem pollConversation (hub : Hub) (task : TaskId) (id : PeerId) :
    Hushed hub (hub.pollConversation task id) := by
  have read := updateLink hub id Link.readPipe
  unfold Hub.pollConversation
  simp only
  split
  · exact read.trans (finish _ task .over)
  · split
    · split
      · exact read.trans (converseOn _ task id _ _ _)
      · exact read.trans (refuse _ task id _)
    · exact read.trans (refuse _ task id _)
    · split
      · exact read.trans (finish _ task .over)
      · exact read

theorem goOn
    {hub : Hub} {task : TaskId} {id : PeerId}
    (isTask : hub.task task = .converse id) : Hushed hub (hub.goOn task) := by
  let start : Hub := { hub with ready := hub.ready.erase task }
  have polled : hub.goOn task = start.pollConversation task id := by
    have same : start.task task = .converse id := isTask
    show start.poll task = _
    rw [Hub.poll, same]
  have takenUp : Hushed hub start := ofPeers rfl rfl
  rw [polled]
  exact takenUp.trans (pollConversation start task id)

end Hushed

/-! ### Seats -/

theorem Attended.seated
    {hub : Hub} (attended : Attended hub) (housed : Housed hub) {task : TaskId}
    {id : PeerId} {stage : Attendance}
    (isTask : hub.task task = .attend id stage) : Seated hub task id := by
  have serves : (hub.task task).serves? = some id := by
    rw [isTask]
    rfl
  exact ⟨housed.tasks task id (Task.regards_of_serves serves),
    hub.lt_size_of_task task (by rw [isTask]; rintro ⟨⟩),
    attended task id serves, .inl ⟨stage, isTask⟩⟩

/-! ### What arrives -/

theorem Socket.isSome_inbox? (socket : Socket) :
    socket.inbox?.isSome = !socket.desk?.isSome := by
  cases socket <;> rfl

/-- What is taken stood first, and what arrives stands last. -/
def Receives (id : PeerId) (before after : Hub) (news : List Entry) : Prop :=
  ∀ rest, (after.peer id).socket.inbox? = some rest →
    ∃ inbox, (before.peer id).socket.inbox? = some inbox ∧
      inbox ++ arrived id news = took id news ++ rest

/-- What has arrived at a scripted socket was taken or is there. -/
def Received (hub : Hub) (id : PeerId) : Prop :=
  ∀ inbox, (hub.peer id).socket.inbox? = some inbox →
    arrived id hub.chronicle = took id hub.chronicle ++ inbox

namespace Receives

variable {outsider : Outsider} {id : PeerId} {before after : Hub}
  {news : List Entry}

theorem ofSame
    (inbox : (after.peer id).socket.inbox? = (before.peer id).socket.inbox?)
    (unreached : ¬ Reached id news) (untaken : took id news = []) :
    Receives id before after news := by
  intro rest isRest
  refine ⟨rest, inbox.symm.trans isRest, ?_⟩
  rw [arrived_of_not_reached unreached, untaken, List.append_nil,
    List.nil_append]

theorem ofKind
    {inbox : List (Except Fault Frame) → List (Except Fault Frame) → Prop}
    (isLink : (after.peer id).socket.desk?.isSome =
      (before.peer id).socket.desk?.isSome)
    (keeps : ∀ items, (before.peer id).socket.inbox? = some items →
      ∃ rest, (after.peer id).socket.inbox? = some rest ∧ inbox items rest)
    (rest : List (Except Fault Frame))
    (isRest : (after.peer id).socket.inbox? = some rest) :
    ∃ items, (before.peer id).socket.inbox? = some items ∧
      inbox items rest := by
  have isScripted : (before.peer id).socket.inbox?.isSome = true := by
    rw [Socket.isSome_inbox?, ← isLink, ← Socket.isSome_inbox?, isRest]
    rfl
  obtain ⟨items, isItems⟩ := Option.isSome_iff_exists.mp isScripted
  obtain ⟨other, isOther, holds⟩ := keeps items isItems
  cases isRest.symm.trans isOther
  exact ⟨items, isItems, holds⟩

/-- A task that goes on takes in order. -/
theorem goOn
    (attended : Attended before) (housed : Housed before) {task : TaskId}
    (turnover : Turnover outsider before (before.goOn task)) :
    ∃ news, (before.goOn task).chronicle = news ++ before.chronicle ∧
      Receives id before (before.goOn task) news := by
  have course := Course.goOn before task
  by_cases serves : (before.task task).serves? = some id
  · cases isTask : before.task task with
    | converse peer =>
        have hushed := Hushed.goOn isTask
        exact ⟨[], hushed.chronicle,
          ofSame (hushed.inbox id) (not_reached_nil id) rfl⟩
    | attend peer stage =>
        rw [isTask] at serves
        cases serves
        obtain ⟨news, passage, -⟩ := SessionTurn.ofTurnover attended
          (attended.seated housed isTask) turnover
        exact ⟨news, passage.chronicle,
          ofKind (course.peer id).isLink passage.inbox⟩
    | _ =>
        rw [isTask] at serves
        cases serves
  · obtain ⟨news, isNews⟩ := course.news
    exact ⟨news, isNews.chronicle, ofSame ((course.peer id).inbox serves)
      (not_reached_of_news isNews)
      (took_of_quiet (quiet_of_news isNews serves))⟩

/-- Every turnover takes what stood first and adds at the end. -/
theorem turn
    (housed : Housed before) (attended : Attended before)
    (inside : id < before.peers.size)
    (turnover : Turnover outsider before after) :
    ∃ news, after.chronicle = news ++ before.chronicle ∧
      Receives id before after news := by
  have notNew : id ≠ before.peers.size := Nat.ne_of_lt inside
  have still : (after.peer id).socket.inbox? = (before.peer id).socket.inbox? →
      Receives id before after [] :=
    fun same => ofSame same (not_reached_nil id) rfl
  cases turnover with
  | outside outside =>
      obtain ⟨news, isNews, peer, -⟩ := outside.news
      refine ⟨news, isNews.chronicle,
        ofKind (peer id).isLink fun items isItems => ?_⟩
      refine ⟨_, (peer id).inbox items isItems, ?_⟩
      rw [took_of_quiet (quiet_of_outside isNews id), List.nil_append]
  | register added =>
      refine ⟨[], rfl, still ?_⟩
      rw [Hub.peer_addPeer, if_neg notNew]
  | @serve socket task added opened serves =>
      refine ⟨[], rfl, still ?_⟩
      change ((before.addPeer
        { socket, attendant := some before.nextTask }).peer id).socket.inbox? =
          _
      rw [Hub.peer_addPeer, if_neg notNew]
  | go isReady first =>
      have goes : Turnover outsider before _ := .go isReady first
      exact goOn attended housed goes
  | @tick later stands forward whole passes =>
      obtain ⟨ready, same, -⟩ := Hub.ring_eq { before with now := later }
      rw [same]
      exact ⟨[], rfl, ofSame rfl (not_reached_nil id) rfl⟩

end Receives

namespace Received

variable {manner : Manner} {id : PeerId} {before after : Hub}

theorem start
    (configuration : Configuration) (chance : Nat → Nat) (id : PeerId) :
    Received { Hub.start configuration with chance } id := by
  intro inbox isInbox
  rw [Hub.peer_of_size_le { Hub.start configuration with chance } id
    (Nat.zero_le id)] at isInbox
  cases isInbox
  rfl

/-- Nothing has arrived for a peer of whom nothing is told. -/
theorem ofUntold
    {hub : Hub}
    (untold : ∀ entry ∈ hub.chronicle, ¬ entry.happening.Concerns id)
    (empty : ∀ inbox, (hub.peer id).socket.inbox? = some inbox → inbox = []) :
    Received hub id := by
  intro inbox isInbox
  have unreached : arrived id hub.chronicle = [] := by
    refine account_of_untold (fun happening other => ?_) untold
    cases happening with
    | arrived peer item => exact if_neg other
    | _ => rfl
  have untaken : took id hub.chronicle = [] := by
    refine account_of_untold (fun happening other => ?_) untold
    cases happening with
    | took peer item => exact if_neg other
    | _ => rfl
  rw [unreached, untaken, empty inbox isInbox]
  rfl

theorem empty_of_adds
    {peers : Nat} {socket : Socket} {inbox : List (Except Fault Frame)}
    (added : (manner.outsider peers).adds socket)
    (isInbox : socket.inbox? = some inbox) : inbox = [] := by
  obtain ⟨action, -, adds⟩ := added
  cases action <;> simp only [Action.Adds] at adds
  case register =>
    subst adds
    cases isInbox
    rfl
  case serve =>
    subst adds
    cases isInbox
    rfl
  all_goals
    obtain ⟨limit, rfl⟩ := adds
    cases isInbox

/-- Every turnover keeps to the order of arrival. -/
theorem turn
    (received : Received before id) (housed : Housed before)
    (attended : Attended before)
    (turnover : Turnover (manner.outsider before.peers.size) before after) :
    Received after id := by
  by_cases inside : id < before.peers.size
  · obtain ⟨news, chronicle, receives⟩ :=
      Receives.turn housed attended inside turnover
    intro rest isRest
    obtain ⟨inbox, isInbox, same⟩ := receives rest isRest
    rw [chronicle, arrived_append, took_append, received inbox isInbox,
      List.append_assoc, same, List.append_assoc]
  · have unplaced : ∀ {hub : Hub}, Housed hub → hub.peers.size ≤ id →
      Received hub id := by
      intro hub isHoused outside
      refine ofUntold (fun entry member concerns => ?_) fun inbox isInbox => ?_
      · exact Nat.not_lt.mpr outside (isHoused.told entry member id concerns)
      · rw [Hub.peer_of_size_le hub id outside] at isInbox
        cases isInbox
        rfl
    have joined :
        ∀ peer : Peer, (∀ inbox, peer.socket.inbox? = some inbox → inbox = []) →
        Received (before.addPeer peer) id := by
      intro peer empty
      refine ofUntold (fun entry member concerns => ?_) fun inbox isInbox => ?_
      · exact inside (housed.told entry member id concerns)
      · rw [Hub.peer_addPeer] at isInbox
        split at isInbox
        · exact empty inbox isInbox
        · rw [Hub.peer_of_size_le before id (Nat.not_lt.mp inside)] at isInbox
          cases isInbox
          rfl
    have later := housed.turn turnover
    cases turnover with
    | outside outside =>
        exact unplaced later (outside.peers ▸ Nat.not_lt.mp inside)
    | register added => exact joined _ fun inbox => empty_of_adds added
    | serve added opened serves =>
        exact joined _ fun inbox => empty_of_adds added
    | go isReady =>
        exact unplaced later
          ((Course.goOn before _).peers ▸ Nat.not_lt.mp inside)
    | @tick instant stands forward whole passes =>
        obtain ⟨ready, same, -⟩ := Hub.ring_eq { before with now := instant }
        rw [same] at later ⊢
        exact unplaced later (Nat.not_lt.mp inside)

end Received

/-! ### Sessions that have not been opened -/

/-- Whether a peer's session has not been opened. -/
structure Unopened (hub : Hub) (id : PeerId) : Prop where
  tasks : ∀ number, (hub.task number).serves? = some id →
    hub.task number = .converse id ∨ hub.task number = .attend id .arriving
  silent : ∀ entry ∈ hub.chronicle, ¬ entry.happening.Paces id

/-- What happens when a session is opened. -/
structure Opens
    (task : TaskId) (id : PeerId) (before after : Hub) (news : List Entry) :
    Prop where
  now : after.now = before.now
  wasTask : before.task task = .attend id .arriving
  seated : Seated after task id
  isTask : after.task task = .attend id (.reading none)
  awake : task ∈ after.ready
  told : news = [⟨before.now, .joined id⟩]
  deadline :
    (after.peer id).readDeadline = before.now.after before.timing.heartbeat

namespace Unopened

variable {manner : Manner} {outsider : Outsider} {id : PeerId}
  {before after : Hub}

theorem start
    (configuration : Configuration) (chance : Nat → Nat) (id : PeerId) :
    Unopened { Hub.start configuration with chance } id where
  tasks number serves := by
    rw [Hub.task_of_size_le { Hub.start configuration with chance } number
      (Nat.zero_le number)] at serves
    cases serves
  silent _ member := by cases member

theorem append
    {news : List Entry} (unopened : Unopened before id)
    (chronicle : after.chronicle = news ++ before.chronicle)
    (quiet : ∀ entry ∈ news, ¬ entry.happening.Paces id)
    (tasks : ∀ number, (after.task number).serves? = some id →
      after.task number = .converse id ∨
        after.task number = .attend id .arriving) :
    Unopened after id where
  tasks := tasks
  silent entry member := by
    rw [chronicle] at member
    rcases List.mem_append.mp member with late | early
    · exact quiet entry late
    · exact unopened.silent entry early

/-- What a task that does not attend a session leaves and starts for it. -/
theorem tasks_of_course
    (unopened : Unopened before id) {task : TaskId}
    (course : Course (.running task (before.task task)) before after)
    (other : before.task task ≠ .attend id .arriving) (number : TaskId)
    (serves : (after.task number).serves? = some id) :
    after.task number = .converse id ∨
      after.task number = .attend id .arriving := by
  by_cases below : number < before.tasks.size
  · by_cases own : task = number
    · subst own
      rcases course.own task rfl with same | finished | follows
      · rw [same] at serves ⊢
        exact unopened.tasks task serves
      · rw [Task.serves?_of_finished finished] at serves
        cases serves
      · -- What follows serves the same peer, and nothing follows a
        -- conversation.
        have follows : (before.task task).Follows (after.task task) := follows
        have served := (Task.serves?_of_follows follows).symm.trans serves
        rcases unopened.tasks task served with converses | attends
        · rw [converses] at follows
          exact follows.elim
        · exact absurd attends other
    · rw [course.task number below fun same =>
        own (Option.some.inj same)] at serves ⊢
      exact unopened.tasks number serves
  · by_cases inside : number < after.tasks.size
    · have starts : (before.task task).MayStart (after.task number) :=
        (course.newTask number (Nat.not_lt.mp below) inside).1
      rw [Task.converse_of_mayStart starts serves] at starts
      cases isTask : after.task number <;> rw [isTask] at starts
      case attend => exact .inr (by rw [starts.1, starts.2])
      all_goals exact starts.elim
    · rw [Hub.task_of_size_le _ number (Nat.not_lt.mp inside)] at serves
      cases serves

theorem ofCourse (unopened : Unopened before id) {task : TaskId}
    (course : Course (.running task (before.task task)) before after)
    (serves : (before.task task).serves? ≠ some id) :
    ∃ news, after.chronicle = news ++ before.chronicle ∧ Unopened after id ∧
      ∀ entry ∈ news, ¬ entry.happening.Paces id := by
  have other : before.task task ≠ .attend id .arriving := by
    intro isTask
    rw [isTask] at serves
    exact serves rfl
  obtain ⟨news, isNews⟩ := course.news
  have quiet := quiet_of_news isNews serves
  exact ⟨news, isNews.chronicle,
    unopened.append isNews.chronicle quiet
      (unopened.tasks_of_course course other), quiet⟩

/-- A task that does not attend the session leaves it unopened. -/
theorem goOn
    (unopened : Unopened before id) {task : TaskId}
    (other : before.task task ≠ .attend id .arriving) :
    ∃ news, (before.goOn task).chronicle = news ++ before.chronicle ∧
      Unopened (before.goOn task) id ∧
      ∀ entry ∈ news, ¬ entry.happening.Paces id := by
  have course := Course.goOn before task
  by_cases serves : (before.task task).serves? = some id
  · rcases unopened.tasks task serves with converses | attends
    · have hushed := Hushed.goOn converses
      have told : (before.goOn task).chronicle = [] ++ before.chronicle :=
        hushed.chronicle
      have silent : ∀ entry ∈ ([] : List Entry),
          ¬ entry.happening.Paces id := by rintro _ ⟨⟩
      exact ⟨[], told,
        unopened.append told silent (unopened.tasks_of_course course other),
        silent⟩
    · exact absurd attends other
  · exact unopened.ofCourse course serves

/-- A session that waits for its task goes on waiting until that opens it. -/
theorem attended
    {task : TaskId} (unopened : Unopened before id) (attended : Attended before)
    (later : Attended after) (seated : Seated before task id)
    (isTask : before.task task = .attend id .arriving)
    (turnover : Turnover outsider before after) :
    ∃ news, after.chronicle = news ++ before.chronicle ∧
      ((Unopened after id ∧ ∀ entry ∈ news, ¬ entry.happening.Paces id) ∨
        ∃ task, Opens task id before after news) := by
  obtain ⟨news, passage, turn⟩ :=
    SessionTurn.ofTurnover attended seated turnover
  have waits : after.task task = .attend id .arriving →
      (∀ entry ∈ news, ¬ entry.happening.Paces id) →
      Unopened after id ∧ ∀ entry ∈ news, ¬ entry.happening.Paces id := by
    intro isLater quiet
    refine ⟨unopened.append passage.chronicle quiet fun number serves =>
      ?_, quiet⟩
    have own : (after.task task).serves? = some id := by
      rw [isLater]
      rfl
    rw [later.sole serves own]
    exact .inr isLater
  refine ⟨news, passage.chronicle, ?_⟩
  cases turn with
  | aside now quiet sameTask => exact .inl (waits (sameTask.trans isTask) quiet)
  | ticks still silent forward whole passes tasks =>
      subst silent
      refine .inl (waits ?_ (by rintro _ ⟨⟩))
      rw [Hub.task, tasks]
      exact isTask
  | ended now quiet wasOver =>
      exact absurd wasOver (Hub.not_isOver_of_arriving isTask)
  | arrives now wasTask isReading awake told socket deadline =>
      refine .inr ⟨task, now, wasTask, ?_, isReading, awake, told, deadline⟩
      exact
        { inside := Nat.lt_of_lt_of_le seated.inside passage.peers_le
          below := Nat.lt_of_lt_of_le seated.below passage.tasks_le
          attendant := passage.attendant.trans seated.attendant
          isTask := .inl ⟨_, isReading⟩ }
  | reads now wasTask => cases isTask.symm.trans wasTask

/-- What a turn is for a session that has not been opened. -/
theorem turn
    (unopened : Unopened before id) (housed : Housed before)
    (attends : Attended before)
    (turnover : Turnover (manner.outsider before.peers.size) before after) :
    ∃ news, after.chronicle = news ++ before.chronicle ∧
      ((Unopened after id ∧ ∀ entry ∈ news, ¬ entry.happening.Paces id) ∨
        ∃ task, Opens task id before after news) := by
  by_cases arriving : ∃ task, before.task task = .attend id .arriving
  · obtain ⟨task, isTask⟩ := arriving
    exact unopened.attended attends (attends.turn housed turnover)
      (attends.seated housed isTask) isTask turnover
  · have silent : ∀ entry ∈ ([] : List Entry),
      ¬ entry.happening.Paces id := by rintro _ ⟨⟩
    cases turnover with
    | outside outside =>
        obtain ⟨news, isNews, -⟩ := outside.news
        have quiet := quiet_of_outside isNews id
        refine ⟨news, isNews.chronicle,
          .inl ⟨unopened.append isNews.chronicle quiet ?_, quiet⟩⟩
        intro number serves
        by_cases below : number < before.tasks.size
        · rw [outside.task number below] at serves ⊢
          exact unopened.tasks number serves
        · by_cases inside : number < after.tasks.size
          · rw [Task.serves?_of_starts
              (outside.newTask number (Nat.not_lt.mp below) inside).1] at serves
            cases serves
          · rw [Hub.task_of_size_le after number
              (Nat.not_lt.mp inside)] at serves
            cases serves
    | register added =>
        exact ⟨[], rfl,
          .inl ⟨unopened.append rfl silent unopened.tasks, silent⟩⟩
    | @serve socket task added opened serves =>
        refine ⟨[], rfl, .inl ⟨unopened.append rfl silent fun number isServer =>
          ?_, silent⟩⟩
        rw [Hub.task_spawn] at isServer ⊢
        split at isServer
        · rename_i isNew
          rw [if_pos isNew]
          rcases serves with rfl | rfl
          · exact .inr (by rw [Option.some.inj isServer])
          · exact .inl (by rw [Option.some.inj isServer])
        · rename_i notNew
          rw [if_neg notNew]
          exact unopened.tasks number isServer
    | @go task isReady =>
        obtain ⟨news, chronicle, waits⟩ :=
          unopened.goOn (fun isTask => arriving ⟨task, isTask⟩)
        exact ⟨news, chronicle, .inl waits⟩
    | @tick later stands forward whole passes =>
        obtain ⟨ready, same, -⟩ := Hub.ring_eq { before with now := later }
        rw [same]
        exact ⟨[], rfl,
          .inl ⟨unopened.append rfl silent unopened.tasks, silent⟩⟩

end Unopened

end BroadcastHub.Server
