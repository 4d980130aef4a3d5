import BroadcastHub.Proofs.Server.Accounts
import BroadcastHub.Proofs.Server.Sessions
import BroadcastHub.Proofs.Server.Uncounted
import BroadcastHub.Scenario.Play

/-!
# What is done to a hub from outside

Clients, their pipes and those who call the operations of a server leave its
tasks and its turns alone.  What they write stands behind what has been
written before, what they read is no longer in the pipe but still counts as
written to them, and they wake the task that waits for what they have done.
-/

namespace BroadcastHub.Server

/-- A client reads some of the octets in its pipe. -/
def Link.clientSips (count : Nat) (link : Link) : Link :=
  { link with
    received := link.outbound.content.take count :: link.received
    outbound :=
      { link.outbound with content := link.outbound.content.drop count } }

/-- Lets a client read some of the octets in its pipe; wakes the task that
waits for room. -/
def Hub.letSip (hub : Hub) (id : PeerId) (count : Nat) : Hub :=
  match (hub.peer id).turn.holder with
  | some task => (hub.updateLink id (Link.clientSips count)).wake task
  | none => hub.updateLink id (Link.clientSips count)

theorem Happening.eq_of_reaches
    {happening : Happening} {id other : PeerId} (reaches : happening.Reaches id)
    (reachesOther : happening.Reaches other) : other = id := by
  cases happening with
  | fed peer octets => exact reachesOther.symm.trans reaches
  | arrived peer item => exact reachesOther.symm.trans reaches
  | _ => cases reaches

theorem Happening.note_of_reaches
    {happening : Happening} {id : PeerId} (reaches : happening.Reaches id)
    (tally : Tally) : tally.note happening = tally := by
  cases happening with
  | fed peer octets => rfl
  | arrived peer item => rfl
  | _ => cases reaches

theorem Hub.wakeReader_eq (hub : Hub) (id : PeerId) :
    ∃ ready, Scenario.Play.wakeReader hub id = { hub with ready } ∧
      (∀ task ∈ hub.ready, task ∈ ready) ∧
      ∀ task, (hub.peer id).attendant = some task →
        Scenario.Play.isReader (hub.task task) = true → task ∈ ready := by
  unfold Scenario.Play.wakeReader
  split
  · rename_i reader attends
    rw [attends]
    split
    · obtain ⟨ready, same, mem_ready⟩ := wake_eq hub reader
      refine ⟨ready, same, fun task member =>
        (mem_ready task).mpr (.inl member), ?_⟩
      rintro _ ⟨⟩ -
      exact (mem_ready reader).mpr (.inr rfl)
    · rename_i idle
      refine ⟨hub.ready, rfl, fun _ member => member, ?_⟩
      rintro _ ⟨⟩ reads
      exact absurd reads idle
  · rename_i none
    rw [none]
    exact ⟨hub.ready, rfl, fun _ member => member, by rintro _ ⟨⟩⟩

end BroadcastHub.Server

namespace BroadcastHub.Scenario

open Server

/-- Those who act on a hub from outside: the peers whose clients may write, the
tasks that they may start, those with which they may let a new peer be served,
the sockets that they may bring, whether they set read deadlines to windows of
their own, whether they take the slots of heartbeat replies, whether they
call for broadcasts, and whether tasks go on in their order meanwhile. -/
structure Outsider where
  feeds : PeerId → Prop
  starts : Task → Prop
  opens : Task → Prop
  adds : Socket → Prop
  setsDeadlines : Prop
  takesPongs : Prop
  announces : Prop
  inOrder : Prop

def Outsider.Brings (outsider : Outsider) : Happening → Prop
  | .fed peer _ => outsider.feeds peer
  | .arrived peer _ => outsider.feeds peer
  | .broadcast _ _ _ _ => outsider.announces
  | _ => False

/-- Something arrives, and nothing else happens. -/
theorem Outsider.news_of_arrival
    {outsider : Outsider} {before after : Hub} {happening : Happening}
    {id : PeerId} (reaches : happening.Reaches id) (feeds : outsider.feeds id)
    (chronicle : after.chronicle =
      [⟨before.now, happening⟩] ++ before.chronicle)
    (tasks : after.tasks.size = before.tasks.size) :
    News outsider.Brings before after [⟨before.now, happening⟩] where
  chronicle := chronicle
  time entry member := by rw [List.mem_singleton.mp member]
  brought entry member := by
    rw [List.mem_singleton.mp member]
    cases happening with
    | fed peer octets => exact reaches ▸ feeds
    | arrived peer item => exact reaches ▸ feeds
    | _ => cases reaches
  launched entry member first recipients frame limit isBroadcast := by
    rw [List.mem_singleton.mp member] at isBroadcast
    change happening = _ at isBroadcast
    rw [isBroadcast] at reaches
    cases reaches
  announced task peer frame limit stage above below := by
    rw [tasks] at below
    exact absurd below (Nat.not_lt.mpr above)
  inTurn := inTurn_singleton _ _

/-- What outsiders leave of a peer whose client has written some octets, or for
whom some items have arrived. -/
structure PeerOutside
    (outsider : Outsider) (octets : Octets) (items : List (Except Fault Frame))
    (before after : Peer) : Prop where
  turn : after.turn = before.turn
  attendant : after.attendant = before.attendant
  closed : before.closed = true → after.closed = true
  ponging : ¬ outsider.takesPongs → after.ponging = before.ponging
  joins : after.registered = true → before.registered = true
  isLink : after.socket.desk?.isSome = before.socket.desk?.isSome
  desk : ∀ desk, before.socket.desk? = some desk →
    ∃ later, after.socket.desk? = some later ∧
      later.encoded = desk.encoded ∧ later.accepted = desk.accepted ∧
      later.written = desk.written
  sent : after.socket.sent? = before.socket.sent?
  intake : ∀ intake, before.socket.intake? = some intake →
    ∃ inbound, after.socket.intake? = some { intake with inbound } ∧
      inbound.content = intake.inbound.content ++ octets
  inbox : ∀ inbox, before.socket.inbox? = some inbox →
    after.socket.inbox? = some (inbox ++ items)
  deadline : ¬ outsider.setsDeadlines → after.readDeadline = before.readDeadline

/-- What outsiders leave of a hub. -/
structure Outside (outsider : Outsider) (before after : Hub) : Prop where
  now : after.now = before.now
  configuration : after.configuration = before.configuration
  peers : after.peers.size = before.peers.size
  tasks_le : before.tasks.size ≤ after.tasks.size
  task : ∀ id < before.tasks.size, after.task id = before.task id
  newTask : ∀ id, before.tasks.size ≤ id → id < after.tasks.size →
    outsider.starts (after.task id) ∧ id ∈ after.ready
  ready : ∀ id ∈ before.ready, id ∈ after.ready
  closes : ∀ id number, (before.peer id).closed = false →
    (after.peer id).closed = true →
    Hub.awaitsClose id (after.task number) = true → number ∈ after.ready
  news : ∃ news, News outsider.Brings before after news ∧
    (∀ id, PeerOutside outsider (fed id news) (arrived id news)
      (before.peer id) (after.peer id)) ∧
    ∀ id task, Reached id news → (after.peer id).attendant = some task →
      Play.isReader (after.task task) = true → task ∈ after.ready
  queued : Grounded before → Queued none before after
  refusing : Refusing before after

namespace PeerOutside

variable {outsider : Outsider} {some_ more : Octets}
  {items others : List (Except Fault Frame)} {first second third : Peer}

theorem refl (outsider : Outsider) (peer : Peer) :
    PeerOutside outsider [] [] peer peer where
  turn := rfl
  attendant := rfl
  closed same := same
  ponging _ := rfl
  joins same := same
  isLink := rfl
  desk desk same := ⟨desk, same, rfl, rfl, rfl⟩
  sent := rfl
  intake intake same := ⟨intake.inbound, same, (List.append_nil _).symm⟩
  inbox inbox same := by rw [List.append_nil, same]
  deadline _ := rfl

theorem trans (one : PeerOutside outsider some_ items first second)
    (two : PeerOutside outsider more others second third) :
    PeerOutside outsider (some_ ++ more) (items ++ others) first third where
  turn := two.turn.trans one.turn
  attendant := two.attendant.trans one.attendant
  closed same := two.closed (one.closed same)
  ponging never := (two.ponging never).trans (one.ponging never)
  joins same := one.joins (two.joins same)
  isLink := two.isLink.trans one.isLink
  desk desk same := by
    obtain ⟨later, sameLater, encoded, accepted, written⟩ := one.desk desk same
    obtain ⟨last, sameLast, encodedLast, acceptedLast, writtenLast⟩ :=
      two.desk later sameLater
    exact ⟨last, sameLast, encodedLast.trans encoded,
      acceptedLast.trans accepted, writtenLast.trans written⟩
  sent := two.sent.trans one.sent
  intake intake same := by
    obtain ⟨inbound, sameLater, content⟩ := one.intake intake same
    obtain ⟨last, sameLast, contentLast⟩ := two.intake _ sameLater
    refine ⟨last, sameLast, ?_⟩
    rw [contentLast, content, List.append_assoc]
  inbox inbox same := by
    rw [two.inbox _ (one.inbox inbox same), List.append_assoc]
  deadline fixed := (two.deadline fixed).trans (one.deadline fixed)

/-- What a doer leaves of a peer that it neither serves nor writes to. -/
theorem ofCourse
    {doer : Doer} {now : Instant} {window : Span} {id : PeerId}
    {before after : Peer} (serves : doer.serves = none)
    (writes : doer.writes = none) (answers : doer.answers = none)
    (renews : ¬ doer.renews id) (joins : ¬ doer.joins id)
    (course : PeerCourse doer now window id before after) :
    PeerOutside outsider [] [] before after where
  turn := course.turn (by simp [writes])
  attendant := course.attendant (by simp [serves])
  closed := course.closed
  ponging _ := course.ponging (by simp [answers])
  joins same := (course.joins same).resolve_right joins
  isLink := course.isLink
  desk desk same :=
    ⟨desk, (course.desk (by simp [writes])).trans same, rfl, rfl, rfl⟩
  sent := course.sent (by simp [writes])
  intake intake same :=
    ⟨intake.inbound, (course.intake (by simp [serves])).trans same,
      (List.append_nil _).symm⟩
  inbox inbox same := by
    rw [course.inbox (by simp [serves]), same, List.append_nil]
  deadline _ :=
    (course.deadline (by simp [serves])).resolve_right fun renewed =>
      renews renewed.1

end PeerOutside

namespace Outside

variable {outsider : Outsider} {first second third before after : Hub}

theorem trans
    (one : Outside outsider first second)
    (two : Outside outsider second third) : Outside outsider first third := by
  obtain ⟨older, old, oldPeer, oldReader⟩ := one.news
  obtain ⟨newer, new, newPeer, newReader⟩ := two.news
  refine
    { now := two.now.trans one.now
      configuration := two.configuration.trans one.configuration
      peers := two.peers.trans one.peers
      tasks_le := Nat.le_trans one.tasks_le two.tasks_le
      task := fun id below => ?_
      newTask := fun id above below => ?_
      ready := fun id member => two.ready id (one.ready id member)
      closes := fun id number wasOpen isClosed awaits => ?_
      news :=
    ⟨newer ++ older, ?_, fun id => ?_, fun id task wrote same reads => ?_⟩
      queued := fun grounded =>
        (one.queued grounded).trans (two.queued (one.queued grounded).grounded)
          one.tasks_le fun id above below => (one.newTask id above below).2
      refusing := one.refusing.trans two.refusing }
  · rw [two.task id (Nat.lt_of_lt_of_le below one.tasks_le), one.task id below]
  · by_cases early : id < second.tasks.size
    · obtain ⟨started, awake⟩ := one.newTask id above early
      rw [two.task id early]
      exact ⟨started, two.ready id awake⟩
    · exact two.newTask id (Nat.not_lt.mp early) below
  · cases halfway : (second.peer id).closed with
    | false => exact two.closes id number halfway isClosed awaits
    | true =>
        by_cases early : number < second.tasks.size
        · rw [two.task number early] at awaits
          exact two.ready number (one.closes id number wasOpen halfway awaits)
        · by_cases inside : number < third.tasks.size
          · exact (two.newTask number (Nat.not_lt.mp early) inside).2
          · rw [Hub.task_of_size_le third number
              (Nat.not_lt.mp inside)] at awaits
            cases awaits
  · exact old.trans new one.now two.peers one.tasks_le two.tasks_le
      fun id _ below => two.task id below
  · rw [fed_append, arrived_append]
    exact (oldPeer id).trans (newPeer id)
  · rcases reached_append.mp wrote with late | early
    · exact newReader id task late same reads
    · rw [(newPeer id).attendant] at same
      by_cases below : task < second.tasks.size
      · rw [two.task task below] at reads
        exact two.ready task (oldReader id task early same reads)
      · by_cases inside : task < third.tasks.size
        · exact (two.newTask task (Nat.not_lt.mp below) inside).2
        · rw [Hub.task_of_size_le third task (Nat.not_lt.mp inside)] at reads
          cases reads

/-- Whatever no task does that serves or writes to nobody can be done from
outside. -/
theorem ofCourse
    (course : Course
      { starts := outsider.starts, announces := outsider.announces }
      before after)
    (refusing : Refusing before after) : Outside outsider before after := by
  obtain ⟨news, brought⟩ := course.news
  have silent : ∀ id, ¬ Reached id news := by
    rintro id ⟨entry, member, reaches⟩
    have brings := brought.brought entry member
    cases same : entry.happening <;> rw [same] at brings reaches <;>
      first | exact brings.elim | exact reaches.elim
  refine
    { now := course.now
      configuration := course.configuration
      peers := course.peers
      tasks_le := course.tasks_le
      task := fun id below => course.task id below (by rintro ⟨⟩)
      newTask := course.newTask
      ready := fun id member => course.ready id member (by rintro ⟨⟩)
      closes := fun id number wasOpen isClosed =>
        course.closes id number wasOpen isClosed (by rintro ⟨⟩)
      news := ⟨news, brought.mono ?_, fun id => ?_, fun id task wrote => ?_⟩
      queued := course.queued (by rintro _ ⟨⟩)
      refusing }
  · intro happening brings
    cases happening with
    | joined peer => cases brings
    | fed peer octets => cases brings
    | arrived peer item => cases brings
    | took peer item => cases brings
    | broadcast first recipients frame limit => exact brings
    | asked task peer request => cases brings.1
    | answered task peer request result => cases brings.1
    | wrote task peer frame result => cases brings.1
    | left peer exit => cases brings
  · rw [fed_of_not_reached (silent id), arrived_of_not_reached (silent id)]
    exact PeerOutside.ofCourse rfl rfl rfl (fun never => never)
      (fun never => never) (course.peer id)
  · exact absurd wrote (silent id)

theorem refl (outsider : Outsider) (hub : Hub) : Outside outsider hub hub :=
  ofCourse (Course.refl _ hub) (Uncounted.refl hub).refusing

/-- Steps that change nothing that outsiders leave alone. -/
theorem ofSame
    (now : after.now = before.now)
    (configuration : after.configuration = before.configuration)
    (peers : after.peers = before.peers) (tasks : after.tasks = before.tasks)
    (chronicle : after.chronicle = before.chronicle)
    (ready : after.ready = before.ready)
    (watches : after.watches = before.watches)
    (counters : after.counters = before.counters) :
    Outside outsider before after where
  now := now
  configuration := configuration
  peers := by rw [peers]
  tasks_le := Nat.le_of_eq (by rw [tasks])
  task id _ := by rw [Hub.task, tasks]; rfl
  newTask id above below := by
    rw [tasks] at below
    exact absurd below (Nat.not_lt.mpr above)
  ready id member := by rw [ready]; exact member
  closes id number wasOpen isClosed := by
    have same : after.peer id = before.peer id := by rw [Hub.peer, peers]; rfl
    rw [same] at isClosed
    exact absurd (wasOpen.symm.trans isClosed) Bool.false_ne_true
  news := by
    refine ⟨[], .silent chronicle (by rw [tasks]), fun id => ?_,
      fun id _ wrote => absurd wrote (not_reached_nil id)⟩
    have same : after.peer id = before.peer id := by rw [Hub.peer, peers]; rfl
    rw [same]
    exact PeerOutside.refl _ _
  queued grounded := by
    refine .ofSame
      (grounded.keepReady peers tasks (fun _ member => watches ▸ member) ?_) ?_
    · rw [ready, tasks]
      exact grounded.ready
    · rw [Hub.readyBut, ready]
      rfl
  refusing := (Uncounted.ofSame counters chronicle).refusing

/-- Changes of a single peer that do not close it. -/
theorem ofPeer (hub : Hub) {id : PeerId} {change : Peer → Peer}
    (peer : PeerOutside outsider [] [] (hub.peer id) (change (hub.peer id)))
    (closed : (change (hub.peer id)).closed = (hub.peer id).closed) :
    Outside outsider hub (hub.updatePeer id change) := by
  refine
    { now := rfl
      configuration := rfl
      peers := Hub.size_peers_updatePeer hub id change
      tasks_le := Nat.le_refl _
      task := fun _ _ => rfl
      newTask := fun id above below => absurd below (Nat.not_lt.mpr above)
      ready := fun _ member => member
      closes := fun other number wasOpen isClosed => ?_
      news := ⟨[], .silent rfl rfl, fun other => ?_,
        fun id _ wrote => absurd wrote (not_reached_nil id)⟩
      queued := fun grounded => .updatePeer (grounded.updatePeer ?_ ?_)
      refusing := (Uncounted.updatePeer hub id change).refusing }
  · rw [Hub.closed_updatePeer hub id other closed] at isClosed
    exact absurd (wasOpen.symm.trans isClosed) Bool.false_ne_true
  · rw [Hub.peer_updatePeer]
    split
    · rename_i both
      rw [← both.1]
      exact peer
    · exact PeerOutside.refl _ _
  · rw [peer.turn]
    exact grounded.holder id
  · rw [peer.turn]
    exact grounded.waiting id

/-- Changes of a link from the client's side that read or close pipes. -/
theorem updateLink (hub : Hub) {id : PeerId} {change : Link → Link}
    (desk : ∀ link, (change link).desk.encoded = link.desk.encoded ∧
      (change link).desk.accepted = link.desk.accepted ∧
      (change link).desk.written = link.desk.written)
    (intake : ∀ link, (change link).unread = link.unread ∧
      (change link).decoder = link.decoder ∧
      (change link).inbound.content = link.inbound.content) :
    Outside outsider hub (hub.updateLink id change) := by
  refine ofPeer hub ?_ (by split <;> rfl)
  cases same : (hub.peer id).socket with
  | scripted socket => exact PeerOutside.refl _ _
  | link link =>
      refine
        { PeerOutside.refl outsider (hub.peer id) with
          isLink := by rw [same]; rfl
          desk := ?_
          sent := by rw [same]; rfl
          intake := ?_
          inbox := by rw [same]; rintro _ ⟨⟩ }
      · intro found atDesk
        rw [same] at atDesk
        cases atDesk
        exact ⟨(change link).desk, rfl, desk link⟩
      · intro found atIntake
        rw [same] at atIntake
        cases atIntake
        obtain ⟨unread, decoder, content⟩ := intake link
        refine ⟨(change link).inbound, ?_, ?_⟩
        · simp only [Socket.intake?, Link.intake, unread, decoder]
        · rw [content, List.append_nil]
          rfl

theorem wake
    (hub : Hub) {number : TaskId}
    (there : Grounded hub → number < hub.tasks.size) :
    Outside outsider hub (hub.wake number) :=
  ofCourse (Course.wakeAll hub [number]
    (fun grounded _ member => List.mem_singleton.mp member ▸ there grounded)
    fun _ _ stays => absurd rfl stays.isRunning)
    (Uncounted.wakeAll hub [number]).refusing

theorem wakeReader (hub : Hub) (id : PeerId) :
    Outside outsider hub (Play.wakeReader hub id) := by
  unfold Play.wakeReader
  split
  · rename_i task attends
    split
    · rename_i reads
      refine wake hub fun _ => hub.lt_size_of_task task fun idle => ?_
      rw [idle] at reads
      cases reads
    · exact refl outsider hub
  · exact refl outsider hub

theorem wakeWriter (hub : Hub) (id : PeerId) :
    Outside outsider hub (Play.wakeWriter hub id) := by
  unfold Play.wakeWriter
  split
  · rename_i task holds
    exact wake hub fun grounded => grounded.holder id task holds
  · exact refl outsider hub

theorem updateScripted
    (hub : Hub) (id : PeerId) {change : ScriptedSocket → ScriptedSocket}
    (inbox : ∀ socket, (change socket).inbox = socket.inbox)
    (sent : ∀ socket, (change socket).sent = socket.sent) :
    Outside outsider hub (Play.updateScripted hub id change) := by
  refine ofPeer hub ?_ (by split <;> rfl)
  cases same : (hub.peer id).socket with
  | link link => exact PeerOutside.refl _ _
  | scripted socket =>
      exact
        { PeerOutside.refl outsider (hub.peer id) with
          isLink := by rw [same]; rfl
          desk := by rw [same]; rintro _ ⟨⟩
          sent := by rw [same]; exact congrArg some (sent socket)
          intake := by rw [same]; rintro _ ⟨⟩
          inbox := by
            rw [same]
            rintro _ ⟨⟩
            rw [List.append_nil]
            exact congrArg some (inbox socket) }

theorem fold
    {α : Type} {step : Hub → α → Hub}
    (outside : ∀ hub item, Outside outsider hub (step hub item))
    (items : List α) (hub : Hub) :
    Outside outsider hub (items.foldl step hub) := by
  induction items generalizing hub with
  | nil => exact refl outsider hub
  | cons first rest induction => exact (outside hub first).trans (induction _)

/-! ### Clients -/

theorem letRead (hub : Hub) (id : PeerId) :
    Outside outsider hub (hub.letRead id) := by
  have read : Outside outsider hub (hub.updateLink id Link.clientReads) := by
    apply updateLink
    · intro link
      unfold Link.clientReads
      split
      · refine ⟨rfl, rfl, ?_⟩
        by_cases none : link.outbound.content = []
        · simp [Desk.written, Link.desk, Pipe.clear, none]
        · simp [Desk.written, Link.desk, Pipe.clear, none]
      · exact ⟨rfl, rfl, rfl⟩
    · intro link
      unfold Link.clientReads
      split <;> exact ⟨rfl, rfl, rfl⟩
  unfold Hub.letRead
  split
  · exact refl outsider hub
  · simp only
    split
    · split
      · rename_i task holds
        exact read.trans (wake _ fun grounded => grounded.holder id task holds)
      · exact read
    · exact read

theorem letSip (hub : Hub) (id : PeerId) (count : Nat) :
    Outside outsider hub (hub.letSip id count) := by
  have read :
      Outside outsider hub (hub.updateLink id (Link.clientSips count)) := by
    apply updateLink
    · intro link
      refine ⟨rfl, rfl, ?_⟩
      simp [Desk.written, Link.desk, Link.clientSips]
    · intro link
      exact ⟨rfl, rfl, rfl⟩
  unfold Hub.letSip
  split
  · rename_i task holds
    have turn : ((hub.updateLink id (Link.clientSips count)).peer id).turn =
        (hub.peer id).turn :=
      Hub.peer_updatePeer_keeps hub id id fun peer => by split <;> rfl
    exact read.trans (wake _ fun grounded =>
      grounded.holder id task (turn ▸ holds))
  · exact read

theorem dropUnused (hub : Hub) (id : PeerId) :
    Outside outsider hub (hub.dropUnused id) := by
  unfold Hub.dropUnused
  split
  · exact refl outsider hub
  · split
    · exact refl outsider hub
    · exact updateLink hub (fun _ => ⟨rfl, rfl, rfl⟩) fun _ => ⟨rfl, rfl, rfl⟩

/-- Something arrives for a peer, and the task that reads is awake. -/
theorem arrival
    (hub : Hub) {id : PeerId} (happening : Happening) {change : Peer → Peer}
    (inside : id < hub.peers.size) (reaches : happening.Reaches id)
    (feeds : outsider.feeds id)
    (peer : PeerOutside outsider (happening.fedBy id) (happening.arrivedAt id)
      (hub.peer id) (change (hub.peer id)))
    (closed : (change (hub.peer id)).closed = (hub.peer id).closed) :
    Outside outsider hub
      (Play.wakeReader ((hub.note happening).updatePeer id change) id) := by
  let later := (hub.note happening).updatePeer id change
  have self : later.peer id = change (hub.peer id) :=
    Hub.peer_updatePeer_self (hub.note happening) id change inside
  have others : ∀ other, id ≠ other → later.peer other = hub.peer other :=
    fun other different => Hub.peer_updatePeer_of_ne (hub.note happening) id
      other change different
  obtain ⟨ready, same, kept, woken⟩ := Hub.wakeReader_eq later id
  have queued : Grounded hub → Queued none hub (Play.wakeReader later id) := by
    intro grounded
    have turn : (change (hub.peer id)).turn = (hub.peer id).turn := peer.turn
    have noted : Grounded (hub.note happening) :=
      grounded.keepReady rfl rfl (fun _ member => member) grounded.ready
    have still : Grounded later :=
      noted.updatePeer (turn ▸ grounded.holder id) (turn ▸ grounded.waiting id)
    have arrived : Queued none hub later := .ofSame still rfl
    have woken : Outside outsider later (Play.wakeReader later id) :=
      wakeReader later id
    exact arrived.trans (woken.queued still) (Nat.le_refl _)
      fun _ above below => absurd below (Nat.not_lt.mpr above)
  rw [same] at queued ⊢
  refine
    { now := rfl
      configuration := rfl
      peers := Hub.size_peers_updatePeer (hub.note _) id _
      tasks_le := Nat.le_refl _
      task := fun _ _ => rfl
      newTask := fun id above below => absurd below (Nat.not_lt.mpr above)
      ready := kept
      closes := fun other number wasOpen isClosed => ?_
      news :=
    ⟨_, Outsider.news_of_arrival reaches feeds rfl rfl, fun other => ?_,
        fun other task reached attends reads => ?_⟩
      queued
      refusing := ?_ }
  · change (later.peer other).closed = true at isClosed
    rw [Hub.closed_updatePeer (hub.note happening) id other closed] at isClosed
    exact absurd (wasOpen.symm.trans isClosed) Bool.false_ne_true
  · show PeerOutside outsider _ _ (hub.peer other) (later.peer other)
    by_cases different : id = other
    · subst different
      rw [self, fed_cons, arrived_cons]
      exact peer
    · have quiet : ¬ Reached other [⟨hub.now, happening⟩] := by
        rintro ⟨entry, member, reachesOther⟩
        rw [List.mem_singleton.mp member] at reachesOther
        exact different (Happening.eq_of_reaches reaches reachesOther).symm
      rw [others other different, fed_of_not_reached quiet,
        arrived_of_not_reached quiet]
      exact PeerOutside.refl _ _
  · obtain ⟨entry, member, reachesOther⟩ := reached
    rw [List.mem_singleton.mp member] at reachesOther
    obtain rfl := Happening.eq_of_reaches reaches reachesOther
    exact woken task attends reads
  · have noted :=
      Uncounted.note hub (Happening.note_of_reaches reaches hub.tally)
    exact Uncounted.refusing ⟨noted.counters, noted.tally⟩

/-- What a client writes stands behind what is there. -/
theorem clientWrites (hub : Hub) {id : PeerId} {link : Link} {octets : Octets}
    (feeds : outsider.feeds id) (connected : (hub.peer id).socket = .link link)
    (fits : octets.length ≤ link.inbound.room) :
    Outside outsider hub (Play.clientWrites hub id octets) := by
  have whole : octets.take link.inbound.room = octets :=
    List.take_of_length_le fits
  refine arrival hub (.fed id octets) (Hub.lt_size_of_link hub id connected) rfl
    feeds ?_ (by split <;> rfl)
  simp only [connected, Happening.fedBy, if_true]
  exact
    { PeerOutside.refl outsider (hub.peer id) with
      isLink := by rw [connected]; rfl
      desk := by
        rw [connected]
        rintro _ ⟨⟩
        exact ⟨_, rfl, rfl, rfl, rfl⟩
      sent := by rw [connected]; rfl
      intake := by
        rw [connected]
        rintro _ ⟨⟩
        refine ⟨_, rfl, ?_⟩
        simp only [Link.clientWrites, Pipe.write, Link.intake, whole]
      inbox := by
        rw [connected]
        rintro _ ⟨⟩ }

/-- An item that arrives stands behind those that are there. -/
theorem itemArrives
    (hub : Hub) {id : PeerId} {socket : ScriptedSocket}
    {item : Except Fault Frame} (inside : id < hub.peers.size)
    (feeds : outsider.feeds id)
    (isScripted : (hub.peer id).socket = .scripted socket) :
    Outside outsider hub (Play.itemArrives hub id item) := by
  refine arrival hub (.arrived id item) inside rfl feeds ?_ (by split <;> rfl)
  simp only [isScripted, Happening.arrivedAt, if_true]
  exact
    { PeerOutside.refl outsider (hub.peer id) with
      isLink := by rw [isScripted]; rfl
      desk := by
        rw [isScripted]
        rintro _ ⟨⟩
      sent := by rw [isScripted]; rfl
      intake := by
        rw [isScripted]
        rintro _ ⟨⟩
      inbox := by
        rw [isScripted]
        rintro _ ⟨⟩
        rfl }

end Outside

end BroadcastHub.Scenario
