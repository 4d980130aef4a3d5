import BroadcastHub.Proofs.Server.Accounts
import BroadcastHub.Proofs.Server.Fences
import BroadcastHub.Proofs.Server.Queues

/-!
# What the doings of one task leave alone

A task that goes on changes its own entry, the session that it serves and
the socket to which it writes.  `Course` says that everything else stays:
other tasks keep their stages and stay ready, other sessions keep what has
arrived for them and what is on its way out, and the chronicle only grows,
by entries that belong to the doer.

Courses of the same doer compose, so a course is proved for each elementary
step and put together along the definitions.
-/

namespace BroadcastHub.Server

/-- What of a socket concerns its outward direction. -/
structure Desk where
  outbound : Pipe
  encoded : Octets
  accepted : Option Frame
  received : List Octets

/-- What has left the server. -/
def Desk.written (desk : Desk) : Octets :=
  desk.received.reverse.flatten ++ desk.outbound.content

/-- What of a socket concerns its inward direction. -/
structure Intake where
  inbound : Pipe
  decoder : Wire.Decoder
  unread : Octets

namespace Link

def desk (link : Link) : Desk :=
  ⟨link.outbound, link.encoded, link.accepted, link.received⟩

def intake (link : Link) : Intake := ⟨link.inbound, link.decoder, link.unread⟩

end Link

namespace Socket

/-- The outward direction of a link. -/
def desk? : Socket → Option Desk
  | .scripted _ => none
  | .link connection => some connection.desk

/-- The inward direction of a link. -/
def intake? : Socket → Option Intake
  | .scripted _ => none
  | .link connection => some connection.intake

/-- What has arrived at a scripted socket and has not been taken. -/
def inbox? : Socket → Option (List (Except Fault Frame))
  | .scripted socket => some socket.inbox
  | .link _ => none

/-- The frames that have been written to a scripted socket. -/
def sent? : Socket → Option (List Frame)
  | .scripted socket => some socket.sent
  | .link _ => none

end Socket

/-- Who does something to a hub: a task or somebody outside, the session that is
served by it, the peer to which it writes, the session whose heartbeat request
it answers, the tasks that it may start, what its own task may become unless it
is finished, whether it may announce a broadcast, the other sessions whose read
deadlines it moves, and the sessions that it registers. -/
structure Doer where
  task : Option TaskId := none
  serves : Option PeerId := none
  writes : Option PeerId := none
  answers : Option PeerId := none
  starts : Task → Prop
  becomes : Task → Prop := fun _ => False
  announces : Prop := False
  renews : PeerId → Prop := fun _ => False
  joins : PeerId → Prop := fun _ => False

namespace Doer

/-- Whether something may happen by a doer's doings. -/
def Brings (doer : Doer) : Happening → Prop
  | .joined peer => doer.serves = some peer
  | .fed _ _ => False
  | .arrived _ _ => False
  | .took peer _ => doer.serves = some peer
  | .broadcast _ _ _ _ => doer.announces
  | .asked task peer _ => doer.task = some task ∧ doer.writes = some peer
  | .answered task peer _ _ => doer.task = some task ∧ doer.writes = some peer
  | .wrote task peer _ _ => doer.task = some task ∧ doer.writes = some peer
  | .left peer _ => doer.serves = some peer

/-- A running task is one of the tasks that are there. -/
def Inside (doer : Doer) (hub : Hub) : Prop :=
  ∀ id, doer.task = some id → id < hub.tasks.size

/-- The peers that a doer may change.  From outside all of them may be
changed. -/
def Reaches (doer : Doer) (id : PeerId) : Prop :=
  doer.task = none ∨ doer.writes = some id ∨ doer.serves = some id ∨
    doer.answers = some id ∨
    doer.renews id

/-- A running task stays on the side of one session, but for the broadcasts that
it announces. -/
structure StaysWithin
    (doer : Doer) (id : PeerId) (others : List TaskId) : Prop where
  task : ∃ number, doer.task = some number ∧ number ∉ others
  reaches : ∀ peer, doer.Reaches peer → peer = id
  starts : ∀ task, doer.starts task →
    task.isWithin id = true ∨ ∃ peer frame limit stage,
      task = .deliver peer frame limit stage
  becomes : ∀ task, doer.becomes task → task.isWithin id = true
  opens : ¬ doer.starts (.attend id .arriving)

variable {doer : Doer} {id : PeerId} {others : List TaskId}

namespace Reaches

theorem ofWrites (writes : doer.writes = some id) : doer.Reaches id :=
  .inr (.inl writes)

theorem ofServes (serves : doer.serves = some id) : doer.Reaches id :=
  .inr (.inr (.inl serves))

theorem ofAnswers (answers : doer.answers = some id) : doer.Reaches id :=
  .inr (.inr (.inr (.inl answers)))

theorem ofRenews (renews : doer.renews id) : doer.Reaches id :=
  .inr (.inr (.inr (.inr renews)))

end Reaches

theorem StaysWithin.elsewhere
    (stays : doer.StaysWithin id others) {number : TaskId}
    (running : doer.task = some number) : number ∉ others := by
  obtain ⟨other, same, elsewhere⟩ := stays.task
  cases running.symm.trans same
  exact elsewhere

theorem StaysWithin.isRunning (stays : doer.StaysWithin id others) :
    doer.task ≠ none := by
  obtain ⟨number, same, -⟩ := stays.task
  rw [same]
  rintro ⟨⟩

end Doer

/-- What a doer leaves of a peer. -/
structure PeerCourse (doer : Doer) (now : Instant) (window : Span) (id : PeerId)
    (before after : Peer) : Prop where
  turn : doer.writes ≠ some id → after.turn = before.turn
  desk : doer.writes ≠ some id → after.socket.desk? = before.socket.desk?
  sent : doer.writes ≠ some id → after.socket.sent? = before.socket.sent?
  intake : doer.serves ≠ some id → after.socket.intake? = before.socket.intake?
  inbox : doer.serves ≠ some id → after.socket.inbox? = before.socket.inbox?
  attendant : (doer.serves = some id → ¬ doer.starts (.attend id .arriving)) →
    after.attendant = before.attendant
  registered : doer.serves ≠ some id → after.registered = before.registered
  ponging : doer.answers ≠ some id → after.ponging = before.ponging
  joins : after.registered = true → before.registered = true ∨ doer.joins id
  isLink : after.socket.desk?.isSome = before.socket.desk?.isSome
  closed : before.closed = true → after.closed = true
  deadline : doer.serves ≠ some id →
    after.readDeadline = before.readDeadline ∨
      (doer.renews id ∧ after.readDeadline = now.after window)

/-- The deliveries of a broadcast are there and have not been started. -/
structure Launched (hub : Hub) (first : Nat) (recipients : List PeerId)
    (frame : Frame) (limit : Span) : Prop where
  distinct : recipients.Nodup
  inside : ∀ id ∈ recipients, id < hub.peers.size
  last_le : first + recipients.length ≤ hub.tasks.size
  delivery : ∀ position (below : position < recipients.length),
    hub.task (first + position) =
      .deliver recipients[position] frame limit .unstarted

/-- An entry of a broadcast that has a task among its deliveries. -/
def Entry.Delivers (entry : Entry) (task : TaskId) (peer : PeerId)
    (frame : Frame) (limit : Span) : Prop :=
  ∃ first recipients position,
    entry.happening = .broadcast first recipients frame limit ∧
    recipients[position]? = some peer ∧ task = first + position

/-- What is added to the chronicle by somebody who brings some happenings and
no others. -/
structure News
    (brings : Happening → Prop) (before after : Hub) (news : List Entry) :
    Prop where
  chronicle : after.chronicle = news ++ before.chronicle
  time : ∀ entry ∈ news, entry.time = before.now
  brought : ∀ entry ∈ news, brings entry.happening
  launched : ∀ entry ∈ news, ∀ first recipients frame limit,
    entry.happening = .broadcast first recipients frame limit →
      before.tasks.size ≤ first ∧ Launched after first recipients frame limit
  announced : ∀ task peer frame limit stage, before.tasks.size ≤ task →
    task < after.tasks.size →
    after.task task = .deliver peer frame limit stage →
    ∃ entry ∈ news, entry.Delivers task peer frame limit
  inTurn : (fanOuts news).Pairwise FanOut.Precedes

/-- What a doer leaves of a hub. -/
structure Course (doer : Doer) (before after : Hub) : Prop where
  now : after.now = before.now
  configuration : after.configuration = before.configuration
  stopping : after.stopping = before.stopping
  peers : after.peers.size = before.peers.size
  peer : ∀ id, PeerCourse doer before.now before.timing.heartbeat id
    (before.peer id) (after.peer id)
  tasks_le : before.tasks.size ≤ after.tasks.size
  drawn_le : before.drawn ≤ after.drawn
  task : ∀ id < before.tasks.size, doer.task ≠ some id →
    after.task id = before.task id
  own : ∀ id, doer.task = some id → after.task id = before.task id ∨
    (after.task id).isFinished = true ∨ doer.becomes (after.task id)
  newTask : ∀ id, before.tasks.size ≤ id → id < after.tasks.size →
    doer.starts (after.task id) ∧ id ∈ after.ready
  ready : ∀ id ∈ before.ready, doer.task ≠ some id → id ∈ after.ready
  /-- Who waits for a session to be closed is woken when it is. -/
  closes : ∀ id number, (before.peer id).closed = false →
    (after.peer id).closed = true →
    doer.task ≠ some number → Hub.awaitsClose id (after.task number) = true →
    number ∈ after.ready
  /-- Whoever else gets a turn is awake. -/
  turns : ∀ id number, (after.peer id).turn.holder = some number →
    (before.peer id).turn.holder = some number ∨ doer.task = some number ∨
      number ∈ after.ready
  news : ∃ news, News doer.Brings before after news
  queued : doer.Inside before → Grounded before → Queued doer.task before after
  /-- Who stays within a fence and announces nothing has not been on the other
  side. -/
  enclosed : ∀ id others, doer.StaysWithin id others → doer.Inside before →
    after.announcements = before.announcements → Fenced id others before →
      Enclosed id others before after

namespace PeerCourse

variable {doer : Doer} {now : Instant} {window : Span} {id : PeerId}
  {first second third : Peer}

theorem refl
    (doer : Doer) (now : Instant) (window : Span) (id : PeerId) (peer : Peer) :
    PeerCourse doer now window id peer peer where
  turn _ := rfl
  desk _ := rfl
  sent _ := rfl
  intake _ := rfl
  inbox _ := rfl
  attendant _ := rfl
  registered _ := rfl
  ponging _ := rfl
  joins same := .inl same
  isLink := rfl
  closed same := same
  deadline _ := .inl rfl

theorem trans (one : PeerCourse doer now window id first second)
    (two : PeerCourse doer now window id second third) :
    PeerCourse doer now window id first third where
  turn other := (two.turn other).trans (one.turn other)
  desk other := (two.desk other).trans (one.desk other)
  sent other := (two.sent other).trans (one.sent other)
  intake other := (two.intake other).trans (one.intake other)
  inbox other := (two.inbox other).trans (one.inbox other)
  attendant other := (two.attendant other).trans (one.attendant other)
  registered other := (two.registered other).trans (one.registered other)
  ponging other := (two.ponging other).trans (one.ponging other)
  joins same := (two.joins same).elim one.joins .inr
  isLink := two.isLink.trans one.isLink
  closed same := two.closed (one.closed same)
  deadline other := by
    rcases two.deadline other with same | renewed
    · rw [same]
      exact one.deadline other
    · exact .inr renewed

end PeerCourse

namespace Launched

variable {before after : Hub} {first : Nat} {recipients : List PeerId}
  {frame : Frame} {limit : Span}

theorem mono (launched : Launched before first recipients frame limit)
    (peers : after.peers.size = before.peers.size)
    (tasks_le : before.tasks.size ≤ after.tasks.size)
    (task : ∀ id : Nat, first ≤ id → id < before.tasks.size →
      after.task id = before.task id) :
    Launched after first recipients frame limit where
  distinct := launched.distinct
  inside id member := by
    rw [peers]
    exact launched.inside id member
  last_le := Nat.le_trans launched.last_le tasks_le
  delivery position below := by
    have last := launched.last_le
    rw [task (first + position) (by omega) (by omega)]
    exact launched.delivery position below

end Launched

namespace News

variable {brings : Happening → Prop} {first second third : Hub}
  {older newer : List Entry}

theorem silent
    (chronicle : second.chronicle = first.chronicle)
    (tasks : second.tasks.size = first.tasks.size) :
    News brings first second [] where
  chronicle := chronicle
  time entry member := by cases member
  brought entry member := by cases member
  launched entry member := by cases member
  announced task peer frame limit stage above below := by
    rw [tasks] at below
    exact absurd below (Nat.not_lt.mpr above)
  inTurn := .nil

theorem trans
    (old : News brings first second older)
    (new : News brings second third newer) (now : second.now = first.now)
    (peers : third.peers.size = second.peers.size)
    (one_le : first.tasks.size ≤ second.tasks.size)
    (two_le : second.tasks.size ≤ third.tasks.size)
    (task : ∀ id : Nat, first.tasks.size ≤ id → id < second.tasks.size →
      third.task id = second.task id) :
    News brings first third (newer ++ older) where
  chronicle := by rw [new.chronicle, old.chronicle, List.append_assoc]
  time entry member := by
    rcases List.mem_append.mp member with late | early
    · rw [new.time entry late, now]
    · exact old.time entry early
  brought entry member := by
    rcases List.mem_append.mp member with late | early
    · exact new.brought entry late
    · exact old.brought entry early
  launched entry member number recipients frame limit same := by
    rcases List.mem_append.mp member with late | early
    · obtain ⟨above, launched⟩ :=
        new.launched entry late number recipients frame limit same
      exact ⟨Nat.le_trans one_le above, launched⟩
    · obtain ⟨above, launched⟩ :=
        old.launched entry early number recipients frame limit same
      refine ⟨above, launched.mono peers two_le ?_⟩
      intro id notBefore below
      exact task id (Nat.le_trans above notBefore) below
  announced number peer frame limit stage above below same := by
    by_cases early : number < second.tasks.size
    · rw [task number above early] at same
      obtain ⟨entry, member, delivers⟩ :=
        old.announced number peer frame limit stage above early same
      exact ⟨entry, List.mem_append.mpr (.inr member), delivers⟩
    · obtain ⟨entry, member, delivers⟩ :=
        new.announced number peer frame limit stage (Nat.not_lt.mp early)
          below same
      exact ⟨entry, List.mem_append.mpr (.inl member), delivers⟩
  inTurn := by
    rw [fanOuts_append]
    refine List.pairwise_append.mpr ⟨old.inTurn, new.inTurn,
      fun early isOld late isNew => ?_⟩
    obtain ⟨entry, member, limit, same⟩ := mem_fanOuts.mp isOld
    obtain ⟨later, memberToo, span, sameToo⟩ := mem_fanOuts.mp isNew
    exact Nat.le_trans (old.launched entry member _ _ _ _ same).2.last_le
      (new.launched later memberToo _ _ _ _ sameToo).1

theorem announcements_le (news : News brings first second newer) :
    first.announcements ≤ second.announcements := by
  simp only [Hub.announcements, news.chronicle, List.countP_append]
  exact Nat.le_add_left _ _

theorem mono {more : Happening → Prop} (news : News brings first second newer)
    (brings_more : ∀ happening, brings happening → more happening) :
    News more first second newer :=
  { news with
    brought := fun entry member => brings_more _ (news.brought entry member) }

end News

namespace Course

variable {doer : Doer} {first second third : Hub}

theorem inside
    (course : Course doer first second) (inside : doer.Inside first) :
    doer.Inside second :=
  fun id same => Nat.lt_of_lt_of_le (inside id same) course.tasks_le

/-- Courses of one doer compose. -/
theorem trans (one : Course doer first second) (two : Course doer second third)
    (inside : doer.Inside first) : Course doer first third := by
  have untouched : ∀ id, first.tasks.size ≤ id → doer.task ≠ some id := by
    intro id new same
    exact Nat.not_lt.mpr new (inside id same)
  obtain ⟨older, old⟩ := one.news
  obtain ⟨newer, new⟩ := two.news
  refine
    { now := two.now.trans one.now
      configuration := two.configuration.trans one.configuration
      stopping := two.stopping.trans one.stopping
      peers := two.peers.trans one.peers
      peer := ?_
      tasks_le := Nat.le_trans one.tasks_le two.tasks_le
      drawn_le := Nat.le_trans one.drawn_le two.drawn_le
      task := ?_
      own := ?_
      newTask := ?_
      ready := ?_
      closes := ?_
      turns := ?_
      news := ⟨newer ++ older, ?_⟩
      queued := fun _ grounded => ?_
      enclosed := fun id others stays _ silent fenced => ?_ }
  · intro id
    have later := two.peer id
    have sameWindow : second.timing.heartbeat = first.timing.heartbeat := by
      simp only [Hub.timing, one.configuration]
    rw [one.now, sameWindow] at later
    exact (one.peer id).trans later
  · intro id below other
    rw [two.task id (Nat.lt_of_lt_of_le below one.tasks_le) other,
      one.task id below other]
  · intro id running
    rcases two.own id running with same | changed
    · rw [same]
      exact one.own id running
    · exact .inr changed
  · -- What the first course has started the second one leaves alone, as its
    -- doer is none of these.
    intro id above below
    by_cases early : id < second.tasks.size
    · obtain ⟨started, awake⟩ := one.newTask id above early
      rw [two.task id early (untouched id above)]
      exact ⟨started, two.ready id awake (untouched id above)⟩
    · exact two.newTask id (Nat.not_lt.mp early) below
  · intro id member other
    exact two.ready id (one.ready id member other) other
  · intro id number wasOpen isClosed other awaits
    -- Who waits is woken in the course in which the session is closed; new
    -- tasks are awake anyway.
    cases halfway : (second.peer id).closed with
    | false => exact two.closes id number halfway isClosed other awaits
    | true =>
        by_cases early : number < second.tasks.size
        · rw [two.task number early other] at awaits
          exact two.ready number
            (one.closes id number wasOpen halfway other awaits) other
        · by_cases inside : number < third.tasks.size
          · exact (two.newTask number (Nat.not_lt.mp early) inside).2
          · rw [Hub.task_of_size_le third number
              (Nat.not_lt.mp inside)] at awaits
            cases awaits
  · intro id number held
    rcases two.turns id number held with earlier | running | awake
    · rcases one.turns id number earlier with before | running | awake
      · exact .inl before
      · exact .inr (.inl running)
      · by_cases running : doer.task = some number
        · exact .inr (.inl running)
        · exact .inr (.inr (two.ready number awake running))
    · exact .inr (.inl running)
    · exact .inr (.inr awake)
  · exact old.trans new one.now two.peers one.tasks_le two.tasks_le
      fun id above below => two.task id below (untouched id above)
  · have early := one.queued inside grounded
    refine early.trans (two.queued ?_ early.grounded) one.tasks_le
      fun id above below => (one.newTask id above below).2
    exact fun id same => Nat.lt_of_lt_of_le (inside id same) one.tasks_le
  · have before := old.announcements_le
    have after := new.announcements_le
    have enclosed := one.enclosed id others stays inside (by omega) fenced
    exact enclosed.trans (two.enclosed id others stays
      (fun id same => Nat.lt_of_lt_of_le (inside id same) one.tasks_le)
      (by omega) enclosed.fenced)

end Course

end BroadcastHub.Server
