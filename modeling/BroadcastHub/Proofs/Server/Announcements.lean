import BroadcastHub.Proofs.Scenario.Turnover

/-!
# Where broadcasts come from

A broadcast is announced only by a session that has taken a message and by those
who call for one, and in both cases to exactly the sessions that are registered
at that moment.  Broadcasts start their deliveries one after another, and every
delivery belongs to one of them.
-/

namespace BroadcastHub.Server

/-- Whatever a step announces goes to those who were registered before it,
by tasks that were not there before it. -/
def Announced (before after : Hub) : Prop :=
  ∀ entry ∈ after.chronicle, ∀ first recipients frame limit,
    entry.happening = .broadcast first recipients frame limit →
    entry ∉ before.chronicle →
    entry.time = before.now ∧ first = before.nextTask ∧
      recipients = before.registry

namespace Announced

variable {doer : Doer} {before middle after : Hub}

theorem ofSilent
    {news : List Entry} (chronicle : after.chronicle = news ++ before.chronicle)
    (silent : ∀ entry ∈ news, ∀ first recipients frame limit,
      entry.happening ≠ .broadcast first recipients frame limit) :
    Announced before after := by
  intro entry member first recipients frame limit same fresh
  rw [chronicle] at member
  rcases List.mem_append.mp member with late | early
  · exact absurd same (silent entry late first recipients frame limit)
  · exact absurd early fresh

theorem ofCourse
    (course : Course doer before after) (quiet : ¬ doer.announces) :
    Announced before after := by
  obtain ⟨news, isNews⟩ := course.news
  refine ofSilent isNews.chronicle ?_
  intro entry member first recipients frame limit same
  have brings := isNews.brought entry member
  rw [same] at brings
  exact quiet brings

/-- A broadcast that is announced when nothing else has been. -/
theorem startDeliveries
    {hub : Hub} (course : Course doer before middle) (quiet : ¬ doer.announces)
    (registry : middle.registry = before.registry)
    (tasks : middle.nextTask = before.nextTask) {frame : Frame} {limit : Span}
    (chronicle : hub.chronicle =
      (middle.startDeliveries frame limit).chronicle) :
    Announced before hub := by
  intro entry member first recipients other span same fresh
  obtain ⟨rest, started, -⟩ := Hub.spawnDeliveries_eq
    (middle.note (.broadcast middle.nextTask middle.registry frame limit))
    frame limit middle.registry
  have told : (middle.startDeliveries frame limit).chronicle =
      ⟨middle.now, .broadcast middle.nextTask middle.registry frame limit⟩ ::
        middle.chronicle := by
    rw [Hub.startDeliveries, started]
    rfl
  rw [chronicle, told] at member
  rcases List.mem_cons.mp member with rfl | early
  · cases same
    exact ⟨course.now, tasks, registry⟩
  · exact ofCourse course quiet entry early first recipients other span
      same fresh

end Announced

theorem Hub.chronicle_readOn (hub : Hub) (task : TaskId) (id : PeerId) :
    (hub.readOn task id).chronicle = hub.chronicle := rfl

namespace Announced

variable {hub : Hub} {task : TaskId} {id : PeerId}

/-- A task that attends a session, but announces nothing. -/
def attendant (task : TaskId) (id : PeerId) : Doer where
  task := some task
  serves := some id
  writes := some id
  starts := (Task.attend id .arriving).MayStart
  becomes := (Task.attend id .arriving).Follows
  joins peer := peer = id

theorem attends_attendant (task : TaskId) (id : PeerId) :
    (attendant task id).Attends task id :=
  ⟨rfl, rfl, fun _ => ⟨rfl, by rintro ⟨⟩⟩, fun _ => ⟨rfl, rfl⟩⟩

theorem parts_attendant (task : TaskId) (id : PeerId) :
    (attendant task id).Parts id :=
  ⟨rfl, fun _ => ⟨rfl, by rintro ⟨⟩⟩⟩

theorem ofAttendant (course : Course (attendant task id) hub after) :
    Announced hub after :=
  ofCourse course fun announces => announces

theorem inside_attendant (below : task < hub.tasks.size) :
    (attendant task id).Inside hub := by
  rintro _ ⟨⟩
  exact below

theorem takeArrival (below : task < hub.tasks.size) (alarm : Alarm) :
    Announced hub (hub.takeArrival task id alarm) := by
  have attends := attends_attendant task id
  have inside : (attendant task id).Inside hub := inside_attendant below
  have taken : Course (attendant task id) hub
      (hub.setSocket id (hub.peer id).socket.take.1) :=
    Course.setSocket hub (.ofServes rfl) (fun _ => Socket.desk?_take _)
      (fun _ => Socket.sent?_take _) (fun other => absurd rfl other)
      (fun other => absurd rfl other)
      (congrArg Option.isSome (Socket.desk?_take _))
  unfold Hub.takeArrival
  simp only
  cases (hub.peer id).socket.take.2 with
  | nothing =>
      exact ofAttendant
        (taken.trans (Course.setTask _ attends.running (attends.becomes _))
          inside)
  | ended =>
      exact ofAttendant
        (taken.trans
          (.leaveSilently attends _ (taken.inside inside) .streamEnded
            (by rintro ⟨⟩)) inside)
  | item item =>
      have noted := Course.takeItem attends hub inside item
      cases item with
      | error fault =>
          exact ofAttendant
            (noted.trans
              (.leaveSilently attends _ (noted.inside inside) (.readError fault)
                (by rintro ⟨⟩))
              inside)
      | ok frame =>
          cases message : frame.envelope? with
          | none =>
              exact ofAttendant
                (noted.trans (.actPlain attends _ (noted.inside inside) message)
                  inside)
          | some envelope =>
              have renewed :=
                noted.trans (.renewDeadline _ id (.inl attends.serves)) inside
              refine startDeliveries renewed (fun announces => announces) ?_ rfl
                ((congrArg Hub.chronicle
                  (Hub.act_message _ task id message)).trans
                  (Hub.chronicle_readOn _ task id))
              rw [Hub.registry_renewDeadline, Hub.registry_note,
                Hub.registry_setSocket]

theorem checkDeadline (below : task < hub.tasks.size) (alarm : Alarm) :
    Announced hub (hub.checkDeadline task id alarm) := by
  have attends := attends_attendant task id
  have inside : (attendant task id).Inside hub := inside_attendant below
  unfold Hub.checkDeadline
  split
  · split
    · exact ofAttendant (.readOn attends hub inside)
    · exact ofAttendant (.leaveSilently attends hub inside .deadlineExpired
        (by rintro ⟨⟩))
  · exact takeArrival below alarm

theorem pollSession (below : task < hub.tasks.size) (stage : Attendance) :
    Announced hub (hub.pollSession task id stage) := by
  have attends := attends_attendant task id
  have inside : (attendant task id).Inside hub := inside_attendant below
  cases stage with
  | arriving => exact ofAttendant (.arrive attends rfl hub inside)
  | parting closing =>
      exact ofAttendant (.proceedParting rfl (parts_attendant task id) hub
        inside closing)
  | reading alarm =>
      show Announced hub (hub.read task id alarm)
      unfold Hub.read
      split
      · exact ofAttendant
          (.leaveClosed attends (parts_attendant task id) hub inside)
      · cases alarm with
        | some alarm => exact checkDeadline below alarm
        | none => exact @checkDeadline hub.noteAlarm task id below _

theorem goOn (hub : Hub) (task : TaskId) : Announced hub (hub.goOn task) := by
  have course := Course.goOn hub task
  cases same : hub.task task <;> rw [same] at course
  case attend id stage =>
    have below : task < hub.tasks.size :=
      hub.lt_size_of_task task (by rw [same]; rintro ⟨⟩)
    have polled : hub.goOn task =
        { hub with ready := hub.ready.erase task }.pollSession task id
          stage := by
      have again :
          { hub with ready := hub.ready.erase task }.task task = _ := same
      rw [Hub.goOn, Hub.poll, again]
    rw [polled]
    exact @pollSession { hub with ready := hub.ready.erase task } task id
      below stage
  all_goals exact ofCourse course fun announces => announces

end Announced

open Scenario

/-- Nothing is announced from outside unless somebody calls for it. -/
theorem Announced.ofTurnover {outsider : Outsider} {before after : Hub}
    (turnover : Turnover outsider before after) (quiet : ¬ outsider.announces) :
    Announced before after := by
  cases turnover with
  | outside outside =>
      obtain ⟨news, isNews, -⟩ := outside.news
      refine ofSilent isNews.chronicle ?_
      intro entry member first recipients frame limit same
      have brings := isNews.brought entry member
      rw [same] at brings
      exact quiet brings
  | register added => exact ofSilent (List.nil_append _).symm (by rintro _ ⟨⟩)
  | serve added started serves =>
      exact ofSilent (List.nil_append _).symm (by rintro _ ⟨⟩)
  | go isReady => exact goOn _ _
  | tick still forward whole passes =>
      exact ofSilent ((Hub.chronicle_ring _).trans (List.nil_append _).symm)
        (by rintro _ ⟨⟩)

/-- How the broadcasts in the chronicle and the deliveries among the tasks
belong together. -/
structure LaunchOrder (hub : Hub) : Prop where
  within : ∀ fanOut ∈ fanOuts hub.chronicle, fanOut.stop ≤ hub.tasks.size
  inTurn : (fanOuts hub.chronicle).Pairwise FanOut.Precedes
  announced : ∀ task peer frame limit stage,
    hub.task task = .deliver peer frame limit stage →
    ∃ fanOut ∈ fanOuts hub.chronicle,
      fanOut.launches task = true ∧ fanOut.recipient? task = some peer ∧
        fanOut.frame = frame

theorem Entry.Delivers.exists_fanOut
    {entry : Entry} {chronicle : List Entry} {task : TaskId} {peer : PeerId}
    {frame : Frame} {limit : Span} (member : entry ∈ chronicle)
    (delivers : entry.Delivers task peer frame limit) :
    ∃ fanOut ∈ fanOuts chronicle,
      fanOut.launches task = true ∧ fanOut.recipient? task = some peer ∧
        fanOut.frame = frame := by
  obtain ⟨first, recipients, position, isBroadcast, isPeer, rfl⟩ := delivers
  have below : position < recipients.length :=
    (List.getElem?_eq_some_iff.mp isPeer).1
  refine ⟨⟨first, recipients, frame⟩,
    mem_fanOuts.mpr ⟨entry, member, limit, isBroadcast⟩,
    FanOut.launches_iff.mpr ⟨Nat.le_add_right _ _,
      Nat.add_lt_add_left below first⟩, ?_, rfl⟩
  rw [FanOut.recipient?, Nat.add_sub_cancel_left]
  exact isPeer

namespace LaunchOrder

variable {before after : Hub}

theorem start (configuration : Configuration) (chance : Nat → Nat) :
    LaunchOrder { Hub.start configuration with chance } where
  within fanOut member := by cases member
  inTurn := .nil
  announced task peer frame limit stage isDelivery := by
    rw [Hub.task_of_size_le { Hub.start configuration with chance } task
      (Nat.zero_le task)] at isDelivery
    cases isDelivery

/-- News of a step in which deliveries stay what they are. -/
theorem grow
    {brings : Happening → Prop} {news : List Entry} (order : LaunchOrder before)
    (isNews : News brings before after news)
    (tasks_le : before.tasks.size ≤ after.tasks.size)
    (older : ∀ task < before.tasks.size, ∀ peer frame limit stage,
      after.task task = .deliver peer frame limit stage →
        ∃ stage, before.task task = .deliver peer frame limit stage) :
    LaunchOrder after := by
  have same :
      fanOuts after.chronicle = fanOuts before.chronicle ++ fanOuts news := by
    rw [isNews.chronicle, fanOuts_append]
  have launched : ∀ fanOut ∈ fanOuts news,
      before.tasks.size ≤ fanOut.first ∧ fanOut.stop ≤ after.tasks.size := by
    intro fanOut member
    obtain ⟨entry, listed, limit, isBroadcast⟩ := mem_fanOuts.mp member
    obtain ⟨above, launched⟩ := isNews.launched entry listed _ _ _ _ isBroadcast
    exact ⟨above, launched.last_le⟩
  refine ⟨?_, ?_, fun task peer frame limit stage isDelivery => ?_⟩ <;>
    rw [same]
  · intro fanOut member
    rcases List.mem_append.mp member with earlier | new
    · exact Nat.le_trans (order.within fanOut earlier) tasks_le
    · exact (launched fanOut new).2
  · refine List.pairwise_append.mpr ⟨order.inTurn, isNews.inTurn,
      fun early isOld late isNew => ?_⟩
    exact Nat.le_trans (order.within early isOld) (launched late isNew).1
  · by_cases below : task < before.tasks.size
    · obtain ⟨stage, wasDelivery⟩ :=
        older task below peer frame limit stage isDelivery
      obtain ⟨fanOut, member, delivers⟩ :=
        order.announced task peer frame limit stage wasDelivery
      exact ⟨fanOut, List.mem_append_left _ member, delivers⟩
    · have inside : task < after.tasks.size :=
        after.lt_size_of_task task fun idle => by
          rw [idle] at isDelivery
          cases isDelivery
      obtain ⟨entry, listed, delivers⟩ :=
        isNews.announced task peer frame limit stage
          (Nat.not_lt.mp below) inside isDelivery
      obtain ⟨fanOut, member, delivers⟩ := delivers.exists_fanOut listed
      exact ⟨fanOut, List.mem_append_right _ member, delivers⟩

/-- A delivery that goes on goes to the same recipient. -/
theorem goOn {hub : Hub} (order : LaunchOrder hub) (number : TaskId) :
    LaunchOrder (hub.goOn number) := by
  have course := Course.goOn hub number
  obtain ⟨news, isNews⟩ := course.news
  refine order.grow isNews course.tasks_le
    fun task below peer frame limit stage isDelivery => ?_
  by_cases own : number = task
  · subst own
    rcases course.own number rfl with same | finished | follows
    · exact ⟨stage, same ▸ isDelivery⟩
    · rw [isDelivery] at finished
      cases finished
    · rw [isDelivery] at follows
      cases wasTask : hub.task number with
      | deliver id content limit before =>
          rw [wasTask] at follows
          obtain ⟨rfl, rfl, rfl⟩ := follows
          exact ⟨before, rfl⟩
      | _ =>
          rw [wasTask] at follows
          cases follows
  · rw [course.task task below fun same =>
      own (Option.some.inj same)] at isDelivery
    exact ⟨stage, isDelivery⟩

/-- Every turnover keeps broadcasts and deliveries together. -/
theorem turn {outsider : Outsider} (turnover : Turnover outsider before after)
    (order : LaunchOrder before) : LaunchOrder after := by
  cases turnover with
  | outside outside =>
      obtain ⟨news, isNews, -⟩ := outside.news
      refine order.grow isNews outside.tasks_le
        fun task below peer frame limit stage same => ?_
      rw [outside.task task below] at same
      exact ⟨stage, same⟩
  | register added => exact ⟨order.within, order.inTurn, order.announced⟩
  | serve added opened serves =>
      refine ⟨fun fanOut member => ?_, order.inTurn,
        fun task peer frame limit stage same => ?_⟩
      · rw [Hub.size_tasks_spawn]
        exact Nat.le_succ_of_le (order.within fanOut member)
      · rw [Hub.task_spawn] at same
        split at same
        · rcases serves with rfl | rfl <;> cases same
        · exact order.announced task peer frame limit stage same
  | go isReady => exact order.goOn _
  | @tick later still forward whole passes =>
      obtain ⟨ready, same, -⟩ := Hub.ring_eq { before with now := later }
      rw [same]
      exact ⟨order.within, order.inTurn, order.announced⟩

end LaunchOrder

end BroadcastHub.Server

namespace BroadcastHub.Scenario

open Server

/-- Runs in which nobody calls for anything. -/
def Manner.idle : Manner where
  allows _ := False
  inOrder := False

/-- Runs in which one thing is done from outside. -/
def Manner.only (action : Action) : Manner where
  allows other := other = action
  inOrder := False

theorem Play.chronicle_broadcast (play : Play) (frame : Frame) (limit : Span) :
    (play.broadcast frame limit).2.hub.chronicle =
      (play.hub.startDeliveries frame limit).chronicle := by
  have watched : ∀ (deliveries : List TaskId) (tally : TaskId) (hub : Hub),
      (deliveries.foldl (fun hub delivery => hub.watch delivery tally)
        hub).chronicle =
        hub.chronicle := by
    intro deliveries tally
    induction deliveries with
    | nil => exact fun _ => rfl
    | cons first rest induction =>
        exact fun hub => induction (hub.watch first tally)
  exact watched _ _ _

/-- Whatever is announced in a move of a run goes to those who were registered
before it. -/
theorem Move.announced
    {manner : Manner} {before after : Play} (move : Move manner before after) :
    Announced before.hub after.hub := by
  have quietly : ∀ {after : Play}, Move .idle before after →
      Announced before.hub after.hub :=
    fun move => .ofTurnover (.ofMove move) fun ⟨_, allowed, _⟩ => allowed
  cases move with
  | @act action allowed immediate isThere =>
      by_cases announces : action.Announces
      · cases action with
        | broadcast frame limit =>
            have begun := Course.refl { starts := fun _ => False } before.hub
            exact Announced.startDeliveries begun id rfl rfl
              (Play.chronicle_broadcast before frame limit)
        | _ => cases announces
      · have turnover : Turnover
            ((Manner.only action).outsider before.hub.peers.size) before.hub
            (before.perform action).2.hub :=
          .act before rfl immediate isThere
        refine Announced.ofTurnover turnover fun ⟨other, same, isBroadcast⟩ =>
          ?_
        have same : other = action := same
        exact announces (same ▸ isBroadcast)
  | write connected isOpen fits => exact quietly (.write connected isOpen fits)
  | go isReady first => exact Announced.goOn _ _
  | tidy id => exact quietly (.tidy id)
  | read id => exact quietly (.read id)
  | sip id count => exact quietly (.sip id count)
  | tick still forward whole passes =>
      exact quietly (.tick still forward whole passes)
  | notice known jobs => exact quietly (.notice known jobs)

end BroadcastHub.Scenario
