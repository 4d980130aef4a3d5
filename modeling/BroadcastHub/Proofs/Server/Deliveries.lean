import BroadcastHub.Proofs.Scenario.Turnover
import BroadcastHub.Proofs.Server.Writes

/-!
# What becomes of deliveries

A delivery writes one frame to one recipient.  `WriteRecord` says what the
chronicle holds of a write for each stage that it can be in, and `Delivery`
puts that together with the clock: a delivery that is not over has time left,
or is about to go on.  Every turnover preserves both, for the deliveries of
all broadcasts that the chronicle tells of.
-/

namespace BroadcastHub.Server

/-- Whether something is done by a task that writes. -/
def Happening.isBy (task : TaskId) : Happening → Bool
  | .asked other _ _ => other = task
  | .answered other _ _ _ => other = task
  | .wrote other _ _ _ => other = task
  | _ => false

/-- What the chronicle holds of a task that writes, latest first. -/
def deeds (task : TaskId) (chronicle : List Entry) : List Entry :=
  chronicle.filter fun entry => entry.happening.isBy task

theorem mem_deeds {task : TaskId} {entry : Entry} {chronicle : List Entry} :
    entry ∈ deeds task chronicle ↔ entry ∈ chronicle ∧
      entry.happening.isBy task = true :=
  List.mem_filter

@[simp] theorem deeds_append (task : TaskId) (newer older : List Entry) :
    deeds task (newer ++ older) = deeds task newer ++ deeds task older :=
  List.filter_append ..

theorem deeds_of_others
    {task : TaskId} {news : List Entry}
    (others : ∀ entry ∈ news, entry.happening.isBy task = false) :
    deeds task news = [] := by
  apply List.filter_eq_nil_iff.mpr
  intro entry member
  rw [others entry member]
  exact Bool.false_ne_true

/-- What a write has done so far, by its stage or its result, latest first.
The limit is over at `due`. -/
inductive WriteRecord
    (task : TaskId) (id : PeerId) (frame : Frame) (span : Span)
    (due : Instant) : Writing ⊕ Except Fault Unit → List Entry → Prop
  | unstarted : WriteRecord task id frame span due (.inl .unstarted) []
  | queued {limit : Alarm} (isDue : limit.due = due) :
      WriteRecord task id frame span due (.inl (.queued limit)) []
  | underway
      {operation : Operation} {limit : Alarm} (time : Instant)
      (isDue : limit.due = due) :
      WriteRecord task id frame span due (.inl (.underway operation limit))
        [⟨time, .asked task id (.frame frame)⟩]
  | answered
      {result : Except Fault Unit} (first last : Instant)
      (answers : Answers result) :
      WriteRecord task id frame span due (.inr result)
        [⟨last, .wrote task id frame result⟩,
          ⟨last, .answered task id (.frame frame) result⟩,
          ⟨first, .asked task id (.frame frame)⟩]
  | cut (first : Instant) {last : Instant} (late : due ≤ last) :
      WriteRecord task id frame span due (.inr (.error (.writeTimeout span)))
        [⟨last, .wrote task id frame (.error (.writeTimeout span))⟩,
          ⟨first, .asked task id (.frame frame)⟩]
  | cutInLine {last : Instant} (late : due ≤ last) :
      WriteRecord task id frame span due (.inr (.error (.writeTimeout span)))
        [⟨last, .wrote task id frame (.error (.writeTimeout span))⟩]
  | refused (last : Instant) :
      WriteRecord task id frame span due (.inr (.error .closed))
        [⟨last, .wrote task id frame (.error .closed)⟩]

/-- What a write that goes on adds to its record. -/
def Written.state : Written → Writing ⊕ Except Fault Unit
  | .finished result => .inr result
  | .pending stage => .inl stage

/-- All that happens when a write goes on is done by its task. -/
theorem FrameStep.isBy
    {now : Instant} {closed : Bool} {task : TaskId} {id : PeerId}
    {frame : Frame} {span : Span} {stage : Writing} {before after : Station}
    {told : List Happening} {written : Written}
    (step : FrameStep now closed task id frame span stage before told after
      written) :
    ∀ happening ∈ told, happening.isBy task = true := by
  intro happening member
  cases step <;> simp at member
  case refused => simp [member, Happening.isBy]
  case refusedInTurn => simp [member, Happening.isBy]
  case answeredAtOnce =>
    rcases member with rfl | rfl | rfl <;> simp [Happening.isBy]
  case cutAtOnce => rcases member with rfl | rfl <;> simp [Happening.isBy]
  case begun => simp [member, Happening.isBy]
  case cutInLine => simp [member, Happening.isBy]
  case answered => rcases member with rfl | rfl <;> simp [Happening.isBy]
  case cut => simp [member, Happening.isBy]

theorem FrameStep.pending
    {now : Instant} {closed : Bool} {task : TaskId} {id : PeerId}
    {frame : Frame} {span : Span} {stage next : Writing}
    {before after : Station} {told : List Happening}
    (step : FrameStep now closed task id frame span stage before told after
      (.pending next)) :
    next ≠ .unstarted ∧ now < next.due now span := by
  cases step with
  | begun early isOpen held started due inTime => exact ⟨by rintro ⟨⟩, inTime⟩
  | inLine early waits due inTime => exact ⟨by rintro ⟨⟩, inTime⟩
  | goesOn proceeded inTime => exact ⟨by rintro ⟨⟩, inTime⟩

theorem deeds_entriesAt {now : Instant} {task : TaskId} {told : List Happening}
    (by_ : ∀ happening ∈ told, happening.isBy task = true) :
    deeds task (entriesAt now told) = entriesAt now told := by
  apply List.filter_eq_self.mpr
  intro entry member
  obtain ⟨happening, isTold, rfl⟩ := List.mem_map.mp member
  exact by_ happening isTold

namespace WriteRecord

variable {task : TaskId} {id : PeerId} {frame : Frame} {span : Span}
  {due now : Instant} {closed : Bool} {stage : Writing} {written : Written}
  {before after : Station} {told : List Happening} {entries : List Entry}

theorem due_eq
    (record : WriteRecord task id frame span due (.inl stage) entries)
    (start : stage = .unstarted → due = now.after span) :
    stage.due now span = due := by
  cases record with
  | unstarted => exact (start rfl).symm
  | queued isDue => exact isDue
  | underway time isDue => exact isDue

theorem alarm
    (record : WriteRecord task id frame span due (.inl stage) entries)
    (started : stage ≠ .unstarted) :
    ∃ alarm ∈ stage.alarms, alarm.due = due := by
  cases record with
  | unstarted => exact absurd rfl started
  | queued isDue => exact ⟨_, List.mem_singleton.mpr rfl, isDue⟩
  | underway time isDue => exact ⟨_, List.mem_cons_self, isDue⟩

theorem step
    (record : WriteRecord task id frame span due (.inl stage) entries)
    (start : stage = .unstarted → due = now.after span)
    (step : FrameStep now closed task id frame span stage before told after
      written) :
    WriteRecord task id frame span due written.state
      (entriesAt now told ++ entries) := by
  have isDue := record.due_eq start
  have none : stage.hasAsked = false → entries = [] := by
    intro early
    cases record with
    | unstarted => rfl
    | queued _ => rfl
    | underway time _ => cases early
  cases step with
  | refused isClosed =>
      rw [none rfl]
      exact .refused now
  | refusedInTurn isClosed held =>
      rw [none rfl]
      exact .refused now
  | answeredAtOnce early isOpen held started =>
      rw [none early]
      exact .answered now now (Socket.answers_start started)
  | cutAtOnce early isOpen held started late =>
      rw [none early]
      exact .cut now (isDue ▸ late)
  | begun early isOpen held started limitDue inTime =>
      rw [none early]
      exact .underway now (limitDue.trans isDue)
  | cutInLine early waits late =>
      rw [none early]
      exact .cutInLine (isDue ▸ late)
  | inLine early waits limitDue inTime =>
      rw [none early]
      exact .queued (limitDue.trans isDue)
  | answered proceeded =>
      cases record with
      | underway time _ =>
          exact .answered time now (Socket.answers_proceed proceeded)
  | cut proceeded late =>
      cases record with
      | underway time same => exact .cut time (same ▸ late)
  | goesOn proceeded inTime =>
      cases record with
      | underway time same => exact .underway time same

end WriteRecord

/-- How a delivery that was launched at an instant stands. -/
structure Delivery
    (hub : Hub) (launch : Instant) (task : TaskId) (id : PeerId) (frame : Frame)
    (limit : Span) : Prop where
  taskInside : task < hub.tasks.size
  peerInside : id < hub.peers.size
  state :
    (∃ stage, hub.task task = .deliver id frame limit stage ∧
      WriteRecord task id frame limit (launch.after limit) (.inl stage)
        (deeds task hub.chronicle) ∧
      hub.now ≤ (launch.after limit).tick ∧
      (launch.after limit ≤ hub.now → task ∈ hub.ready) ∧
      (stage = .unstarted → hub.now = launch ∧ task ∈ hub.ready)) ∨
    ∃ result, hub.task task = .finished (.delivered (Except.isOk result)) ∧
      WriteRecord task id frame limit (launch.after limit) (.inr result)
        (deeds task hub.chronicle) ∧
      (Except.isOk result = false → (hub.peer id).closed = true)

namespace Instant

theorem le_tick (instant : Nat) : instant ≤ tick instant := by
  show instant ≤ (instant + (1000000 - 1)) / 1000000 * 1000000
  omega

/-- A clock that shows whole milliseconds has passed the end of each that it has
begun. -/
theorem tick_le_of_dvd {instant now : Nat} (whole : Span.perMillisecond ∣ now)
    (le : instant ≤ now) : tick instant ≤ now := by
  obtain ⟨count, rfl⟩ := whole
  show (instant + (1000000 - 1)) / 1000000 * 1000000 ≤ 1000000 * count
  change instant ≤ 1000000 * count at le
  omega

theorem le_after (now : Nat) (span : Span) : now ≤ after now span := by
  unfold after
  split <;> exact Nat.le_add_right _ _

end Instant

namespace Delivery

variable {before after hub : Hub} {launch : Instant} {task : TaskId}
  {id : PeerId} {frame : Frame} {limit : Span}

/-- What nobody touches stays as it is. -/
theorem mono
    (delivery : Delivery before launch task id frame limit)
    (peers_le : before.peers.size ≤ after.peers.size)
    (tasks_le : before.tasks.size ≤ after.tasks.size)
    (sameTask : after.task task = before.task task)
    (closed : (before.peer id).closed = true → (after.peer id).closed = true)
    (sameDeeds : deeds task after.chronicle = deeds task before.chronicle)
    (now : after.now = before.now)
    (ready : task ∈ before.ready → task ∈ after.ready) :
    Delivery after launch task id frame limit where
  taskInside := Nat.lt_of_lt_of_le delivery.taskInside tasks_le
  peerInside := Nat.lt_of_lt_of_le delivery.peerInside peers_le
  state := by
    rw [sameTask, sameDeeds, now]
    rcases delivery.state with
      ⟨stage, same, record, inTime, awake, fresh⟩ | ⟨result, same, record, lost⟩
    · exact .inl ⟨stage, same, record, inTime, fun late => ready (awake late),
        fun start => ⟨(fresh start).1, ready (fresh start).2⟩⟩
    · exact .inr ⟨result, same, record, fun failed => closed (lost failed)⟩

/-- The clock does not pass by the limit of a delivery. -/
theorem tick
    {later : Instant} (delivery : Delivery hub launch task id frame limit)
    (still : hub.ready = [])
    (passes : ∀ alarm number, (alarm, number) ∈ hub.alarms →
      later ≤ max hub.now alarm.due.tick) :
    Delivery { hub with now := later }.ring launch task id frame limit := by
  obtain ⟨ready, same, -, rung⟩ := Hub.ring_eq { hub with now := later }
  rw [same]
  refine ⟨delivery.taskInside, delivery.peerInside, ?_⟩
  rcases delivery.state with
    ⟨stage, isStage, record, inTime, -, fresh⟩ | finished
  · have started : stage ≠ .unstarted := by
      intro start
      have awake := (fresh start).2
      rw [still] at awake
      cases awake
    obtain ⟨alarm, isAlarm, due⟩ := record.alarm started
    have waits : (alarm, task) ∈ hub.alarms :=
      Hub.mem_alarms hub task delivery.taskInside
        (by rw [isStage]; exact isAlarm)
    refine .inl ⟨stage, isStage, record, ?_, fun late => ?_,
      fun start => absurd start started⟩
    · have bound := passes alarm task waits
      rw [due] at bound
      exact Nat.le_trans bound (Nat.max_le.mpr ⟨inTime, Nat.le_refl _⟩)
    · exact rung alarm task waits (decide_eq_true (due ▸ late))
  · exact .inr finished

/-- A delivery that goes on. -/
theorem goOn (delivery : Delivery hub launch task id frame limit) :
    Delivery (hub.goOn task) launch task id frame limit := by
  have course := Course.goOn hub task
  have taskInside := Nat.lt_of_lt_of_le delivery.taskInside course.tasks_le
  have peerInside : id < (hub.goOn task).peers.size :=
    course.peers ▸ delivery.peerInside
  refine ⟨taskInside, peerInside, ?_⟩
  rcases delivery.state with ⟨stage, isStage, record, inTime, -,
    fresh⟩ | ⟨result, finished, record, lost⟩
  · let start : Hub := { hub with ready := hub.ready.erase task }
    have polled :
        hub.goOn task = start.pollDelivery task id frame limit stage := by
      show start.poll task = _
      have same : start.task task = .deliver id frame limit stage := isStage
      rw [Hub.poll, same]
    have scene : Scene start id hub.now (hub.peer id).closed
        ⟨(hub.peer id).turn, (hub.peer id).socket⟩ hub.chronicle :=
      ⟨delivery.peerInside, rfl, rfl, rfl, rfl⟩
    obtain ⟨told, last, step, seen⟩ := scene.pollFrame task frame limit stage
    have grown := record.step (fun same => by rw [(fresh same).1]) step
    have sameDeeds : deeds task (entriesAt hub.now told ++ hub.chronicle) =
        entriesAt hub.now told ++ deeds task hub.chronicle := by
      rw [deeds_append, deeds_entriesAt step.isBy]
    rw [← sameDeeds, ← seen.chronicle] at grown
    have course : Course (.running task (.deliver id frame limit stage)) start
        (start.pollFrame id task frame limit stage).1 :=
      Course.pollFrame start (by rintro _ ⟨⟩; exact delivery.taskInside) rfl rfl
        frame limit stage
    have taskInside' :
        task < (start.pollFrame id task frame limit stage).1.tasks.size :=
      Nat.lt_of_lt_of_le delivery.taskInside course.tasks_le
    have peerInside' :
        id < (start.pollFrame id task frame limit stage).1.peers.size :=
      course.peers ▸ delivery.peerInside
    rw [polled, Hub.pollDelivery]
    split <;> rename_i same <;>
      rw [same] at step grown course taskInside' peerInside'
    · rename_i written
      refine .inr ⟨written, Hub.task_finishDelivery _ _ _ _ taskInside', ?_,
        fun failed =>
        Hub.closed_finishDelivery _ _ _ _ peerInside' failed⟩
      rw [Hub.chronicle_finishDelivery]
      exact grown
    · rename_i next
      obtain ⟨started, early⟩ := step.pending
      rw [grown.due_eq fun start => absurd start started] at early
      refine .inl ⟨next, Hub.task_setTask_self _ _ _ taskInside', grown, ?_,
        fun late => ?_, fun start => absurd start started⟩
      · rw [← course.now] at inTime
        exact inTime
      · rw [← course.now] at early
        exact absurd late (Nat.not_le.mpr early)
  · rw [Hub.goOn_of_finished finished]
    exact .inr ⟨result, finished, record, lost⟩

theorem ofLaunched
    {first : Nat} {recipients : List PeerId} {position : Nat}
    (launched : Launched hub first recipients frame limit)
    (below : position < recipients.length)
    (silent : deeds (first + position) hub.chronicle = [])
    (awake : first + position ∈ hub.ready) :
    Delivery hub hub.now (first + position) recipients[position] frame
      limit where
  taskInside :=
    Nat.lt_of_lt_of_le (Nat.add_lt_add_left below first) launched.last_le
  peerInside := launched.inside _ (List.getElem_mem below)
  state := by
    refine .inl ⟨.unstarted, launched.delivery position below, ?_, ?_,
      fun _ => awake, fun _ => ⟨rfl, awake⟩⟩
    · rw [silent]
      exact .unstarted
    · exact Nat.le_trans (Instant.le_after hub.now limit) (Instant.le_tick _)

end Delivery

/-- How the deliveries of all broadcasts stand. -/
structure Broadcasts (hub : Hub) : Prop where
  known : ∀ entry ∈ hub.chronicle, ∀ task, entry.happening.isBy task = true →
    task < hub.tasks.size
  distinct : ∀ entry ∈ hub.chronicle, ∀ first recipients frame limit,
    entry.happening = .broadcast first recipients frame limit → recipients.Nodup
  delivery : ∀ entry ∈ hub.chronicle, ∀ first recipients frame limit,
    entry.happening = .broadcast first recipients frame limit →
    ∀ position (below : position < recipients.length),
      Delivery hub entry.time (first + position) recipients[position]
        frame limit

namespace Broadcasts

variable {before after : Hub}

theorem start (configuration : Configuration) (chance : Nat → Nat) :
    Broadcasts { Hub.start configuration with chance } where
  known entry member := by cases member
  distinct entry member := by cases member
  delivery entry member := by cases member

/-- Deliveries that are preserved one by one are preserved along with those
that are launched. -/
theorem grow
    {brings : Happening → Prop} {news : List Entry}
    (broadcasts : Broadcasts before) (isNews : News brings before after news)
    (now : after.now = before.now)
    (tasks_le : before.tasks.size ≤ after.tasks.size)
    (known : ∀ entry ∈ news, ∀ task, entry.happening.isBy task = true →
      task < before.tasks.size)
    (awake : ∀ id : Nat, before.tasks.size ≤ id → id < after.tasks.size →
      id ∈ after.ready)
    (kept : ∀ launch task id frame limit,
      Delivery before launch task id frame limit →
      Delivery after launch task id frame limit) : Broadcasts after := by
  have silent :
      ∀ id : Nat, before.tasks.size ≤ id → deeds id after.chronicle = [] := by
    intro id new
    rw [isNews.chronicle]
    apply deeds_of_others
    intro entry member
    rw [← Bool.not_eq_true]
    intro isBy
    rcases List.mem_append.mp member with late | early
    · exact Nat.not_lt.mpr new (known entry late id isBy)
    · exact Nat.not_lt.mpr new (broadcasts.known entry early id isBy)
  refine ⟨?_, ?_, ?_⟩ <;> intro entry member <;>
    rw [isNews.chronicle] at member <;>
    rcases List.mem_append.mp member with late | early
  · intro task isBy
    exact Nat.lt_of_lt_of_le (known entry late task isBy) tasks_le
  · intro task isBy
    exact Nat.lt_of_lt_of_le (broadcasts.known entry early task isBy) tasks_le
  · intro first recipients frame limit same
    exact (isNews.launched entry late first recipients frame limit
      same).2.distinct
  · exact broadcasts.distinct entry early
  · intro first recipients frame limit same position below
    obtain ⟨new, launched⟩ :=
      isNews.launched entry late first recipients frame limit same
    have above : before.tasks.size ≤ first + position :=
      Nat.le_trans new (Nat.le_add_right _ _)
    rw [isNews.time entry late, ← now]
    exact .ofLaunched launched below (silent _ above) (awake _ above
      (Nat.lt_of_lt_of_le (Nat.add_lt_add_left below first) launched.last_le))
  · intro first recipients frame limit same position below
    exact kept _ _ _ _ _ (broadcasts.delivery entry early first recipients frame
      limit same position below)

/-- Only a task that writes does anything that is told of writes. -/
theorem isBy_of_brings
    {hub : Hub} {number task : TaskId} {happening : Happening}
    (brings : (Doer.running number (hub.task number)).Brings happening)
    (isBy : happening.isBy task = true) :
    task = number ∧ number < hub.tasks.size := by
  have both : (Doer.running number (hub.task number)).task = some task ∧
      (hub.task number).writes?.isSome = true := by
    cases happening <;> simp [Happening.isBy] at isBy <;> subst isBy <;>
      exact ⟨brings.1, by rw [show (hub.task number).writes? =
        _ from brings.2]; rfl⟩
  refine ⟨(Option.some.inj both.1).symm, Nat.lt_of_not_le fun outside => ?_⟩
  have writes := both.2
  rw [Hub.task_of_size_le hub number outside] at writes
  cases writes

theorem goOn {hub : Hub} (broadcasts : Broadcasts hub) (number : TaskId) :
    Broadcasts (hub.goOn number) := by
  have course := Course.goOn hub number
  obtain ⟨news, isNews⟩ := course.news
  refine broadcasts.grow isNews course.now course.tasks_le ?_
    (fun id above below => (course.newTask id above below).2) ?_
  · intro entry member task isBy
    obtain ⟨same, below⟩ := isBy_of_brings (isNews.brought entry member) isBy
    rw [same]
    exact below
  · intro launch task id frame limit delivery
    by_cases same : number = task
    · subst same
      exact delivery.goOn
    · have other : (Doer.running number (hub.task number)).task ≠ some task :=
        fun running => same (Option.some.inj running)
      refine delivery.mono (Nat.le_of_eq course.peers.symm) course.tasks_le
        (course.task task delivery.taskInside other) (course.peer id).closed ?_
        course.now (fun member => course.ready task member other)
      rw [isNews.chronicle, deeds_append, deeds_of_others, List.nil_append]
      intro entry member
      rw [← Bool.not_eq_true]
      intro isBy
      exact same (isBy_of_brings (isNews.brought entry member) isBy).1.symm

theorem outside {outsider : Scenario.Outsider} (broadcasts : Broadcasts before)
    (outside : Scenario.Outside outsider before after) : Broadcasts after := by
  obtain ⟨news, isNews, peers, -⟩ := outside.news
  have nobody : ∀ entry ∈ news, ∀ task, entry.happening.isBy task = false := by
    intro entry member task
    have isOutside := isNews.brought entry member
    cases same : entry.happening <;> rw [same] at isOutside <;>
      first | rfl | cases isOutside
  refine broadcasts.grow isNews outside.now outside.tasks_le ?_
    (fun id above below => (outside.newTask id above below).2) ?_
  · intro entry member task isBy
    rw [nobody entry member task] at isBy
    cases isBy
  · intro launch task id frame limit delivery
    refine delivery.mono (Nat.le_of_eq outside.peers.symm) outside.tasks_le
      (outside.task task delivery.taskInside) (peers id).closed ?_ outside.now
      (outside.ready task)
    rw [isNews.chronicle, deeds_append,
      deeds_of_others fun entry member => nobody entry member task,
      List.nil_append]

/-- What one step preserves. -/
theorem turn
    {outsider : Scenario.Outsider} (turnover : Turnover outsider before after)
    (broadcasts : Broadcasts before) : Broadcasts after := by
  cases turnover with
  | outside outside => exact broadcasts.outside outside
  | register added =>
      refine { broadcasts with delivery := ?_ }
      intro entry member first recipients frame limit same position below
      have delivery :=
        broadcasts.delivery entry member first recipients frame limit same
          position below
      refine delivery.mono ?_ (Nat.le_refl _) rfl ?_ rfl rfl fun member =>
        member
      · rw [Hub.size_peers_addPeer]
        exact Nat.le_succ _
      · rw [Hub.peer_addPeer, if_neg (Nat.ne_of_lt delivery.peerInside)]
        exact fun closed => closed
  | serve added started serves =>
      refine
        { broadcasts with
          known := fun entry member task isBy => ?_
          delivery := ?_ }
      · rw [Hub.size_tasks_spawn]
        exact Nat.lt_succ_of_lt (broadcasts.known entry member task isBy)
      · intro entry member first recipients frame limit same position below
        have delivery :=
          broadcasts.delivery entry member first recipients frame limit same
            position below
        refine delivery.mono ?_ ?_ ?_ ?_ rfl rfl ?_
        · exact Nat.le_trans (Nat.le_succ _)
            (Nat.le_of_eq (Hub.size_peers_addPeer _ _).symm)
        · rw [Hub.size_tasks_spawn]
          exact Nat.le_succ _
        · rw [Hub.task_spawn]
          exact if_neg (Nat.ne_of_lt delivery.taskInside)
        · show _ → ((before.addPeer _).peer _).closed = true
          rw [Hub.peer_addPeer, if_neg (Nat.ne_of_lt delivery.peerInside)]
          exact fun closed => closed
        · intro awake
          exact List.mem_append.mpr (.inl awake)
  | go isReady => exact broadcasts.goOn _
  | tick still forward whole passes =>
      refine ⟨?_, ?_, ?_⟩
      · rw [Hub.chronicle_ring, Hub.tasks_ring]
        exact broadcasts.known
      · rw [Hub.chronicle_ring]
        exact broadcasts.distinct
      · rw [Hub.chronicle_ring]
        intro entry member first recipients frame limit same position below
        exact (broadcasts.delivery entry member first recipients frame limit
          same position below).tick still passes

end Broadcasts

end BroadcastHub.Server
