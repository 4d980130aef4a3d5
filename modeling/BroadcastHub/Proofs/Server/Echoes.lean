import BroadcastHub.Proofs.Server.Attendants
import BroadcastHub.Proofs.Server.PromptWrites
import BroadcastHub.Proofs.Server.Steady
import BroadcastHub.Proofs.Server.Wires
import Mathlib.Data.List.Nodup

/-!
# Who is brought which messages

While no session ends, every message that a session takes is brought to all
who are registered.  What is brought to a peer has been written to it, or its
delivery is among the tasks that are ready, and these stand in the order in
which the messages were taken.
-/

namespace BroadcastHub.Server

/-! ### Accounts -/

/-- What a happening tells about deliveries to a peer that were launched, as
calls to its socket. -/
def Happening.dueTo (id : PeerId) : Happening → List Call
  | .broadcast first recipients frame _ =>
      if id ∈ recipients then [(first + recipients.idxOf id, .frame frame)]
        else []
  | _ => []

/-- The calls to a peer's socket that deliveries are to make. -/
def due (id : PeerId) (chronicle : List Entry) : List Call :=
  account (Happening.dueTo id) chronicle

/-- The frames that anybody has taken since a peer's session was opened; none if
it was not opened. -/
def takenSince (id : PeerId) : List Entry → Option (List Frame)
  | [] => none
  | entry :: older =>
      match entry.happening with
      | .joined peer => if peer = id then some [] else takenSince id older
      | .took _ (.ok frame) =>
          (takenSince id older).map fun frames => frames ++ [frame]
      | _ => takenSince id older

/-- The envelopes of the messages that anybody has taken since a peer's session
was opened. -/
def envelopesSince (id : PeerId) (chronicle : List Entry) : List Frame :=
  ((takenSince id chronicle).getD []).filterMap Frame.envelope?

/-- The call that a task is to make to a peer's socket if it is a delivery that
has not been started. -/
def Task.callsTo (id : PeerId) (number : TaskId) : Task → List Call
  | .deliver peer frame _ .unstarted =>
      if peer = id then [(number, .frame frame)] else []
  | _ => []

/-- The calls that tasks in line are to make to a peer's socket, in their
order. -/
def callsIn (task : TaskId → Task) (id : PeerId) (line : List TaskId) :
    List Call :=
  line.flatMap fun number => (task number).callsTo id number

/-- The calls that deliveries that are ready are to make to a peer's socket. -/
def Hub.callsAhead (hub : Hub) (id : PeerId) : List Call :=
  callsIn hub.task id hub.ready

theorem Task.callsTo_eq_nil
    {task : Task}
    (other : ∀ peer frame limit, task ≠ .deliver peer frame limit .unstarted)
    (id : PeerId) (number : TaskId) : task.callsTo id number = [] := by
  cases task with
  | deliver peer frame limit stage =>
      cases stage with
      | unstarted => exact absurd rfl (other peer frame limit)
      | _ => rfl
  | _ => rfl

theorem Task.callsTo_of_not_regards
    {id : PeerId} {task : Task} (other : ¬ task.Regards id) (number : TaskId) :
    task.callsTo id number = [] := by
  cases task with
  | deliver peer frame limit stage =>
      cases stage with
      | unstarted => exact if_neg other
      | _ => rfl
  | _ => rfl

@[simp] theorem due_append (id : PeerId) (newer older : List Entry) :
    due id (newer ++ older) = due id older ++ due id newer :=
  account_append _ newer older

/-! ### Lines -/

section

variable {task other : TaskId → Task} {id : PeerId} {first : TaskId}
  {line more : List TaskId}

theorem callsIn_append :
    callsIn task id (line ++ more) =
      callsIn task id line ++ callsIn task id more :=
  List.flatMap_append

theorem callsIn_cons :
    callsIn task id (first :: line) =
      (task first).callsTo id first ++ callsIn task id line :=
  List.flatMap_cons

theorem callsIn_congr
    (same : ∀ number ∈ line, (task number).callsTo id number =
      (other number).callsTo id number) :
    callsIn task id line = callsIn other id line :=
  List.flatMap_congr same

/-- Each recipient has one delivery. -/
theorem flatMap_recipients
    {recipients : List PeerId} (distinct : recipients.Nodup)
    (call : Nat → Call) :
    ((List.range recipients.length).flatMap fun position =>
      if recipients[position]? = some id then [call position] else []) =
      if id ∈ recipients then [call (recipients.idxOf id)] else [] := by
  induction recipients generalizing call with
  | nil => rfl
  | cons first rest induction =>
      obtain ⟨notAgain, distinctRest⟩ := List.nodup_cons.mp distinct
      have later := induction distinctRest fun position => call (position + 1)
      rw [List.length_cons, List.range_succ_eq_map, List.flatMap_cons,
        List.flatMap_map]
      have shifted : ((List.range rest.length).flatMap fun position =>
          if (first :: rest)[position.succ]? = some id then [call position.succ]
            else []) =
          if id ∈ rest then [call (rest.idxOf id + 1)] else [] := later
      rw [shifted]
      by_cases same : first = id
      · rw [same] at notAgain ⊢
        have isFirst : (id :: rest)[0]? = some id := rfl
        rw [if_neg notAgain, if_pos List.mem_cons_self, List.idxOf_cons_self,
          if_pos isFirst]
        rfl
      · have notFirst : ¬ (first :: rest)[0]? = some id :=
          fun isFirst => same (Option.some.inj isFirst)
        rw [if_neg notFirst, List.idxOf_cons_ne rest same, List.nil_append]
        simp only [List.mem_cons, Ne.symm same, false_or]

end

/-- A task that serves a session, or a delivery that has not been started, or is
over. -/
inductive Task.IsPlain : Task → Prop
  | arriving (id : PeerId) : IsPlain (.attend id .arriving)
  | reading (id : PeerId) (alarm : Option Alarm) :
      IsPlain (.attend id (.reading alarm))
  | delivery (id : PeerId) (frame : Frame) (limit : Span) :
      IsPlain (.deliver id frame limit .unstarted)
  | finished (outcome : Outcome) : IsPlain (.finished outcome)

/-- A desk that differs at most in what the client has read. -/
structure Desk.Alike (later desk : Desk) : Prop where
  encoded : later.encoded = desk.encoded
  accepted : later.accepted = desk.accepted
  closed : later.outbound.closed = desk.outbound.closed
  written : later.written = desk.written

/-- Whether a desk stays as it is but for what the client reads. -/
def Socket.KeepsDesk (before after : Socket) : Prop :=
  ∀ desk, before.desk? = some desk → ∃ later, after.desk? = some later ∧
    later.Alike desk

/-- A hub in which nobody stops the server or waits for tasks, and nobody stands
in line twice. -/
structure Smooth (hub : Hub) : Prop where
  goesOn : hub.stopping = false
  unwatched : hub.watches = []
  distinct : hub.ready.Nodup
  inside : ∀ number ∈ hub.ready, number < hub.tasks.size
  plain : ∀ number, (hub.task number).IsPlain
  unregistered : ∀ number id, hub.task number = .attend id .arriving →
    (hub.peer id).registered = false

/-- A peer to which everything that it is to receive has been written or will
be, in that order. -/
structure Echoing (hub : Hub) (id : PeerId) : Prop where
  isOpen : (hub.peer id).closed = false
  free : (hub.peer id).turn = {}
  desk : ∃ desk, (hub.peer id).socket.desk? = some desk ∧ desk.IsClear ∧
    desk.written = (calls id hub.chronicle).flatMap Call.octets
  attended : ∃ task stage, hub.task task = .attend id stage
  registered : (takenSince id hub.chronicle).isSome = (hub.peer id).registered
  passedOn : (due id hub.chronicle).map Prod.snd =
    (envelopesSince id hub.chronicle).map SinkRequest.frame
  inLine : due id hub.chronicle = calls id hub.chronicle ++ hub.callsAhead id

structure Echoes (hub : Hub) : Prop where
  smooth : Smooth hub
  echoing : ∀ id < hub.peers.size, Echoing hub id

/-! ### What is kept -/

section

variable {before after : Hub} {task : TaskId} {id : PeerId} {rest : List TaskId}

/-- What is kept where no session is being opened. -/
theorem Smooth.keep
    (smooth : Smooth before) (stopping : after.stopping = before.stopping)
    (watches : after.watches = before.watches) (distinct : after.ready.Nodup)
    (inside : ∀ number ∈ after.ready, number < after.tasks.size)
    (tasks : ∀ number, after.task number = before.task number ∨
      (after.task number).IsPlain ∧
        ∀ id, after.task number ≠ .attend id .arriving)
    (registered : ∀ number id, after.task number = .attend id .arriving →
      (after.peer id).registered = (before.peer id).registered) :
    Smooth after where
  goesOn := stopping.trans smooth.goesOn
  unwatched := watches.trans smooth.unwatched
  distinct := distinct
  inside := inside
  plain number := by
    rcases tasks number with same | ⟨plain, -⟩
    · rw [same]
      exact smooth.plain number
    · exact plain
  unregistered number id isTask := by
    rcases tasks number with same | ⟨-, other⟩
    · rw [registered number id isTask]
      exact smooth.unregistered number id (same.symm.trans isTask)
    · exact absurd isTask (other id)

theorem Desk.IsClear.alike
    {desk later : Desk} (clear : desk.IsClear) (alike : later.Alike desk) :
    later.IsClear :=
  ⟨alike.accepted.trans clear.accepted, alike.encoded.trans clear.encoded,
    alike.closed.trans clear.isOpen⟩

theorem Socket.keepsDesk_of_eq
    {earlier later : Socket} (same : later.desk? = earlier.desk?) :
    earlier.KeepsDesk later :=
  fun desk isDesk => ⟨desk, same.trans isDesk, rfl, rfl, rfl, rfl⟩

/-- What is kept of a peer to which nothing is written. -/
theorem Echoing.keep
    {news : List Entry} (echoing : Echoing before id)
    (closed : (after.peer id).closed = (before.peer id).closed)
    (turn : (after.peer id).turn = (before.peer id).turn)
    (keepsDesk : (before.peer id).socket.KeepsDesk (after.peer id).socket)
    (attended : ∃ task stage, after.task task = .attend id stage)
    (chronicle : after.chronicle = news ++ before.chronicle)
    (uncalled : calls id news = [])
    (registered : (takenSince id after.chronicle).isSome =
      (after.peer id).registered)
    (passedOn : (due id after.chronicle).map Prod.snd =
      (envelopesSince id after.chronicle).map SinkRequest.frame)
    (ahead : after.callsAhead id = before.callsAhead id ++ due id news) :
    Echoing after id := by
  have sameCalls : calls id after.chronicle = calls id before.chronicle := by
    rw [chronicle, calls_append, uncalled, List.append_nil]
  refine ⟨closed.trans echoing.isOpen, turn.trans echoing.free, ?_, attended,
    registered, passedOn, ?_⟩
  · obtain ⟨desk, isDesk, clear, isWritten⟩ := echoing.desk
    obtain ⟨later, isLater, alike⟩ := keepsDesk desk isDesk
    rw [sameCalls]
    exact ⟨later, isLater, clear.alike alike, alike.written.trans isWritten⟩
  · rw [sameCalls, ahead, chronicle, due_append, echoing.inLine,
      List.append_assoc]

theorem Echoing.still
    (echoing : Echoing before id)
    (kept : PeerKept (before.peer id) (after.peer id))
    (attended : ∃ task stage, after.task task = .attend id stage)
    (chronicle : after.chronicle = before.chronicle)
    (ahead : after.callsAhead id = before.callsAhead id) :
    Echoing after id := by
  refine @Echoing.keep before after id [] echoing kept.closed kept.turn
    (Socket.keepsDesk_of_eq kept.desk) attended chronicle rfl ?_ ?_
    (ahead.trans (List.append_nil _).symm)
  · rw [chronicle, kept.registered]
    exact echoing.registered
  · rw [chronicle]
    exact echoing.passedOn

theorem callsAhead_of_silent (line : before.ready = task :: rest)
    (silent : (before.task task).callsTo id task = []) :
    before.callsAhead id = callsIn before.task id rest := by
  rw [Hub.callsAhead, line, callsIn_cons, silent, List.nil_append]

/-- Those behind the first one keep their calls while only that one does
something. -/
theorem callsIn_rest
    (smooth : Smooth before) (line : before.ready = task :: rest)
    (old : ∀ number < before.tasks.size, number ≠ task →
      after.task number = before.task number) :
    callsIn after.task id rest = callsIn before.task id rest := by
  have distinct := smooth.distinct
  have inside := smooth.inside
  rw [line] at distinct inside
  apply callsIn_congr
  intro number member
  rw [old number (inside number (List.mem_cons_of_mem _ member))]
  rintro rfl
  exact (List.nodup_cons.mp distinct).1 member

theorem filter_of_not_mem {line : List TaskId} (notIn : task ∉ line) :
    line.filter (fun other => other ≠ task) = line := by
  apply List.filter_eq_self.mpr
  intro other member
  apply decide_eq_true
  rintro rfl
  exact notIn member

end

/-! ### Steps of sessions -/

/-- A step of a session that stays: it has something brought, or goes back to
the line, or neither. -/
structure Proceeds (task : TaskId) (id : PeerId) (rest spawned : List TaskId)
    (before after : Hub) : Prop where
  stopping : after.stopping = before.stopping
  watches : after.watches = before.watches
  peers : after.peers.size = before.peers.size
  peer : ∀ other, (after.peer other).closed = (before.peer other).closed ∧
    (after.peer other).turn = (before.peer other).turn ∧
    (after.peer other).socket.desk? = (before.peer other).socket.desk?
  size : before.tasks.size ≤ after.tasks.size
  own : ∃ alarm, after.task task = .attend id (.reading alarm)
  old : ∀ number < before.tasks.size, number ≠ task →
    after.task number = before.task number
  new : ∀ number, before.tasks.size ≤ number → (after.task number).IsPlain ∧
    ∀ peer stage, after.task number ≠ .attend peer stage
  ready :
    spawned = [] ∧ after.ready = rest ∨ after.ready = task :: (rest ++ spawned)
  distinct : spawned.Nodup
  inside : ∀ number ∈ spawned, before.tasks.size ≤ number ∧
    number < after.tasks.size

namespace Proceeds

variable {before after : Hub} {task : TaskId} {id : PeerId}
  {rest spawned : List TaskId} {stage : Attendance}

theorem smooth
    (proceeds : Proceeds task id rest spawned before after)
    (smooth : Smooth before) (line : before.ready = task :: rest)
    (registered : ∀ number other, number ≠ task →
      before.task number = .attend other .arriving →
      (after.peer other).registered = (before.peer other).registered) :
    Smooth after := by
  have distinct := smooth.distinct
  have inside := smooth.inside
  rw [line] at distinct inside
  have sizes := proceeds.size
  have still : ∀ number, after.task number = before.task number ∧
      number ≠ task ∨
      (after.task number).IsPlain ∧
        ∀ other, after.task number ≠ .attend other .arriving := by
    intro number
    by_cases below : number < before.tasks.size
    · by_cases same : number = task
      · obtain ⟨alarm, own⟩ := proceeds.own
        rw [same, own]
        exact .inr ⟨.reading id alarm, by rintro _ ⟨⟩⟩
      · exact .inl ⟨proceeds.old number below same, same⟩
    · obtain ⟨plain, other⟩ := proceeds.new number (Nat.not_lt.mp below)
      exact .inr ⟨plain, fun peer => other peer .arriving⟩
  refine smooth.keep proceeds.stopping proceeds.watches ?_ ?_
    (fun number => ?_) ?_
  · rcases proceeds.ready with ⟨-, same⟩ | same
    · rw [same]
      exact (List.nodup_cons.mp distinct).2
    · rw [same, ← List.cons_append]
      refine List.nodup_append.mpr ⟨distinct, proceeds.distinct, ?_⟩
      rintro number early _ late rfl
      exact Nat.not_le.mpr (inside number early) (proceeds.inside number late).1
  · intro number member
    rcases proceeds.ready with ⟨-, same⟩ | same
    · rw [same] at member
      exact Nat.lt_of_lt_of_le (inside number (List.mem_cons_of_mem _ member))
        sizes
    · rw [same, ← List.cons_append] at member
      rcases List.mem_append.mp member with early | late
      · exact Nat.lt_of_lt_of_le (inside number early) sizes
      · exact (proceeds.inside number late).2
  · rcases still number with ⟨same, -⟩ | plain
    · exact .inl same
    · exact .inr plain
  · intro number other isTask
    rcases still number with ⟨same, different⟩ | ⟨-, never⟩
    · exact registered number other different (same.symm.trans isTask)
    · exact absurd isTask (never other)

theorem attended (proceeds : Proceeds task id rest spawned before after)
    (isTask : before.task task = .attend id stage) {other : PeerId}
    (attended : ∃ number stage, before.task number = .attend other stage) :
    ∃ number stage, after.task number = .attend other stage := by
  obtain ⟨number, other, same⟩ := attended
  by_cases own : number = task
  · rw [own, isTask] at same
    cases same
    obtain ⟨alarm, later⟩ := proceeds.own
    exact ⟨task, .reading alarm, later⟩
  · have below : number < before.tasks.size :=
      before.lt_size_of_task number (by rw [same]; rintro ⟨⟩)
    exact ⟨number, other, (proceeds.old number below own).trans same⟩

/-- Deliveries that are started come behind all that are ready. -/
theorem ahead
    (proceeds : Proceeds task id rest spawned before after)
    (smooth : Smooth before) (line : before.ready = task :: rest)
    (isTask : before.task task = .attend id stage) (other : PeerId) :
    after.callsAhead other =
      before.callsAhead other ++ callsIn after.task other spawned := by
  have silent : (before.task task).callsTo other task = [] := by
    rw [isTask]
    rfl
  rw [callsAhead_of_silent line silent, ← callsIn_rest smooth line proceeds.old]
  rcases proceeds.ready with ⟨none, same⟩ | same
  · rw [Hub.callsAhead, same, none]
    exact (List.append_nil _).symm
  · obtain ⟨alarm, own⟩ := proceeds.own
    rw [Hub.callsAhead, same, callsIn_cons, own, callsIn_append]
    rfl

/-- A step that starts nothing. -/
theorem ofSetTask
    {alarm : Option Alarm} (below : task < before.tasks.size)
    (stopping : after.stopping = before.stopping)
    (watches : after.watches = before.watches)
    (peers : after.peers.size = before.peers.size)
    (peer : ∀ other, (after.peer other).closed = (before.peer other).closed ∧
      (after.peer other).turn = (before.peer other).turn ∧
      (after.peer other).socket.desk? = (before.peer other).socket.desk?)
    (tasks : after.tasks =
      (before.setTask task (.attend id (.reading alarm))).tasks)
    (ready : after.ready = rest ∨ after.ready = task :: rest) :
    Proceeds task id rest [] before after := by
  have size : after.tasks.size = before.tasks.size := by
    rw [tasks, Hub.size_tasks_setTask]
  refine ⟨stopping, watches, peers, peer, Nat.le_of_eq size.symm, ⟨alarm, ?_⟩,
    ?_, ?_, ?_, List.nodup_nil, by rintro _ ⟨⟩⟩
  · rw [Hub.task, tasks]
    exact Hub.task_setTask_self before task _ below
  · intro number _ different
    rw [Hub.task, tasks]
    exact Hub.task_setTask_of_ne before task _ (Ne.symm different)
  · intro number above
    rw [← size] at above
    rw [Hub.task_of_size_le after number above]
    exact ⟨.finished .over, by rintro _ _ ⟨⟩⟩
  · rcases ready with same | same
    · exact .inl ⟨rfl, same⟩
    · rw [List.append_nil]
      exact .inr same

end Proceeds

/-! ### Messages that are taken -/

theorem due_launch
    (id taker : PeerId) (time : Instant) (first : TaskId)
    (recipients : List PeerId) (frame envelope : Frame) (limit : Span) :
    due id [⟨time, .broadcast first recipients envelope limit⟩,
      ⟨time, .took taker (.ok frame)⟩] =
      if id ∈ recipients then [(first + recipients.idxOf id, .frame envelope)]
        else [] := by
  simp [due, Happening.dueTo]

namespace Launches

variable {before rested after : Hub} {task : TaskId} {id other : PeerId}
  {rest : List TaskId} {frame envelope : Frame} {limit : Span}

theorem proceeds
    (launches : Launches task id frame envelope limit rested after)
    (kept : Kept rested after)
    (isRested : rested = { before with ready := rest })
    (below : task < before.tasks.size) (notIn : task ∉ rest) :
    Proceeds task id rest ((List.range rested.registry.length).map
      fun position => rested.tasks.size + position) before after := by
  subst isRested
  refine ⟨kept.stopping, kept.watches, kept.peers, fun other =>
    ⟨(kept.peer other).closed, (kept.peer other).turn, (kept.peer other).desk⟩,
      ?_,
    ⟨none, launches.own⟩, launches.old, fun number above => ?_, .inr ?_, ?_,
    fun number member => ?_⟩
  · rw [launches.size]
    exact Nat.le_add_right _ _
  · by_cases inside : number < after.tasks.size
    · obtain ⟨position, rfl⟩ := Nat.exists_eq_add_of_le above
      rw [launches.size] at inside
      have started := launches.new position (Nat.lt_of_add_lt_add_left inside)
      change after.task (before.tasks.size + position) = _ at started
      rw [started]
      exact ⟨.delivery _ envelope limit, by rintro _ _ ⟨⟩⟩
    · rw [Hub.task_of_size_le after number (Nat.not_lt.mp inside)]
      exact ⟨.finished .over, by rintro _ _ ⟨⟩⟩
  · rw [launches.ready]
    refine congrArg _ (filter_of_not_mem fun member => ?_)
    rcases List.mem_append.mp member with early | late
    · exact notIn early
    · obtain ⟨position, -, same⟩ := List.mem_map.mp late
      exact Nat.ne_of_gt (Nat.lt_add_right position below) same
  · exact List.Nodup.map (fun _ _ => Nat.add_left_cancel) List.nodup_range
  · obtain ⟨position, isPosition, rfl⟩ := List.mem_map.mp member
    rw [launches.size]
    exact ⟨Nat.le_add_right _ _,
      Nat.add_lt_add_left (List.mem_range.mp isPosition) _⟩

/-- Whoever is registered has one delivery among those that are started. -/
theorem callsIn_eq
    (launches : Launches task id frame envelope limit before after) :
    callsIn after.task other ((List.range before.registry.length).map
      fun position => before.tasks.size + position) =
    due other [⟨before.now, .broadcast before.tasks.size before.registry
      envelope limit⟩, ⟨before.now, .took id (.ok frame)⟩] := by
  have each : ∀ position ∈ List.range before.registry.length,
      (after.task (before.tasks.size + position)).callsTo other
        (before.tasks.size + position) =
        if before.registry[position]? = some other then
          [(before.tasks.size + position, .frame envelope)] else [] := by
    intro position isPosition
    have below := List.mem_range.mp isPosition
    rw [launches.new position below, List.getElem?_eq_getElem below]
    simp only [Task.callsTo, Option.some.injEq]
  rw [due_launch, ← flatMap_recipients (Hub.nodup_registry before)
    fun position => (before.tasks.size + position, .frame envelope), callsIn,
    List.flatMap_map]
  exact List.flatMap_congr each

theorem takenSince_eq
    (launches : Launches task id frame envelope limit before after) :
    takenSince other after.chronicle =
      (takenSince other before.chronicle).map fun frames =>
        frames ++ [frame] := by
  rw [launches.chronicle]
  rfl

theorem envelopesSince_eq
    (launches : Launches task id frame envelope limit before after)
    (registered : other ∈ before.registry ↔
      (takenSince other before.chronicle).isSome = true) :
    envelopesSince other after.chronicle =
      envelopesSince other before.chronicle ++
      if other ∈ before.registry then [envelope] else [] := by
  simp only [envelopesSince, registered, launches.takenSince_eq]
  cases takenSince other before.chronicle with
  | none => rfl
  | some frames => simp [launches.message]

end Launches

/-! ### Deliveries -/

namespace Delivered

variable {before after : Hub} {task : TaskId} {id other : PeerId}
  {rest : List TaskId} {frame : Frame} {link : Link} {limit : Span}

theorem old
    (delivered : Delivered task id frame link before after) {number : TaskId}
    (different : number ≠ task) : after.task number = before.task number := by
  rw [Hub.task, delivered.tasks]
  exact Hub.task_setTask_of_ne before task _ (Ne.symm different)

theorem smooth
    (delivered : Delivered task id frame link before after)
    (smooth : Smooth before) (line : before.ready = task :: rest)
    (below : task < before.tasks.size) : Smooth after := by
  have distinct := smooth.distinct
  have inside := smooth.inside
  have ready := delivered.ready
  rw [line] at distinct inside
  rw [line, List.erase_cons_head] at ready
  refine smooth.keep delivered.stopping delivered.watches ?_ ?_
    (fun number => ?_) ?_
  · rw [ready]
    exact (List.nodup_cons.mp distinct).2
  · intro number member
    rw [ready] at member
    rw [delivered.tasks, Hub.size_tasks_setTask]
    exact inside number (List.mem_cons_of_mem _ member)
  · by_cases same : number = task
    · have own : after.task task = .finished (.delivered true) := by
        rw [Hub.task, delivered.tasks]
        exact Hub.task_setTask_self before task _ below
      rw [same, own]
      exact .inr ⟨.finished _, by rintro _ ⟨⟩⟩
    · exact .inl (delivered.old same)
  · intro _ other _
    rw [delivered.peer]
    split
    · rename_i same
      rw [same]
    · rfl

theorem attended (delivered : Delivered task id frame link before after)
    (isTask : before.task task = .deliver id frame limit .unstarted)
    (attended : ∃ number stage, before.task number = .attend other stage) :
    ∃ number stage, after.task number = .attend other stage := by
  obtain ⟨number, stage, same⟩ := attended
  refine ⟨number, stage, (delivered.old ?_).trans same⟩
  rintro rfl
  cases isTask.symm.trans same

theorem behind
    (delivered : Delivered task id frame link before after)
    (smooth : Smooth before) (line : before.ready = task :: rest) :
    after.callsAhead other = callsIn before.task other rest := by
  rw [Hub.callsAhead, delivered.ready, line, List.erase_cons_head]
  exact callsIn_rest smooth line fun number _ => delivered.old

theorem due_eq (delivered : Delivered task id frame link before after) :
    due other after.chronicle = due other before.chronicle := by
  rw [delivered.chronicle]
  exact (due_append other _ _).trans (List.append_nil _)

theorem takenSince_eq (delivered : Delivered task id frame link before after) :
    takenSince other after.chronicle = takenSince other before.chronicle := by
  rw [delivered.chronicle]
  rfl

theorem passedOn
    (delivered : Delivered task id frame link before after)
    (echoing : Echoing before other) :
    (due other after.chronicle).map Prod.snd =
      (envelopesSince other after.chronicle).map SinkRequest.frame := by
  rw [delivered.due_eq, envelopesSince, delivered.takenSince_eq]
  exact echoing.passedOn

/-- For the recipient the first call ahead becomes the last one that was
made. -/
theorem recipient
    (delivered : Delivered task id frame link before after)
    (smooth : Smooth before) (echoing : Echoing before id)
    (line : before.ready = task :: rest)
    (isTask : before.task task = .deliver id frame limit .unstarted)
    (connected : (before.peer id).socket = .link link) : Echoing after id := by
  have called : calls id after.chronicle =
      calls id before.chronicle ++ [(task, .frame frame)] := by
    rw [delivered.chronicle, calls_append]
    simp [calls, Happening.callsTo]
  have ahead :
      before.callsAhead id = (task, .frame frame) :: after.callsAhead id := by
    rw [Hub.callsAhead, line, callsIn_cons, isTask,
      delivered.behind smooth line]
    simp [Task.callsTo]
  have later : after.peer id =
      { before.peer id with socket := .link (link.pass frame) } := by
    rw [delivered.peer, if_pos rfl]
  obtain ⟨desk, isDesk, clear, isWritten⟩ := echoing.desk
  rw [connected] at isDesk
  cases isDesk
  refine ⟨?_, ?_, ⟨(link.pass frame).desk, ?_, Link.clear_pass clear, ?_⟩,
    delivered.attended isTask echoing.attended, ?_, delivered.passedOn echoing,
    ?_⟩
  · rw [later]
    exact echoing.isOpen
  · rw [later]
    exact echoing.free
  · rw [later]
    rfl
  · rw [Link.written_pass, called, List.flatMap_append, List.flatMap_singleton,
      isWritten]
    rfl
  · rw [delivered.takenSince_eq, later]
    exact echoing.registered
  · rw [delivered.due_eq, called, echoing.inLine, ahead, List.append_assoc]
    rfl

theorem bystander
    (delivered : Delivered task id frame link before after)
    (smooth : Smooth before) (echoing : Echoing before other)
    (line : before.ready = task :: rest)
    (isTask : before.task task = .deliver id frame limit .unstarted)
    (different : other ≠ id) : Echoing after other := by
  have same : after.peer other = before.peer other := by
    rw [delivered.peer, if_neg different]
  have silent : (before.task task).callsTo other task = [] := by
    rw [isTask]
    exact if_neg (Ne.symm different)
  refine echoing.keep (congrArg Peer.closed same) (congrArg Peer.turn same)
    (Socket.keepsDesk_of_eq (by rw [same]))
    (delivered.attended isTask echoing.attended)
    delivered.chronicle ?_ ?_ (delivered.passedOn echoing) ?_
  · simp [calls, Happening.callsTo, Ne.symm different]
  · rw [delivered.takenSince_eq, same]
    exact echoing.registered
  · rw [delivered.behind smooth line, callsAhead_of_silent line silent]
    exact (List.append_nil _).symm

end Delivered

namespace Echoes

variable {before after : Hub} {task : TaskId} {id : PeerId} {rest : List TaskId}

theorem below (echoes : Echoes before) (line : before.ready = task :: rest) :
    task < before.tasks.size := by
  apply echoes.smooth.inside
  rw [line]
  exact List.mem_cons_self

theorem not_mem_rest
    (echoes : Echoes before) (line : before.ready = task :: rest) :
    task ∉ rest := by
  have distinct := echoes.smooth.distinct
  rw [line] at distinct
  exact (List.nodup_cons.mp distinct).1

theorem looks
    {alarm old : Option Alarm} (echoes : Echoes before)
    (line : before.ready = task :: rest)
    (isTask : before.task task = .attend id (.reading old))
    (kept : Kept before after)
    (tasks : after.tasks =
      (before.setTask task (.attend id (.reading alarm))).tasks)
    (ready : after.ready = rest ∨ after.ready = task :: rest)
    (chronicle : after.chronicle = before.chronicle) : Echoes after := by
  have proceeds : Proceeds task id rest [] before after :=
    .ofSetTask (echoes.below line) kept.stopping kept.watches kept.peers
      (fun other => ⟨(kept.peer other).closed, (kept.peer other).turn,
        (kept.peer other).desk⟩)
      tasks ready
  refine ⟨proceeds.smooth echoes.smooth line fun _ other _ _ =>
    (kept.peer other).registered,
      fun other isPeer => ?_⟩
  rw [kept.peers] at isPeer
  have echoing := echoes.echoing other isPeer
  refine echoing.still (kept.peer other)
    (proceeds.attended isTask echoing.attended) chronicle ?_
  rw [proceeds.ahead echoes.smooth line isTask]
  exact List.append_nil _

/-- A session is opened.  Nothing has been due to its peer before. -/
theorem joins
    (echoes : Echoes before) (attended : Attended before)
    (line : before.ready = task :: rest)
    (isTask : before.task task = .attend id .arriving) {rested : Hub}
    (isRested : rested = { before with ready := rest })
    (joins : Joins task id rested after) : Echoes after := by
  subst isRested
  have ready : after.ready = task :: rest := by
    rw [joins.ready]
    exact congrArg _ (filter_of_not_mem (echoes.not_mem_rest line))
  have proceeds : Proceeds task id rest [] before after :=
    .ofSetTask (echoes.below line) joins.stopping joins.watches joins.peers
      joins.peer joins.tasks (.inr ready)
  have others : ∀ other, other ≠ id →
      (after.peer other).registered = (before.peer other).registered := by
    intro other different
    rw [joins.registered, if_neg different]
    rfl
  refine ⟨proceeds.smooth echoes.smooth line ?_, fun other isPeer => ?_⟩
  · intro number other different isOther
    apply others
    rintro rfl
    exact different (attended.sole (congrArg Task.serves? isOther)
      (congrArg Task.serves? isTask))
  · rw [joins.peers] at isPeer
    have echoing := echoes.echoing other isPeer
    obtain ⟨closed, turn, desk⟩ := joins.peer other
    have chronicle :
        after.chronicle = [⟨before.now, .joined id⟩] ++ before.chronicle :=
      joins.chronicle
    have taken : takenSince other after.chronicle =
        if id = other then some [] else takenSince other before.chronicle := by
      rw [chronicle]
      rfl
    have same : due other after.chronicle = due other before.chronicle := by
      rw [chronicle]
      exact (due_append other _ _).trans (List.append_nil _)
    refine echoing.keep closed turn (Socket.keepsDesk_of_eq desk)
      (proceeds.attended isTask echoing.attended) chronicle rfl ?_ ?_
      (proceeds.ahead echoes.smooth line isTask other)
    · rw [taken]
      split
      · rename_i isOpened
        rw [joins.registered, if_pos isOpened.symm]
        rfl
      · rename_i different
        rw [others other (Ne.symm different)]
        exact echoing.registered
    · rw [same, echoing.passedOn, envelopesSince, envelopesSince, taken]
      split
      · rename_i isOpened
        have never : (takenSince other before.chronicle).isSome = false := by
          rw [echoing.registered, ← isOpened]
          exact echoes.smooth.unregistered task id isTask
        rw [Option.isNone_iff_eq_none.mp (Option.isSome_eq_false_iff.mp never)]
        rfl
      · rfl

/-- A session takes a message, which is brought to all who are registered. -/
theorem takes
    {old : Option Alarm} {frame envelope : Frame} {limit : Span}
    (echoes : Echoes before) (line : before.ready = task :: rest)
    (isTask : before.task task = .attend id (.reading old)) {rested : Hub}
    (isRested : rested = { before with ready := rest })
    (kept : Kept rested after)
    (launches : Launches task id frame envelope limit rested after) :
    Echoes after := by
  have proceeds := launches.proceeds kept isRested (echoes.below line)
    (echoes.not_mem_rest line)
  subst isRested
  refine ⟨proceeds.smooth echoes.smooth line fun _ other _ _ =>
    (kept.peer other).registered,
      fun other isPeer => ?_⟩
  rw [kept.peers] at isPeer
  have echoing := echoes.echoing other isPeer
  refine echoing.keep (kept.peer other).closed (kept.peer other).turn
    (Socket.keepsDesk_of_eq (kept.peer other).desk)
    (proceeds.attended isTask echoing.attended) launches.chronicle rfl ?_ ?_ ?_
  · rw [launches.takenSince_eq, Option.isSome_map, (kept.peer other).registered]
    exact echoing.registered
  · have registered : other ∈ before.registry ↔
      (takenSince other before.chronicle).isSome = true := by
      rw [echoing.registered, Hub.mem_registry]
      exact and_iff_right isPeer
    rw [launches.chronicle, due_append, List.map_append, ← launches.chronicle,
      launches.envelopesSince_eq registered, List.map_append]
    refine congrArg₂ _ echoing.passedOn ?_
    rw [due_launch]
    split <;> rfl
  · rw [proceeds.ahead echoes.smooth line isTask, launches.callsIn_eq]

theorem delivers
    {frame : Frame} {limit : Span} {link : Link} (echoes : Echoes before)
    (line : before.ready = task :: rest)
    (isTask : before.task task = .deliver id frame limit .unstarted)
    (connected : (before.peer id).socket = .link link)
    (delivered : Delivered task id frame link before after) : Echoes after := by
  refine ⟨delivered.smooth echoes.smooth line (echoes.below line),
    fun other isPeer => ?_⟩
  rw [delivered.peers] at isPeer
  have echoing := echoes.echoing other isPeer
  by_cases same : other = id
  · subst same
    exact delivered.recipient echoes.smooth echoing line isTask connected
  · exact delivered.bystander echoes.smooth echoing line isTask same

/-- A task that is over is not looked at. -/
theorem leaves
    {outcome : Outcome} (echoes : Echoes before)
    (line : before.ready = task :: rest)
    (isTask : before.task task = .finished outcome) :
    Echoes { before with ready := rest } := by
  have distinct := echoes.smooth.distinct
  have inside := echoes.smooth.inside
  rw [line] at distinct inside
  refine ⟨echoes.smooth.keep rfl rfl (List.nodup_cons.mp distinct).2
    (fun number member => inside number (List.mem_cons_of_mem _ member))
    (fun _ => .inl rfl) fun _ _ _ => rfl, fun other isPeer => ?_⟩
  have echoing := echoes.echoing other isPeer
  refine echoing.still ⟨rfl, rfl, rfl, rfl⟩ echoing.attended rfl ?_
  have silent : (before.task task).callsTo other task = [] := by
    rw [isTask]
    rfl
  rw [callsAhead_of_silent line silent]
  rfl

end Echoes

/-- Whether the frame that is written next fits into its pipe. -/
def Hub.HasRoom (hub : Hub) : Prop :=
  ∀ task id frame limit link, hub.ready.head? = some task →
    hub.task task = .deliver id frame limit .unstarted →
      (hub.peer id).socket = .link link →
      (Wire.encode frame).length ≤ link.outbound.room

/-- A task goes on, and the hub still echoes. -/
theorem Echoes.goOn
    {hub : Hub} {task : TaskId} {rest : List TaskId} (echoes : Echoes hub)
    (housed : Housed hub) (attended : Attended hub)
    (line : hub.ready = task :: rest) (room : hub.HasRoom)
    (undisturbed : Undisturbed (hub.goOn task).chronicle) :
    Echoes (hub.goOn task) := by
  let rested : Hub := { hub with ready := rest }
  have erased : hub.ready.erase task = rest := by
    rw [line, List.erase_cons_head]
  have goes : hub.goOn task = rested.poll task := by
    rw [Hub.goOn, erased]
  have below : task < rested.tasks.size := echoes.below line
  have notIn := echoes.not_mem_rest line
  have plain := echoes.smooth.plain task
  generalize isTask : hub.task task = stage at plain
  have isRested : rested.task task = stage := isTask
  cases plain with
  | arriving id =>
      rw [goes, Hub.poll, isRested]
      exact echoes.joins attended line isTask rfl
        (Hub.joins_arrive (housed.tasks task id (isTask ▸ rfl))
          echoes.smooth.goesOn)
  | reading id alarm =>
      have reads : hub.goOn task = rested.read task id alarm := by
        rw [goes, Hub.poll, isRested]
        rfl
      rw [reads] at undisturbed ⊢
      have echoing := echoes.echoing id (housed.tasks task id (isTask ▸ rfl))
      obtain ⟨kept, read⟩ :=
        @Hub.reads_read rested task id below echoing.isOpen alarm undisturbed
      cases read with
      | looks tasks ready chronicle =>
          have started : Kept hub rested := .ofPeers rfl rfl rfl
          refine echoes.looks line isTask (started.trans kept) tasks
            (ready.imp_right fun same => ?_) chronicle
          rw [same]
          exact congrArg _ (filter_of_not_mem notIn)
      | takes launches => exact echoes.takes line isTask rfl kept launches
  | delivery id frame limit =>
      have inside : id < hub.peers.size := housed.tasks task id (isTask ▸ rfl)
      have echoing := echoes.echoing id inside
      obtain ⟨desk, isDesk, clear, -⟩ := echoing.desk
      obtain ⟨link, connected, rfl⟩ := Socket.desk?_eq_some isDesk
      have fits :=
        room task id frame limit link (by rw [line]; rfl) isTask connected
      exact echoes.delivers line isTask connected
        (Hub.delivered_goOn isTask inside connected clear
        fits echoing.isOpen echoing.free echoes.smooth.unwatched)
  | finished outcome =>
      rw [goes, Hub.poll, isRested]
      exact echoes.leaves line isTask

end BroadcastHub.Server
