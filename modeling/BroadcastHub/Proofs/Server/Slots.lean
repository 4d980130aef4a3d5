import BroadcastHub.Proofs.Server.Admitting
import BroadcastHub.Proofs.Server.Residence

/-!
# Each slot belongs to a session

A slot is taken when a client is told that a session follows, and it is given
back when the task that came of that ends.  `SlotsMatch` says that the slots
in use are those of the clients who were told so and whose tasks go on.

A task that goes on either leaves all this alone, or it is a conversation that
turns into a session, or a session that ends.
-/

namespace BroadcastHub.Server

/-- Whether a client has been told that a session follows. -/
def Socket.isSwitched (socket : Socket) : Bool :=
  socket.responses.any fun response => response.status = 101

/-- What of a peer has to do with slots. -/
structure Claim where
  holdsSlot : Bool
  attendant : Option TaskId
  isSwitched : Bool

def Peer.claim (peer : Peer) : Claim :=
  ⟨peer.holdsSlot, peer.attendant, peer.socket.isSwitched⟩

theorem lasting_claim : Lasting Peer.claim where
  socket peer socket responses := by
    have switched : socket.isSwitched = peer.socket.isSwitched := by
      unfold Socket.isSwitched
      rw [responses]
    exact congrArg (Claim.mk peer.holdsSlot peer.attendant) switched
  turn _ _ := rfl
  ponging _ _ := rfl
  readDeadline _ _ := rfl

theorem ignoresClosing_claim : IgnoresClosing Peer.claim := fun _ _ => rfl

theorem ignoresRegistry_claim : IgnoresRegistry Peer.claim := fun _ _ _ => rfl

/-- The session of a task, and whether the task is finished. -/
def Task.seat : Task → Option PeerId × Bool
  | attend id _ => (some id, false)
  | finished _ => (none, true)
  | _ => (none, false)

theorem Task.isFinished_eq_seat (task : Task) :
    task.isFinished = task.seat.2 := by
  cases task <;> rfl

namespace Hub

/-- Whether the task that serves a peer goes on. -/
def isServed (hub : Hub) (id : PeerId) : Bool :=
  match (hub.peer id).attendant with
  | some task => !(hub.task task).isFinished
  | none => false

/-- Whether a client was told that a session follows, and the task that came of
that goes on. -/
def isAdmitted (hub : Hub) (id : PeerId) : Bool :=
  (hub.peer id).socket.isSwitched && hub.isServed id

def admitted (hub : Hub) : List PeerId :=
  hub.peers.numbers.filter hub.isAdmitted

end Hub

/-- The slots in use are those of the admitted peers. -/
structure SlotsMatch (hub : Hub) : Prop where
  seated : ∀ id, (hub.peer id).socket.isSwitched = true →
    ∃ task, Seated hub task id
  holds : ∀ id, (hub.peer id).holdsSlot = hub.isAdmitted id
  held : hub.admission.held = hub.admitted.length
  capacity : hub.admission.capacity =
    (Admission.ofMaximum hub.configuration.maxConnections).capacity
  bound : ∀ capacity, hub.admission.capacity = some capacity →
    hub.admission.held ≤ capacity

/-! ### Counting -/

/-- Two ways to count agree but for what they make of the one item on which they
differ. -/
theorem countP_add_toNat
    {α : Type} {items : List α} (distinct : items.Nodup) {item : α}
    (member : item ∈ items) {first second : α → Bool}
    (others : ∀ other ∈ items, other ≠ item → first other = second other) :
    items.countP first + (second item).toNat =
      items.countP second + (first item).toNat := by
  induction items with
  | nil => cases member
  | cons head rest induction =>
      obtain ⟨notRest, distinctRest⟩ := List.nodup_cons.mp distinct
      by_cases same : item = head
      · subst same
        have agree : rest.countP first = rest.countP second := by
          refine List.countP_congr fun other isOther => ?_
          rw [others other (List.mem_cons_of_mem _ isOther) fun equal =>
            notRest (equal ▸ isOther)]
        rw [List.countP_cons, List.countP_cons, agree]
        cases first item <;> cases second item <;> rfl
      · have inRest := (List.mem_cons.mp member).resolve_left same
        have agree :=
          others head List.mem_cons_self fun equal => same equal.symm
        have rest := induction distinctRest inRest fun other isOther =>
          others other (List.mem_cons_of_mem _ isOther)
        rw [List.countP_cons, List.countP_cons, agree]
        omega

namespace Hub

variable {before after : Hub} {id : PeerId}

theorem length_admitted (hub : Hub) :
    hub.admitted.length = hub.peers.numbers.countP hub.isAdmitted :=
  List.countP_eq_length_filter.symm

theorem admitted_eq (peers : after.peers.size = before.peers.size)
    (same : ∀ id, after.isAdmitted id = before.isAdmitted id) :
    after.admitted = before.admitted := by
  unfold admitted Table.numbers
  rw [peers]
  exact List.filter_congr fun id _ => same id

theorem length_admitted_of_flip
    (peers : after.peers.size = before.peers.size)
    (inside : id < before.peers.size) (isAdmitted : before.isAdmitted id = true)
    (notAdmitted : after.isAdmitted id = false)
    (others : ∀ other, other ≠ id →
      after.isAdmitted other = before.isAdmitted other) :
    before.admitted.length = after.admitted.length + 1 := by
  have flipped : before.peers.numbers.countP before.isAdmitted +
      (after.isAdmitted id).toNat =
      before.peers.numbers.countP after.isAdmitted +
        (before.isAdmitted id).toNat :=
    countP_add_toNat List.nodup_range (List.mem_range.mpr inside)
      fun other _ different => (others other different).symm
  rw [isAdmitted, notAdmitted] at flipped
  rw [length_admitted, length_admitted, Table.numbers, Table.numbers, peers]
  exact flipped

end Hub

/-! ### What is left alone -/

/-- Nothing changes the sessions of tasks but one task, and nobody joins. -/
structure SeatsKept (own : Option TaskId) (before after : Hub) : Prop where
  configuration : after.configuration = before.configuration
  peers : after.peers.size = before.peers.size
  tasks_le : before.tasks.size ≤ after.tasks.size
  seat : ∀ number < before.tasks.size, own ≠ some number →
    (after.task number).seat = (before.task number).seat

theorem SeatsKept.ofCourse
    {doer : Doer} {before after : Hub} (course : Course doer before after) :
    SeatsKept doer.task before after where
  configuration := course.configuration
  peers := course.peers
  tasks_le := course.tasks_le
  seat number below other := congrArg Task.seat (course.task number below other)

namespace Seated

variable {own : Option TaskId} {before after hub : Hub} {task : TaskId}
  {id : PeerId}

theorem seat (seated : Seated hub task id) :
    (hub.task task).seat = (some id, false) ∨
      (hub.task task).seat = (none, true) := by
  rcases seated.isTask with ⟨stage, isTask⟩ | finished
  · exact .inl (congrArg Task.seat isTask)
  · cases isTask : hub.task task with
    | finished outcome => exact .inr rfl
    | _ =>
        rw [isTask] at finished
        cases finished

theorem isTask_of_seat
    (seat : (hub.task task).seat = (some id, false) ∨
      (hub.task task).seat = (none, true)) :
    (∃ stage, hub.task task = .attend id stage) ∨
      (hub.task task).isFinished = true := by
  cases isTask : hub.task task with
  | attend other stage =>
      rw [isTask] at seat
      rcases seat with same | never
      · cases same
        exact .inl ⟨stage, rfl⟩
      · cases never
  | finished outcome => exact .inr rfl
  | _ =>
      rw [isTask] at seat
      rcases seat with never | never <;> cases never

/-- A session whose claim and whose task's part in it stay has its task as
before. -/
theorem stays
    (seated : Seated before task id) (seatsKept : SeatsKept own before after)
    (claim : (after.peer id).claim = (before.peer id).claim)
    (ownSeat : own = some task →
      (after.task task).seat = (before.task task).seat) :
    Seated after task id ∧ after.isServed id = before.isServed id := by
  have attendant : (after.peer id).attendant = some task :=
    (congrArg Claim.attendant claim).trans seated.attendant
  have sameSeat : (after.task task).seat = (before.task task).seat := by
    by_cases isOwn : own = some task
    · exact ownSeat isOwn
    · exact seatsKept.seat task seated.below isOwn
  refine ⟨⟨seatsKept.peers ▸ seated.inside,
    Nat.lt_of_lt_of_le seated.below seatsKept.tasks_le,
    attendant, isTask_of_seat (sameSeat ▸ seated.seat)⟩, ?_⟩
  simp only [Hub.isServed, attendant, seated.attendant, Task.isFinished_eq_seat,
    sameSeat]

end Seated

namespace SlotsMatch

variable {own : Option TaskId} {hub before after middle : Hub} {task : TaskId}
  {id : PeerId}

theorem start (configuration : Configuration) (chance : Nat → Nat) :
    SlotsMatch { Hub.start configuration with chance } where
  seated id switched := by
    rw [Hub.peer_of_size_le { Hub.start configuration with chance } id
      (Nat.zero_le id)] at switched
    cases switched
  holds id := by
    rw [Hub.isAdmitted,
      Hub.peer_of_size_le { Hub.start configuration with chance } id
        (Nat.zero_le id)]
    rfl
  held := rfl
  capacity := rfl
  bound _ _ := Nat.zero_le _

/-- What is left of a peer whose claim stays. -/
theorem ofClaim
    (slots : SlotsMatch before) (seatsKept : SeatsKept own before after)
    (ownSeat : ∀ task, own = some task → Seated before task id →
      (before.peer id).socket.isSwitched = true →
      (after.task task).seat = (before.task task).seat)
    (claim : (after.peer id).claim = (before.peer id).claim) :
    ((after.peer id).socket.isSwitched = true → ∃ task, Seated after task id) ∧
      after.isAdmitted id = before.isAdmitted id := by
  have switched :
      (after.peer id).socket.isSwitched = (before.peer id).socket.isSwitched :=
    congrArg Claim.isSwitched claim
  cases was : (before.peer id).socket.isSwitched with
  | false =>
      rw [was] at switched
      refine ⟨fun isSwitched => ?_, ?_⟩
      · cases switched.symm.trans isSwitched
      · simp only [Hub.isAdmitted, switched, was, Bool.false_and]
  | true =>
      obtain ⟨task, seated⟩ := slots.seated id was
      obtain ⟨later, served⟩ := seated.stays seatsKept claim
        fun isOwn => ownSeat task isOwn seated was
      refine ⟨fun _ => ⟨task, later⟩, ?_⟩
      simp only [Hub.isAdmitted, switched, served]

theorem stays
    (slots : SlotsMatch before) (keeps : Keeps Peer.claim before after)
    (seatsKept : SeatsKept own before after)
    (ownSeat : ∀ task id, own = some task → Seated before task id →
      (before.peer id).socket.isSwitched = true →
      (after.task task).seat = (before.task task).seat) : SlotsMatch after := by
  have kept := fun id => slots.ofClaim seatsKept (fun task => ownSeat task id)
    (keeps.peer id)
  refine ⟨fun id => (kept id).1, fun id => ?_, ?_, ?_, ?_⟩
  · rw [(kept id).2, ← slots.holds id]
    exact congrArg Claim.holdsSlot (keeps.peer id)
  · rw [keeps.admission, Hub.admitted_eq seatsKept.peers fun id => (kept id).2]
    exact slots.held
  · rw [keeps.admission, seatsKept.configuration]
    exact slots.capacity
  · rw [keeps.admission]
    exact slots.bound

theorem eq_of_seated
    {stage : Attendance} (isTask : hub.task task = .attend id stage)
    {other : PeerId} (seated : Seated hub task other) : other = id := by
  rcases seated.isTask with ⟨otherStage, same⟩ | finished
  · cases isTask.symm.trans same
    rfl
  · rw [isTask] at finished
    cases finished

end SlotsMatch

/-! ### The end of a session -/

namespace Hub

variable (hub : Hub) (task : TaskId) (id other : PeerId) (outcome : Outcome)

theorem admission_finish :
    (hub.finish task outcome).admission = hub.admission :=
  (Keeps.finish hub task outcome : Keeps Peer.claim hub _).admission

theorem admission_releaseSlot :
    (hub.releaseSlot id).admission =
      if (hub.peer id).holdsSlot then hub.admission.release
        else hub.admission := by
  unfold releaseSlot
  split <;> rfl

theorem claim_releaseSlot :
    ((hub.releaseSlot id).peer other).claim =
      { (hub.peer other).claim with
        holdsSlot := (hub.peer other).holdsSlot && !decide (other = id) } := by
  unfold releaseSlot
  by_cases holds : (hub.peer id).holdsSlot = true
  · rw [if_pos holds]
    show ((hub.updatePeer id _).peer other).claim = _
    by_cases same : other = id
    · subst same
      have inside : other < hub.peers.size := by
        refine Nat.lt_of_not_le fun outside => ?_
        rw [peer_of_size_le hub other outside] at holds
        cases holds
      rw [peer_updatePeer_self hub other _ inside]
      simp [Peer.claim]
    · rw [peer_updatePeer_of_ne hub id other _ fun equal => same equal.symm]
      simp [Peer.claim, same]
  · rw [if_neg holds]
    by_cases same : other = id
    · subst same
      simp [Peer.claim, Bool.eq_false_iff.mpr holds]
    · simp [Peer.claim, same]

end Hub

namespace SlotsMatch

variable {before middle : Hub} {task : TaskId} {id : PeerId}

/-- The task of a session ends and gives its slot back, if it has one. -/
theorem ends
    (slots : SlotsMatch before) {stage : Attendance}
    (isTask : before.task task = .attend id stage)
    (attendant : (before.peer id).attendant = some task)
    (inside : id < before.peers.size) (keeps : Keeps Peer.claim before middle)
    (below : task < middle.tasks.size) {outcome : Outcome}
    (seatsKept : SeatsKept (some task) before
      ((middle.releaseSlot id).finish task outcome)) :
    SlotsMatch ((middle.releaseSlot id).finish task outcome) := by
  have claims : ∀ other,
      (((middle.releaseSlot id).finish task outcome).peer other).claim =
      { (before.peer other).claim with
        holdsSlot :=
          (before.peer other).holdsSlot && !decide (other = id) } := by
    intro other
    rw [Hub.peer_finish, Hub.claim_releaseSlot, keeps.peer other]
    exact congrArg (fun claim : Claim => { (before.peer other).claim with
      holdsSlot := claim.holdsSlot && !decide (other = id) }) (keeps.peer other)
  have finished : ((middle.releaseSlot id).finish task outcome).task task =
      .finished outcome := by
    refine Hub.task_finish_self _ task outcome ?_
    rw [Hub.tasks_releaseSlot]
    exact below
  have admission : ((middle.releaseSlot id).finish task outcome).admission =
      if (before.peer id).holdsSlot then before.admission.release
        else before.admission := by
    have holds : (middle.peer id).holdsSlot = (before.peer id).holdsSlot :=
      congrArg Claim.holdsSlot (keeps.peer id)
    rw [Hub.admission_finish, Hub.admission_releaseSlot, holds, keeps.admission]
  generalize (middle.releaseSlot id).finish task outcome = after
    at claims finished admission seatsKept ⊢
  have others : ∀ other, other ≠ id →
      ((after.peer other).socket.isSwitched = true →
        ∃ task, Seated after task other) ∧
          after.isAdmitted other = before.isAdmitted other := by
    intro other different
    refine slots.ofClaim seatsKept (fun number isOwn seated _ => ?_) ?_
    · cases isOwn
      exact absurd (eq_of_seated isTask seated) different
    · rw [claims other]
      simp [Peer.claim, different]
  have ended : (after.peer id).attendant = some task :=
    (congrArg Claim.attendant (claims id)).trans attendant
  have notAdmitted : after.isAdmitted id = false := by
    simp only [Hub.isAdmitted, Hub.isServed, ended, finished]
    exact Bool.and_false _
  -- A slot is given back exactly if the session had been admitted, which it no
  -- longer is.
  have held : after.admission.held = after.admitted.length ∧
      after.admission.capacity = before.admission.capacity ∧
      after.admission.held ≤ before.admission.held := by
    cases holds : (before.peer id).holdsSlot with
    | true =>
        rw [holds, if_pos rfl] at admission
        have fewer := Hub.length_admitted_of_flip seatsKept.peers inside
          ((slots.holds id).symm.trans holds) notAdmitted fun other different =>
            (others other different).2
        have count := slots.held
        rw [admission]
        exact ⟨by simp only [Admission.release]; omega, rfl, Nat.sub_le _ _⟩
    | false =>
        rw [holds, if_neg Bool.false_ne_true] at admission
        have same :
            ∀ other, after.isAdmitted other = before.isAdmitted other := by
          intro other
          by_cases isOwn : other = id
          · rw [isOwn, notAdmitted, ← slots.holds id, holds]
          · exact (others other isOwn).2
        rw [admission, Hub.admitted_eq seatsKept.peers same]
        exact ⟨slots.held, rfl, Nat.le_refl _⟩
  refine ⟨fun other switched => ?_, fun other => ?_, held.1, ?_,
    fun capacity isCapacity => ?_⟩
  · by_cases same : other = id
    · subst same
      refine ⟨task, seatsKept.peers ▸ inside, ?_, ended,
        .inr (congrArg Task.isFinished finished)⟩
      refine Nat.lt_of_lt_of_le ?_ seatsKept.tasks_le
      exact before.lt_size_of_task task (by rw [isTask]; rintro ⟨⟩)
    · exact (others other same).1 switched
  · have holds : (after.peer other).holdsSlot = _ :=
      congrArg Claim.holdsSlot (claims other)
    rw [holds]
    by_cases same : other = id
    · subst same
      rw [notAdmitted]
      simp
    · rw [(others other same).2, ← slots.holds other]
      simp [same]
  · rw [held.2.1, seatsKept.configuration]
    exact slots.capacity
  · rw [held.2.1] at isCapacity
    exact Nat.le_trans held.2.2 (slots.bound capacity isCapacity)

end SlotsMatch

/-! ### The beginning of a session -/

namespace Hub

variable (hub : Hub) (task : TaskId) {id : PeerId}

theorem claim_beginSession_of_ne {other : PeerId} (different : other ≠ id) :
    ((hub.beginSession task id).peer other).claim = (hub.peer other).claim := by
  unfold beginSession
  simp only [peer_finish]
  exact congrArg Peer.claim (peer_updatePeer_of_ne hub id other _ fun equal =>
    different equal.symm)

theorem claim_beginSession (inside : id < hub.peers.size) :
    ((hub.beginSession task id).peer id).claim =
      ⟨true, some hub.nextTask, (hub.peer id).socket.isSwitched⟩ := by
  unfold beginSession
  simp only [peer_finish]
  exact congrArg Peer.claim (peer_updatePeer_self hub id _ inside)

variable {task}

theorem task_beginSession (id : PeerId) (below : task < hub.tasks.size) :
    (hub.beginSession task id).task hub.nextTask = .attend id .arriving ∧
      hub.nextTask < (hub.beginSession task id).tasks.size := by
  let spawned := (hub.updatePeer id fun peer =>
    { peer with holdsSlot := true, attendant := some hub.nextTask }).spawn
      (.attend id .arriving)
  obtain ⟨ready, watches, same, -⟩ := finish_eq spawned task .over
  have begun : hub.beginSession task id = _ := same
  rw [begun]
  have size : spawned.tasks.size = hub.tasks.size + 1 := size_tasks_spawn _ _
  refine ⟨(task_setTask_of_ne spawned task _ (Nat.ne_of_lt below)).trans ?_, ?_⟩
  · exact (task_spawn _ _ _).trans (if_pos rfl)
  · refine Nat.lt_of_lt_of_le (Nat.lt_succ_self _) (Nat.le_of_eq ?_)
    exact ((size_tasks_setTask spawned task _).trans size).symm

variable (task)

theorem admission_beginSession (id : PeerId) :
    (hub.beginSession task id).admission = hub.admission :=
  admission_finish _ task .over

end Hub

namespace SlotsMatch

variable {before middle : Hub} {task : TaskId} {id : PeerId}

/-- A client that still asks has not been told that a session follows. -/
theorem not_isSwitched
    (slots : SlotsMatch before) (attended : Attended before)
    (isTask : before.task task = .converse id) :
    (before.peer id).socket.isSwitched = false := by
  cases switched : (before.peer id).socket.isSwitched with
  | false => rfl
  | true =>
      obtain ⟨seat, seated⟩ := slots.seated id switched
      have serves : (before.task task).serves? = some id := by
        rw [isTask]
        rfl
      cases seated.attendant.symm.trans (attended task id serves)
      rcases seated.isTask with ⟨stage, attends⟩ | finished
      · cases isTask.symm.trans attends
      · rw [isTask] at finished
        cases finished

theorem not_seated (isTask : before.task task = .converse id) (other : PeerId) :
    ¬ Seated before task other := by
  intro seated
  rcases seated.isTask with ⟨stage, attends⟩ | finished
  · cases isTask.symm.trans attends
  · rw [isTask] at finished
    cases finished

/-- A conversation turns into a session, which has taken a slot. -/
theorem begins
    (slots : SlotsMatch before) (attended : Attended before)
    (isTask : before.task task = .converse id) (inside : id < before.peers.size)
    (free : before.admission.available ≠ some 0)
    (admission : middle.admission = before.admission.take)
    (peers : middle.peers.size = before.peers.size)
    (others : ∀ other, other ≠ id →
      (middle.peer other).claim = (before.peer other).claim)
    (isSwitched : (middle.peer id).socket.isSwitched = true)
    (below : task < middle.tasks.size)
    (seatsKept : SeatsKept (some task) before (middle.beginSession task id)) :
    SlotsMatch (middle.beginSession task id) := by
  have claims : ∀ other, other ≠ id →
      ((middle.beginSession task id).peer other).claim =
        (before.peer other).claim :=
    fun other different =>
      (middle.claim_beginSession_of_ne task different).trans
        (others other different)
  have claim :=
    middle.claim_beginSession task (peers ▸ inside : id < middle.peers.size)
  obtain ⟨attends, isNew⟩ := middle.task_beginSession id below
  have taken :
      (middle.beginSession task id).admission = before.admission.take :=
    (middle.admission_beginSession task id).trans admission
  rw [isSwitched] at claim
  generalize middle.beginSession task id =
    after at claims claim attends isNew taken seatsKept ⊢
  have kept : ∀ other, other ≠ id →
      ((after.peer other).socket.isSwitched = true →
        ∃ task, Seated after task other) ∧
          after.isAdmitted other = before.isAdmitted other := by
    intro other different
    refine slots.ofClaim seatsKept (fun number isOwn seated _ => ?_)
      (claims other different)
    cases isOwn
    exact absurd seated (not_seated isTask other)
  have attendant : (after.peer id).attendant = some middle.nextTask :=
    congrArg Claim.attendant claim
  have switched : (after.peer id).socket.isSwitched = true :=
    congrArg Claim.isSwitched claim
  have isAdmitted : after.isAdmitted id = true := by
    simp only [Hub.isAdmitted, Hub.isServed, switched, attendant, attends]
    rfl
  have wasNot : before.isAdmitted id = false := by
    rw [Hub.isAdmitted, slots.not_isSwitched attended isTask, Bool.false_and]
  have more : after.admitted.length = before.admitted.length + 1 :=
    Hub.length_admitted_of_flip seatsKept.peers.symm
      (seatsKept.peers.symm ▸ inside) isAdmitted
      wasNot fun other different => (kept other different).2.symm
  refine ⟨fun other isOther => ?_, fun other => ?_, ?_, ?_,
    fun capacity isCapacity => ?_⟩
  · by_cases same : other = id
    · subst same
      exact ⟨_, seatsKept.peers ▸ inside, isNew, attendant, .inl ⟨_, attends⟩⟩
    · exact (kept other same).1 isOther
  · by_cases same : other = id
    · subst same
      rw [isAdmitted]
      exact congrArg Claim.holdsSlot claim
    · rw [(kept other same).2, ← slots.holds other]
      exact congrArg Claim.holdsSlot (claims other same)
  · rw [taken, more, ← slots.held]
    rfl
  · rw [taken, seatsKept.configuration]
    exact slots.capacity
  · rw [taken] at isCapacity ⊢
    exact Admission.held_lt_of_free isCapacity free

/-- A peer joins that has not been told anything. -/
theorem joins
    (slots : SlotsMatch before) {after : Hub} {peer : Peer}
    (peers : after.peers = before.peers.push peer)
    (configuration : after.configuration = before.configuration)
    (admission : after.admission = before.admission)
    (holds : peer.holdsSlot = false)
    (notSwitched : peer.socket.isSwitched = false)
    (tasks_le : before.tasks.size ≤ after.tasks.size)
    (tasks : ∀ number < before.tasks.size,
      after.task number = before.task number) :
    SlotsMatch after := by
  have isPeer : ∀ id, after.peer id = if id = before.peers.size then peer
      else before.peer id := by
    intro id
    rw [Hub.peer, peers]
    exact Table.get_push before.peers peer id
  have size : after.peers.size = before.peers.size + 1 := by
    rw [peers]
    exact Table.size_push before.peers peer
  -- The others have their tasks as before, though the number of peers is
  -- another one.
  have kept : ∀ id, id ≠ before.peers.size →
      ((after.peer id).socket.isSwitched = true →
        ∃ task, Seated after task id) ∧
          after.isAdmitted id = before.isAdmitted id := by
    intro id different
    have same :
        after.peer id = before.peer id := by rw [isPeer, if_neg different]
    cases was : (before.peer id).socket.isSwitched with
    | false =>
        refine ⟨fun isSwitched => ?_, ?_⟩
        · rw [same, was] at isSwitched
          cases isSwitched
        · simp only [Hub.isAdmitted, same, was, Bool.false_and]
    | true =>
        obtain ⟨task, seated⟩ := slots.seated id was
        have sameTask := tasks task seated.below
        refine ⟨fun _ => ⟨task, ?_, Nat.lt_of_lt_of_le seated.below tasks_le,
          ?_, ?_⟩, ?_⟩
        · rw [size]
          exact Nat.lt_succ_of_lt seated.inside
        · rw [same]
          exact seated.attendant
        · rw [sameTask]
          exact seated.isTask
        · simp only [Hub.isAdmitted, Hub.isServed, same,
            seated.attendant, sameTask]
  have new : after.peer before.peers.size = peer := by rw [isPeer, if_pos rfl]
  have notAdmitted : after.isAdmitted before.peers.size = false := by
    rw [Hub.isAdmitted, new, notSwitched, Bool.false_and]
  have length : after.admitted.length = before.admitted.length := by
    rw [Hub.length_admitted, Hub.length_admitted, Table.numbers,
      Table.numbers, size, List.range_succ, List.countP_append,
      List.countP_singleton, notAdmitted]
    refine (Nat.add_zero _).trans (List.countP_congr fun id member => ?_)
    rw [(kept id (Nat.ne_of_lt (List.mem_range.mp member))).2]
  refine ⟨fun id switched => ?_, fun id => ?_, ?_, ?_, ?_⟩
  · by_cases same : id = before.peers.size
    · rw [same, new, notSwitched] at switched
      cases switched
    · exact (kept id same).1 switched
  · by_cases same : id = before.peers.size
    · rw [same, new, notAdmitted, holds]
    · rw [(kept id same).2, ← slots.holds id, isPeer, if_neg same]
  · rw [admission, length]
    exact slots.held
  · rw [admission, configuration]
    exact slots.capacity
  · rw [admission]
    exact slots.bound

end SlotsMatch

/-! ### Sessions that go on -/

/-- What becomes of the session of a task that goes on: it goes on as well, or
ends. -/
inductive SessionStep
    (hub : Hub) (task : TaskId) (id : PeerId) (after : Hub) : Prop
  | stays {stage : Attendance} (keeps : Keeps Peer.claim hub after)
      (isTask : after.task task = .attend id stage)
  | ends
      {middle : Hub} {outcome : Outcome} (keeps : Keeps Peer.claim hub middle)
      (below : task < middle.tasks.size)
      (same : after = (middle.releaseSlot id).finish task outcome)

namespace SessionStep

variable {hub middle after : Hub} {task : TaskId} {id : PeerId}

theorem after_keeps
    (keeps : Keeps Peer.claim hub middle)
    (step : SessionStep middle task id after) :
    SessionStep hub task id after := by
  cases step with
  | stays later isTask => exact .stays (keeps.trans later) isTask
  | ends later below same => exact .ends (keeps.trans later) below same

theorem finishSession
    (hub : Hub) (id : PeerId) (below : task < hub.tasks.size) (exit : Exit) :
    SessionStep hub task id (hub.finishSession task id exit) :=
  .ends (.count hub _) below rfl

theorem settleParting
    (hub : Hub) (id : PeerId) (below : task < hub.tasks.size)
    (closing : Option Closing) :
    SessionStep hub task id (hub.settleParting task id closing) := by
  cases closing with
  | none => exact finishSession hub id below .socketClosed
  | some closing =>
      exact .stays (.setTask hub task _)
        (Hub.task_setTask_self hub task _ below)

theorem leave
    (hub : Hub) (id : PeerId) (below : task < hub.tasks.size) (exit : Exit) :
    SessionStep hub task id (hub.leave task id exit) := by
  let gone := (hub.note (.left id exit)).unregister id
  have noted : Keeps Peer.claim hub (hub.note (.left id exit)) :=
    .ofPeers rfl rfl
  have left : Keeps Peer.claim hub gone :=
    noted.trans (.unregister ignoresRegistry_claim _ id)
  have finished :
      ∀ exit, SessionStep hub task id (gone.finishSession task id exit) :=
    fun exit => after_keeps left (finishSession gone id below exit)
  cases exit with
  | socketClosed =>
      have course :
          Course (.writer task id) gone (gone.startClosing id task).1 :=
        .startClosing gone (Doer.inside_writer below id) rfl rfl
      exact after_keeps (left.trans (.startClosing lasting_claim gone id task))
        (settleParting _ id (Nat.lt_of_lt_of_le below course.tasks_le) _)
  | _ => exact finished _

theorem arrive (hub : Hub) (id : PeerId) (below : task < hub.tasks.size) :
    SessionStep hub task id (hub.arrive task id) := by
  refine .stays ?_ (Hub.task_arrive hub below id)
  let registered := hub.register id Hub.firstWindow
  let closed := if registered.stopping then registered.close id else registered
  have begun : Keeps Peer.claim hub registered :=
    .register lasting_claim ignoresRegistry_claim hub id _
  have told : Keeps Peer.claim registered closed := by
    show Keeps Peer.claim registered
      (if registered.stopping then registered.close id else registered)
    split
    · exact .close ignoresClosing_claim registered id
    · exact .refl registered
  have counted : Keeps Peer.claim closed
      ((closed.note (.joined id)).count Counters.noteOpened) :=
    .ofPeers rfl rfl
  exact ((begun.trans told).trans counted).trans
    ((Keeps.renewDeadline lasting_claim _ id _).trans (.ofPeers rfl rfl))

theorem act
    (hub : Hub) (id : PeerId) (below : task < hub.tasks.size) (frame : Frame) :
    SessionStep hub task id (hub.act task id frame) := by
  have renewed :
      Keeps Peer.claim hub (hub.renewDeadline id hub.timing.heartbeat) :=
    .renewDeadline lasting_claim hub id _
  by_cases isClose : frame = .close
  · subst isClose
    exact after_keeps renewed
      (leave (hub.renewDeadline id hub.timing.heartbeat) id below .closeFrame)
  · obtain ⟨tasks, ready, acts, same, isReading, -⟩ :=
      Hub.act_eq hub id below isClose
    rw [same]
    exact .stays (renewed.trans (.ofPeers rfl rfl)) isReading

theorem read
    (hub : Hub) (id : PeerId) (below : task < hub.tasks.size)
    (alarm : Option Alarm) :
    SessionStep hub task id (hub.read task id alarm) := by
  obtain ⟨alarmsSet, isSet⟩ := Hub.withAlarm_eq hub alarm
  have set : Keeps Peer.claim hub (hub.withAlarm alarm) := by
    rw [isSet]
    exact .ofPeers rfl rfl
  have waiting : task < (hub.withAlarm alarm).tasks.size := by
    rw [isSet]
    exact below
  have taken :
      ∀ {socket arrival}, (hub.peer id).socket.take = (socket, arrival) →
      Keeps Peer.claim hub ((hub.withAlarm alarm).setSocket id socket) := by
    intro socket arrival taken
    refine set.trans (.setSocket lasting_claim _ id ?_)
    have responses := (hub.peer id).socket.responses_take
    rw [taken] at responses
    rw [Hub.peer_withAlarm]
    exact responses
  have told : ∀ {socket arrival} happening,
      (hub.peer id).socket.take = (socket, arrival) →
      Keeps Peer.claim hub
        (((hub.withAlarm alarm).setSocket id socket).note happening) :=
    fun _ isTaken => (taken isTaken).trans (.ofPeers rfl rfl)
  have waitingSet :
      ∀ socket, task < ((hub.withAlarm alarm).setSocket id socket).tasks.size :=
    fun _ => waiting
  have waitingTold : ∀ socket happening,
      task <
        (((hub.withAlarm alarm).setSocket id socket).note
          happening).tasks.size :=
    fun _ _ => waiting
  have turn := Hub.read_turn hub task id alarm
  generalize hub.read task id alarm = after at turn ⊢
  cases turn with
  | closed isClosed => exact leave hub id below .socketClosed
  | moved isOpen rung moved =>
      exact .stays (set.trans (.readOn _ task id))
        (Hub.task_setTask_self _ task _ waiting)
  | expired isOpen rung notMoved => exact after_keeps set (leave _ id waiting _)
  | waits isOpen early found =>
      exact .stays ((taken found).trans (.setTask _ task _))
        (Hub.task_setTask_self _ task _ waiting)
  | ended isOpen early found =>
      exact after_keeps (taken found) (leave _ id (waitingSet _) _)
  | failed isOpen early found =>
      exact after_keeps (told _ found) (leave _ id (waitingTold _ _) _)
  | takes isOpen early found =>
      exact after_keeps (told _ found) (act _ id (waitingTold _ _) _)

/-- What becomes of a session whose task goes on. -/
theorem goOn {stage : Attendance} (isTask : hub.task task = .attend id stage) :
    SessionStep hub task id (hub.goOn task) := by
  let start : Hub := { hub with ready := hub.ready.erase task }
  have below : task < start.tasks.size :=
    hub.lt_size_of_task task (by rw [isTask]; rintro ⟨⟩)
  have polled : hub.goOn task = start.pollSession task id stage := by
    have same : start.task task = .attend id stage := isTask
    show start.poll task = _
    rw [Hub.poll, same]
  have begun : Keeps Peer.claim hub start := .ofPeers rfl rfl
  rw [polled]
  refine after_keeps begun ?_
  cases stage with
  | arriving => exact arrive start id below
  | reading alarm => exact read start id below alarm
  | parting closing =>
      have course : Course (.writer task id) start
          (start.proceedClosing id task closing).1 :=
        .proceedClosing start (Doer.inside_writer below id) rfl rfl closing
      exact after_keeps (.proceedClosing lasting_claim start id task closing)
        (settleParting _ id (Nat.lt_of_lt_of_le below course.tasks_le) _)

end SessionStep

/-! ### Conversations that go on -/

/-- What becomes of a conversation that goes on: the slots stay as they are, or
a session begins that has taken one. -/
inductive ConversationStep
    (hub : Hub) (task : TaskId) (id : PeerId) (after : Hub) : Prop
  | aside (keeps : Keeps Peer.claim hub after)
  | begins
      {middle : Hub} (free : hub.admission.available ≠ some 0)
      (admission : middle.admission = hub.admission.take)
      (peers : middle.peers.size = hub.peers.size)
      (tasks : middle.tasks.size = hub.tasks.size)
      (others : ∀ other, other ≠ id →
        (middle.peer other).claim = (hub.peer other).claim)
      (isSwitched : (middle.peer id).socket.isSwitched = true)
      (same : after = middle.beginSession task id)

theorem status_asSent
    (response : Http.Response) (version : Http.Version) (keeps : Bool) :
    (Hub.asSent response version keeps).status = response.status := by
  unfold Hub.asSent
  split <;> rfl

/-- Responses that do not begin a session leave claims as they are. -/
theorem Keeps.reply
    (hub : Hub) (id : PeerId) {response : Http.Response}
    (plain : response.status ≠ 101) :
    Keeps Peer.claim hub (hub.reply id response) := by
  refine updatePeer hub id fun peer => ?_
  cases same : peer.socket with
  | scripted socket => rfl
  | link link =>
      have switched :
          (Socket.link
            { link with replies := link.replies ++ [response] }).isSwitched =
          peer.socket.isSwitched := by
        rw [same]
        simp [Socket.isSwitched, Socket.responses, Link.responses, plain]
      exact congrArg (Claim.mk peer.holdsSlot peer.attendant) switched

namespace ConversationStep

variable {hub middle after : Hub} {task : TaskId} {id : PeerId}

theorem after_keeps
    (keeps : Keeps Peer.claim hub middle)
    (peers : middle.peers.size = hub.peers.size)
    (tasks : middle.tasks.size = hub.tasks.size)
    (step : ConversationStep middle task id after) :
    ConversationStep hub task id after := by
  cases step with
  | aside later => exact .aside (keeps.trans later)
  | begins free admission samePeers sameTasks others isSwitched same =>
      refine .begins ?_ ?_ (samePeers.trans peers) (sameTasks.trans tasks)
        (fun other different => (others other different).trans
          (keeps.peer other)) isSwitched same
      · rw [← keeps.admission]
        exact free
      · rw [admission, keeps.admission]

theorem converseOn
    {link : Link} (isLink : (hub.peer id).socket = .link link)
    (request : Http.Request) (content : Http.Content) (rest : Octets) :
    ConversationStep hub task id
      (hub.converseOn task id request content rest) := by
  let unread : Link → Link :=
    fun link => { link with unread := (content.behind? rest).getD [] }
  let read := hub.updateLink id unread
  have kept : Keeps Peer.claim hub read :=
    .updateLink lasting_claim hub id fun _ => rfl
  have size : read.peers.size = hub.peers.size :=
    Hub.size_peers_updatePeer hub id _
  refine after_keeps kept size rfl ?_
  have stillLink : (read.peer id).socket = .link (unread link) :=
    congrArg Peer.socket (Hub.peer_updateLink_self hub id isLink unread)
  have responds := respond_responds read request request.isUpgradable
  obtain ⟨taken, counters, same⟩ := responds.eq_with
  have admission := responds.admission
  have switches := responds.begins_iff
  unfold Hub.converseOn
  simp only
  change ConversationStep read task id
    (if (Http.respond read request request.isUpgradable).2.2 = true
      then _ else _)
  rw [same] at admission ⊢
  generalize (Http.respond read request request.isUpgradable).2.1 =
    response at switches ⊢
  generalize (Http.respond read request request.isUpgradable).2.2 =
    isBegun at switches admission ⊢
  cases isBegun with
  | true =>
      have status :
          (Hub.asSent response request.version request.keepsAlive).status =
            101 :=
        (status_asSent _ _ _).trans (switches.mp rfl)
      let answered : Hub := { read with admission := taken, counters }
      let replied := answered.reply id
        (Hub.asSent response request.version request.keepsAlive)
      have isReplied : (replied.peer id).socket = .link { unread link with
          replies := link.replies ++
            [Hub.asSent response request.version request.keepsAlive] } :=
        congrArg Peer.socket (Hub.peer_updateLink_self answered id stillLink _)
      refine @begins read task id _ replied (admission.2 rfl) admission.1
        (Hub.size_peers_updatePeer answered id _) rfl
        (fun other different => ?_) ?_ rfl
      · exact congrArg Peer.claim
          (Hub.peer_updateLink_of_ne answered id other _ fun equal =>
            different equal.symm)
      · rw [isReplied]
        simp [Socket.isSwitched, Socket.responses, Link.responses, status]
  | false =>
      have plain :
          (Hub.asSent response request.version request.keepsAlive).status ≠
            101 := by
        rw [status_asSent]
        intro same
        cases switches.mpr same
      have answered :
          Keeps Peer.claim read { read with admission := taken, counters } :=
        .ofPeers admission.1 rfl
      have replied := answered.trans (.reply _ id plain)
      rw [if_neg Bool.false_ne_true]
      refine .aside (replied.trans ?_)
      split
      · exact .ofPeers rfl rfl
      · exact .finish _ task _

/-- What becomes of a conversation whose task goes on. -/
theorem goOn (isTask : hub.task task = .converse id) :
    ConversationStep hub task id (hub.goOn task) := by
  let start : Hub := { hub with ready := hub.ready.erase task }
  let read := start.updateLink id Link.readPipe
  have polled : hub.goOn task = start.pollConversation task id := by
    have same : start.task task = .converse id := isTask
    show start.poll task = _
    rw [Hub.poll, same]
  have started : Keeps Peer.claim hub start := .ofPeers rfl rfl
  have begun : Keeps Peer.claim hub read :=
    started.trans (.updateLink lasting_claim start id fun _ => rfl)
  have size : read.peers.size = hub.peers.size :=
    Hub.size_peers_updatePeer start id _
  have refused :
      ∀ offence, Keeps Peer.claim read (read.refuse task id offence) := by
    intro offence
    refine (Keeps.reply read id ?_).trans (.finish _ task _)
    show offence.status ≠ 101
    cases offence <;> decide
  rw [polled]
  refine after_keeps begun size rfl ?_
  unfold Hub.pollConversation
  simp only
  split
  · exact .aside (.finish read task _)
  · rename_i isLink
    split
    · split
      · exact converseOn isLink _ _ _
      · exact .aside (refused _)
    · exact .aside (refused _)
    · split
      · exact .aside (.finish read task _)
      · exact .aside (.refl read)

end ConversationStep

namespace SlotsMatch

variable {hub : Hub}

/-- Slots match however tasks go on. -/
theorem goOn
    (slots : SlotsMatch hub) (housed : Housed hub) (attended : Attended hub)
    (task : TaskId) : SlotsMatch (hub.goOn task) := by
  have course := Course.goOn hub task
  have seatsKept : SeatsKept (some task) hub (hub.goOn task) := .ofCourse course
  have inside : ∀ {id}, (hub.task task).serves? = some id →
      id < hub.peers.size := fun serves =>
    housed.tasks task _ (Task.regards_of_serves serves)
  cases isTask : hub.task task with
  | attend id stage =>
      have serves : (hub.task task).serves? = some id := by
        rw [isTask]
        rfl
      cases SessionStep.goOn isTask with
      | stays keeps later =>
          refine slots.stays keeps seatsKept fun number other isOwn seated _ =>
            ?_
          cases isOwn
          rw [later, isTask]
          rfl
      | ends keeps below same =>
          rw [same] at seatsKept ⊢
          exact slots.ends isTask (attended task id serves) (inside serves)
            keeps below seatsKept
  | converse id =>
      have serves : (hub.task task).serves? = some id := by
        rw [isTask]
        rfl
      cases ConversationStep.goOn isTask with
      | aside keeps =>
          refine slots.stays keeps seatsKept fun number other isOwn seated _ =>
            ?_
          cases isOwn
          exact absurd seated (not_seated isTask other)
      | begins free admission peers tasks others isSwitched same =>
          rw [same] at seatsKept ⊢
          have below : task < hub.tasks.size :=
            hub.lt_size_of_task task (by rw [isTask]; rintro ⟨⟩)
          exact slots.begins attended isTask (inside serves) free admission
            peers others isSwitched (tasks.symm ▸ below) seatsKept
  | _ =>
      have serves : (hub.task task).serves? = none := by
        rw [isTask]
        rfl
      refine slots.stays (.goOn lasting_claim ignoresClosing_claim hub task
        serves) seatsKept fun number other isOwn seated _ => ?_
      -- Such a task is nobody's, unless it has ended, and then it stays so.
      cases isOwn
      rcases seated.isTask with ⟨stage, attends⟩ | finished
      · rw [attends] at serves
        cases serves
      · rcases course.own task rfl with same | later | follows
        · rw [same]
        · have seat : ∀ {task : Task}, task.isFinished = true →
            task.seat = (none, true) := by
            intro task finished
            cases task with
            | finished outcome => rfl
            | _ => cases finished
          rw [seat later, seat finished]
        · have never : (hub.task task).Follows ((hub.goOn task).task task) :=
            follows
          cases was : hub.task task with
          | finished outcome =>
              rw [was] at never
              exact never.elim
          | _ =>
              rw [was] at finished
              cases finished

end SlotsMatch

end BroadcastHub.Server
