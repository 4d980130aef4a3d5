import BroadcastHub.Proofs.Server.Partings
import BroadcastHub.Proofs.Server.Pongs

/-!
# The heartbeat requests of a session

`Hub.begun` lists the requests of a session that begin in a turnover.  A
turnover is the turn of one of them, or it leaves them alone, as `Beside` says.
-/

namespace BroadcastHub.Server

open Scenario

/-- A heartbeat request that has begun: its task, its data, and when it
began. -/
structure Ping where
  task : TaskId
  payload : Octets
  time : Instant

/-- What a request asks of the socket, if it does. -/
def Ping.call (ping : Ping) : Call := (ping.task, .frame (.pong ping.payload))

/-- The data of a heartbeat request of a session that has not begun. -/
def Task.pingOf? (id : PeerId) : Task → Option Octets
  | pong (some peer) payload .unstarted =>
      if peer = id then some payload else none
  | _ => none

/-- The heartbeat requests of a session that have begun from one hub to the
next. -/
def Hub.begun (id : PeerId) (before after : Hub) : List Ping :=
  (List.range before.tasks.size).filterMap fun task =>
    if (after.task task).isUnbegun then none
    else ((before.task task).pingOf? id).map fun payload =>
      ⟨task, payload, before.now⟩

/-- A task answers a heartbeat request of a session, which it has begun to
do. -/
def Hub.Answers
    (hub : Hub) (id : PeerId) (task : TaskId) (payload : Octets) : Prop :=
  ∃ stage, stage ≠ .unstarted ∧ hub.task task = .pong (some id) payload stage

namespace Task

variable {task : Task} {id : PeerId} {payload : Octets}

theorem pingOf?_eq_some :
    task.pingOf? id = some payload ↔
      task = .pong (some id) payload .unstarted := by
  cases task with
  | pong peer data stage =>
      cases peer with
      | none => simp [pingOf?]
      | some peer => cases stage <;> simp [pingOf?]
  | _ => simp [pingOf?]

end Task

/-- The one number at which a partial function has a value. -/
theorem filterMap_range_single
    {α : Type} {item : Nat → Option α} {place : Nat} {found : α}
    (isFound : item place = some found)
    (others : ∀ other, other ≠ place → item other = none) {count : Nat}
    (below : place < count) : (List.range count).filterMap item = [found] := by
  induction count with
  | zero => cases below
  | succ count induction =>
      rw [List.range_succ, List.filterMap_append]
      by_cases last : place = count
      · subst last
        have none : (List.range place).filterMap item = [] :=
          List.filterMap_eq_nil_iff.mpr fun other member =>
            others other (Nat.ne_of_lt (List.mem_range.mp member))
        simp [none, isFound]
      · rw [induction (by omega)]
        simp [others count (Ne.symm last)]

namespace Hub

variable {before after hub : Hub} {id : PeerId}

theorem begun_of_kept
    (kept : ∀ task payload, before.task task =
      .pong (some id) payload .unstarted →
      (after.task task).isUnbegun = true) : begun id before after = [] := by
  rw [begun, List.filterMap_eq_nil_iff]
  intro task _
  split
  · rfl
  · rename_i begun
    cases isPing : (before.task task).pingOf? id with
    | none => rfl
    | some payload =>
        exact absurd (kept task payload (Task.pingOf?_eq_some.mp isPing)) begun

/-- A request that goes on for the first time begins, and no other one does. -/
theorem begun_goOn_pong {task : TaskId} {payload : Octets}
    (isTask : hub.task task = .pong (some id) payload .unstarted) :
    begun id hub (hub.goOn task) = [⟨task, payload, hub.now⟩] := by
  have below : task < hub.tasks.size := by
    apply hub.lt_size_of_task task
    rw [isTask]
    rintro ⟨⟩
  refine filterMap_range_single ?_ (fun other different => ?_) below
  · rw [if_neg (by rw [begun_goOn hub below]; decide),
      Task.pingOf?_eq_some.mpr isTask]
    rfl
  · split
    · rfl
    · rename_i begun
      cases isPing : (hub.task other).pingOf? id with
      | none => rfl
      | some data =>
          have isOther := Task.pingOf?_eq_some.mp isPing
          have inside : other < hub.tasks.size := by
            apply hub.lt_size_of_task other
            rw [isOther]
            rintro ⟨⟩
          rw [(Course.goOn hub task).task other inside
            fun same => different (Option.some.inj same).symm, isOther] at begun
          exact absurd rfl begun

end Hub

/-! ### Requests that have not begun -/

/-- Nothing is told of a task that has not begun. -/
def Unheard (hub : Hub) : Prop :=
  ∀ task, (hub.task task).isUnbegun = true ∨ hub.tasks.size ≤ task →
    deeds task hub.chronicle = []

namespace Unheard

theorem start (configuration : Configuration) (chance : Nat → Nat) :
    Unheard { Hub.start configuration with chance } := fun _ _ => rfl

/-- Every turnover keeps silence about tasks that have not begun. -/
theorem turn
    {outsider : Outsider} {before after : Hub} (unheard : Unheard before)
    (turnover : Turnover outsider before after) : Unheard after := by
  intro task unbegun
  by_cases below : task < before.tasks.size
  · cases turnover.task below with
    | own =>
        rcases unbegun with unbegun | outside
        · rw [Hub.begun_goOn before below] at unbegun
          cases unbegun
        · exact
            absurd (Nat.lt_of_lt_of_le below (Course.goOn before task).tasks_le)
            (Nat.not_lt.mpr outside)
    | kept kept =>
        rw [kept.deeds]
        refine unheard task (unbegun.imp (fun same => kept.sameTask ▸ same)
          fun outside => ?_)
        exact Nat.le_trans kept.tasks_le outside
    | @tick later forward passes =>
        obtain ⟨ready, same, -⟩ := Hub.ring_eq { before with now := later }
        rw [same] at unbegun ⊢
        exact unheard task unbegun
  · have silent := unheard task (.inr (Nat.not_lt.mp below))
    cases turnover with
    | outside outside =>
        obtain ⟨news, isNews, -⟩ := outside.news
        rw [deeds_of_outside isNews]
        exact silent
    | register added => exact silent
    | serve added opened serves => exact silent
    | @go number isReady =>
        by_cases same : number = task
        · subst same
          have outside :=
            Hub.task_of_size_le before number (Nat.not_lt.mp below)
          have start :
              ({ before with ready := before.ready.erase number } : Hub).task
                number =
            default := outside
          rw [Hub.goOn, Hub.poll, start]
          exact silent
        · rw [deeds_of_goOn before same]
          exact silent
    | @tick later still forward whole passes =>
        obtain ⟨ready, same, -⟩ := Hub.ring_eq { before with now := later }
        rw [same]
        exact silent

end Unheard

/-! ### Turnovers that do not concern the requests of a session -/

/-- What leaves the heartbeat requests of a session alone. -/
structure Beside (id : PeerId) (before after : Hub) : Prop where
  tasks_le : before.tasks.size ≤ after.tasks.size
  keeps :
    ∀ task payload stage, before.task task = .pong (some id) payload stage →
      after.task task = .pong (some id) payload stage
  finished : ∀ task < before.tasks.size, (before.task task).isFinished = true →
    (after.task task).isFinished = true
  /-- No other task has begun to answer a request. -/
  back : ∀ task payload stage, after.task task = .pong (some id) payload stage →
    stage ≠ .unstarted → before.task task = .pong (some id) payload stage
  slot : (after.peer id).ponging = (before.peer id).ponging
  calls : ∃ news, calls id after.chronicle = calls id before.chronicle ++ news ∧
    ∀ call ∈ news, (before.task call.1).isFinished = false ∧
      ∀ payload stage, before.task call.1 ≠ .pong (some id) payload stage

theorem Writing.operation?_eq_none {stage : Writing} {frame : Frame} :
    stage.operation? frame = none ↔ stage.hasAsked = false := by
  cases stage <;> simp [operation?, hasAsked]

/-- What becomes of what a task has under way at a socket, by what it asks in
its turn. -/
inductive AskTurn (id : PeerId) (task : TaskId) (before after : Hub) : Prop
  | silent
      (calls : calls id after.chronicle = calls id before.chronicle)
      (idle : (after.task task).operationAt id = none →
        (before.task task).operationAt id = none ∨
          (after.task task).isFinished = true)
  | asks
      (request : SinkRequest)
      (calls : calls id after.chronicle =
        calls id before.chronicle ++ [(task, request)])
      (unfinished : (before.task task).isFinished = false)
      (sends : ∀ frame, (before.task task).frame? = some frame →
        request = .frame frame)
      (idle : (before.task task).operationAt id = none)
      (busy : (after.task task).operationAt id = none →
        (after.task task).isFinished = true)

theorem WriteTurn.asks {id : PeerId} {task : TaskId} {before after : Hub}
    (turn : WriteTurn id task before after) : AskTurn id task before after := by
  cases turn with
  | aside own aside =>
      obtain ⟨news, chronicle, elsewhere⟩ := aside.chronicle
      refine .silent ?_ fun _ => .inl (Task.operationAt_of_postAt own)
      rw [chronicle, calls_append, calls_of_elsewhere elsewhere,
        List.append_nil]
  | @frame frame span stage told station written sends within own step
      stationAfter chronicle ended posts =>
      have operations := WriteTurn.operations_frame posts task
      rw [if_pos rfl] at operations
      have finishes : ∀ {asked : Bool},
          (∀ next, written = .pending next → next.hasAsked = asked) →
          (after.task task).operationAt id = none →
          asked = false ∨ (after.task task).isFinished = true := by
        intro asked pending idle
        rw [operations] at idle
        cases written with
        | finished result => exact .inr (ended result rfl)
        | pending next =>
            exact .inl ((pending next rfl).symm.trans
              (Writing.operation?_eq_none.mp idle))
      rcases step.calls_told with
        ⟨unasked, pending⟩ | ⟨-, early, pending, asked⟩
      · refine .silent (by rw [chronicle, calls_append, unasked,
          List.append_nil]) fun idle => ?_
        rw [Task.operationAt_of_post? own, Writing.operation?_eq_none]
        exact finishes pending idle
      · refine .asks (.frame frame) (by rw [chronicle, calls_append, asked]) ?_
          ?_ ?_ fun idle => ?_
        · cases isTask : before.task task <;> rw [isTask] at sends <;>
            first | rfl | cases sends
        · intro other same
          cases sends.symm.trans same
          rfl
        · rw [Task.operationAt_of_post? own, Writing.operation?_eq_none]
          exact early
        · exact (finishes pending idle).resolve_left Bool.true_eq_false.mp
  | @close current next told station earlier asks own step stationAfter
      chronicle elsewhere ended posts =>
      have operations := WriteTurn.operations_closing posts task
      rw [if_pos rfl] at operations
      have finishes : (after.task task).operationAt id = none →
          (after.task task).isFinished = true := by
        intro idle
        rw [operations] at idle
        cases next with
        | none => exact ended rfl
        | some closing => cases idle
      rcases step.calls_told with unasked | ⟨isNone, asked⟩
      · refine .silent ?_ fun idle => .inr (finishes idle)
        rw [chronicle, calls_append, calls_append, calls_of_elsewhere elsewhere,
          unasked, List.append_nil, List.append_nil]
      · have isTask := asks isNone
        refine .asks .close ?_ ?_ ?_ ?_ finishes
        · rw [chronicle, calls_append, calls_append,
            calls_of_elsewhere elsewhere, asked, List.append_nil]
        · rcases isTask with isTask | ⟨-, alarm, isTask⟩ <;> rw [isTask] <;> rfl
        · intro frame sends
          rcases isTask with isTask | ⟨-, alarm, isTask⟩ <;>
            rw [isTask] at sends <;> cases sends
        · rw [Task.operationAt_of_closing own, isNone]
          rfl

/-- While a task goes on no other one begins to answer a request. -/
theorem Hub.pong_of_goOn
    {hub : Hub} {number task : TaskId} {id : PeerId} {payload : Octets}
    {stage : Ponging} (different : task ≠ number)
    (isTask : (hub.goOn number).task task = .pong (some id) payload stage)
    (begun : stage ≠ .unstarted) :
    hub.task task = .pong (some id) payload stage := by
  have course := Course.goOn hub number
  by_cases below : task < hub.tasks.size
  · rw [← course.task task below fun running =>
      different (Option.some.inj running).symm, isTask]
  · exfalso
    have inside : task < (hub.goOn number).tasks.size := by
      apply Hub.lt_size_of_task
      rw [isTask]
      rintro ⟨⟩
    have starts : (hub.task number).MayStart ((hub.goOn number).task task) :=
      (course.newTask task (Nat.not_lt.mp below) inside).1
    rw [isTask] at starts
    cases before : hub.task number <;> rw [before] at starts <;>
      simp only [Task.MayStart] at starts
    exact begun starts.2

namespace Beside

variable {before after hub : Hub} {id : PeerId}

/-- A task that is no request of the session leaves these alone. -/
theorem goOn (housed : Housed hub) {number : TaskId}
    (other : ∀ payload stage, hub.task number ≠ .pong (some id) payload stage) :
    Beside id hub (hub.goOn number) := by
  have course := Course.goOn hub number
  have answers : (Doer.running number (hub.task number)).answers ≠ some id := by
    show (hub.task number).answers? ≠ some id
    cases isTask : hub.task number with
    | pong peer payload stage =>
        rintro ⟨⟩
        exact other payload stage isTask
    | _ => rintro ⟨⟩
  have elsewhere : ∀ {task}, task ≠ number →
      (Doer.running number (hub.task number)).task ≠ some task :=
    fun different running => different (Option.some.inj running).symm
  refine ⟨course.tasks_le, fun task payload stage isTask => ?_,
    fun task below finished => ?_,
    fun task payload stage isTask begun => ?_, (course.peer id).ponging answers,
    ?_⟩
  · have below : task < hub.tasks.size := by
      apply hub.lt_size_of_task task
      rw [isTask]
      rintro ⟨⟩
    have different : task ≠ number := by
      rintro rfl
      exact other payload stage isTask
    rw [course.task task below (elsewhere different), isTask]
  · by_cases own : task = number
    · subst own
      rcases course.own task rfl with same | finishes | follows
      · rw [same]
        exact finished
      · exact finishes
      · have follows : (hub.task task).Follows ((hub.goOn task).task task) :=
          follows
        cases isTask : hub.task task <;> rw [isTask] at finished follows <;>
          cases finished
        cases follows
    · rw [course.task task below (elsewhere own)]
      exact finished
  · by_cases own : task = number
    · exfalso
      subst own
      rcases course.own task rfl with same | finishes | follows
      · exact other payload stage (same.symm.trans isTask)
      · rw [isTask] at finishes
        cases finishes
      · have follows : (hub.task task).Follows ((hub.goOn task).task task) :=
          follows
        rw [isTask] at follows
        cases before : hub.task task <;> rw [before] at follows <;>
          simp only [Task.Follows] at follows
        obtain ⟨rfl, -⟩ := follows
        exact other _ _ before
    · exact Hub.pong_of_goOn own isTask begun
  · cases (WriteTurn.goOn (fun peer writes =>
        housed.tasks number peer (Task.regards_of_writes writes)) id).asks with
    | silent same => exact ⟨[], by rw [same, List.append_nil], by rintro _ ⟨⟩⟩
    | asks request grown unfinished =>
        refine ⟨_, grown, fun call member => ?_⟩
        rw [List.mem_singleton.mp member]
        exact ⟨unfinished, other⟩

end Beside

theorem Action.unstarted_of_starts
    {action : Action} {peer : Option PeerId} {payload : Octets}
    {stage : Ponging} (starts : action.Starts (.pong peer payload stage)) :
    stage = .unstarted := by
  cases action <;> simp only [Action.Starts] at starts
  case send => cases starts
  case ping =>
    obtain ⟨known, -, same⟩ := starts
    cases same
    rfl
  case broadcast =>
    rcases starts with ⟨peer, same⟩ | ⟨deliveries, same⟩ <;> cases same
  case closeFrame => cases starts
  case awaitClose => cases starts
  case wait => rcases starts with same | ⟨serving, same⟩ <;> cases same

/-- A turnover is the turn of a heartbeat request of the session, or leaves
these alone. -/
theorem Turnover.beside
    {manner : Manner} {before after : Hub}
    (turnover : Turnover (manner.outsider before.peers.size) before after)
    (never : ¬ (manner.outsider before.peers.size).takesPongs)
    (housed : Housed before) (id : PeerId) :
    (∃ task payload stage, task ∈ before.ready ∧
      before.task task = .pong (some id) payload stage ∧
      after = before.goOn task) ∨ Beside id before after := by
  -- Somebody who has just joined has no slot, as there was none before.
  have joins : ∀ peer : Peer, peer.ponging = false →
      ((before.addPeer peer).peer id).ponging = (before.peer id).ponging := by
    intro peer fresh
    rw [Hub.peer_addPeer]
    split
    · rename_i joined
      rw [Hub.peer_of_size_le before id (Nat.le_of_eq joined.symm), fresh]
      rfl
    · rfl
  have silent :
      ∃ news, calls id before.chronicle = calls id before.chronicle ++ news ∧
      ∀ call ∈ news, (before.task call.1).isFinished = false ∧
        ∀ payload stage, before.task call.1 ≠ .pong (some id) payload stage :=
    ⟨[], (List.append_nil _).symm, by rintro _ ⟨⟩⟩
  cases turnover with
  | outside outside =>
      obtain ⟨news, isNews, peers, -⟩ := outside.news
      have below : ∀ {task payload stage},
          before.task task = .pong (some id) payload stage →
          task < before.tasks.size := by
        intro task payload stage isTask
        apply Hub.lt_size_of_task
        rw [isTask]
        rintro ⟨⟩
      refine .inr ⟨outside.tasks_le, fun task payload stage isTask => ?_,
        fun task below finished => ?_,
        fun task payload stage isTask begun => ?_, (peers id).ponging never, ?_⟩
      · rw [outside.task task (below isTask), isTask]
      · rw [outside.task task below]
        exact finished
      · by_cases early : task < before.tasks.size
        · rw [← outside.task task early, isTask]
        · exfalso
          have inside : task < after.tasks.size := by
            apply Hub.lt_size_of_task
            rw [isTask]
            rintro ⟨⟩
          obtain ⟨action, -, starts, -⟩ :=
            (outside.newTask task (Nat.not_lt.mp early) inside).1
          rw [isTask] at starts
          exact begun (Action.unstarted_of_starts starts)
      · obtain ⟨told, chronicle, elsewhere⟩ :=
          (Quiet.outside outside id).chronicle
        rw [chronicle, calls_append, calls_of_elsewhere elsewhere,
          List.append_nil]
        exact silent
  | register added =>
      exact .inr ⟨Nat.le_refl _, fun _ _ _ same => same, fun _ _ same => same,
        fun _ _ _ same _ => same, joins _ rfl, silent⟩
  | @serve socket opening added opened serves =>
      have spawned : ∀ task, ((before.addPeer
          { socket, attendant := some before.nextTask }).spawn opening).task
          task =
          if task = before.tasks.size then opening else before.task task :=
        fun task => Hub.task_spawn _ _ task
      refine .inr ⟨?_, fun task payload stage isTask => ?_,
        fun task below finished => ?_,
        fun task payload stage isTask begun => ?_, joins _ rfl, silent⟩
      · rw [Hub.size_tasks_spawn]
        exact Nat.le_succ _
      · rw [spawned, if_neg, isTask]
        rintro rfl
        rw [Hub.task_of_size_le before _ (Nat.le_refl _)] at isTask
        cases isTask
      · rw [spawned, if_neg (Nat.ne_of_lt below)]
        exact finished
      · rw [spawned] at isTask
        split at isTask
        · rcases serves with rfl | rfl <;> cases isTask
        · exact isTask
  | @go number isReady =>
      by_cases isPong :
        ∃ payload stage, before.task number = .pong (some id) payload stage
      · obtain ⟨payload, stage, isTask⟩ := isPong
        exact .inl ⟨number, payload, stage, isReady, isTask, rfl⟩
      · exact .inr (.goOn housed fun payload stage isTask =>
          isPong ⟨payload, stage, isTask⟩)
  | @tick later still forward whole passes =>
      obtain ⟨ready, same, -⟩ := Hub.ring_eq { before with now := later }
      rw [same]
      exact .inr ⟨Nat.le_refl _, fun _ _ _ same => same, fun _ _ same => same,
        fun _ _ _ same _ => same, rfl, silent⟩

end BroadcastHub.Server
