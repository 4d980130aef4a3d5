import BroadcastHub.Proofs.Server.Accounts
import BroadcastHub.Proofs.Server.Desks
import BroadcastHub.Proofs.Server.Writes

/-!
# The ledger of a link

The frames that a link has accepted are among those for which it was asked,
in the order of the calls.  At most one call is under way at a time, by the
task that has the turn, and it is the last one; so a call that was given up
leaves either nothing behind, or its whole frame.
-/

namespace BroadcastHub.Server

/-- The calls whose frames have been accepted, and what has been written of
them. -/
structure Ledger
    (id : PeerId) (desk : Desk) (chronicle : List Entry) (placed : List Call) :
    Prop where
  isSublist : placed.Sublist (calls id chronicle)
  stream : desk.stream = placed.flatMap Call.octets
  inside : ∀ call ∈ successes id chronicle, ∃ earlier later,
    placed = earlier ++ call :: later ∧
    (earlier ++ [call]).flatMap Call.octets <+: desk.written

/-- How far a call has come that is under way. -/
inductive CallStage (placed : List Call) (earlier : List Call) (call : Call) :
    Operation → Prop
  | placing (before : placed.Sublist earlier) :
      CallStage placed earlier call .placing
  | flushing
      {rest : List Call} (last : placed = rest ++ [call])
      (before : rest.Sublist earlier) : CallStage placed earlier call .flushing

/-- A ledger together with the call that is under way, if there is one. -/
structure Wired
    (id : PeerId) (ops : TaskId → Option (SinkRequest × Operation))
    (turn : Turn) (desk : Desk) (chronicle : List Entry) (placed : List Call) :
    Prop where
  ledger : Ledger id desk chronicle placed
  holder : ∀ task request operation, ops task = some (request, operation) →
    turn.holder = some task
  stage : ∀ task request operation, ops task = some (request, operation) →
    ∃ earlier, calls id chronicle = earlier ++ [(task, request)] ∧
      CallStage placed earlier (task, request) operation

namespace Ledger

variable {id : PeerId} {desk after : Desk} {chronicle : List Entry}
  {placed : List Call} {now : Instant}

theorem extend (ledger : Ledger id desk chronicle placed) (news : List Entry)
    (noCalls : calls id news = []) (noSuccesses : successes id news = []) :
    Ledger id desk (news ++ chronicle) placed where
  isSublist := by
    rw [calls_append, noCalls, List.append_nil]
    exact ledger.isSublist
  stream := ledger.stream
  inside := by
    rw [successes_append, noSuccesses, List.append_nil]
    exact ledger.inside

theorem ask
    (ledger : Ledger id desk chronicle placed) (task : TaskId)
    (request : SinkRequest) :
    Ledger id desk (⟨now, .asked task id request⟩ :: chronicle) placed where
  isSublist := by
    rw [calls_cons]
    exact ledger.isSublist.trans (List.sublist_append_left _ _)
  stream := ledger.stream
  inside := by
    simp only [successes_cons, Happening.successesAt, List.append_nil]
    exact ledger.inside

theorem onward
    (ledger : Ledger id desk chronicle placed) (onward : desk.Onward after []) :
    Ledger id after chronicle placed where
  isSublist := ledger.isSublist
  stream := by rw [onward.stream, List.append_nil, ledger.stream]
  inside call member := by
    obtain ⟨earlier, later, same, inside⟩ := ledger.inside call member
    exact ⟨earlier, later, same, inside.trans onward.written⟩

theorem accept
    (ledger : Ledger id desk chronicle placed) {earlier : List Call}
    {call : Call} (last : calls id chronicle = earlier ++ [call])
    (before : placed.Sublist earlier) (onward : desk.Onward after call.octets) :
    Ledger id after chronicle (placed ++ [call]) where
  isSublist := by
    rw [last]
    exact before.append_right [call]
  stream := by
    rw [onward.stream, ledger.stream]
    simp
  inside other member := by
    obtain ⟨first, rest, same, inside⟩ := ledger.inside other member
    refine ⟨first, rest ++ [call], ?_, inside.trans onward.written⟩
    rw [same, List.append_assoc, List.cons_append]

theorem succeed {rest : List Call} {task : TaskId} {frame : Frame}
    (ledger : Ledger id desk chronicle (rest ++ [(task, .frame frame)]))
    (written : desk.written = desk.stream) :
    Ledger id desk (⟨now, .wrote task id frame (.ok ())⟩ :: chronicle)
      (rest ++ [(task, .frame frame)]) where
  isSublist := by
    simp only [calls_cons, Happening.callsTo, List.append_nil]
    exact ledger.isSublist
  stream := ledger.stream
  inside call member := by
    simp only [successes_cons, Happening.successesAt, if_true] at member
    rcases List.mem_append.mp member with earlier | last
    · exact ledger.inside call earlier
    · rw [List.mem_singleton.mp last]
      refine ⟨rest, [], rfl, ?_⟩
      exact ⟨[], by rw [List.append_nil, written, ledger.stream]⟩

end Ledger

/-- What has come of a call that is the last one. -/
inductive CallResult
    (id : PeerId) (call : Call) (earlier : List Call) (desk : Desk)
    (chronicle : List Entry) : Progress → Prop
  | underway {placed : List Call} {operation : Operation}
      (ledger : Ledger id desk chronicle placed)
      (stage : CallStage placed earlier call operation) :
      CallResult id call earlier desk chronicle (.underway operation)
  | succeeded
      {rest : List Call} (ledger : Ledger id desk chronicle (rest ++ [call]))
      (written : desk.written = desk.stream) :
      CallResult id call earlier desk chronicle (.done (.ok ()))
  | failed
      {placed : List Call} (fault : Fault)
      (ledger : Ledger id desk chronicle placed) :
      CallResult id call earlier desk chronicle (.done (.error fault))

namespace Ledger

variable {id : PeerId} {desk after : Desk} {chronicle : List Entry}
  {placed rest earlier : List Call} {call : Call} {progress : Progress}

theorem flush
    (ledger : Ledger id desk chronicle (rest ++ [call]))
    (before : rest.Sublist earlier) (flushing : Flushing desk after progress) :
    CallResult id call earlier after chronicle progress := by
  cases flushing with
  | stuck onward =>
      exact .underway (ledger.onward onward) (.flushing rfl before)
  | through onward written => exact .succeeded (ledger.onward onward) written
  | failed fault onward => exact .failed fault (ledger.onward onward)

theorem place
    (ledger : Ledger id desk chronicle placed)
    (last : calls id chronicle = earlier ++ [call])
    (before : placed.Sublist earlier)
    (placing : Placing call.octets desk after progress) :
    CallResult id call earlier after chronicle progress := by
  cases placing with
  | stuck onward => exact .underway (ledger.onward onward) (.placing before)
  | placed middle onward flushing =>
      exact (ledger.accept last before onward).flush before flushing
  | failed fault onward => exact .failed fault (ledger.onward onward)

theorem resume
    {operation : Operation} (ledger : Ledger id desk chronicle placed)
    (last : calls id chronicle = earlier ++ [call])
    (stage : CallStage placed earlier call operation)
    (placing : operation = .placing → Placing call.octets desk after progress)
    (flushing : operation = .flushing → Flushing desk after progress) :
    CallResult id call earlier after chronicle progress := by
  cases stage with
  | placing before => exact ledger.place last before (placing rfl)
  | flushing same before =>
      subst same
      exact ledger.flush before (flushing rfl)

end Ledger

namespace CallResult

variable {id : PeerId} {task : TaskId} {request : SinkRequest}
  {earlier : List Call} {desk : Desk} {chronicle : List Entry} {now : Instant}

theorem ledger {progress : Progress}
    (result : CallResult id (task, request) earlier desk chronicle progress) :
    ∃ placed, Ledger id desk chronicle placed := by
  cases result with
  | underway ledger stage => exact ⟨_, ledger⟩
  | succeeded ledger written => exact ⟨_, ledger⟩
  | failed fault ledger => exact ⟨_, ledger⟩

theorem wrote
    {frame : Frame} {answer : Except Fault Unit}
    (result : CallResult id (task, .frame frame) earlier desk chronicle
      (.done answer)) :
    ∃ placed, Ledger id desk
      (⟨now, .wrote task id frame answer⟩ ::
        ⟨now, .answered task id (.frame frame) answer⟩ ::
        chronicle) placed := by
  cases result with
  | succeeded ledger written =>
      have answered : Ledger id desk
          (⟨now, .answered task id (.frame frame) (.ok ())⟩ :: chronicle) _ :=
        ledger.extend [_] rfl rfl
      exact ⟨_, answered.succeed written⟩
  | failed fault ledger => exact ⟨_, ledger.extend [_, _] rfl rfl⟩

/-- A call that goes on, and no other does. -/
theorem wired
    {operation : Operation} {turn : Turn}
    (result : CallResult id (task, request) earlier desk chronicle
      (.underway operation))
    (last : calls id chronicle = earlier ++ [(task, request)])
    (held : turn.holder = some task) :
    ∃ placed, Wired id (fun other => if other = task
      then some (request, operation) else none)
      turn desk chronicle placed := by
  cases result with
  | underway ledger stage =>
      refine ⟨_, ledger, ?_, ?_⟩ <;>
        intro other otherRequest otherOperation same
      · split at same
        · rename_i isTask
          rw [isTask]
          exact held
        · cases same
      · split at same
        · rename_i isTask
          cases same
          rw [isTask]
          exact ⟨earlier, last, stage⟩
        · cases same

end CallResult

namespace Writing

/-- What a write has under way at the socket. -/
def operation? (frame : Frame) : Writing → Option (SinkRequest × Operation)
  | underway operation _ => some (.frame frame, operation)
  | _ => none

end Writing

/-- What a write has under way afterwards. -/
def Written.operation? (frame : Frame) :
    Written → Option (SinkRequest × Operation)
  | .finished _ => none
  | .pending stage => stage.operation? frame

namespace Socket

variable {link : Link} {after : Socket} {now : Instant} {order : Nat}
  {request : SinkRequest} {operation : Operation} {progress : Progress}

theorem start_link
    (started : (Socket.link link).start now order request = (after, progress)) :
    ∃ later, after = .link later ∧
      Placing (Wire.encode (Link.frameOf request)) link.desk later.desk
        progress := by
  cases started
  exact ⟨_, rfl, Link.proceedPlacing_spec link request⟩

theorem proceed_link
    (proceeded : (Socket.link link).proceed now request operation =
      (after, progress)) :
    ∃ later, after = .link later ∧
      (operation = .placing →
        Placing (Wire.encode (Link.frameOf request)) link.desk later.desk
          progress) ∧
      (operation = .flushing → Flushing link.desk later.desk progress) := by
  cases operation with
  | pausing alarm fails =>
      cases proceeded
      exact ⟨_, rfl, by rintro ⟨⟩, by rintro ⟨⟩⟩
  | placing =>
      cases proceeded
      exact ⟨_, rfl, fun _ => Link.proceedPlacing_spec link request, by
        rintro ⟨⟩⟩
  | flushing =>
      cases proceeded
      exact ⟨_, rfl, by rintro ⟨⟩,
        fun _ => Link.proceedFlushing_spec link request⟩

end Socket

namespace Wired

variable {id : PeerId} {ops : TaskId → Option (SinkRequest × Operation)}
  {turn later : Turn} {desk after : Desk} {chronicle : List Entry}
  {placed : List Call} {task : TaskId}

theorem rest
    (ledger : Ledger id desk chronicle placed) (turn : Turn)
    {ops : TaskId → Option (SinkRequest × Operation)}
    (idle : ∀ other, ops other = none) :
    Wired id ops turn desk chronicle placed where
  ledger := ledger
  holder other request operation same := by rw [idle other] at same; cases same
  stage other request operation same := by rw [idle other] at same; cases same

theorem others (wired : Wired id ops turn desk chronicle placed)
    (held : ∀ other, turn.holder = some other → other = task) (other : TaskId)
    (different : other ≠ task) : ops other = none := by
  cases same : ops other with
  | none => rfl
  | some call =>
      exact absurd (held other (wired.holder other call.1 call.2 same))
        different

/-- Turns may change as long as the holder stays, and the chronicle may grow by
what has nothing to do with calls. -/
theorem keep
    (wired : Wired id ops turn desk chronicle placed)
    {same : TaskId → Option (SinkRequest × Operation)}
    (ops_eq : ∀ other, same other = ops other)
    (holder : later.holder = turn.holder) (news : List Entry)
    (noCalls : calls id news = []) (noSuccesses : successes id news = []) :
    Wired id same later desk (news ++ chronicle) placed where
  ledger := wired.ledger.extend news noCalls noSuccesses
  holder other request operation isOp := by
    rw [holder]
    exact wired.holder other request operation ((ops_eq other).symm.trans isOp)
  stage other request operation isOp := by
    rw [calls_append, noCalls, List.append_nil]
    exact wired.stage other request operation ((ops_eq other).symm.trans isOp)

end Wired

theorem Turn.holder_request_of_ne {turn : Turn} {task : TaskId}
    (waits : (turn.request task).holder ≠ some task) :
    (turn.request task).holder = turn.holder := by
  unfold request at waits ⊢
  split at waits
  · exact absurd rfl waits
  · rename_i taken
    rw [if_neg taken]

theorem Turn.request_holder
    {turn : Turn} {task other : TaskId}
    (held : (turn.request task).holder = some task)
    (before : turn.holder = some other) : other = task := by
  unfold request isFree at held
  rw [before] at held
  simp only [Option.isNone_some, Bool.false_eq_true, if_false] at held
  exact Option.some.inj held

theorem Writing.holder_approach_of_ne
    {turn : Turn} {task : TaskId} {stage : Writing}
    (waits : (stage.approach task turn).holder ≠ some task) :
    (stage.approach task turn).holder = turn.holder := by
  cases stage with
  | unstarted => exact Turn.holder_request_of_ne waits
  | queued limit => rfl
  | underway operation limit => rfl

theorem Writing.approach_holder
    {turn : Turn} {task other : TaskId} {stage : Writing}
    (held : (stage.approach task turn).holder = some task)
    (before : turn.holder = some other) : other = task := by
  cases stage with
  | unstarted => exact Turn.request_holder held before
  | queued limit => exact Option.some.inj (before.symm.trans held)
  | underway operation limit => exact Option.some.inj (before.symm.trans held)

/-! ### What a task has under way -/

section

variable {ops : TaskId → Option (SinkRequest × Operation)} {task : TaskId}

theorem unheard_update (none : ops task = none) (other : TaskId) :
    (if other = task then Option.none else ops other) = ops other := by
  split
  · rename_i same
    rw [same, none]
  · rfl

theorem idle_update
    (others : ∀ other, other ≠ task → ops other = none) (other : TaskId) :
    (if other = task then none else ops other) = none := by
  split
  · rfl
  · exact others other ‹_›

theorem alone_update (others : ∀ other, other ≠ task → ops other = none)
    (call : SinkRequest × Operation) (other : TaskId) :
    (if other = task then some call else ops other) =
      if other = task then some call else none := by
  split
  · rfl
  · exact others other ‹_›

end

namespace Wired

variable {id : PeerId} {ops : TaskId → Option (SinkRequest × Operation)}
  {turn : Turn} {chronicle : List Entry} {placed : List Call} {task : TaskId}
  {now : Instant} {closed : Bool}
  {frame : Frame} {span : Span} {stage : Writing} {link : Link}
  {told : List Happening} {after : Station} {written : Written}

theorem alone
    (wired : Wired id ops turn link.desk chronicle placed)
    {call : SinkRequest × Operation} (own : ops task = some call)
    (other : TaskId) (different : other ≠ task) : ops other = none := by
  refine wired.others (fun other held => ?_) other different
  rw [wired.holder task call.1 call.2 own] at held
  exact (Option.some.inj held).symm

/-- A write that goes on keeps the ledger, with or without its frame. -/
theorem frameStep
    (wired : Wired id ops turn link.desk chronicle placed)
    (own : ops task = stage.operation? frame)
    (step : FrameStep now closed task id frame span stage ⟨turn, .link link⟩
      told after written) :
    ∃ later placed, after.socket = .link later ∧
      Wired id (fun other => if other = task then written.operation? frame
        else ops other)
        after.turn later.desk (entriesAt now told ++ chronicle) placed := by
  have asked : Ledger id link.desk
      (⟨now, .asked task id (.frame frame)⟩ :: chronicle) placed :=
    wired.ledger.ask task _
  have last : calls id (⟨now, .asked task id (.frame frame)⟩ :: chronicle) =
      calls id chronicle ++ [(task, .frame frame)] := by
    simp [Happening.callsTo]
  cases step with
  | refused isClosed =>
      exact ⟨link, placed, rfl, wired.keep (unheard_update own) rfl _ rfl rfl⟩
  | refusedInTurn isClosed held =>
      have others := wired.others fun other before =>
        Option.some.inj (before.symm.trans held)
      exact ⟨link, placed, rfl,
        rest (wired.ledger.extend [_] rfl rfl) _ (idle_update others)⟩
  | answeredAtOnce early isOpen held started =>
      obtain ⟨later, rfl, placing⟩ := Socket.start_link started
      have others :=
        wired.others fun other before => Writing.approach_holder held before
      obtain ⟨placed, ledger⟩ :=
        (asked.place last wired.ledger.isSublist placing).wrote
      exact ⟨later, placed, rfl, rest ledger _ (idle_update others)⟩
  | cutAtOnce early isOpen held started late =>
      obtain ⟨later, rfl, placing⟩ := Socket.start_link started
      have others :=
        wired.others fun other before => Writing.approach_holder held before
      obtain ⟨placed, ledger⟩ :=
        (asked.place last wired.ledger.isSublist placing).ledger
      exact ⟨later, placed, rfl,
        rest (ledger.extend [_] rfl rfl) _ (idle_update others)⟩
  | begun early isOpen held started due inTime =>
      obtain ⟨later, rfl, placing⟩ := Socket.start_link started
      have others :=
        wired.others fun other before => Writing.approach_holder held before
      obtain ⟨placed, begun⟩ :=
        (asked.place last wired.ledger.isSublist placing).wired last held
      exact ⟨later, placed, rfl,
        begun.keep (alone_update others _) rfl [] rfl rfl⟩
  | cutInLine early waits late =>
      have none : ops task = none := by
        rw [own]
        cases stage <;> first | rfl | cases early
      have same :
          ((stage.approach task turn).leave task).holder = turn.holder :=
        Writing.holder_approach_of_ne waits
      exact ⟨link, placed, rfl, wired.keep (unheard_update none) same _ rfl rfl⟩
  | inLine early waits due inTime =>
      have none : ops task = none := by
        rw [own]
        cases stage <;> first | rfl | cases early
      exact ⟨link, placed, rfl, wired.keep (unheard_update none)
        (Writing.holder_approach_of_ne waits) [] rfl rfl⟩
  | answered proceeded =>
      obtain ⟨later, rfl, placing, flushing⟩ := Socket.proceed_link proceeded
      obtain ⟨earlier, isLast, isStage⟩ := wired.stage task _ _ own
      obtain ⟨placed, ledger⟩ :=
        (wired.ledger.resume isLast isStage placing flushing).wrote
      exact ⟨later, placed, rfl, rest ledger _ (idle_update (wired.alone own))⟩
  | cut proceeded late =>
      obtain ⟨later, rfl, placing, flushing⟩ := Socket.proceed_link proceeded
      obtain ⟨earlier, isLast, isStage⟩ := wired.stage task _ _ own
      obtain ⟨placed, ledger⟩ :=
        (wired.ledger.resume isLast isStage placing flushing).ledger
      exact ⟨later, placed, rfl,
        rest (ledger.extend [_] rfl rfl) _ (idle_update (wired.alone own))⟩
  | goesOn proceeded inTime =>
      obtain ⟨later, rfl, placing, flushing⟩ := Socket.proceed_link proceeded
      obtain ⟨earlier, isLast, isStage⟩ := wired.stage task _ _ own
      have held := wired.holder task _ _ own
      obtain ⟨placed, going⟩ :=
        (wired.ledger.resume isLast isStage placing flushing).wired isLast held
      exact ⟨later, placed, rfl,
        going.keep (alone_update (wired.alone own) _) rfl [] rfl rfl⟩

/-- What the sending of a close frame has under way. -/
def closing? (closing : Option Closing) : Option (SinkRequest × Operation) :=
  closing.map fun closing => (.close, closing.operation)

/-- The sending of a close frame keeps the ledger, with or without it. -/
theorem closeStep
    {before next : Option Closing}
    (wired : Wired id ops turn link.desk chronicle placed)
    (own : ops task = closing? before)
    (step : CloseStep now task id before ⟨turn, .link link⟩ told after next) :
    ∃ later placed, after.socket = .link later ∧
      Wired id (fun other => if other = task then closing? next else ops other)
        after.turn later.desk (entriesAt now told ++ chronicle) placed := by
  have asked :
      Ledger id link.desk (⟨now, .asked task id .close⟩ :: chronicle) placed :=
    wired.ledger.ask task _
  have last : calls id (⟨now, .asked task id .close⟩ :: chronicle) =
      calls id chronicle ++ [(task, .close)] := by
    simp [Happening.callsTo]
  -- Nobody has anything under way while the turn is free.
  have free_others : turn.isFree = true → ∀ other, other ≠ task →
      ops other = none := by
    intro free
    refine wired.others fun other held => ?_
    rw [Turn.isFree, held] at free
    cases free
  have held : turn.isFree = true → (turn.request task).holder = some task := by
    intro free
    rw [Turn.request, if_pos free]
  cases step with
  | busy taken =>
      exact ⟨link, placed, rfl, wired.keep (unheard_update own) rfl [] rfl rfl⟩
  | answeredAtOnce free started =>
      obtain ⟨later, rfl, placing⟩ := Socket.start_link started
      obtain ⟨placed, ledger⟩ :=
        (asked.place last wired.ledger.isSublist placing).ledger
      exact ⟨later, placed, rfl,
        rest (ledger.extend [_] rfl rfl) _ (idle_update (free_others free))⟩
  | cutAtOnce free started =>
      obtain ⟨later, rfl, placing⟩ := Socket.start_link started
      obtain ⟨placed, ledger⟩ :=
        (asked.place last wired.ledger.isSublist placing).ledger
      exact ⟨later, placed, rfl, rest ledger _ (idle_update (free_others free))⟩
  | begun free started =>
      obtain ⟨later, rfl, placing⟩ := Socket.start_link started
      obtain ⟨placed, begun⟩ :=
        (asked.place last wired.ledger.isSublist placing).wired last (held free)
      exact ⟨later, placed, rfl,
        begun.keep (alone_update (free_others free) _) rfl [] rfl rfl⟩
  | answered proceeded =>
      obtain ⟨later, rfl, placing, flushing⟩ := Socket.proceed_link proceeded
      obtain ⟨earlier, isLast, isStage⟩ := wired.stage task _ _ own
      obtain ⟨placed, ledger⟩ :=
        (wired.ledger.resume isLast isStage placing flushing).ledger
      exact ⟨later, placed, rfl,
        rest (ledger.extend [_] rfl rfl) _ (idle_update (wired.alone own))⟩
  | cut proceeded =>
      obtain ⟨later, rfl, placing, flushing⟩ := Socket.proceed_link proceeded
      obtain ⟨earlier, isLast, isStage⟩ := wired.stage task _ _ own
      obtain ⟨placed, ledger⟩ :=
        (wired.ledger.resume isLast isStage placing flushing).ledger
      exact ⟨later, placed, rfl, rest ledger _ (idle_update (wired.alone own))⟩
  | goesOn proceeded =>
      obtain ⟨later, rfl, placing, flushing⟩ := Socket.proceed_link proceeded
      obtain ⟨earlier, isLast, isStage⟩ := wired.stage task _ _ own
      have held := wired.holder task _ _ own
      obtain ⟨placed, going⟩ :=
        (wired.ledger.resume isLast isStage placing flushing).wired isLast held
      exact ⟨later, placed, rfl,
        going.keep (alone_update (wired.alone own) _) rfl [] rfl rfl⟩

end Wired

end BroadcastHub.Server
