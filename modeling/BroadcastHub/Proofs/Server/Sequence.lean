import BroadcastHub.Proofs.Server.Beginnings
import BroadcastHub.Proofs.Server.Deliveries
import BroadcastHub.Proofs.Server.Lines

/-!
# The order in which deliveries reach a socket

The deliveries to one peer that have asked its socket, in the order in which
they did, and after them those in line for it make up one sequence.  A write
that goes on moves within it, drops out of it, or comes to its end when it
begins; nobody overtakes anybody.
-/

namespace BroadcastHub.Server

open Scenario

namespace Turn

variable {turn : Turn} {task : TaskId}

/-- Who has the turn and then who waits for it, in the order in which it passes
on. -/
def line (turn : Turn) : List TaskId := turn.holder.toList ++ turn.waiting

theorem line_of_holder (held : turn.holder = some task) :
    turn.line = task :: turn.waiting := by
  rw [line, held]
  rfl

theorem line_request (free : turn.holder = none → turn.waiting = []) :
    (turn.request task).line = turn.line ++ [task] := by
  cases holder : turn.holder with
  | none => simp [request, isFree, line, holder, free holder]
  | some first => simp [request, isFree, line, holder]

theorem line_release : turn.release.line = turn.waiting := by
  unfold release
  split
  · rename_i nobody
    simp [line, nobody]
  · rename_i next rest waits
    rw [waits]
    rfl

theorem line_leave (waits : turn.holder ≠ some task) :
    (turn.leave task).line = turn.line.filter fun other => other ≠ task := by
  cases holder : turn.holder with
  | none => simp [leave, line, holder]
  | some first =>
      have different : first ≠ task := fun same => waits (same ▸ holder)
      simp [leave, line, holder, different]

end Turn

/-- Whether a writer waits for its turn or has just got it. -/
def Post.isInLine : Post → Bool
  | .inLine _ => true
  | .asking _ _ _ => false

/-- Those in line for a turn who bring something. -/
def lined
    (brings : TaskId → Bool) (posts : TaskId → Option Post) (turn : Turn) :
    List TaskId :=
  turn.line.filter fun task => brings task && (posts task).any Post.isInLine

/-- A write that has not begun comes to the end of the line. -/
def Writing.newcomer (task : TaskId) : Writing → List TaskId
  | unstarted => [task]
  | _ => []

namespace Line

variable {brings : TaskId → Bool} {posts : TaskId → Option Post} {turn : Turn}
  {awake : TaskId → Prop} {task : TaskId} {post : Option Post}

theorem mem_line (line : Line posts turn awake) (member : task ∈ turn.line) :
    (posts task).isSome = true := by
  rcases List.mem_append.mp member with holds | waits
  · exact line.isSome_of_holder (Option.mem_toList.mp holds)
  · obtain ⟨⟨limit, inLine⟩, -⟩ := (line.inLine task).mp waits
    rw [inLine]
    rfl

theorem filter_repost {others : List TaskId} (outside : task ∉ others) :
    (others.filter fun other => brings other &&
      (repost posts task post other).any Post.isInLine) =
      others.filter fun other => brings other &&
      (posts other).any Post.isInLine := by
  refine List.filter_congr fun other member => ?_
  have different : other ≠ task := fun same => outside (same ▸ member)
  rw [repost_of_ne different]

/-- A write that asks for its turn comes to the end of the line. -/
theorem lined_request
    (line : Line posts turn awake) (none : posts task = none) (limit : Alarm) :
    lined brings (repost posts task (some (.inLine limit)))
      (turn.request task) =
      lined brings posts turn ++ [task].filter brings := by
  have outside : task ∉ turn.line := by
    intro member
    have isSome := line.mem_line member
    rw [none] at isSome
    cases isSome
  rw [lined, Turn.line_request line.free, List.filter_append,
    filter_repost outside]
  congr 1
  refine List.filter_congr fun other member => ?_
  rw [List.mem_singleton.mp member, repost_self]
  exact Bool.and_true _

theorem lined_release
    (line : Line posts turn awake) (held : turn.holder = some task)
    (post : Option Post) :
    lined brings (repost posts task post) turn.release =
      turn.waiting.filter fun other => brings other &&
      (posts other).any Post.isInLine := by
  have outside : task ∉ turn.waiting :=
    fun member => ((line.inLine task).mp member).2 held
  rw [lined, Turn.line_release, filter_repost outside]

theorem lined_first
    (line : Line posts turn awake) (held : turn.holder = some task)
    {limit : Alarm} (inLine : posts task = some (.inLine limit))
    (post : Option Post) :
    lined brings posts turn =
      [task].filter brings ++ lined brings (repost posts task post)
        turn.release := by
  rw [line.lined_release held, lined, Turn.line_of_holder held,
    ← List.singleton_append, List.filter_append]
  congr 1
  refine List.filter_congr fun other member => ?_
  rw [List.mem_singleton.mp member, inLine]
  exact Bool.and_true _

theorem lined_asking
    (line : Line posts turn awake) (held : turn.holder = some task)
    (request : SinkRequest) (operation : Operation) (limit : Alarm)
    (post : Option Post) :
    lined brings (repost posts task (some (.asking request operation limit)))
      turn =
      lined brings (repost posts task post) turn.release := by
  have outside : task ∉ turn.waiting :=
    fun member => ((line.inLine task).mp member).2 held
  rw [line.lined_release held, lined, Turn.line_of_holder held,
    List.filter_cons, repost_self, filter_repost outside]
  exact if_neg (by simp [Post.isInLine])

theorem lined_leave (waits : turn.holder ≠ some task) :
    (lined brings (repost posts task none) (turn.leave task)).Sublist
      (lined brings posts turn) := by
  have outside : task ∉ turn.line.filter fun other => other ≠ task := by
    intro member
    exact of_decide_eq_true (List.mem_filter.mp member).2 rfl
  rw [lined, Turn.line_leave waits, filter_repost outside]
  exact (List.filter_sublist).filter _

theorem lined_stay
    {before : Alarm} (inLine : posts task = some (.inLine before))
    (limit : Alarm) :
    lined brings (repost posts task (some (.inLine limit))) turn =
      lined brings posts turn := by
  refine List.filter_congr fun other _ => ?_
  by_cases own : other = task
  · rw [own, repost_self, inLine]
    rfl
  · rw [repost_of_ne own]

theorem lined_idle (idle : brings task = false) :
    lined brings (repost posts task post) turn = lined brings posts turn := by
  refine List.filter_congr fun other _ => ?_
  by_cases own : other = task
  · rw [own, idle]
    rfl
  · rw [repost_of_ne own]

section

variable {id : PeerId} {now : Instant} {closed : Bool} {frame : Frame}
  {span : Span} {stage : Writing} {socket : Socket} {after : Station}
  {told : List Happening} {written : Written}

theorem lined_approach
    (line : Line posts turn awake) (own : posts task = stage.post? frame)
    (early : stage.hasAsked = false) (limit : Alarm) :
    lined brings (repost posts task (some (.inLine limit)))
      (stage.approach task turn) =
      lined brings posts turn ++ (stage.newcomer task).filter brings := by
  cases stage with
  | unstarted => exact line.lined_request own limit
  | queued before => exact (lined_stay own limit).trans (List.append_nil _).symm
  | underway operation limit => cases early

/-- A write that goes on overtakes nobody. -/
theorem lined_frameStep
    (line : Line posts turn awake) (own : posts task = stage.post? frame)
    (step : FrameStep now closed task id frame span stage ⟨turn, socket⟩ told
      after written) :
    (((calls id (entriesAt now told)).map Prod.fst).filter brings ++
        lined brings (repost posts task (written.post? frame))
          after.turn).Sublist
      (lined brings posts turn ++ (stage.newcomer task).filter brings) := by
  -- While it asks for the turn or leaves it the task counts as one that is
  -- awake.
  have approached : stage.hasAsked = false → ∃ limit,
      Line (repost posts task (some (.inLine limit))) (stage.approach task turn)
        fun _ => True :=
    fun early => line.approach own early trivial fun _ _ _ => trivial
  have underway : ∀ {operation limit},
      posts task = some (.asking (.frame frame) operation limit) →
      lined brings posts turn =
        lined brings (repost posts task none) turn.release := by
    intro operation limit asking
    have held := line.asking _ _ _ _ asking
    rw [← line.lined_asking held (.frame frame) operation limit,
      repost_eq_self asking]
  cases step with
  | refused isClosed =>
      have none : posts task = none := own
      rw [show Written.post? frame _ = Option.none from rfl,
        repost_eq_self none]
      exact List.sublist_append_left _ _
  | @refusedInTurn limit _ _ isClosed held =>
      have first : lined brings posts turn =
          [task].filter brings ++ lined brings (repost posts task none)
            turn.release :=
        line.lined_first held own none
      rw [first, show (Writing.queued limit).newcomer task = [] from rfl,
        List.filter_nil, List.append_nil]
      exact List.sublist_append_right _ _
  | answeredAtOnce early isOpen held started =>
      obtain ⟨limit, begun⟩ := approached early
      rw [← line.lined_approach own early limit,
        begun.lined_first held repost_self none, repost_repost]
      refine .append (.filter _ ?_) (.refl _)
      simp [entriesAt, calls, account, Happening.callsTo]
  | cutAtOnce early isOpen held started late =>
      obtain ⟨limit, begun⟩ := approached early
      rw [← line.lined_approach own early limit,
        begun.lined_first held repost_self none, repost_repost]
      refine .append (.filter _ ?_) (.refl _)
      simp [entriesAt, calls, account, Happening.callsTo]
  | @begun _ _ _ _ _ operation last early isOpen held started due inTime =>
      obtain ⟨limit, begun⟩ := approached early
      have asking : lined brings
          (repost _ task (some (.asking (.frame frame) operation last)))
          (stage.approach task turn) = lined brings (repost _ task none) _ :=
        begun.lined_asking held (.frame frame) operation last none
      rw [repost_repost, repost_repost] at asking
      rw [← line.lined_approach own early limit,
        begun.lined_first held repost_self none, repost_repost, ← asking]
      refine .append (.filter _ ?_) (.refl _)
      simp [entriesAt, calls, account, Happening.callsTo]
  | cutInLine early waits late =>
      obtain ⟨limit, begun⟩ := approached early
      rw [← line.lined_approach own early limit,
        ← repost_repost (some (.inLine limit))]
      exact lined_leave waits
  | @inLine _ _ _ last early waits due inTime =>
      obtain ⟨limit, begun⟩ := approached early
      rw [← line.lined_approach own early limit, ← lined_stay repost_self last,
        repost_repost]
      exact .refl _
  | answered proceeded =>
      rw [underway own]
      exact List.sublist_append_left _ _
  | cut proceeded late =>
      rw [underway own]
      exact List.sublist_append_left _ _
  | @goesOn limit _ _ _ _ next proceeded inTime =>
      rw [underway own, ← line.lined_asking (line.asking _ _ _ _ own)
        (.frame frame) next limit]
      exact List.sublist_append_left _ _

theorem lined_closeStep
    {current next : Option Closing} (line : Line posts turn awake)
    (own : posts task = current.map Closing.post) (idle : brings task = false)
    (step : CloseStep now task id current ⟨turn, socket⟩ told after next) :
    lined brings (repost posts task (next.map Closing.post)) after.turn =
      lined brings posts turn := by
  have ends : turn.holder = some task →
      lined brings posts turn.release = lined brings posts turn := by
    intro held
    rw [lined, lined, Turn.line_release, Turn.line_of_holder held,
      List.filter_cons]
    simp [idle]
  have empty : turn.isFree = true → turn = {} := by
    intro free
    have holder : turn.holder = none := Option.isNone_iff_eq_none.mp free
    have waiting := line.free holder
    cases turn
    cases holder
    cases waiting
    rfl
  rw [lined_idle idle]
  cases step with
  | busy => rfl
  | answeredAtOnce free started =>
      rw [empty free]
      rfl
  | cutAtOnce free started =>
      rw [empty free]
      rfl
  | begun free started =>
      rw [empty free]
      simp [lined, Turn.line, Turn.request, Turn.isFree, idle]
  | answered proceeded => exact ends (line.asking _ _ _ _ own)
  | cut proceeded => exact ends (line.asking _ _ _ _ own)
  | goesOn proceeded => rfl

end

theorem lined_congr {carries : TaskId → Bool}
    (agree : ∀ task, (posts task).isSome = true → brings task = carries task) :
    lined brings posts turn = lined carries posts turn := by
  refine List.filter_congr fun task _ => ?_
  cases isPost : posts task with
  | none => simp
  | some post => rw [agree task (by rw [isPost]; rfl)]

end Line

/-! ### Deliveries -/

namespace Hub

/-- Whether a task is a delivery of some broadcast. -/
def isDelivery (hub : Hub) (task : TaskId) : Bool :=
  (fanOuts hub.chronicle).any fun fanOut => fanOut.launches task

/-- Whether a task is a delivery that has not begun. -/
def isFresh (hub : Hub) (task : TaskId) : Bool :=
  hub.isDelivery task && (hub.task task).isUnbegun

/-- The deliveries that have asked a peer's socket, in the order in which they
did. -/
def handed (hub : Hub) (id : PeerId) : List TaskId :=
  ((calls id hub.chronicle).map Prod.fst).filter hub.isDelivery

/-- Those deliveries, and then those in line for the turn to write to the
peer. -/
def sequence (hub : Hub) (id : PeerId) : List TaskId :=
  hub.handed id ++ lined hub.isDelivery (hub.posts id) (hub.peer id).turn

theorem lt_size_of_posts {hub : Hub} {id : PeerId} {task : TaskId}
    (isSome : (hub.posts id task).isSome = true) : task < hub.tasks.size := by
  refine hub.lt_size_of_task task fun idle => ?_
  rw [posts, idle] at isSome
  cases isSome

end Hub

section

variable {before after : Hub} {id : PeerId} {task : TaskId}

theorem Happening.isBy_of_callsTo {happening : Happening} {call : Call}
    (tells : call ∈ happening.callsTo id) : happening.isBy call.1 = true := by
  cases happening with
  | asked task peer request =>
      change call ∈ if peer = id then [(task, request)] else [] at tells
      split at tells
      · cases List.mem_singleton.mp tells
        exact decide_eq_true rfl
      · cases tells
  | _ => cases tells

/-- Who calls in a step that a task does is the task. -/
theorem eq_of_isBy {now : Instant} {told : List Happening}
    (isBy : ∀ happening ∈ told, happening.isBy task = true) :
    ∀ call ∈ calls id (entriesAt now told), call.1 = task := by
  intro call member
  obtain ⟨entry, listed, tells⟩ :=
    (mem_account (Happening.callsTo id)).mp member
  obtain ⟨happening, isTold, rfl⟩ := List.mem_map.mp listed
  have own := isBy happening isTold
  cases happening with
  | asked caller peer request =>
      change call ∈ if peer = id then [(caller, request)] else [] at tells
      split at tells
      · cases List.mem_singleton.mp tells
        exact of_decide_eq_true own
      · cases tells
  | _ => cases tells

/-- All that happens when the sending of a close frame goes on is done by its
task. -/
theorem CloseStep.isBy
    {now : Instant} {current next : Option Closing} {station later : Station}
    {told : List Happening}
    (step : CloseStep now task id current station told later next) :
    ∀ happening ∈ told, happening.isBy task = true := by
  intro happening member
  cases step <;> simp at member
  case answeredAtOnce => rcases member with rfl | rfl <;> simp [Happening.isBy]
  case cutAtOnce => simp [member, Happening.isBy]
  case begun => simp [member, Happening.isBy]
  case answered => simp [member, Happening.isBy]

theorem News.isDelivery_of_lt
    {brings : Happening → Prop} {news : List Entry}
    (isNews : News brings before after news)
    (below : task < before.tasks.size) :
    after.isDelivery task = before.isDelivery task := by
  have none :
      (fanOuts news).any (fun fanOut => fanOut.launches task) = false := by
    refine List.any_eq_false.mpr fun fanOut member launches => ?_
    obtain ⟨entry, listed, limit, isBroadcast⟩ := mem_fanOuts.mp member
    have above := (isNews.launched entry listed _ _ _ _ isBroadcast).1
    exact Nat.not_lt.mpr
      (Nat.le_trans above (FanOut.launches_iff.mp launches).1) below
  rw [Hub.isDelivery, isNews.chronicle, fanOuts_append, List.any_append, none]
  exact Bool.or_false _

namespace Broadcasts

variable {hub : Hub} (broadcasts : Broadcasts hub)

include broadcasts

theorem exists_delivery
    {fanOut : FanOut} (member : fanOut ∈ fanOuts hub.chronicle)
    (launches : fanOut.launches task = true) :
    ∃ launch id limit, fanOut.recipient? task = some id ∧
      Delivery hub launch task id fanOut.frame limit := by
  obtain ⟨entry, listed, limit, isBroadcast⟩ := mem_fanOuts.mp member
  obtain ⟨first_le, below⟩ := FanOut.launches_iff.mp launches
  have inside : task - fanOut.first < fanOut.recipients.length :=
    Nat.sub_lt_left_of_lt_add first_le below
  have delivery := broadcasts.delivery entry listed _ _ _ _ isBroadcast _ inside
  rw [Nat.add_sub_of_le first_le] at delivery
  exact ⟨_, _, limit, List.getElem?_eq_getElem inside, delivery⟩

theorem lt_size_of_isDelivery (isDelivery : hub.isDelivery task = true) :
    task < hub.tasks.size := by
  obtain ⟨fanOut, member, launches⟩ := List.any_eq_true.mp isDelivery
  obtain ⟨_, _, _, -, delivery⟩ := broadcasts.exists_delivery member launches
  exact delivery.taskInside

theorem lt_size_of_call {call : Call} (member : call ∈ calls id hub.chronicle) :
    call.1 < hub.tasks.size := by
  obtain ⟨entry, listed, tells⟩ :=
    (mem_account (Happening.callsTo id)).mp member
  exact broadcasts.known entry listed call.1 (Happening.isBy_of_callsTo tells)

theorem deliver_of_isDelivery (isDelivery : hub.isDelivery task = true)
    (writes : (hub.task task).writes? = some id) :
    ∃ frame limit stage, hub.task task = .deliver id frame limit stage := by
  obtain ⟨fanOut, member, launches⟩ := List.any_eq_true.mp isDelivery
  obtain ⟨_, _, limit, -, delivery⟩ :=
    broadcasts.exists_delivery member launches
  rcases delivery.state with ⟨stage, isDeliver, -⟩ | ⟨result, finished, -⟩
  · rw [isDeliver] at writes ⊢
    cases writes
    exact ⟨fanOut.frame, limit, stage, rfl⟩
  · rw [finished] at writes
    cases writes

theorem lt_size_of_sequence (member : task ∈ hub.sequence id) :
    task < hub.tasks.size := by
  rcases List.mem_append.mp member with handed | inLine
  · obtain ⟨call, listed, rfl⟩ := List.mem_map.mp (List.mem_filter.mp handed).1
    exact broadcasts.lt_size_of_call listed
  · have counts := (List.mem_filter.mp inLine).2
    simp only [Bool.and_eq_true] at counts
    exact broadcasts.lt_size_of_isDelivery counts.1

end Broadcasts

namespace Hub

/-- What a step makes of a sequence, as long as only those who were there call
and write. -/
theorem sequence_eq
    (broadcasts : Broadcasts before) {news : List Entry}
    (chronicle : after.chronicle = news ++ before.chronicle)
    (agree : ∀ task < before.tasks.size,
      after.isDelivery task = before.isDelivery task)
    (calling : ∀ call ∈ calls id news, call.1 < before.tasks.size)
    (writing : ∀ task, (after.posts id task).isSome = true →
      task < before.tasks.size) :
    after.sequence id = before.handed id ++
      (((calls id news).map Prod.fst).filter before.isDelivery ++
      lined before.isDelivery (after.posts id) (after.peer id).turn) := by
  have below : ∀ task ∈ (calls id after.chronicle).map Prod.fst,
      task < before.tasks.size := by
    intro task member
    obtain ⟨call, listed, rfl⟩ := List.mem_map.mp member
    rw [chronicle, calls_append] at listed
    rcases List.mem_append.mp listed with earlier | new
    · exact broadcasts.lt_size_of_call earlier
    · exact calling call new
  have handed : after.handed id =
      before.handed id ++ ((calls id news).map Prod.fst).filter
        before.isDelivery := by
    rw [Hub.handed, List.filter_congr fun task member =>
      agree task (below task member), chronicle,
        calls_append, List.map_append, List.filter_append]
    rfl
  rw [sequence, handed, List.append_assoc,
    Line.lined_congr fun task isSome => agree task (writing task isSome)]

/-- What leaves the writers to a peer alone leaves its sequence alone. -/
theorem sequence_of_quiet
    (broadcasts : Broadcasts before)
    (turn : (after.peer id).turn = (before.peer id).turn)
    (posts : ∀ task, after.posts id task = before.posts id task)
    (chronicle : ∃ news, after.chronicle = news ++ before.chronicle ∧
      ∀ entry ∈ news, ¬ entry.happening.isAt id)
    (agree : ∀ task < before.tasks.size,
      after.isDelivery task = before.isDelivery task) :
    after.sequence id = before.sequence id := by
  obtain ⟨news, chronicle, elsewhere⟩ := chronicle
  have silent : calls id news = [] := calls_of_elsewhere elsewhere
  rw [sequence_eq broadcasts chronicle agree, silent, turn, funext posts]
  · rfl
  · rw [silent]
    rintro _ ⟨⟩
  · intro task isSome
    rw [posts] at isSome
    exact lt_size_of_posts isSome

/-- A task that writes to a peer changes its sequence as it changes the line
there. -/
theorem sequence_of_writes
    (broadcasts : Broadcasts before) {news : List Entry} {post : Option Post}
    (there : task < before.tasks.size)
    (chronicle : after.chronicle = news ++ before.chronicle)
    (agree : ∀ task < before.tasks.size,
      after.isDelivery task = before.isDelivery task)
    (own : ∀ call ∈ calls id news, call.1 = task)
    (posts : after.posts id = repost (before.posts id) task post) :
    after.sequence id = before.handed id ++
      (((calls id news).map Prod.fst).filter before.isDelivery ++
      lined before.isDelivery (repost (before.posts id) task post)
        (after.peer id).turn) := by
  rw [← posts]
  refine sequence_eq broadcasts chronicle agree (fun call member => ?_)
    fun other isSome => ?_
  · rw [own call member]
    exact there
  · rw [posts] at isSome
    by_cases same : other = task
    · exact same ▸ there
    · rw [repost_of_ne same] at isSome
      exact lt_size_of_posts isSome

/-- In the sequence of a peer a task that goes on overtakes nobody. -/
theorem sequence_goOn
    {hub : Hub} (housed : Housed hub) (broadcasts : Broadcasts hub)
    (lines : Lines hub) (task : TaskId) (id : PeerId) :
    ((hub.goOn task).sequence id).Sublist
      (hub.sequence id ++ [task].filter hub.isFresh) := by
  have agree : ∀ other < hub.tasks.size,
      (hub.goOn task).isDelivery other = hub.isDelivery other := by
    obtain ⟨news, isNews⟩ := (Course.goOn hub task).news
    exact fun other below => isNews.isDelivery_of_lt below
  have quiet : Aside id hub (hub.goOn task) →
      ((hub.goOn task).sequence id).Sublist
        (hub.sequence id ++ [task].filter hub.isFresh) := by
    intro aside
    rw [sequence_of_quiet broadcasts aside.turn aside.posts
      aside.chronicle agree]
    exact List.sublist_append_left _ _
  by_cases writes : (hub.task task).writes? = some id
  case neg => exact quiet (WriteTurn.aside_of_elsewhere writes)
  have there : task < hub.tasks.size := hub.lt_size_of_task task fun idle => by
    rw [idle] at writes
    cases writes
  cases WriteTurn.goOn (fun peer writes =>
      housed.tasks task peer (Task.regards_of_writes writes)) id with
  | aside own aside => exact quiet aside
  | @frame frame span stage told station written sends within own step
      stationAfter chronicle ended posts =>
    -- Only a delivery that had not begun comes new into the sequence.
    have fresh : ((stage.newcomer task).filter hub.isDelivery).Sublist
        ([task].filter hub.isFresh) := by
      cases stage with
      | unstarted =>
          cases delivers : hub.isDelivery task with
          | false => simp [Writing.newcomer, delivers]
          | true =>
              obtain ⟨_, _, stage, isDeliver⟩ :=
                broadcasts.deliver_of_isDelivery delivers writes
              rw [isDeliver] at own
              cases stage <;> simp [Task.postAt, Writing.post?] at own
              simp [Writing.newcomer, isFresh, delivers, isDeliver,
                Task.isUnbegun]
      | _ => exact List.nil_sublist _
    rw [sequence_of_writes broadcasts there chronicle agree
      (eq_of_isBy step.isBy) (funext posts),
      show ((hub.goOn task).peer id).turn =
        _ from congrArg Station.turn stationAfter, sequence,
      List.append_assoc]
    refine .append (.refl _) (((lines id).lined_frameStep own step).trans ?_)
    exact .append (.refl _) fresh
  | @close current next told station earlier asks own step stationAfter
      chronicle elsewhere ended posts =>
    -- Who sends a close frame is no delivery, so the sequence stays as it is.
    have idle : hub.isDelivery task = false := by
      refine Bool.eq_false_iff.mpr fun delivers => ?_
      obtain ⟨_, _, stage, isDeliver⟩ :=
        broadcasts.deliver_of_isDelivery delivers writes
      cases current with
      | none =>
          rcases asks rfl with closes | ⟨-, alarm, attends⟩
          · cases isDeliver.symm.trans closes
          · cases isDeliver.symm.trans attends
      | some closing =>
          rw [isDeliver] at own
          cases stage <;> simp [Task.postAt, Writing.post?, Closing.post] at own
    have calling : ∀ call ∈ calls id (entriesAt hub.now told ++ earlier),
        call.1 = task := by
      rw [calls_append, calls_of_elsewhere elsewhere]
      exact eq_of_isBy step.isBy
    have silent :
        ((calls id (entriesAt hub.now told ++ earlier)).map Prod.fst).filter
        hub.isDelivery = [] := by
      refine List.filter_eq_nil_iff.mpr fun other member => ?_
      obtain ⟨call, listed, rfl⟩ := List.mem_map.mp member
      rw [calling call listed, idle]
      exact Bool.false_ne_true
    rw [sequence_of_writes broadcasts there
        (chronicle.trans (List.append_assoc ..).symm) agree
        calling (funext posts),
      show ((hub.goOn task).peer id).turn =
        _ from congrArg Station.turn stationAfter, silent,
      (lines id).lined_closeStep own idle step]
    exact List.sublist_append_left _ _

end Hub

end

/-! ### Launch order -/

namespace Grounded

variable {hub : Hub}

theorem addPeer
    (grounded : Grounded hub) {peer : Peer} (fresh : peer.turn = {}) :
    Grounded (hub.addPeer peer) where
  ready := grounded.ready
  holder id task held := by
    rw [(Quiet.addPeer hub id fresh).turn] at held
    exact grounded.holder id task held
  waiting id task waits := by
    rw [(Quiet.addPeer hub id fresh).turn] at waits
    exact grounded.waiting id task waits
  watchers := grounded.watchers

/-- When a peer has joined, the task that serves it stands behind all that are
ready. -/
theorem serve
    (grounded : Grounded hub) {peer : Peer} (task : Task)
    (fresh : peer.turn = {}) :
    Queued none hub ((hub.addPeer peer).spawn task) := by
  have joined : Queued none hub (hub.addPeer peer) :=
    .ofSame (grounded.addPeer fresh) rfl
  refine joined.trans (.start joined.grounded (by rintro _ ⟨⟩) rfl
    (fun watch member => .inl member) (Hub.size_tasks_spawn _ task) rfl)
    (Nat.le_refl _) fun other above below => absurd below (Nat.not_lt.mpr above)

end Grounded

/-- Deliveries begin in the order of their numbers, and so they reach the socket
of every peer. -/
structure InSequence (hub : Hub) : Prop where
  grounded : Grounded hub
  fresh : (hub.ready.filter hub.isFresh).Pairwise (· < ·)
  sequence : ∀ id, (hub.sequence id).Pairwise (· < ·)
  ahead : ∀ id, ∀ task ∈ hub.sequence id, ∀ other, hub.isFresh other = true →
    task < other

namespace InSequence

variable {before after hub : Hub}

theorem start (configuration : Configuration) (chance : Nat → Nat) :
    InSequence { Hub.start configuration with chance } where
  grounded := .start configuration chance
  fresh := .nil
  sequence id := by
    have noPeer :
        ({ Hub.start configuration with chance } : Hub).peer id = default :=
      Hub.peer_of_size_le _ id (Nat.zero_le id)
    rw [Hub.sequence, noPeer]
    exact .nil
  ahead id task member other isFresh := by
    cases isFresh

/-- Deliveries that can begin stand in the order of their numbers, if they did
so before. -/
theorem fresh_of_queued
    {running : Option TaskId} (queued : Queued running before after)
    (grounded : Grounded before) (prompt : Prompt before)
    (agree : ∀ other < before.tasks.size, running ≠ some other →
      after.isFresh other = before.isFresh other)
    (begun : ∀ task, running = some task → after.isFresh task = false)
    (rises : (before.ready.filter before.isFresh).Pairwise (· < ·)) :
    (after.ready.filter after.isFresh).Pairwise (· < ·) := by
  obtain ⟨woken, same, new, risesNew⟩ := queued.behind
  have apart : ∀ task ∈ after.readyBut running, running ≠ some task :=
    fun task member => of_decide_eq_true (List.mem_filter.mp member).2
  have others : after.ready.filter after.isFresh =
      (after.readyBut running).filter after.isFresh := by
    rw [Hub.readyBut, List.filter_filter]
    refine List.filter_congr fun task _ => ?_
    by_cases own : running = some task
    · rw [begun task own]
      rfl
    · simp [own]
  have early : (before.readyBut running).filter after.isFresh =
      (before.readyBut running).filter before.isFresh := by
    refine List.filter_congr fun task member => ?_
    obtain ⟨isReady, isOther⟩ := List.mem_filter.mp member
    exact agree task (grounded.ready task isReady) (of_decide_eq_true isOther)
  -- What had not begun before was ready, so whatever has become ready and has
  -- not begun is new.
  have late :
      ∀ task ∈ woken.filter after.isFresh, before.tasks.size ≤ task := by
    intro task member
    obtain ⟨isWoken, isFresh⟩ := List.mem_filter.mp member
    refine Nat.le_of_not_lt fun below => new task isWoken ?_
    have isOther :=
      apart task (by rw [same]; exact List.mem_append_right _ isWoken)
    rw [agree task below isOther] at isFresh
    exact prompt task (Bool.and_eq_true_iff.mp isFresh).2
  rw [others, same, List.filter_append, early]
  refine List.pairwise_append.mpr ⟨?_, ?_, fun older inEarly newer inLate => ?_⟩
  · exact rises.sublist ((List.filter_sublist).filter _)
  · have narrow : woken.filter after.isFresh =
        (woken.filter fun task => before.tasks.size ≤ task).filter
          after.isFresh := by
      rw [List.filter_filter]
      refine List.filter_congr fun task isWoken => ?_
      cases isFresh : after.isFresh task with
      | false => rfl
      | true => simp [late task (List.mem_filter.mpr ⟨isWoken, isFresh⟩)]
    rw [narrow]
    exact risesNew.filter _
  · have isReady := (List.mem_filter.mp (List.mem_filter.mp inEarly).1).1
    exact Nat.lt_of_lt_of_le (grounded.ready older isReady) (late newer inLate)

/-- The first that can go on is the least of the deliveries that have not
begun. -/
theorem least
    (inSequence : InSequence hub) (prompt : Prompt hub) {task other : TaskId}
    (first : hub.ready.head? = some task) (isFresh : hub.isFresh task = true)
    (isOther : other ≠ task) (otherFresh : hub.isFresh other = true) :
    task < other := by
  obtain ⟨rest, isReady⟩ : ∃ rest, hub.ready = task :: rest := by
    cases isReady : hub.ready with
    | nil =>
        rw [isReady] at first
        cases first
    | cons head rest =>
        rw [isReady] at first
        exact ⟨rest, by rw [Option.some.inj first]⟩
  have rises := inSequence.fresh
  rw [isReady, List.filter_cons_of_pos isFresh] at rises
  have listed := prompt other (Bool.and_eq_true_iff.mp otherFresh).2
  rw [isReady] at listed
  have inRest : other ∈ rest := (List.mem_cons.mp listed).resolve_left isOther
  exact (List.pairwise_cons.mp rises).1 other
    (List.mem_filter.mpr ⟨inRest, otherFresh⟩)

theorem goOn
    (inSequence : InSequence hub) (housed : Housed hub)
    (broadcasts : Broadcasts hub) (lines : Lines hub) (prompt : Prompt hub)
    {task : TaskId} (first : hub.ready.head? = some task) :
    InSequence (hub.goOn task) := by
  have course := Course.goOn hub task
  obtain ⟨news, isNews⟩ := course.news
  have there := inSequence.grounded.ready task (List.mem_of_head? first)
  have queued : Queued (some task) hub (hub.goOn task) :=
    course.queued (by rintro _ ⟨⟩; exact there) inSequence.grounded
  have begun : (hub.goOn task).isFresh task = false := by
    rw [Hub.isFresh, Hub.begun_goOn hub there, Bool.and_false]
  have agree : ∀ other < hub.tasks.size, some task ≠ some other →
      (hub.goOn task).isFresh other = hub.isFresh other := by
    intro other below isOther
    rw [Hub.isFresh, Hub.isFresh, isNews.isDelivery_of_lt below,
      course.task other below isOther]
  have sublist := Hub.sequence_goOn housed broadcasts lines task
  have risen : ∀ id, (hub.sequence id ++ [task].filter hub.isFresh).Pairwise
      (· < ·) := by
    intro id
    refine List.pairwise_append.mpr ⟨inSequence.sequence id,
      (List.pairwise_singleton _ task).filter _,
      fun older member own isOwn => ?_⟩
    obtain ⟨same, isFresh⟩ := List.mem_filter.mp isOwn
    exact inSequence.ahead id older member own isFresh
  refine ⟨queued.grounded, ?_, fun id => (risen id).sublist (sublist id),
    fun id older member other otherFresh => ?_⟩
  · refine fresh_of_queued queued inSequence.grounded prompt agree ?_
      inSequence.fresh
    rintro _ ⟨⟩
    exact begun
  · have isOther : other ≠ task := by
      rintro rfl
      rw [begun] at otherFresh
      cases otherFresh
    rcases List.mem_append.mp ((sublist id).subset member) with earlier | own
    · by_cases below : other < hub.tasks.size
      · rw [agree other below fun same =>
          isOther (Option.some.inj same).symm] at otherFresh
        exact inSequence.ahead id older earlier other otherFresh
      · exact Nat.lt_of_lt_of_le (broadcasts.lt_size_of_sequence earlier)
          (Nat.not_lt.mp below)
    · obtain ⟨same, isFresh⟩ := List.mem_filter.mp own
      cases List.mem_singleton.mp same
      by_cases below : other < hub.tasks.size
      · rw [agree other below fun same =>
          isOther (Option.some.inj same).symm] at otherFresh
        exact inSequence.least prompt first isFresh isOther otherFresh
      · exact Nat.lt_of_lt_of_le there (Nat.not_lt.mp below)

/-- What leaves all writers alone and starts tasks behind all others keeps the
order. -/
theorem quiet
    (inSequence : InSequence before) (broadcasts : Broadcasts before)
    (prompt : Prompt before) (quiet : ∀ id, Quiet id before after)
    (queued : Queued none before after)
    (task : ∀ other < before.tasks.size, after.task other = before.task other)
    (agree : ∀ other < before.tasks.size,
      after.isDelivery other = before.isDelivery other) :
    InSequence after := by
  have same : ∀ id, after.sequence id = before.sequence id := fun id =>
    Hub.sequence_of_quiet broadcasts (quiet id).turn (quiet id).posts
      (quiet id).chronicle agree
  have agreeFresh : ∀ other < before.tasks.size,
      after.isFresh other = before.isFresh other := by
    intro other below
    rw [Hub.isFresh, Hub.isFresh, agree other below, task other below]
  refine ⟨queued.grounded, ?_, fun id => ?_,
    fun id older member other isFresh => ?_⟩
  · exact fresh_of_queued queued inSequence.grounded prompt
      (fun other below _ => agreeFresh other below) (by rintro _ ⟨⟩)
      inSequence.fresh
  · rw [same]
    exact inSequence.sequence id
  · rw [same] at member
    by_cases below : other < before.tasks.size
    · rw [agreeFresh other below] at isFresh
      exact inSequence.ahead id older member other isFresh
    · exact Nat.lt_of_lt_of_le (broadcasts.lt_size_of_sequence member)
        (Nat.not_lt.mp below)

/-- Every turnover keeps the order, as long as the first that can go on always
does. -/
theorem turn
    {manner : Manner} (inOrder : manner.inOrder)
    (inSequence : InSequence before) (housed : Housed before)
    (broadcasts : Broadcasts before) (lines : Lines before)
    (prompt : Prompt before)
    (turnover : Turnover (manner.outsider before.peers.size) before after) :
    InSequence after := by
  cases turnover with
  | outside outside =>
      obtain ⟨news, isNews, -⟩ := outside.news
      exact inSequence.quiet broadcasts prompt (fun id => .outside outside id)
        (outside.queued inSequence.grounded) outside.task fun other below =>
          isNews.isDelivery_of_lt below
  | register added =>
      exact inSequence.quiet broadcasts prompt
        (fun id => .addPeer before id rfl)
        (.ofSame (inSequence.grounded.addPeer rfl) rfl) (fun _ _ => rfl)
        fun _ _ => rfl
  | @serve socket task added opened serves =>
      refine inSequence.quiet broadcasts prompt
        (fun id => .serve before id rfl
          (by rcases serves with rfl | rfl <;> rfl))
        (inSequence.grounded.serve task rfl) (fun other below => ?_) fun _ _ =>
          rfl
      rw [Hub.task_spawn]
      exact if_neg (Nat.ne_of_lt below)
  | @go task isReady first =>
      exact inSequence.goOn housed broadcasts lines prompt (first inOrder)
  | @tick later still forward whole passes =>
      have grounded : Grounded { before with now := later } :=
        inSequence.grounded.keepReady rfl rfl
          (fun _ member => member) inSequence.grounded.ready
      have rung : Queued none { before with now := later }
          { before with now := later }.ring :=
        .ring grounded
      refine inSequence.quiet broadcasts prompt
        (fun id => .ring before id later)
        ⟨rung.grounded, rung.behind⟩ (fun other _ => ?_) fun other _ => ?_
      · rw [Hub.task, Hub.tasks_ring]
        rfl
      · rw [Hub.isDelivery, Hub.chronicle_ring]
        rfl

end InSequence

end BroadcastHub.Server
