import BroadcastHub.Server.Write

/-!
# Likeness of what tasks and peers hold

Two hubs number their tasks and their alarms independently of each other.
Tasks, peers and lines of writers are alike if they differ only in these
numbers: the tasks that they name are pairs of a given list, and so are their
alarms for a given relation of the numbers of alarms.
-/

namespace BroadcastHub.Server

/-- Tasks of two hubs that stand for each other. -/
abbrev TaskPairs := List (TaskId × TaskId)

/-- Which alarms of two hubs stand for each other, by the numbers of alarms set
before. -/
abbrev AlarmPairs := Nat → Nat → Prop

/-- Two more alarms stand for each other. -/
def AlarmPairs.also (orders : AlarmPairs) (first second : Nat) : AlarmPairs :=
  fun one two =>
    orders one two ∨ one = first ∧ two = second

/-! ### Lines -/

/-- Tasks that stand for each other one by one. -/
def Lined (pairs : TaskPairs) (first second : List TaskId) : Prop :=
  ∃ line : TaskPairs, line ⊆ pairs ∧ first = line.map Prod.fst ∧
    second = line.map Prod.snd

/-- No task stands for two others. -/
def Matched (pairs : TaskPairs) : Prop :=
  ∀ one ∈ pairs, ∀ two ∈ pairs, one.1 = two.1 ↔ one.2 = two.2

theorem Matched.ofSorted
    {pairs : TaskPairs}
    (sorted : pairs.Pairwise fun one two => one.1 < two.1 ∧ one.2 < two.2) :
    Matched pairs := by
  induction sorted with
  | nil => exact fun _ member => absurd member List.not_mem_nil
  | @cons pair rest below _ induction =>
      intro one memberOne two memberTwo
      rcases List.mem_cons.mp memberOne with rfl | laterOne <;>
        rcases List.mem_cons.mp memberTwo with rfl | laterTwo
      · exact iff_of_true rfl rfl
      · have less := below two laterTwo
        exact iff_of_false (Nat.ne_of_lt less.1) (Nat.ne_of_lt less.2)
      · have less := below one laterOne
        exact iff_of_false (Nat.ne_of_gt less.1) (Nat.ne_of_gt less.2)
      · exact induction one laterOne two laterTwo

namespace Lined

variable {pairs more : TaskPairs} {first second : List TaskId}
  {one two : TaskId}

theorem nil : Lined pairs [] [] := ⟨[], List.nil_subset _, rfl, rfl⟩

theorem mono (lined : Lined pairs first second) (grows : pairs ⊆ more) :
    Lined more first second := by
  obtain ⟨line, inside, rfl, rfl⟩ := lined
  exact ⟨line, List.Subset.trans inside grows, rfl, rfl⟩

theorem cons (pair : (one, two) ∈ pairs) (lined : Lined pairs first second) :
    Lined pairs (one :: first) (two :: second) := by
  obtain ⟨line, inside, rfl, rfl⟩ := lined
  exact ⟨(one, two) :: line, List.cons_subset.mpr ⟨pair, inside⟩, rfl, rfl⟩

theorem append
    {third fourth : List TaskId} (lined : Lined pairs first second)
    (other : Lined pairs third fourth) :
    Lined pairs (first ++ third) (second ++ fourth) := by
  obtain ⟨line, inside, rfl, rfl⟩ := lined
  obtain ⟨rest, insideRest, rfl, rfl⟩ := other
  exact ⟨line ++ rest, List.append_subset.mpr ⟨inside, insideRest⟩, by
    simp, by simp⟩

theorem mem_fst (pair : (one, two) ∈ pairs) : one ∈ pairs.map Prod.fst :=
  List.mem_map.mpr ⟨_, pair, rfl⟩

theorem mem_snd (pair : (one, two) ∈ pairs) : two ∈ pairs.map Prod.snd :=
  List.mem_map.mpr ⟨_, pair, rfl⟩

theorem kept (lined : Lined pairs first second) :
    Lined pairs (first.filter fun number => number ∈ pairs.map Prod.fst)
      (second.filter fun number => number ∈ pairs.map Prod.snd) := by
  have whole := lined
  obtain ⟨line, inside, rfl, rfl⟩ := lined
  rw [List.filter_eq_self.mpr, List.filter_eq_self.mpr]
  · exact whole
  · intro number member
    obtain ⟨pair, listed, rfl⟩ := List.mem_map.mp member
    exact decide_eq_true (mem_snd (inside listed))
  · intro number member
    obtain ⟨pair, listed, rfl⟩ := List.mem_map.mp member
    exact decide_eq_true (mem_fst (inside listed))

/-- Of two tasks that stand for each other both are in the line or none is. -/
theorem mem_iff (lined : Lined pairs first second) (matched : Matched pairs)
    (pair : (one, two) ∈ pairs) : one ∈ first ↔ two ∈ second := by
  obtain ⟨line, inside, rfl, rfl⟩ := lined
  have same : ∀ other ∈ line, other.1 = one ↔ other.2 = two :=
    fun other member =>
      matched other (inside member) (one, two) pair
  constructor
  · intro member
    obtain ⟨other, listed, isOne⟩ := List.mem_map.mp member
    exact List.mem_map.mpr ⟨other, listed, (same other listed).mp isOne⟩
  · intro member
    obtain ⟨other, listed, isTwo⟩ := List.mem_map.mp member
    exact List.mem_map.mpr ⟨other, listed, (same other listed).mpr isTwo⟩

theorem without (lined : Lined pairs first second) (matched : Matched pairs)
    (pair : (one, two) ∈ pairs) :
    Lined pairs (first.filter fun other => other ≠ one)
      (second.filter fun other => other ≠ two) := by
  obtain ⟨line, inside, rfl, rfl⟩ := lined
  refine ⟨line.filter fun other => other.1 ≠ one,
    fun other member => inside (List.mem_filter.mp member).1, ?_, ?_⟩
  · rw [List.filter_map]
    rfl
  · rw [List.filter_map]
    refine congrArg (List.map Prod.snd)
      (List.filter_congr fun other member => ?_)
    have same := matched other (inside member) (one, two) pair
    simp only [Function.comp_apply, ne_eq, decide_not, Bool.not_eq_eq_eq_not,
      Bool.not_not]
    exact decide_eq_decide.mpr same.symm

theorem cons_iff (lined : Lined pairs (one :: first) second) :
    ∃ two rest, second = two :: rest ∧ (one, two) ∈ pairs ∧
      Lined pairs first rest := by
  obtain ⟨line, inside, isFirst, rfl⟩ := lined
  cases line with
  | nil => cases isFirst
  | cons pair line =>
      cases isFirst
      obtain ⟨member, insideRest⟩ := List.cons_subset.mp inside
      exact ⟨pair.2, line.map Prod.snd, rfl, member, line, insideRest, rfl, rfl⟩

theorem nil_iff (lined : Lined pairs first second) :
    first = [] ↔ second = [] := by
  obtain ⟨line, -, rfl, rfl⟩ := lined
  simp

theorem option_cases
    {holder other : Option TaskId}
    (lined : Lined pairs holder.toList other.toList) :
    holder = none ∧ other = none ∨
      ∃ one two, holder = some one ∧ other = some two ∧ (one, two) ∈ pairs := by
  cases holder with
  | none => exact .inl ⟨rfl, Option.toList_eq_nil_iff.mp (lined.nil_iff.mp rfl)⟩
  | some one =>
      obtain ⟨two, rest, same, pair, -⟩ := lined.cons_iff
      cases other with
      | none => cases same
      | some holds =>
          cases same
          exact .inr ⟨one, two, rfl, rfl, pair⟩

end Lined

/-! ### Turns and peers -/

/-- Turns that are held and waited for by tasks that stand for each other. -/
structure Turn.Like (pairs : TaskPairs) (first second : Turn) : Prop where
  holder : Lined pairs first.holder.toList second.holder.toList
  waiting : Lined pairs first.waiting second.waiting

namespace Turn.Like

variable {pairs more : TaskPairs} {first second : Turn} {one two : TaskId}

theorem mono (like : Turn.Like pairs first second) (grows : pairs ⊆ more) :
    Turn.Like more first second :=
  ⟨like.holder.mono grows, like.waiting.mono grows⟩

theorem isFree_eq (like : Turn.Like pairs first second) :
    first.isFree = second.isFree := by
  have same := like.holder.nil_iff
  rw [Option.toList_eq_nil_iff, Option.toList_eq_nil_iff] at same
  unfold isFree
  rw [Bool.eq_iff_iff, Option.isNone_iff_eq_none, Option.isNone_iff_eq_none]
  exact same

theorem isHeldBy_eq
    (like : Turn.Like pairs first second) (matched : Matched pairs)
    (pair : (one, two) ∈ pairs) : first.isHeldBy one = second.isHeldBy two := by
  have same := like.holder.mem_iff matched pair
  rw [Option.mem_toList, Option.mem_toList] at same
  exact decide_eq_decide.mpr same

theorem request
    (like : Turn.Like pairs first second) (pair : (one, two) ∈ pairs) :
    Turn.Like pairs (first.request one) (second.request two) := by
  have single : Lined pairs [one] [two] := .cons pair .nil
  unfold Turn.request
  rw [like.isFree_eq]
  split
  · exact ⟨single, like.waiting⟩
  · exact ⟨like.holder, like.waiting.append single⟩

theorem release (like : Turn.Like pairs first second) :
    Turn.Like pairs first.release second.release := by
  obtain ⟨firstHolder, firstWaiting⟩ := first
  obtain ⟨secondHolder, secondWaiting⟩ := second
  obtain ⟨line, inside, same, other⟩ := like.waiting
  cases same
  cases other
  cases line with
  | nil => exact ⟨.nil, .nil⟩
  | cons next rest =>
      obtain ⟨member, insideRest⟩ := List.cons_subset.mp inside
      exact ⟨.cons member .nil, rest, insideRest, rfl, rfl⟩

theorem leave
    (like : Turn.Like pairs first second) (matched : Matched pairs)
    (pair : (one, two) ∈ pairs) :
    Turn.Like pairs (first.leave one) (second.leave two) :=
  ⟨like.holder, like.waiting.without matched pair⟩

end Turn.Like

/-! ### Alarms and stages -/

structure Alarm.Like (orders : AlarmPairs) (first second : Alarm) : Prop where
  due : first.due = second.due
  order : orders first.order second.order

inductive Operation.Like (orders : AlarmPairs) : Operation → Operation → Prop
  | pausing
      {first second : Alarm} (ends : first.Like orders second) (fails : Bool) :
      Like orders (.pausing first fails) (.pausing second fails)
  | placing : Like orders .placing .placing
  | flushing : Like orders .flushing .flushing

inductive Writing.Like (orders : AlarmPairs) : Writing → Writing → Prop
  | unstarted : Like orders .unstarted .unstarted
  | queued {first second : Alarm} (limits : first.Like orders second) :
      Like orders (.queued first) (.queued second)
  | underway
      {operation other : Operation} {first second : Alarm}
      (operations : operation.Like orders other)
      (limits : first.Like orders second) :
      Like orders (.underway operation first) (.underway other second)

structure Closing.Like
    (orders : AlarmPairs) (first second : Closing) : Prop where
  operation : first.operation.Like orders second.operation
  limit : first.limit.Like orders second.limit

inductive Attendance.Like (orders : AlarmPairs) : Attendance → Attendance → Prop
  | arriving : Like orders .arriving .arriving
  | looking : Like orders (.reading none) (.reading none)
  | reading {first second : Alarm} (alarms : first.Like orders second) :
      Like orders (.reading (some first)) (.reading (some second))
  | parting {first second : Closing} (closings : first.Like orders second) :
      Like orders (.parting first) (.parting second)

inductive Ponging.Like (orders : AlarmPairs) : Ponging → Ponging → Prop
  | unstarted : Like orders .unstarted .unstarted
  | delaying {first second : Alarm} (ends : first.Like orders second) :
      Like orders (.delaying first) (.delaying second)
  | writing {first second : Writing} (stages : first.Like orders second) :
      Like orders (.writing first) (.writing second)

/-- Tasks at like stages that do not concern one session, or are over. -/
inductive Task.Like (id : PeerId) (orders : AlarmPairs) : Task → Task → Prop
  | attend
      {peer : PeerId} (different : peer ≠ id) {first second : Attendance}
      (stages : first.Like orders second) :
      Like id orders (.attend peer first) (.attend peer second)
  | deliver
      {peer : PeerId} (different : peer ≠ id) (frame : Frame) (limit : Span)
      {first second : Writing} (stages : first.Like orders second) :
      Like id orders (.deliver peer frame limit first)
        (.deliver peer frame limit second)
  | pong
      {peer : PeerId} (different : peer ≠ id) (payload : Octets)
      {first second : Ponging} (stages : first.Like orders second) :
      Like id orders (.pong (some peer) payload first)
        (.pong (some peer) payload second)
  | send
      {peer : PeerId} (different : peer ≠ id) (frame : Frame) (limit : Span)
      {first second : Writing} (stages : first.Like orders second) :
      Like id orders (.send peer frame limit first)
        (.send peer frame limit second)
  | finished (outcome : Outcome) :
      Like id orders (.finished outcome) (.finished outcome)

section

variable {orders later : AlarmPairs}

theorem Alarm.Like.mono
    {first second : Alarm} (like : first.Like orders second)
    (grows : ∀ one two, orders one two → later one two) :
    first.Like later second :=
  ⟨like.due, grows _ _ like.order⟩

theorem Alarm.Like.next
    {due other : Instant} (same : due = other) (one two : Nat) :
    Alarm.Like (orders.also one two) ⟨due, one⟩ ⟨other, two⟩ :=
  ⟨same, .inr ⟨rfl, rfl⟩⟩

theorem Alarm.Like.hasRung_eq
    {first second : Alarm} (like : first.Like orders second) (now : Instant) :
    first.hasRung now = second.hasRung now := by
  unfold hasRung
  rw [like.due]

theorem Operation.Like.mono
    {first second : Operation} (like : first.Like orders second)
    (grows : ∀ one two, orders one two → later one two) :
    first.Like later second := by
  cases like with
  | pausing ends fails => exact .pausing (ends.mono grows) fails
  | placing => exact .placing
  | flushing => exact .flushing

theorem Writing.Like.mono
    {first second : Writing} (like : first.Like orders second)
    (grows : ∀ one two, orders one two → later one two) :
    first.Like later second := by
  cases like with
  | unstarted => exact .unstarted
  | queued limits => exact .queued (limits.mono grows)
  | underway operations limits =>
      exact .underway (operations.mono grows) (limits.mono grows)

theorem Attendance.Like.mono
    {first second : Attendance} (like : first.Like orders second)
    (grows : ∀ one two, orders one two → later one two) :
    first.Like later second := by
  cases like with
  | arriving => exact .arriving
  | looking => exact .looking
  | reading alarms => exact .reading (alarms.mono grows)
  | parting closings =>
      exact .parting ⟨closings.operation.mono grows, closings.limit.mono grows⟩

theorem Ponging.Like.mono
    {first second : Ponging} (like : first.Like orders second)
    (grows : ∀ one two, orders one two → later one two) :
    first.Like later second := by
  cases like with
  | unstarted => exact .unstarted
  | delaying ends => exact .delaying (ends.mono grows)
  | writing stages => exact .writing (stages.mono grows)

namespace Task.Like

variable {id : PeerId} {first second : Task}

theorem mono
    (like : first.Like id orders second)
    (grows : ∀ one two, orders one two → later one two) :
    first.Like id later second := by
  cases like with
  | attend different stages => exact .attend different (stages.mono grows)
  | deliver different frame limit stages =>
      exact .deliver different frame limit (stages.mono grows)
  | pong different payload stages =>
      exact .pong different payload (stages.mono grows)
  | send different frame limit stages =>
      exact .send different frame limit (stages.mono grows)
  | finished outcome => exact .finished outcome

theorem awaitsClose_eq (like : first.Like id orders second) (peer : PeerId) :
    Hub.awaitsClose peer first = Hub.awaitsClose peer second := by
  cases like with
  | attend different stages => cases stages <;> rfl
  | _ => rfl

theorem unmoved (like : first.Like id orders second) :
    Hub.awaitsClose id first = false ∧ Hub.awaitsClose id second = false := by
  cases like with
  | attend different stages =>
      cases stages <;> simp [Hub.awaitsClose, different]
  | _ => exact ⟨rfl, rfl⟩

/-- Tasks that are alike wait for like alarms, in the same order. -/
theorem alarms (like : first.Like id orders second) :
    ∃ alarms : List (Alarm × Alarm),
      (∀ pair ∈ alarms, pair.1.Like orders pair.2) ∧
      first.alarms = alarms.map Prod.fst ∧
      second.alarms = alarms.map Prod.snd := by
  have operation : ∀ {one two : Operation}, one.Like orders two →
      ∃ alarms : List (Alarm × Alarm),
        (∀ pair ∈ alarms, pair.1.Like orders pair.2) ∧
        one.alarms = alarms.map Prod.fst ∧
        two.alarms = alarms.map Prod.snd := by
    intro one two like
    cases like with
    | pausing ends fails => exact ⟨[(_, _)], by simpa using ends, rfl, rfl⟩
    | placing => exact ⟨[], by simp, rfl, rfl⟩
    | flushing => exact ⟨[], by simp, rfl, rfl⟩
  have bounded :
      ∀ {one two : Operation} {limit other : Alarm}, one.Like orders two →
      limit.Like orders other →
      ∃ alarms : List (Alarm × Alarm),
        (∀ pair ∈ alarms, pair.1.Like orders pair.2) ∧
        limit :: one.alarms = alarms.map Prod.fst ∧
        other :: two.alarms = alarms.map Prod.snd := by
    intro one two limit other like limits
    obtain ⟨alarms, alike, isOne, isTwo⟩ := operation like
    refine ⟨(limit, other) :: alarms, ?_, by rw [isOne]; rfl, by
      rw [isTwo]; rfl⟩
    rintro pair (_ | ⟨_, member⟩)
    · exact limits
    · exact alike pair member
  have writing : ∀ {one two : Writing}, one.Like orders two →
      ∃ alarms : List (Alarm × Alarm),
        (∀ pair ∈ alarms, pair.1.Like orders pair.2) ∧
        one.alarms = alarms.map Prod.fst ∧
        two.alarms = alarms.map Prod.snd := by
    intro one two like
    cases like with
    | unstarted => exact ⟨[], by simp, rfl, rfl⟩
    | queued limits => exact ⟨[(_, _)], by simpa using limits, rfl, rfl⟩
    | underway operations limits => exact bounded operations limits
  cases like with
  | attend different stages =>
      cases stages with
      | arriving => exact ⟨[], by simp, rfl, rfl⟩
      | looking => exact ⟨[], by simp, rfl, rfl⟩
      | reading alarms => exact ⟨[(_, _)], by simpa using alarms, rfl, rfl⟩
      | parting closings => exact bounded closings.operation closings.limit
  | deliver different frame limit stages => exact writing stages
  | pong different payload stages =>
      cases stages with
      | unstarted => exact ⟨[], by simp, rfl, rfl⟩
      | delaying ends => exact ⟨[(_, _)], by simpa using ends, rfl, rfl⟩
      | writing stages => exact writing stages
  | send different frame limit stages => exact writing stages
  | finished outcome => exact ⟨[], by simp, rfl, rfl⟩

end Task.Like

end

/-! ### What requests and writes come to -/

inductive Progress.Like (orders : AlarmPairs) : Progress → Progress → Prop
  | done (result : Except Fault Unit) :
      Like orders (.done result) (.done result)
  | underway
      {first second : Operation} (operations : first.Like orders second) :
      Like orders (.underway first) (.underway second)

inductive Standing.Like (orders : AlarmPairs) : Standing → Standing → Prop
  | settled (result : Except Fault Unit) :
      Like orders (.settled result) (.settled result)
  | inLine : Like orders .inLine .inLine
  | underway
      {first second : Operation} (operations : first.Like orders second) :
      Like orders (.underway first) (.underway second)

inductive Written.Like (orders : AlarmPairs) : Written → Written → Prop
  | finished (result : Except Fault Unit) :
      Like orders (.finished result) (.finished result)
  | pending {first second : Writing} (stages : first.Like orders second) :
      Like orders (.pending first) (.pending second)

/-- What is left of the sending of a close frame, if anything is. -/
inductive Closing.LikeIfAny (orders : AlarmPairs) :
    Option Closing → Option Closing → Prop
  | nothing : LikeIfAny orders none none
  | closing {first second : Closing} (closings : first.Like orders second) :
      LikeIfAny orders (some first) (some second)

theorem Standing.Like.mono
    {orders later : AlarmPairs} {first second : Standing}
    (like : first.Like orders second)
    (grows : ∀ one two, orders one two → later one two) :
    first.Like later second := by
  cases like with
  | settled result => exact .settled result
  | inLine => exact .inLine
  | underway operations => exact .underway (operations.mono grows)

/-! ### Sockets -/

namespace Link

variable {orders : AlarmPairs} (link : Link) (request : SinkRequest)

theorem like_proceedFlushing :
    (link.proceedFlushing request).2.Like orders
      (link.proceedFlushing request).2 := by
  unfold proceedFlushing
  split
  · exact .done _
  · exact .underway .flushing
  · exact .done _

theorem like_proceedPlacing :
    (link.proceedPlacing request).2.Like orders
      (link.proceedPlacing request).2 := by
  unfold proceedPlacing
  split
  · exact like_proceedFlushing _ request
  · exact .underway .placing
  · exact .done _

end Link

namespace Socket

variable {orders : AlarmPairs} (socket : Socket) (now : Instant)
  (request : SinkRequest)

/-- A socket does not look at the numbers of its alarms. -/
theorem start_like {first second : Nat} (order : orders first second) :
    (socket.start now first request).1 = (socket.start now second request).1 ∧
      (socket.start now first request).2.Like orders
        (socket.start now second request).2 := by
  cases socket with
  | scripted socket =>
      have ends : Alarm.Like orders
          ⟨now.after (.ofMillis (socket.plan request).1), first⟩
          ⟨now.after (.ofMillis (socket.plan request).1), second⟩ :=
        ⟨rfl, order⟩
      simp only [start, ScriptedSocket.start]
      split
      · exact ⟨rfl, .done _⟩
      · exact ⟨rfl, .underway (.pausing ends _)⟩
  | link connection => exact ⟨rfl, connection.like_proceedPlacing request⟩

theorem proceed_like
    {first second : Operation} (operations : first.Like orders second) :
    (socket.proceed now request first).1 =
      (socket.proceed now request second).1 ∧
      (socket.proceed now request first).2.Like orders
        (socket.proceed now request second).2 := by
  cases socket with
  | scripted socket =>
      cases operations with
      | pausing ends fails =>
          simp only [proceed]
          rw [ends.hasRung_eq]
          split
          · exact ⟨rfl, .done _⟩
          · exact ⟨rfl, .underway (.pausing ends fails)⟩
      | placing => exact ⟨rfl, .underway .placing⟩
      | flushing => exact ⟨rfl, .underway .flushing⟩
  | link connection =>
      cases operations with
      | pausing ends fails => exact ⟨rfl, .underway (.pausing ends fails)⟩
      | placing => exact ⟨rfl, connection.like_proceedPlacing request⟩
      | flushing => exact ⟨rfl, connection.like_proceedFlushing request⟩

end Socket

end BroadcastHub.Server
