import BroadcastHub.Proofs.Server.Course
import BroadcastHub.Proofs.Server.Likeness
import BroadcastHub.Proofs.Server.Sorting

/-!
# Hubs that are alike but for one session

Two hubs are `Alike` if they differ at most in one session, in the tasks that
concern only this session, and in the numbers of tasks and alarms.  What the
tasks of the others have come to is the same then, they are ready in the same
order, and the sockets of the other sessions have been asked for the same at the
same time.

Here this is shown to be preserved by the elementary steps, taken by both hubs,
and by a step of either hub that stays within the fence around the session.
-/

namespace BroadcastHub.Server

/-- What a session has had to do with its socket. -/
inductive Dealing
  | asked (request : SinkRequest)
  | answered (request : SinkRequest) (result : Except Fault Unit)
  | wrote (frame : Frame) (result : Except Fault Unit)

/-- What a happening tells of a session and its socket, whichever task brought
it. -/
def Happening.dealing? (id : PeerId) : Happening → Option Dealing
  | asked _ peer request => if peer = id then some (.asked request) else none
  | answered _ peer request result =>
      if peer = id then some (.answered request result) else none
  | wrote _ peer frame result =>
      if peer = id then some (.wrote frame result) else none
  | _ => none

/-- What a session has had to do with its socket, and when, latest first. -/
def Hub.dealings (hub : Hub) (id : PeerId) : List (Instant × Dealing) :=
  hub.chronicle.filterMap fun entry =>
    (entry.happening.dealing? id).map fun dealing => (entry.time, dealing)

/-- Sessions that differ only in the numbers of tasks. -/
structure Peer.Like (pairs : TaskPairs) (first second : Peer) : Prop where
  socket : first.socket = second.socket
  arrived : first.arrived = second.arrived
  registered : first.registered = second.registered
  closed : first.closed = second.closed
  ponging : first.ponging = second.ponging
  readDeadline : first.readDeadline = second.readDeadline
  holdsSlot : first.holdsSlot = second.holdsSlot
  turn : first.turn.Like pairs second.turn
  attendant : Lined pairs first.attendant.toList second.attendant.toList

theorem Peer.Like.mono
    {pairs more : TaskPairs} {first second : Peer}
    (like : first.Like pairs second) (grows : pairs ⊆ more) :
    first.Like more second :=
  { like with
    turn := like.turn.mono grows
    attendant := like.attendant.mono grows }

/-- Two hubs that differ at most in one session. -/
structure Alike
    (id : PeerId) (pairs : TaskPairs) (orders : AlarmPairs)
    (first second : Hub) : Prop where
  now : first.now = second.now
  configuration : first.configuration = second.configuration
  stopping : first.stopping = second.stopping
  peers : first.peers.size = second.peers.size
  peer : ∀ other, other ≠ id → (first.peer other).Like pairs (second.peer other)
  task : ∀ pair ∈ pairs, (first.task pair.1).Like id orders (second.task pair.2)
  queue : Lined pairs (first.queue (pairs.map Prod.fst))
    (second.queue (pairs.map Prod.snd))
  /-- The tasks were started in the same order. -/
  sorted : pairs.Pairwise fun one two => one.1 < two.1 ∧ one.2 < two.2
  alarms : ∀ one two, orders one two → one < first.alarmsSet ∧
    two < second.alarmsSet
  /-- The alarms were set in the same order. -/
  order : ∀ one two early late, orders one two → orders early late →
    (one ≤ early ↔ two ≤ late)
  dealings : ∀ other, other ≠ id → first.dealings other = second.dealings other
  firstFenced : Fenced id (pairs.map Prod.fst) first
  secondFenced : Fenced id (pairs.map Prod.snd) second

/-- What a step leaves that concerns one session only, or nobody's. -/
structure Apart (id : PeerId) (others : List TaskId) (before after : Hub) : Prop
    extends Enclosed id others before after where
  now : after.now = before.now
  configuration : after.configuration = before.configuration
  stopping : after.stopping = before.stopping
  peers : after.peers.size = before.peers.size
  task : ∀ task ∈ others, after.task task = before.task task
  dealings : ∀ other, other ≠ id → after.dealings other = before.dealings other

namespace Apart

variable {id : PeerId} {others : List TaskId} {before after : Hub}

theorem ofEnclosed
    (enclosed : Enclosed id others before after) (now : after.now = before.now)
    (configuration : after.configuration = before.configuration)
    (stopping : after.stopping = before.stopping)
    (peers : after.peers.size = before.peers.size)
    (task : ∀ task ∈ others, after.task task = before.task task)
    (chronicle : after.chronicle = before.chronicle) :
    Apart id others before after :=
  { enclosed with
    now
    configuration
    stopping
    peers
    task
    dealings := fun other _ => by
      unfold Hub.dealings
      rw [chronicle] }

theorem refl (fenced : Fenced id others before) :
    Apart id others before before :=
  ofEnclosed (.idle fenced rfl rfl (fun _ member => member) fenced.ready rfl
    (Nat.le_refl _)) rfl rfl rfl rfl (fun _ _ => rfl) rfl

theorem trans {middle : Hub} (one : Apart id others before middle)
    (two : Apart id others middle after) : Apart id others before after :=
  { one.toEnclosed.trans two.toEnclosed with
    now := two.now.trans one.now
    configuration := two.configuration.trans one.configuration
    stopping := two.stopping.trans one.stopping
    peers := two.peers.trans one.peers
    task := fun task kept => (two.task task kept).trans (one.task task kept)
    dealings := fun other different => (two.dealings other different).trans
      (one.dealings other different) }

theorem spawn {hub : Hub} (fenced : Fenced id others hub) {task : Task}
    (within : task.isWithin id = true) : Apart id others hub (hub.spawn task) :=
  ofEnclosed (.spawn fenced within) rfl rfl rfl rfl
    (fun number kept => (Hub.task_spawn hub task number).trans
      (if_neg (Nat.ne_of_lt (fenced.below number kept)))) rfl

theorem ofCourse
    {doer : Doer} (course : Course doer before after)
    (stays : doer.StaysWithin id others) (inside : doer.Inside before)
    (silent : after.announcements = before.announcements)
    (fenced : Fenced id others before) : Apart id others before after := by
  obtain ⟨news, isNews⟩ := course.news
  refine
    { course.enclosed id others stays inside silent fenced with
      now := course.now
      configuration := course.configuration
      stopping := course.stopping
      peers := course.peers
      task := fun task kept => course.task task (fenced.below task kept)
        fun running =>
        stays.elsewhere running kept
      dealings := fun other different => ?_ }
  unfold Hub.dealings
  rw [isNews.chronicle, List.filterMap_append, List.filterMap_eq_nil_iff.mpr,
    List.nil_append]
  intro entry member
  have brings := isNews.brought entry member
  have notOther : ∀ {peer}, doer.writes = some peer → peer ≠ other := by
    rintro peer writes rfl
    exact different (stays.reaches peer (.ofWrites writes))
  cases same : entry.happening <;> rw [same] at brings <;>
    simp only [Happening.dealing?, Option.map_none]
  all_goals rw [if_neg (notOther brings.2)]; rfl

end Apart

namespace Alike

variable {id : PeerId} {pairs : TaskPairs} {orders : AlarmPairs}
  {first second : Hub}

theorem matched (alike : Alike id pairs orders first second) : Matched pairs :=
  .ofSorted alike.sorted

/-- Steps apart on either side. -/
theorem apart
    {firstAfter secondAfter : Hub} (alike : Alike id pairs orders first second)
    (one : Apart id (pairs.map Prod.fst) first firstAfter)
    (two : Apart id (pairs.map Prod.snd) second secondAfter) :
    Alike id pairs orders firstAfter secondAfter where
  now := one.now.trans (alike.now.trans two.now.symm)
  configuration :=
    one.configuration.trans (alike.configuration.trans two.configuration.symm)
  stopping := one.stopping.trans (alike.stopping.trans two.stopping.symm)
  peers := one.peers.trans (alike.peers.trans two.peers.symm)
  peer other different := by
    rw [one.peer other different, two.peer other different]
    exact alike.peer other different
  task pair member := by
    rw [one.task pair.1 (List.mem_map.mpr ⟨pair, member, rfl⟩),
      two.task pair.2 (List.mem_map.mpr ⟨pair, member, rfl⟩)]
    exact alike.task pair member
  queue := by
    rw [one.queue, two.queue]
    exact alike.queue
  sorted := alike.sorted
  alarms x y paired :=
    ⟨Nat.lt_of_lt_of_le (alike.alarms x y paired).1 one.alarms_le,
      Nat.lt_of_lt_of_le (alike.alarms x y paired).2 two.alarms_le⟩
  order := alike.order
  dealings other different := by
    rw [one.dealings other different, two.dealings other different]
    exact alike.dealings other different
  firstFenced := one.fenced
  secondFenced := two.fenced

variable (alike : Alike id pairs orders first second) {one two : TaskId}
  {peer : PeerId}

include alike

theorem timing : first.timing = second.timing := by
  unfold Hub.timing
  rw [alike.configuration]

theorem below_first (pair : (one, two) ∈ pairs) : one < first.tasks.size :=
  alike.firstFenced.below one (Lined.mem_fst pair)

theorem below_second (pair : (one, two) ∈ pairs) : two < second.tasks.size :=
  alike.secondFenced.below two (Lined.mem_snd pair)

/-! ### Elementary steps -/

/-- Steps that change nothing but what hubs that are alike may differ in. -/
theorem idle {firstAfter secondAfter : Hub}
    (one : firstAfter = { first with
      counters := firstAfter.counters
      drawn := firstAfter.drawn
      admission := firstAfter.admission })
    (two : secondAfter = { second with
      counters := secondAfter.counters
      drawn := secondAfter.drawn
      admission := secondAfter.admission }) :
    Alike id pairs orders firstAfter secondAfter := by
  rw [one, two]
  exact
    { alike with
      firstFenced := alike.firstFenced.mono rfl rfl (fun _ member => member)
        alike.firstFenced.ready
      secondFenced :=
        alike.secondFenced.mono rfl rfl (fun _ member => member)
          alike.secondFenced.ready }

theorem count (change other : Counters → Counters) :
    Alike id pairs orders (first.count change) (second.count other) :=
  alike.idle rfl rfl

theorem note {happening other : Happening}
    (same : ∀ peer, peer ≠ id → happening.dealing? peer = other.dealing? peer) :
    Alike id pairs orders (first.note happening) (second.note other) :=
  { alike with
    dealings := fun peer different => by
      simp only [Hub.dealings, Hub.note, List.filterMap_cons,
        same peer different, alike.now]
      have before := alike.dealings peer different
      unfold Hub.dealings at before
      rw [before]
    firstFenced := alike.firstFenced.mono rfl rfl (fun _ member => member)
      alike.firstFenced.ready
    secondFenced :=
      alike.secondFenced.mono rfl rfl (fun _ member => member)
        alike.secondFenced.ready }

/-- The number of the next alarm in both hubs. -/
theorem noteAlarm :
    Alike id pairs (orders.also first.alarmsSet second.alarmsSet)
      first.noteAlarm
      second.noteAlarm :=
  { alike with
    task := fun pair member => (alike.task pair member).mono fun _ _ => .inl
    alarms := by
      rintro x y (paired | ⟨rfl, rfl⟩)
      · exact ⟨Nat.lt_succ_of_lt (alike.alarms x y paired).1,
          Nat.lt_succ_of_lt (alike.alarms x y paired).2⟩
      · exact ⟨Nat.lt_succ_self _, Nat.lt_succ_self _⟩
    order := by
      rintro x y early late (paired | ⟨rfl, rfl⟩) (other | ⟨rfl, rfl⟩)
      · exact alike.order x y early late paired other
      · have below := alike.alarms x y paired
        exact iff_of_true (Nat.le_of_lt below.1) (Nat.le_of_lt below.2)
      · have below := alike.alarms early late other
        exact iff_of_false (Nat.not_le_of_lt below.1) (Nat.not_le_of_lt below.2)
      · exact iff_of_true (Nat.le_refl _) (Nat.le_refl _)
    firstFenced := alike.firstFenced.mono rfl rfl (fun _ member => member)
      alike.firstFenced.ready
    secondFenced :=
      alike.secondFenced.mono rfl rfl (fun _ member => member)
        alike.secondFenced.ready }

theorem updatePeer
    (different : peer ≠ id) {change other : Peer → Peer}
    (changes : (first.peer peer).Like pairs (second.peer peer) →
      (change (first.peer peer)).Like pairs (other (second.peer peer))) :
    Alike id pairs orders (first.updatePeer peer change)
      (second.updatePeer peer other) :=
  { alike with
    peers := by
      rw [Hub.size_peers_updatePeer, Hub.size_peers_updatePeer]
      exact alike.peers
    peer := fun number isOther => by
      have like := alike.peer number isOther
      rw [Hub.peer_updatePeer, Hub.peer_updatePeer, ← alike.peers]
      split
      · rename_i both
        rw [← both.1] at like ⊢
        exact changes like
      · exact like
    firstFenced :=
      alike.firstFenced.updatePeer (fun same => absurd same different)
        (fun same => absurd same different) fun same => absurd same different
    secondFenced :=
      alike.secondFenced.updatePeer (fun same => absurd same different)
        (fun same => absurd same different) fun same => absurd same different }

theorem setTask
    (pair : (one, two) ∈ pairs) {task other : Task}
    (like : task.Like id orders other) :
    Alike id pairs orders (first.setTask one task)
      (second.setTask two other) := by
  have unmoved := like.unmoved
  have below := alike.below_first pair
  have belowToo := alike.below_second pair
  exact
    { alike with
      task := fun another member => by
        have same := alike.matched another member (one, two) pair
        by_cases isOne : another.1 = one
        · have isTwo := same.mp isOne
          rw [isOne, isTwo, Hub.task_setTask_self first one task below,
            Hub.task_setTask_self second two other belowToo]
          exact like
        · rw [Hub.task_setTask_of_ne first one task (Ne.symm isOne),
            Hub.task_setTask_of_ne second two other
              (fun isTwo => isOne (same.mpr isTwo.symm))]
          exact alike.task another member
      firstFenced := alike.firstFenced.setTask
        (fun elsewhere => absurd (Lined.mem_fst pair) elsewhere)
        fun _ => unmoved.1
      secondFenced := alike.secondFenced.setTask
        (fun elsewhere => absurd (Lined.mem_snd pair) elsewhere) fun _ =>
          unmoved.2 }

/-- Waking tasks, those of others in the same order. -/
theorem wakeAll
    {numbers others : List TaskId}
    (lined : Lined pairs (numbers.filter fun number =>
      number ∈ pairs.map Prod.fst)
        (others.filter fun number => number ∈ pairs.map Prod.snd))
    (below : ∀ number ∈ numbers, number < first.tasks.size)
    (belowToo : ∀ number ∈ others, number < second.tasks.size) :
    Alike id pairs orders (first.wakeAll numbers) (second.wakeAll others) := by
  have queue : Lined pairs ((first.wakeAll numbers).queue (pairs.map Prod.fst))
      ((second.wakeAll others).queue (pairs.map Prod.snd)) := by
    rw [Hub.queue_wakeAll, Hub.queue_wakeAll]
    have stands := alike.queue
    obtain ⟨line, inside, isFirst, isSecond⟩ := lined
    rw [isFirst, isSecond]
    generalize first.queue (pairs.map Prod.fst) = front at stands ⊢
    generalize second.queue (pairs.map Prod.snd) = back at stands ⊢
    clear isFirst isSecond
    induction line generalizing front back with
    | nil => exact stands
    | cons pair line induction =>
        obtain ⟨member, rest⟩ := List.cons_subset.mp inside
        refine induction rest _ _ ?_
        have same := stands.mem_iff alike.matched member
        unfold Hub.enqueue
        by_cases already : pair.1 ∈ front
        · rw [if_pos already, if_pos (same.mp already)]
          exact stands
        · rw [if_neg already, if_neg fun other => already (same.mpr other)]
          exact stands.append (.cons member .nil)
  have firstFenced := alike.firstFenced.wakeAll below
  have secondFenced := alike.secondFenced.wakeAll belowToo
  obtain ⟨ready, same, -⟩ := Hub.wakeAll_eq first numbers
  obtain ⟨readyToo, sameToo, -⟩ := Hub.wakeAll_eq second others
  rw [same] at queue firstFenced ⊢
  rw [sameToo] at queue secondFenced ⊢
  exact { alike with queue, firstFenced, secondFenced }

theorem wake (pair : (one, two) ∈ pairs) :
    Alike id pairs orders (first.wake one) (second.wake two) := by
  have woken :
      Alike id pairs orders (first.wakeAll [one]) (second.wakeAll [two]) := by
    refine alike.wakeAll (Lined.kept (.cons pair .nil)) ?_ ?_
    · intro number member
      rw [List.mem_singleton.mp member]
      exact alike.below_first pair
    · intro number member
      rw [List.mem_singleton.mp member]
      exact alike.below_second pair
  exact woken

theorem again (pair : (one, two) ∈ pairs) :
    Alike id pairs orders (first.again one) (second.again two) := by
  have queue : ∀ (hub : Hub) {others : List TaskId} {number : TaskId},
      number ∈ others →
      (hub.again number).queue others =
        number :: (hub.queue others).filter fun other => other ≠ number := by
    intro hub others number kept
    simp only [Hub.again, Hub.queue, List.filter_cons, kept,
      decide_true, if_true, List.filter_filter]
    refine congrArg (number :: ·) (List.filter_congr fun other _ => ?_)
    exact Bool.and_comm _ _
  have below : ∀ {hub : Hub} {others : List TaskId} {number : TaskId},
      Fenced id others hub →
      number ∈ others → ∀ task ∈ (hub.again number).ready,
        task < hub.tasks.size := by
    intro hub others number fenced kept task member
    rcases List.mem_cons.mp member with rfl | earlier
    · exact fenced.below task kept
    · exact fenced.ready task (List.mem_filter.mp earlier).1
  exact
    { alike with
      queue := by
        rw [queue first (Lined.mem_fst pair), queue second (Lined.mem_snd pair)]
        exact .cons pair (alike.queue.without alike.matched pair)
      firstFenced := alike.firstFenced.mono rfl rfl (fun _ member => member)
        (below alike.firstFenced (Lined.mem_fst pair))
      secondFenced := alike.secondFenced.mono rfl rfl (fun _ member => member)
        (below alike.secondFenced (Lined.mem_snd pair)) }

theorem takeUp
    (pair : (one, two) ∈ pairs) {rest others : List TaskId}
    (next : first.ready = one :: rest)
    (nextToo : second.ready = two :: others) :
    Alike id pairs orders { first with ready := first.ready.erase one }
      { second with ready := second.ready.erase two } := by
  have stands := alike.queue
  unfold Hub.queue at stands
  rw [next, nextToo, List.filter_cons_of_pos
    (by simpa using Lined.mem_fst pair),
    List.filter_cons_of_pos (by simpa using Lined.mem_snd pair)] at stands
  obtain ⟨_, _, same, -, lined⟩ := stands.cons_iff
  cases same
  rw [next, nextToo, List.erase_cons_head, List.erase_cons_head]
  refine
    { alike with
      queue := lined
      firstFenced := alike.firstFenced.mono rfl rfl (fun _ member => member)
        fun task member => ?_
      secondFenced := alike.secondFenced.mono rfl rfl (fun _ member => member)
        fun task member => ?_ }
  · exact alike.firstFenced.ready task (next ▸ List.mem_cons_of_mem one member)
  · exact alike.secondFenced.ready task
      (nextToo ▸ List.mem_cons_of_mem two member)

theorem finish (pair : (one, two) ∈ pairs) (outcome : Outcome) :
    Alike id pairs orders (first.finish one outcome)
      (second.finish two outcome) := by
  have excluded : ∀ {hub : Hub} {others : List TaskId} {number : TaskId},
      Fenced id others hub →
      ∀ watcher ∈ (hub.watches.filter fun entry => entry.1 = number).map
        Prod.snd,
        hub.Excludes others watcher := by
    intro hub others number fenced watcher member
    obtain ⟨watch, listed, rfl⟩ := List.mem_map.mp member
    exact fenced.watchers watch (List.mem_filter.mp listed).1
  have nobody : ∀ {hub : Hub} {others numbers : List TaskId},
      (∀ number ∈ numbers, hub.Excludes others number) →
      numbers.filter (fun number => number ∈ others) = [] := fun excluded =>
    List.filter_eq_nil_iff.mpr fun number member => by
      simp [(excluded number member).elsewhere]
  have woken := alike.wakeAll
    (by
      rw [nobody (@excluded _ _ one alike.firstFenced),
        nobody (@excluded _ _ two alike.secondFenced)]
      exact .nil)
    (fun number member => (excluded alike.firstFenced number member).below)
    fun number member => (excluded alike.secondFenced number member).below
  have ended := woken.setTask pair (.finished outcome)
  have watches : ∀ (hub : Hub) (numbers : List TaskId),
      (hub.wakeAll numbers).watches = hub.watches := by
    intro hub numbers
    obtain ⟨ready, same, -⟩ := Hub.wakeAll_eq hub numbers
    rw [same]
  rw [Hub.finish_eq_wakeAll, Hub.finish_eq_wakeAll]
  refine
    { ended with
      firstFenced := ended.firstFenced.mono rfl rfl (fun watch member => ?_)
        ended.firstFenced.ready
      secondFenced := ended.secondFenced.mono rfl rfl (fun watch member => ?_)
        ended.secondFenced.ready }
  · show watch ∈ (first.wakeAll _).watches
    rw [watches]
    exact (List.mem_filter.mp member).1
  · show watch ∈ (second.wakeAll _).watches
    rw [watches]
    exact (List.mem_filter.mp member).1

/-- A task that concerns another session is started in both hubs. -/
theorem spawn {task other : Task} (like : task.Like id orders other) :
    Alike id (pairs ++ [(first.tasks.size, second.tasks.size)]) orders
      (first.spawn task) (second.spawn other) := by
  have unmoved := like.unmoved
  have grows : pairs ⊆ pairs ++ [(first.tasks.size, second.tasks.size)] :=
    fun _ member => List.mem_append_left _ member
  have queue :
      ∀ {hub : Hub} {others : List TaskId}, Fenced id others hub → ∀ task,
      (hub.spawn task).queue (others ++ [hub.tasks.size]) =
        hub.queue others ++ [hub.tasks.size] := by
    intro hub others fenced task
    simp only [Hub.queue, Hub.ready_spawn, List.filter_append]
    congr 1
    · refine List.filter_congr fun number member => ?_
      have below := fenced.ready number member
      simp [Nat.ne_of_lt below]
    · simp
  exact
    { alike with
      peer := fun peer different => (alike.peer peer different).mono grows
      task := fun pair member => by
        rcases List.mem_append.mp member with earlier | last
        · rw [Hub.task_spawn, Hub.task_spawn,
            if_neg (Nat.ne_of_lt (alike.below_first earlier)),
            if_neg (Nat.ne_of_lt (alike.below_second earlier))]
          exact alike.task pair earlier
        · rw [List.mem_singleton.mp last, Hub.task_spawn, Hub.task_spawn,
            if_pos rfl, if_pos rfl]
          exact like
      queue := by
        rw [List.map_append, List.map_append, List.map_singleton,
          List.map_singleton, queue alike.firstFenced, queue alike.secondFenced]
        exact (alike.queue.mono grows).append
          (.cons (List.mem_append_right _ (List.mem_singleton.mpr rfl)) .nil)
      sorted := by
        refine List.pairwise_append.mpr
          ⟨alike.sorted, List.pairwise_singleton _ _, ?_⟩
        intro pair member last isLast
        rw [List.mem_singleton.mp isLast]
        exact ⟨alike.below_first member, alike.below_second member⟩
      firstFenced := by
        rw [List.map_append]
        exact alike.firstFenced.spawn (.inr ⟨unmoved.1, rfl⟩)
      secondFenced := by
        rw [List.map_append]
        exact alike.secondFenced.spawn (.inr ⟨unmoved.2, rfl⟩) }

/-! ### Other sessions -/

/-- Those of some paired tasks that wait for a session to be closed. -/
theorem close (different : peer ≠ id) :
    Alike id pairs orders (first.close peer) (second.close peer) := by
  have sameClosed := (alike.peer peer different).closed
  unfold Hub.close
  by_cases already : (first.peer peer).closed = true
  · rw [if_pos already, if_pos (sameClosed ▸ already)]
    exact alike
  · rw [if_neg already, if_neg (sameClosed ▸ already)]
    have changed : Alike id pairs orders
        (first.updatePeer peer fun peer => { peer with closed := true })
        (second.updatePeer peer fun peer => { peer with closed := true }) :=
      alike.updatePeer different fun like => { like with closed := rfl }
    have kept : ∀ {hub : Hub} {others : List TaskId}, Fenced id others hub →
        others.Pairwise (· < ·) →
          (hub.closeWaiters peer).filter (fun number => number ∈ others) =
          others.filter fun number =>
            Hub.awaitsClose peer (hub.task number) := by
      intro hub others fenced sorted
      have same :=
        filter_range'_mem 0 hub.tasks.size sorted (fun _ _ => Nat.zero_le _)
          fun number member => by
            rw [Nat.zero_add]
            exact fenced.below number member
      rw [← List.range_eq_range'] at same
      rw [Hub.closeWaiters_eq, List.filter_filter]
      conv => rhs; rw [← same]
      rw [List.filter_filter]
      exact List.filter_congr fun number _ => Bool.and_comm _ _
    refine changed.wakeAll ?_ ?_ ?_
    · rw [kept alike.firstFenced
        (List.pairwise_map.mpr (alike.sorted.imp And.left)),
        kept alike.secondFenced
          (List.pairwise_map.mpr (alike.sorted.imp And.right))]
      refine ⟨pairs.filter fun pair => Hub.awaitsClose peer (first.task pair.1),
        fun pair member => (List.mem_filter.mp member).1, ?_, ?_⟩
      · rw [List.filter_map]
        rfl
      · rw [List.filter_map]
        refine congrArg (List.map Prod.snd)
          (List.filter_congr fun pair member => ?_)
        exact ((alike.task pair member).awaitsClose_eq peer).symm
    · intro number member
      rw [Hub.closeWaiters_eq] at member
      exact List.mem_range.mp (List.mem_filter.mp member).1
    · intro number member
      rw [Hub.closeWaiters_eq] at member
      exact List.mem_range.mp (List.mem_filter.mp member).1

theorem setSocket (different : peer ≠ id) (socket : Socket) :
    Alike id pairs orders (first.setSocket peer socket)
      (second.setSocket peer socket) :=
  alike.updatePeer different fun like => { like with socket := rfl }

theorem setPonging (different : peer ≠ id) (ponging : Bool) :
    Alike id pairs orders (first.setPonging peer ponging)
      (second.setPonging peer ponging) :=
  alike.updatePeer different fun like => { like with ponging := rfl }

theorem unregister (different : peer ≠ id) :
    Alike id pairs orders (first.unregister peer) (second.unregister peer) :=
  alike.updatePeer different fun like => { like with registered := rfl }

theorem register (different : peer ≠ id) (window : Span) :
    Alike id pairs orders (first.register peer window)
      (second.register peer window) :=
  alike.updatePeer different fun like =>
    { like with
      arrived := rfl
      registered := rfl
      readDeadline := by rw [alike.now] }

theorem renewDeadline (different : peer ≠ id) (window : Span) :
    Alike id pairs orders (first.renewDeadline peer window)
      (second.renewDeadline peer window) :=
  alike.updatePeer different fun like =>
    { like with readDeadline := by rw [alike.now] }

theorem releaseSlot (different : peer ≠ id) :
    Alike id pairs orders (first.releaseSlot peer)
      (second.releaseSlot peer) := by
  have sameSlot := (alike.peer peer different).holdsSlot
  have released : Alike id pairs orders
      (first.updatePeer peer fun peer => { peer with holdsSlot := false })
      (second.updatePeer peer fun peer => { peer with holdsSlot := false }) :=
    alike.updatePeer different fun like => { like with holdsSlot := rfl }
  unfold Hub.releaseSlot
  by_cases holds : (first.peer peer).holdsSlot = true
  · rw [if_pos holds, if_pos (sameSlot ▸ holds)]
    exact released.idle rfl rfl
  · rw [if_neg holds, if_neg (sameSlot ▸ holds)]
    exact alike

/-! ### Turns -/

theorem requestTurn (different : peer ≠ id) (pair : (one, two) ∈ pairs) :
    Alike id pairs orders (first.requestTurn peer one)
      (second.requestTurn peer two) :=
  alike.updatePeer different fun like =>
    { like with turn := like.turn.request pair }

theorem leaveLine (different : peer ≠ id) (pair : (one, two) ∈ pairs) :
    Alike id pairs orders (first.leaveLine peer one)
      (second.leaveLine peer two) :=
  alike.updatePeer different fun like =>
    { like with turn := like.turn.leave alike.matched pair }

theorem releaseTurn (different : peer ≠ id) :
    Alike id pairs orders (first.releaseTurn peer)
      (second.releaseTurn peer) := by
  have released := (alike.peer peer different).turn.release
  have changed : Alike id pairs orders
      (first.updatePeer peer fun other =>
        { other with turn := (first.peer peer).turn.release })
      (second.updatePeer peer fun other =>
        { other with turn := (second.peer peer).turn.release }) :=
    alike.updatePeer different fun like => { like with turn := released }
  unfold Hub.releaseTurn
  simp only
  rcases released.holder.option_cases with
    ⟨none, noneToo⟩ | ⟨one, two, held, heldToo, pair⟩
  · rw [none, noneToo]
    exact changed
  · rw [held, heldToo]
    exact changed.wake pair

end Alike

end BroadcastHub.Server
