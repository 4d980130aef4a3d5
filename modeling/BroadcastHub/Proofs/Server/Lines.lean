import BroadcastHub.Proofs.Server.Wires

/-!
# Writers stand in line

At any time the turn to write to a peer is with a writer that goes on: either it
has asked the socket, or it is ready.  All other writers that have begun stand
in line, each once, and nobody else does.  So the turn never stays with a write
that is over, and a write that is over never waits.

`Line` says so of the writers to one peer.  What a write or the sending of a
close frame does to it is put together from asking for the turn, leaving the
line, asking the socket, and ending the turn.
-/

namespace BroadcastHub.Server

open Scenario

/-- How those stand who write to a peer. -/
structure Line
    (posts : TaskId → Option Post) (turn : Turn) (awake : TaskId → Prop) :
    Prop where
  asking : ∀ task request operation limit,
    posts task = some (.asking request operation limit) →
      turn.holder = some task
  inLine : ∀ task, task ∈ turn.waiting ↔
    (∃ limit, posts task = some (.inLine limit)) ∧ turn.holder ≠ some task
  distinct : turn.waiting.Nodup
  holder : ∀ task, turn.holder = some task →
    (∃ request operation limit,
      posts task = some (.asking request operation limit)) ∨
      (∃ limit, posts task = some (.inLine limit)) ∧ awake task
  free : turn.holder = none → turn.waiting = []

/-- The posts of all tasks after one of them has got another one. -/
def repost
    (posts : TaskId → Option Post) (task : TaskId) (post : Option Post)
    (other : TaskId) : Option Post :=
  if other = task then post else posts other

section

variable {posts : TaskId → Option Post} {task other : TaskId}
  {post : Option Post}

@[simp] theorem repost_self : repost posts task post task = post := if_pos rfl

theorem repost_of_ne (different : other ≠ task) :
    repost posts task post other = posts other :=
  if_neg different

theorem repost_repost (first : Option Post) :
    repost (repost posts task first) task post = repost posts task post := by
  funext other
  unfold repost
  split <;> rfl

theorem repost_eq_self (same : posts task = post) :
    repost posts task post = posts := by
  funext other
  unfold repost
  split
  · rename_i isTask
    rw [isTask, same]
  · rfl

end

namespace Line

variable {posts : TaskId → Option Post} {turn : Turn}
  {awake later : TaskId → Prop} {task : TaskId}

theorem nobody (none : ∀ task, posts task = none) : Line posts {} awake where
  asking task request operation limit same := by
    rw [none task] at same
    cases same
  inLine task := by
    constructor
    · rintro ⟨⟩
    · rintro ⟨⟨limit, same⟩, -⟩
      rw [none task] at same
      cases same
  distinct := List.nodup_nil
  holder := by rintro _ ⟨⟩
  free _ := rfl

theorem isSome_of_holder
    (line : Line posts turn awake) (held : turn.holder = some task) :
    (posts task).isSome = true := by
  rcases line.holder task held with
    ⟨request, operation, limit, same⟩ | ⟨⟨limit, same⟩, -⟩ <;>
    rw [same] <;> rfl

theorem mono (line : Line posts turn awake)
    (stays : ∀ other, (posts other).isSome = true → awake other → later other) :
    Line posts turn later :=
  { line with
    holder := fun task held => by
      refine (line.holder task held).imp_right fun ⟨inLine, isAwake⟩ =>
        ⟨inLine, ?_⟩
      exact stays task (line.isSome_of_holder held) isAwake }

/-- A task asks for the turn, gets it or stands in line. -/
theorem request
    (line : Line posts turn awake) (none : posts task = none) (limit : Alarm)
    (isAwake : later task)
    (stays : ∀ other, other ≠ task → awake other → later other) :
    Line (repost posts task (some (.inLine limit))) (turn.request task)
      later := by
  have outside : task ∉ turn.waiting := by
    intro member
    obtain ⟨⟨limit, same⟩, -⟩ := (line.inLine task).mp member
    rw [none] at same
    cases same
  have notHolder : turn.holder ≠ some task := by
    intro held
    have isSome := line.isSome_of_holder held
    rw [none] at isSome
    cases isSome
  have before : ∀ other, other ≠ task → ∀ held : turn.holder = some other,
      (∃ request operation limit,
        posts other = some (.asking request operation limit)) ∨
        (∃ limit, posts other = some (.inLine limit)) ∧ later other := by
    intro other different held
    exact (line.holder other held).imp_right
      (And.imp_right (stays other different))
  cases holder : turn.holder with
  | none =>
      -- Nobody has the turn, and then nobody stands in line either.
      have waiting := line.free holder
      have requested : turn.request task = ⟨some task, []⟩ := by
        simp [Turn.request, Turn.isFree, holder, waiting]
      rw [requested]
      refine ⟨fun other request operation limit same => ?_,
        fun other => ?_, List.nodup_nil, fun other held => ?_, fun _ => rfl⟩
      · by_cases own : other = task
        · rw [own, repost_self] at same
          cases same
        · rw [repost_of_ne own] at same
          have held := line.asking other request operation limit same
          rw [holder] at held
          cases held
      · constructor
        · rintro ⟨⟩
        · rintro ⟨⟨limit, same⟩, notHeld⟩
          have own : other ≠ task := fun own => notHeld (congrArg some own.symm)
          rw [repost_of_ne own] at same
          have member :=
            (line.inLine other).mpr ⟨⟨limit, same⟩, by rw [holder]; rintro ⟨⟩⟩
          rw [waiting] at member
          cases member
      · cases held
        exact .inr ⟨⟨limit, repost_self⟩, isAwake⟩
  | some first =>
      -- Somebody has the turn, so the task stands last in line.
      have requested :
          turn.request task = ⟨some first, turn.waiting ++ [task]⟩ := by
        simp [Turn.request, Turn.isFree, holder]
      have different : first ≠ task := by
        rintro rfl
        exact notHolder holder
      rw [requested]
      refine ⟨fun other request operation limit same => ?_, fun other => ?_, ?_,
        fun other held => ?_, by rintro ⟨⟩⟩
      · by_cases own : other = task
        · rw [own, repost_self] at same
          cases same
        · rw [repost_of_ne own] at same
          rw [← holder]
          exact line.asking other request operation limit same
      · rw [List.mem_append, List.mem_singleton, line.inLine other, holder]
        by_cases own : other = task
        · subst own
          exact ⟨fun _ => ⟨⟨limit, repost_self⟩,
            fun same => different (Option.some.inj same)⟩, fun _ => .inr rfl⟩
        · rw [repost_of_ne own]
          simp [own]
      · refine List.nodup_append.mpr ⟨line.distinct, by simp, ?_⟩
        rintro waiter member _ isTask same
        rw [List.mem_singleton.mp isTask] at same
        exact outside (same ▸ member)
      · cases held
        rw [repost_of_ne different]
        exact before first different holder

/-- A write that has begun has asked for the turn already. -/
theorem approach
    (line : Line posts turn awake) {frame : Frame} {stage : Writing}
    (own : posts task = stage.post? frame) (early : stage.hasAsked = false)
    (isAwake : later task)
    (stays : ∀ other, other ≠ task → awake other → later other) :
    ∃ limit, Line (repost posts task (some (.inLine limit)))
      (stage.approach task turn) later := by
  cases stage with
  | unstarted => exact ⟨⟨0, 0⟩, line.request own _ isAwake stays⟩
  | queued limit =>
      have inLine : posts task = some (.inLine limit) := own
      refine ⟨limit, ?_⟩
      rw [repost_eq_self inLine]
      refine line.mono fun other _ wasAwake => ?_
      by_cases same : other = task
      · rw [same]
        exact isAwake
      · exact stays other same wasAwake
  | underway operation limit => cases early

/-- Whoever has the turn asks the socket. -/
theorem ask
    (line : Line posts turn awake) (held : turn.holder = some task)
    (request : SinkRequest) (operation : Operation) (limit : Alarm) :
    Line (repost posts task (some (.asking request operation limit))) turn
      later where
  asking other _ _ _ same := by
    by_cases own : other = task
    · rw [own, held]
    · rw [repost_of_ne own] at same
      exact line.asking other _ _ _ same
  inLine other := by
    rw [line.inLine other]
    by_cases own : other = task
    · rw [own, repost_self]
      constructor
      · rintro ⟨-, notHeld⟩
        exact absurd held notHeld
      · rintro ⟨⟨_, ⟨⟩⟩, -⟩
    · rw [repost_of_ne own]
  distinct := line.distinct
  holder other isHolder := by
    have own : other = task := Option.some.inj (isHolder.symm.trans held)
    rw [own, repost_self]
    exact .inl ⟨_, _, _, rfl⟩
  free := line.free

/-- Whoever has the turn ends it.  It passes to the first in line, who has to be
awake by then. -/
theorem release (line : Line posts turn awake) (held : turn.holder = some task)
    (woken : ∀ next, turn.waiting.head? = some next → later next) :
    Line (repost posts task none) turn.release later := by
  have notWaiting : task ∉ turn.waiting :=
    fun member => ((line.inLine task).mp member).2 held
  have silent : ∀ other request operation limit,
      repost posts task none other ≠
        some (.asking request operation limit) := by
    intro other request operation limit same
    by_cases own : other = task
    · rw [own, repost_self] at same
      cases same
    · rw [repost_of_ne own] at same
      have isHolder := line.asking other request operation limit same
      exact own (Option.some.inj (isHolder.symm.trans held))
  have waits : ∀ other, other ∈ turn.waiting ↔
      ∃ limit, repost posts task none other = some (.inLine limit) := by
    intro other
    by_cases own : other = task
    · rw [own, repost_self]
      exact ⟨fun member => absurd member notWaiting, by rintro ⟨_, ⟨⟩⟩⟩
    · rw [repost_of_ne own, line.inLine other, held]
      exact and_iff_left fun same => own (Option.some.inj same).symm
  have distinct := line.distinct
  unfold Turn.release
  split <;> rename_i queue <;> rw [queue] at waits distinct woken
  · refine ⟨fun other _ _ _ same => absurd same (silent other _ _ _),
      fun other => ?_, queue ▸ List.nodup_nil, by rintro _ ⟨⟩, fun _ => queue⟩
    rw [queue, waits other]
    exact ⟨fun inLine => ⟨inLine, by rintro ⟨⟩⟩, And.left⟩
  · rename_i next rest
    obtain ⟨notAgain, distinctRest⟩ := List.nodup_cons.mp distinct
    refine ⟨fun other _ _ _ same => absurd same (silent other _ _ _),
      fun other => ?_, distinctRest, fun other isHolder => ?_, by rintro ⟨⟩⟩
    · rw [← waits other, List.mem_cons]
      constructor
      · intro member
        refine ⟨.inr member, fun same => notAgain ?_⟩
        rw [Option.some.inj same]
        exact member
      · rintro ⟨first | member, notHeld⟩
        · exact absurd (congrArg some first.symm) notHeld
        · exact member
    · cases isHolder
      exact .inr ⟨(waits next).mp List.mem_cons_self, woken next rfl⟩

/-- Whoever waits leaves the line. -/
theorem leave (line : Line posts turn awake) (waits : turn.holder ≠ some task)
    (stays : ∀ other, other ≠ task → awake other → later other) :
    Line (repost posts task none) (turn.leave task) later where
  asking other request operation limit same := by
    by_cases own : other = task
    · rw [own, repost_self] at same
      cases same
    · rw [repost_of_ne own] at same
      exact line.asking other request operation limit same
  inLine other := by
    by_cases own : other = task
    · rw [own, repost_self]
      simp [Turn.leave]
    · rw [repost_of_ne own]
      simpa [Turn.leave, own] using line.inLine other
  distinct := line.distinct.filter _
  holder other held := by
    have own : other ≠ task := by
      rintro rfl
      exact waits held
    rw [repost_of_ne own]
    exact (line.holder other held).imp_right (And.imp_right (stays other own))
  free isFree := by
    have empty : turn.waiting = [] := line.free isFree
    simp [Turn.leave, empty]

/-- Whoever waits stays in line. -/
theorem stay
    (line : Line posts turn awake) {before : Alarm}
    (own : posts task = some (.inLine before)) (waits : turn.holder ≠ some task)
    (stays : ∀ other, other ≠ task → awake other → later other)
    (limit : Alarm) :
    Line (repost posts task (some (.inLine limit))) turn later where
  asking other request operation limit same := by
    by_cases isTask : other = task
    · rw [isTask, repost_self] at same
      cases same
    · rw [repost_of_ne isTask] at same
      exact line.asking other request operation limit same
  inLine other := by
    rw [line.inLine other]
    by_cases isTask : other = task
    · rw [isTask, repost_self, own]
      simp
    · rw [repost_of_ne isTask]
  distinct := line.distinct
  holder other held := by
    have different : other ≠ task := by
      rintro rfl
      exact waits held
    rw [repost_of_ne different]
    exact (line.holder other held).imp_right
      (And.imp_right (stays other different))
  free := line.free

/-! ### Writes -/

section

variable {id : PeerId} {now : Instant} {closed : Bool} {frame : Frame}
  {span : Span} {stage : Writing} {socket : Socket} {after : Station}
  {told : List Happening} {written : Written}

/-- A write that ends its turn, at once or later. -/
theorem endTurn
    (stage : Writing) {between : TaskId → Option Post}
    {meanwhile : TaskId → Prop}
    (line : Line between (stage.approach task turn) meanwhile)
    (held : (stage.approach task turn).holder = some task)
    (woken : ∀ other, (stage.approach task turn).release.holder = some other →
      turn.holder = some other ∨ other = task ∨ later other) :
    Line (repost between task none) (stage.approach task turn).release
      later := by
  refine line.release held fun next first => ?_
  have different : next ≠ task := by
    rintro rfl
    exact ((line.inLine next).mp (List.mem_of_head? first)).2 held
  have isHolder : (stage.approach task turn).release.holder = some next := by
    unfold Turn.release
    split <;> rename_i queue <;> rw [queue] at first
    · cases first
    · exact first
  rcases woken next isHolder with before | own | isAwake
  · exact absurd (Writing.approach_holder held before) different
  · exact absurd own different
  · exact isAwake

/-- A write that goes on leaves the others in order. -/
theorem frameStep
    (line : Line posts turn awake) (own : posts task = stage.post? frame)
    (step : FrameStep now closed task id frame span stage ⟨turn, socket⟩ told
      after written)
    (stays : ∀ other, other ≠ task → awake other → later other)
    (woken : ∀ other, after.turn.holder = some other →
      turn.holder = some other ∨ other = task ∨ later other) :
    Line (repost posts task (written.post? frame)) after.turn later := by
  -- While it asks for the turn or leaves it the task counts as one that is
  -- awake.
  let meanwhile : TaskId → Prop := fun other => other = task ∨ later other
  have approached : stage.hasAsked = false → ∃ limit,
      Line (repost posts task (some (.inLine limit))) (stage.approach task turn)
        meanwhile :=
    fun early => line.approach own early (.inl rfl)
      fun other different isAwake => .inr (stays other different isAwake)
  have later_stays : ∀ other, other ≠ task → meanwhile other → later other :=
    fun other different isAwake => isAwake.resolve_left different
  cases step with
  | refused isClosed =>
      have none : posts task = none := own
      rw [show Written.post? frame _ = Option.none from rfl,
        repost_eq_self none]
      refine line.mono fun other isSome isAwake => stays other ?_ isAwake
      rintro rfl
      rw [none] at isSome
      cases isSome
  | refusedInTurn isClosed held =>
      obtain ⟨limit, begun⟩ := approached rfl
      have ended := endTurn (.queued _) begun held woken
      rwa [repost_repost] at ended
  | answeredAtOnce early isOpen held started =>
      obtain ⟨limit, begun⟩ := approached early
      have ended := begun.endTurn stage held woken
      rwa [repost_repost] at ended
  | cutAtOnce early isOpen held started late =>
      obtain ⟨limit, begun⟩ := approached early
      have ended := begun.endTurn stage held woken
      rwa [repost_repost] at ended
  | begun early isOpen held started due inTime =>
      obtain ⟨limit, begun⟩ := approached early
      rw [← repost_repost (some (.inLine limit))]
      exact begun.ask held _ _ _
  | cutInLine early waits late =>
      obtain ⟨limit, begun⟩ := approached early
      have left := begun.leave waits later_stays
      rwa [repost_repost] at left
  | inLine early waits due inTime =>
      obtain ⟨limit, begun⟩ := approached early
      rw [← repost_repost (some (.inLine limit))]
      exact begun.stay repost_self waits later_stays _
  | @answered limit _ _ _ operation _ proceeded =>
      exact endTurn (.underway operation limit) line
        (line.asking _ _ _ _ own) woken
  | @cut limit _ _ _ operation _ proceeded late =>
      exact endTurn (.underway operation limit) line
        (line.asking _ _ _ _ own) woken
  | goesOn proceeded inTime => exact line.ask (line.asking _ _ _ _ own) _ _ _

/-- The sending of a close frame, which never stands in line, leaves the others
in order. -/
theorem closeStep {current next : Option Closing} (line : Line posts turn awake)
    (own : posts task = current.map Closing.post)
    (step : CloseStep now task id current ⟨turn, socket⟩ told after next)
    (stays : ∀ other, other ≠ task → awake other → later other)
    (woken : ∀ other, after.turn.holder = some other →
      turn.holder = some other ∨ other = task ∨ later other) :
    Line (repost posts task (next.map Closing.post)) after.turn later := by
  have takes : turn.isFree = true → (turn.request task).holder = some task := by
    intro free
    rw [Turn.request, if_pos free]
  have approached : current = none → ∃ limit,
      Line (repost posts task (some (.inLine limit))) (turn.request task)
        fun other => other = task ∨ later other := by
    rintro rfl
    exact line.approach (show posts task = Writing.unstarted.post? .close from
      own) rfl (.inl rfl)
        fun other different isAwake => .inr (stays other different isAwake)
  cases step with
  | busy taken =>
      have none : posts task = none := own
      rw [Option.map_none, repost_eq_self none]
      refine line.mono fun other isSome isAwake => stays other ?_ isAwake
      rintro rfl
      rw [none] at isSome
      cases isSome
  | answeredAtOnce free started =>
      obtain ⟨limit, begun⟩ := approached rfl
      have ended := endTurn .unstarted begun (takes free) woken
      rwa [repost_repost] at ended
  | cutAtOnce free started =>
      obtain ⟨limit, begun⟩ := approached rfl
      have ended := endTurn .unstarted begun (takes free) woken
      rwa [repost_repost] at ended
  | begun free started =>
      obtain ⟨limit, begun⟩ := approached rfl
      rw [← repost_repost (some (.inLine limit))]
      exact begun.ask (takes free) _ _ _
  | @answered closing _ _ _ _ proceeded =>
      exact endTurn (.underway closing.operation closing.limit) line
        (line.asking _ _ _ _ own) woken
  | @cut closing _ _ _ _ proceeded =>
      exact endTurn (.underway closing.operation closing.limit) line
        (line.asking _ _ _ _ own) woken
  | goesOn proceeded => exact line.ask (line.asking _ _ _ _ own) _ _ _

/-! ### Who is next -/

/-- A write that has not begun does not get a turn that somebody has. -/
theorem approach_eq
    (line : Line posts turn awake) (own : posts task = stage.post? frame)
    {holder : TaskId} (held : turn.holder = some holder)
    (isHolder : (stage.approach task turn).holder = some task) :
    stage.approach task turn = turn := by
  cases stage with
  | unstarted =>
      have approached : Writing.unstarted.approach task turn =
          ⟨turn.holder, turn.waiting ++ [task]⟩ := by
        simp [Writing.approach, Turn.request, Turn.isFree, held]
      rw [approached] at isHolder
      have isSome := line.isSome_of_holder isHolder
      rw [own] at isSome
      cases isSome
  | queued limit => rfl
  | underway operation limit => rfl

/-- A turn passes only when the write of the one who has it ends, and then to
the first in line. -/
theorem passes_of_frameStep
    (line : Line posts turn awake) (own : posts task = stage.post? frame)
    (step : FrameStep now closed task id frame span stage ⟨turn, socket⟩ told
      after written)
    {holder : TaskId} (held : turn.holder = some holder)
    (passes : after.turn.holder ≠ some holder) :
    after.turn = turn.release ∧ turn.holder = some task := by
  have stays : (stage.approach task turn).holder = some holder := by
    cases stage with
    | unstarted => simp [Writing.approach, Turn.request, Turn.isFree, held]
    | queued limit => exact held
    | underway operation limit => exact held
  cases step with
  | refused isClosed => exact absurd held passes
  | refusedInTurn isClosed isHolder => exact ⟨rfl, isHolder⟩
  | answeredAtOnce early isOpen isHolder started =>
      have same := line.approach_eq own held isHolder
      rw [same] at isHolder ⊢
      exact ⟨rfl, isHolder⟩
  | cutAtOnce early isOpen isHolder started late =>
      have same := line.approach_eq own held isHolder
      rw [same] at isHolder ⊢
      exact ⟨rfl, isHolder⟩
  | begun early isOpen isHolder started due inTime => exact absurd stays passes
  | cutInLine early waits late => exact absurd stays passes
  | inLine early waits due inTime => exact absurd stays passes
  | answered proceeded => exact ⟨rfl, line.asking _ _ _ _ own⟩
  | cut proceeded late => exact ⟨rfl, line.asking _ _ _ _ own⟩
  | goesOn proceeded inTime => exact absurd held passes

theorem passes_of_closeStep
    {current next : Option Closing} (line : Line posts turn awake)
    (own : posts task = current.map Closing.post)
    (step : CloseStep now task id current ⟨turn, socket⟩ told after next)
    {holder : TaskId} (held : turn.holder = some holder)
    (passes : after.turn.holder ≠ some holder) :
    after.turn = turn.release ∧ turn.holder = some task := by
  have taken : ¬ turn.isFree = true := by
    simp [Turn.isFree, held]
  cases step with
  | busy isTaken => exact absurd held passes
  | answeredAtOnce free started => exact absurd free taken
  | cutAtOnce free started => exact absurd free taken
  | begun free started => exact absurd free taken
  | answered proceeded => exact ⟨rfl, line.asking _ _ _ _ own⟩
  | cut proceeded => exact ⟨rfl, line.asking _ _ _ _ own⟩
  | goesOn proceeded => exact absurd held passes

end

end Line

/-- Where tasks stand as writers to a peer. -/
def Hub.posts (hub : Hub) (id : PeerId) (task : TaskId) : Option Post :=
  (hub.task task).postAt id

/-- The writers to every peer stand in line. -/
def Lines (hub : Hub) : Prop :=
  ∀ id, Line (hub.posts id) (hub.peer id).turn fun task => task ∈ hub.ready

/-- What leaves the writers to a peer alone. -/
structure Quiet (id : PeerId) (before after : Hub) : Prop where
  turn : (after.peer id).turn = (before.peer id).turn
  posts : ∀ task, after.posts id task = before.posts id task
  chronicle : ∃ news, after.chronicle = news ++ before.chronicle ∧
    ∀ entry ∈ news, ¬ entry.happening.isAt id
  ready : ∀ task, (before.posts id task).isSome = true → task ∈ before.ready →
    task ∈ after.ready

theorem Quiet.outside {manner : Manner} {peers : Nat} {before after : Hub}
    (outside : Outside (manner.outsider peers) before after) (id : PeerId) :
    Quiet id before after := by
  obtain ⟨news, isNews, peerOutside, -⟩ := outside.news
  refine ⟨(peerOutside id).turn, fun task => ?_, ⟨news, isNews.chronicle, ?_⟩,
    fun task _ => outside.ready task⟩
  · unfold Hub.posts
    by_cases below : task < before.tasks.size
    · rw [outside.task task below]
    · rw [Hub.task_of_size_le before task (Nat.not_lt.mp below)]
      by_cases inside : task < after.tasks.size
      · exact Wires.postAt_of_starts
          (outside.newTask task (Nat.not_lt.mp below) inside).1
      · rw [Hub.task_of_size_le after task (Nat.not_lt.mp inside)]
  · intro entry member isAt
    have brings := isNews.brought entry member
    cases isKind : entry.happening <;> rw [isKind] at brings isAt <;>
      first | cases brings; done | cases isAt

namespace Quiet

variable (hub : Hub) (id : PeerId)

theorem addPeer {peer : Peer} (fresh : peer.turn = {}) :
    Quiet id hub (hub.addPeer peer) where
  turn := by
    rw [Hub.peer_addPeer]
    split
    · rename_i joined
      rw [Hub.peer_of_size_le hub id (Nat.le_of_eq joined.symm), fresh]
      rfl
    · rfl
  posts _ := rfl
  chronicle := ⟨[], rfl, by rintro _ ⟨⟩⟩
  ready _ _ member := member

theorem spawn {task : Task} (idle : task.postAt id = none) :
    Quiet id hub (hub.spawn task) where
  turn := rfl
  posts other := by
    rw [Hub.posts, Hub.task_spawn]
    split
    · rename_i isNew
      rw [Hub.posts, Hub.task_of_size_le hub other (Nat.le_of_eq isNew.symm)]
      exact idle
    · rfl
  chronicle := ⟨[], rfl, by rintro _ ⟨⟩⟩
  ready _ _ member := List.mem_append_left _ member

theorem ring (later : Instant) :
    Quiet id hub { hub with now := later }.ring := by
  obtain ⟨ready, same, grows, -⟩ := Hub.ring_eq { hub with now := later }
  rw [same]
  exact ⟨rfl, fun _ => rfl, ⟨[], rfl, by rintro _ ⟨⟩⟩,
    fun task _ member => grows task member⟩

theorem trans
    {first second third : Hub} {id : PeerId} (one : Quiet id first second)
    (two : Quiet id second third) : Quiet id first third where
  turn := two.turn.trans one.turn
  posts task := (two.posts task).trans (one.posts task)
  chronicle := by
    obtain ⟨early, sameEarly, elsewhereEarly⟩ := one.chronicle
    obtain ⟨late, sameLate, elsewhereLate⟩ := two.chronicle
    refine ⟨late ++ early, by rw [sameLate, sameEarly, List.append_assoc],
      fun entry member => ?_⟩
    rcases List.mem_append.mp member with isLate | isEarly
    · exact elsewhereLate entry isLate
    · exact elsewhereEarly entry isEarly
  ready task isSome member :=
    two.ready task (by rw [one.posts]; exact isSome)
      (one.ready task isSome member)

theorem serve
    {peer : Peer} {task : Task} (fresh : peer.turn = {})
    (idle : task.postAt id = none) :
    Quiet id hub ((hub.addPeer peer).spawn task) :=
  (addPeer hub id fresh).trans (spawn _ id idle)

end Quiet

theorem Turnover.quiet
    {manner : Manner} {before after : Hub}
    (turnover : Turnover (manner.outsider before.peers.size) before after)
    (id : PeerId) :
    (∃ task ∈ before.ready, after = before.goOn task) ∨
      Quiet id before after := by
  cases turnover with
  | outside outside => exact .inr (.outside outside id)
  | register added => exact .inr (.addPeer before id rfl)
  | serve added opened serves =>
      exact .inr (.serve before id rfl
        (by rcases serves with rfl | rfl <;> rfl))
  | @go task isReady => exact .inl ⟨task, isReady, rfl⟩
  | @tick later still forward whole passes => exact .inr (.ring before id later)

namespace Lines

variable {before after hub : Hub}

theorem start (configuration : Configuration) (chance : Nat → Nat) :
    Lines { Hub.start configuration with chance } := by
  intro id
  have noPeer :
      ({ Hub.start configuration with chance } : Hub).peer id = default :=
    Hub.peer_of_size_le _ id (Nat.zero_le id)
  rw [noPeer]
  refine .nobody fun task => ?_
  have noTask :
      ({ Hub.start configuration with chance } : Hub).task task = default :=
    Hub.task_of_size_le _ task (Nat.zero_le task)
  rw [Hub.posts, noTask]
  rfl

theorem quiet
    (lines : Lines before) {id : PeerId} (quiet : Quiet id before after) :
    Line (after.posts id) (after.peer id).turn fun task =>
      task ∈ after.ready := by
  rw [quiet.turn, funext quiet.posts]
  exact (lines id).mono quiet.ready

theorem goOn {task : TaskId} (housed : Housed hub) (lines : Lines hub) :
    Lines (hub.goOn task) := by
  intro id
  have course := Course.goOn hub task
  have stays : ∀ other, other ≠ task → other ∈ hub.ready →
      other ∈ (hub.goOn task).ready :=
    fun other different member =>
      course.ready other member fun same =>
        different (Option.some.inj same).symm
  have woken : ∀ other, ((hub.goOn task).peer id).turn.holder = some other →
      (hub.peer id).turn.holder = some other ∨ other = task ∨
        other ∈ (hub.goOn task).ready := by
    intro other held
    exact (course.turns id other held).imp_right
      (Or.imp_left fun same => (Option.some.inj same).symm)
  cases WriteTurn.goOn (fun peer writes =>
      housed.tasks task peer (Task.regards_of_writes writes)) id with
  | aside own aside =>
      refine lines.quiet ⟨aside.turn, aside.posts, aside.chronicle,
        fun other isSome member => ?_⟩
      refine stays other ?_ member
      rintro rfl
      rw [Hub.posts, own] at isSome
      cases isSome
  | frame sends within own step stationAfter chronicle ended posts =>
      have turn := congrArg Station.turn stationAfter
      have later :=
        (lines id).frameStep own step stays fun other held => woken other (by
          rw [← held]
          exact congrArg Turn.holder turn)
      rw [show (hub.goOn task).posts id = _ from funext posts,
        show ((hub.goOn task).peer id).turn = _ from turn]
      exact later
  | close asks own step stationAfter chronicle elsewhere ended posts =>
      have turn := congrArg Station.turn stationAfter
      have later :=
        (lines id).closeStep own step stays fun other held => woken other (by
          rw [← held]
          exact congrArg Turn.holder turn)
      rw [show (hub.goOn task).posts id = _ from funext posts,
        show ((hub.goOn task).peer id).turn = _ from turn]
      exact later

theorem turn
    {manner : Manner} (housed : Housed before) (lines : Lines before)
    (turnover : Turnover (manner.outsider before.peers.size) before after) :
    Lines after := by
  intro id
  rcases turnover.quiet id with ⟨task, -, rfl⟩ | quiet
  · exact goOn housed lines id
  · exact lines.quiet quiet

/-- A turn that somebody has passes to the first in line, who is ready then, and
to nobody else. -/
theorem passes
    {manner : Manner} (housed : Housed before) (lines : Lines before)
    (turnover : Turnover (manner.outsider before.peers.size) before after)
    {id : PeerId} {holder : TaskId}
    (held : (before.peer id).turn.holder = some holder)
    (passes : (after.peer id).turn.holder ≠ some holder) :
    (after.peer id).turn = (before.peer id).turn.release ∧
      ∀ next, (after.peer id).turn.holder = some next → next ∈ after.ready := by
  rcases turnover.quiet id with ⟨task, -, rfl⟩ | quiet
  · have passed :
        ((before.goOn task).peer id).turn = (before.peer id).turn.release ∧
        (before.peer id).turn.holder = some task := by
      cases WriteTurn.goOn (fun peer writes =>
          housed.tasks task peer (Task.regards_of_writes writes)) id with
      | aside own aside =>
          rw [aside.turn] at passes
          exact absurd held passes
      | frame sends within own step stationAfter chronicle ended posts =>
          have turn := congrArg Station.turn stationAfter
          rw [show ((before.goOn task).peer id).turn = _ from turn] at passes ⊢
          exact (lines id).passes_of_frameStep own step held passes
      | close asks own step stationAfter chronicle elsewhere ended posts =>
          have turn := congrArg Station.turn stationAfter
          rw [show ((before.goOn task).peer id).turn = _ from turn] at passes ⊢
          exact (lines id).passes_of_closeStep own step held passes
    refine ⟨passed.1, fun next isNext => ?_⟩
    rcases (Course.goOn before task).turns id next isNext with
      same | own | isReady
    · exact absurd (isNext.trans (same.symm.trans held)) passes
    · cases Option.some.inj own
      exact absurd (isNext.trans (passed.2.symm.trans held)) passes
    · exact isReady
  · rw [quiet.turn] at passes
    exact absurd held passes

end Lines

end BroadcastHub.Server
