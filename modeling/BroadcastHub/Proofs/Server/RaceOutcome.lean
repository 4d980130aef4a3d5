import BroadcastHub.Proofs.Server.Latecomers
import Mathlib.Data.List.Nodup

/-!
# What comes of stopping

However the steps of calls that stop the server and of openings of sessions
mix, no session is overlooked: one that is registered before the server knows
that it stops stands in the registry when that is looked at, and one that is
registered later finds out when it asks.  And a session is closed once.
-/

namespace BroadcastHub.Server

open Scenario

namespace Hub

variable (hub : Hub) {id other : PeerId}

theorem lt_size_of_closed (isClosed : (hub.peer id).closed = true) :
    id < hub.peers.size := by
  apply Nat.lt_of_not_le
  intro outside
  rw [peer_of_size_le hub id outside] at isClosed
  cases isClosed

theorem lt_size_of_registered (isRegistered : (hub.peer id).registered = true) :
    id < hub.peers.size := by
  apply Nat.lt_of_not_le
  intro outside
  rw [peer_of_size_le hub id outside] at isRegistered
  cases isRegistered

theorem peer_close_of_ne (different : id ≠ other) :
    (hub.close id).peer other = hub.peer other := by
  obtain ⟨ready, same⟩ | ⟨same, -⟩ := close_eq hub id
  · rw [same]
    exact peer_updatePeer_of_ne hub id other _ different
  · rw [same]

theorem mem_closedSince {after before : Hub} :
    id ∈ after.closedSince before ↔
      (before.peer id).closed = false ∧ (after.peer id).closed = true := by
  rw [closedSince, List.mem_filter, Bool.and_eq_true, Bool.not_eq_true']
  constructor
  · exact And.right
  · intro both
    exact ⟨List.mem_range.mpr (lt_size_of_closed after both.2), both⟩

theorem nodup_closedSince (after before : Hub) :
    (after.closedSince before).Nodup :=
  List.Pairwise.filter _ List.nodup_range

end Hub

/-! ### Sessions are closed once -/

/-- Whether a call closed a peer's session, which was open. -/
def CloseCall.isFreshOf (id : PeerId) (call : CloseCall) : Bool :=
  call.peer = id && call.fresh

/-- How many calls have closed each session. -/
def ClosedOnce (hub : Hub) (closes : List CloseCall) : Prop :=
  ∀ id, closes.countP (CloseCall.isFreshOf id) = (hub.peer id).closed.toNat

namespace ClosedOnce

variable {hub before after : Hub} {closes : List CloseCall}

theorem close
    (once : ClosedOnce hub closes) {id : PeerId} (inside : id < hub.peers.size)
    (byStop : Bool) :
    ClosedOnce (hub.close id)
      (⟨id, byStop, !(hub.peer id).closed⟩ :: closes) := by
  intro other
  rw [List.countP_cons, once other]
  by_cases same : id = other
  · subst same
    rw [Hub.closed_close hub id inside]
    cases (hub.peer id).closed <;> simp [CloseCall.isFreshOf]
  · rw [Hub.peer_close_of_ne hub same]
    simp [CloseCall.isFreshOf, same]

/-- What is closed in a turn was open. -/
theorem turn
    (once : ClosedOnce before closes)
    (closed : ∀ id, (before.peer id).closed = true →
      (after.peer id).closed = true) :
    ClosedOnce after
      ((after.closedSince before).map (fun id => ⟨id, false, true⟩) ++
        closes) := by
  intro id
  have counted :
      ((after.closedSince before).map fun id =>
        CloseCall.mk id false true).countP
      (CloseCall.isFreshOf id) = (after.closedSince before).count id := by
    rw [List.countP_map, List.count]
    apply List.countP_congr
    intro other _
    simp [CloseCall.isFreshOf]
  rw [List.countP_append, counted, once id]
  by_cases isNew : id ∈ after.closedSince before
  · rw [List.nodup_iff_count_eq_one.mp (Hub.nodup_closedSince after before) id
      isNew]
    obtain ⟨wasOpen, isClosed⟩ := Hub.mem_closedSince.mp isNew
    rw [wasOpen, isClosed]
    rfl
  · rw [List.count_eq_zero_of_not_mem isNew]
    cases wasClosed : (before.peer id).closed with
    | true =>
        rw [closed id wasClosed]
        rfl
    | false =>
        cases isClosed : (after.peer id).closed with
        | false => rfl
        | true =>
            exact absurd (Hub.mem_closedSince.mpr ⟨wasClosed, isClosed⟩) isNew

theorem keep (once : ClosedOnce before closes)
    (closed : ∀ id, (after.peer id).closed = (before.peer id).closed) :
    ClosedOnce after closes := by
  intro id
  rw [closed id]
  exact once id

end ClosedOnce

/-! ### Stopping -/

namespace StopStage

/-- The sessions that are left to be closed, once the registry was looked at. -/
def rest? : StopStage → Option (List PeerId)
  | called => none
  | told => none
  | closing rest _ => some rest
  | returned _ => some []

/-- How many sessions a call has closed so far. -/
def count : StopStage → Nat
  | called => 0
  | told => 0
  | closing _ count => count
  | returned count => count

/-- How many sessions several calls have closed so far. -/
def total : List StopStage → Nat
  | [] => 0
  | stop :: rest => stop.count + total rest

theorem total_append (earlier later : List StopStage) :
    total (earlier ++ later) = total earlier + total later := by
  induction earlier with
  | nil => exact (Nat.zero_add _).symm
  | cons first rest induction =>
      rw [List.cons_append, total, total, induction, Nat.add_assoc]

end StopStage

/-- What calls that stop the server have seen: a session that is registered and
was not late is closed, or it is left to be closed. -/
structure Overseen
    (hub : Hub) (stage : PeerId → OpeningStage) (late : PeerId → Bool)
    (stops : List StopStage) : Prop where
  told : ∀ stop ∈ stops, stop = .called ∨ hub.stopping = true
  inside : ∀ stop ∈ stops, ∀ rest, stop.rest? = some rest →
    ∀ id ∈ rest, id < hub.peers.size
  seen : ∀ stop ∈ stops, ∀ rest, stop.rest? = some rest →
    ∀ id, stage id ≠ .unregistered →
      (hub.peer id).registered = true →
        late id = true ∨ (hub.peer id).closed = true ∨ id ∈ rest

namespace Overseen

variable {hub before after : Hub} {stage newStage : PeerId → OpeningStage}
  {late newLate : PeerId → Bool} {stops earlier later : List StopStage}
  {old new : StopStage}

/-- A call comes to its next stage. -/
theorem replace (overseen : Overseen hub stage late (earlier ++ old :: later))
    (told : hub.stopping = true)
    (inside : ∀ rest, new.rest? = some rest → ∀ id ∈ rest, id < hub.peers.size)
    (seen : ∀ rest, new.rest? = some rest → ∀ id, stage id ≠ .unregistered →
      (hub.peer id).registered = true →
        late id = true ∨ (hub.peer id).closed = true ∨ id ∈ rest) :
    Overseen hub stage late (earlier ++ new :: later) := by
  have known : ∀ stop ∈ earlier ++ new :: later, stop = new ∨
      stop ∈ earlier ++ old :: later := by
    intro stop member
    rcases List.mem_append.mp member with early | late
    · exact .inr (List.mem_append.mpr (.inl early))
    · rcases List.mem_cons.mp late with same | last
      · exact .inl same
      · exact .inr (List.mem_append.mpr (.inr (List.mem_cons_of_mem _ last)))
  refine ⟨fun _ _ => .inr told, fun stop member => ?_, fun stop member => ?_⟩
  · rcases known stop member with rfl | isOld
    · exact inside
    · exact overseen.inside stop isOld
  · rcases known stop member with rfl | isOld
    · exact seen
    · exact overseen.seen stop isOld

/-- What closes no session again and registers none but latecomers. -/
theorem keep
    (overseen : Overseen before stage late stops)
    (stopping : before.stopping = true → after.stopping = true)
    (peers_le : before.peers.size ≤ after.peers.size)
    (closed : ∀ id, (before.peer id).closed = true →
      (after.peer id).closed = true)
    (joins : ∀ id, newStage id ≠ .unregistered →
      (after.peer id).registered = true →
      (before.stopping = true → newLate id = true) ∨
        (stage id ≠ .unregistered ∧ (before.peer id).registered = true ∧
          newLate id = late id)) :
    Overseen after newStage newLate stops where
  told stop member := (overseen.told stop member).imp_right stopping
  inside stop member rest isRest id isLeft :=
    Nat.lt_of_lt_of_le (overseen.inside stop member rest isRest id isLeft)
      peers_le
  seen stop member rest isRest id isServed isRegistered := by
    rcases joins id isServed isRegistered with
      comes | ⟨wasServed, wasRegistered, sameLate⟩
    · rcases overseen.told stop member with rfl | told
      · cases isRest
      · exact .inl (comes told)
    · rcases overseen.seen stop member rest isRest id wasServed
        wasRegistered with
        isLate | isClosed | isLeft
      · exact .inl (sameLate.trans isLate)
      · exact .inr (.inl (closed id isClosed))
      · exact .inr (.inr isLeft)

theorem call (overseen : Overseen hub stage late stops) :
    Overseen hub stage late (stops ++ [.called]) := by
  have known : ∀ stop ∈ stops ++ [.called], stop ∈ stops ∨ stop = .called := by
    intro stop member
    exact (List.mem_append.mp member).imp_right List.mem_singleton.mp
  refine ⟨fun stop member => ?_, fun stop member rest isRest => ?_,
    fun stop member rest isRest => ?_⟩
  · rcases known stop member with isOld | rfl
    · exact overseen.told stop isOld
    · exact .inl rfl
  · rcases known stop member with isOld | rfl
    · exact overseen.inside stop isOld rest isRest
    · cases isRest
  · rcases known stop member with isOld | rfl
    · exact overseen.seen stop isOld rest isRest
    · cases isRest

end Overseen

/-! ### Races -/

/-- Whether a call that stops the server closed a session, which was open. -/
def CloseCall.isFreshByStop (call : CloseCall) : Bool :=
  call.byStop && call.fresh

namespace Race

/-- What holds of every race. -/
structure Sound (race : Race) : Prop where
  orderly : Orderly race.hub race.stage race.late
  overseen : Overseen race.hub race.stage race.late race.stops
  once : ClosedOnce race.hub race.closes
  counted :
    StopStage.total race.stops = race.closes.countP CloseCall.isFreshByStop

namespace Sound

variable {manner : Manner} {race after : Race}

theorem start (configuration : Configuration) (chance : Nat → Nat) :
    Sound (start configuration chance) where
  orderly := .start configuration chance
  overseen := ⟨by rintro _ ⟨⟩, by rintro _ ⟨⟩, by rintro _ ⟨⟩⟩
  once _ := rfl
  counted := rfl

theorem total_replace
    {old new : StopStage} {earlier later : List StopStage}
    (same : new.count = old.count) :
    StopStage.total (earlier ++ new :: later) =
      StopStage.total (earlier ++ old :: later) := by
  rw [StopStage.total_append, StopStage.total_append, StopStage.total,
    StopStage.total, same]

/-- The opening of a session comes to its next stage. -/
theorem setStage
    (sound : Sound race) {id : PeerId} {next : OpeningStage}
    (isServed : race.stage id ≠ .unregistered)
    (notUnregistered : next ≠ .unregistered)
    (notRunning : race.stage id ≠ .running) (isWaiting : next ≠ .running)
    (closed : race.late id = true → next = .passed →
      (race.hub.peer id).closed = true) :
    Sound (race.setStage id next) where
  orderly :=
    sound.orderly.setStage isServed notUnregistered notRunning isWaiting closed
  overseen := by
    refine sound.overseen.keep (fun told => told) (Nat.le_refl _)
      (fun _ isClosed => isClosed) fun other isServedOther isRegistered => ?_
    refine .inr ⟨?_, isRegistered, rfl⟩
    by_cases same : other = id
    · rw [same]
      exact isServed
    · exact fun isNew => isServedOther ((if_neg same).trans isNew)
  once := sound.once
  counted := sound.counted

theorem close
    (sound : Sound race) {id : PeerId} (inside : id < race.hub.peers.size) :
    Orderly (race.hub.close id) race.stage race.late ∧
      Overseen (race.hub.close id) race.stage race.late race.stops ∧
      ∀ byStop,
        ClosedOnce (race.hub.close id) (race.close id byStop).closes := by
  have course : Course { starts := fun _ => False } race.hub
      (race.hub.close id) := .close _ (.inl rfl)
  refine ⟨sound.orderly.close id, ?_,
    fun byStop => sound.once.close inside byStop⟩
  refine sound.overseen.keep (fun told => course.stopping.trans told)
    (Nat.le_of_eq course.peers.symm)
    (fun other isClosed => (course.peer other).closed isClosed)
    fun other isServed isRegistered => .inr ⟨isServed, ?_, rfl⟩
  exact ((course.peer other).registered (by rintro ⟨⟩)).symm.trans isRegistered

/-- A call that stops the server comes to its next stage. -/
theorem tell (sound : Sound race) {earlier later : List StopStage}
    (stands : race.stops = earlier ++ .called :: later) :
    Sound { race with
      hub := { race.hub with stopping := true }
      stops := earlier ++ .told :: later } where
  orderly := sound.orderly.tell
  overseen := by
    have told : Overseen { race.hub with stopping := true } race.stage race.late
        race.stops :=
      sound.overseen.keep (fun _ => rfl) (Nat.le_refl _)
        (fun _ isClosed => isClosed)
        fun other isServed isRegistered => .inr ⟨isServed, isRegistered, rfl⟩
    rw [stands] at told
    exact told.replace rfl (by rintro _ ⟨⟩) (by rintro _ ⟨⟩)
  once := sound.once
  counted := by
    rw [← sound.counted, stands]
    exact total_replace rfl

/-- A call looks at the registry: who is registered is left to be closed. -/
theorem look
    (sound : Sound race) {earlier later : List StopStage}
    (stands : race.stops = earlier ++ .told :: later) :
    Sound { race with
      stops := earlier ++ .closing race.hub.registry 0 :: later } where
  orderly := sound.orderly
  overseen := by
    have overseen := sound.overseen
    rw [stands] at overseen
    have told : race.hub.stopping = true :=
      (overseen.told .told
        (List.mem_append.mpr (.inr List.mem_cons_self))).resolve_left
        (by rintro ⟨⟩)
    refine overseen.replace told ?_ ?_
    · rintro _ ⟨⟩ id member
      exact ((Hub.mem_registry race.hub).mp member).1
    · rintro _ ⟨⟩ id isServed isRegistered
      have isInside := Hub.lt_size_of_registered race.hub isRegistered
      exact .inr
        (.inr ((Hub.mem_registry race.hub).mpr ⟨isInside, isRegistered⟩))
  once := sound.once
  counted := by
    rw [← sound.counted, stands]
    exact total_replace rfl

/-- A call closes a session that is left. -/
theorem closeNext
    (sound : Sound race) {earlier later : List StopStage} {id : PeerId}
    {rest : List PeerId} {count : Nat}
    (stands : race.stops = earlier ++ .closing (id :: rest) count :: later) :
    Sound { race.close id true with
      stops := earlier ++
        .closing rest (if (race.hub.peer id).closed then count
          else count + 1) :: later } := by
  have member : StopStage.closing (id :: rest) count ∈ race.stops := by
    rw [stands]
    exact List.mem_append.mpr (.inr List.mem_cons_self)
  have inside := sound.overseen.inside _ member _ rfl
  have isInside := inside id List.mem_cons_self
  have told : race.hub.stopping = true :=
    (sound.overseen.told _ member).resolve_left (by rintro ⟨⟩)
  obtain ⟨orderly, overseen, once⟩ := sound.close isInside
  have course : Course { starts := fun _ => False } race.hub
      (race.hub.close id) := .close _ (.inl rfl)
  refine ⟨orderly, ?_, once true, ?_⟩
  · have seen := overseen.seen _ member _ rfl
    rw [stands] at overseen
    refine overseen.replace (course.stopping.trans told) ?_ ?_
    · rintro _ ⟨⟩ other isLeft
      rw [course.peers]
      exact inside other (List.mem_cons_of_mem _ isLeft)
    · rintro _ ⟨⟩ other isServed isRegistered
      rcases seen other isServed isRegistered with isLate | isClosed | isLeft
      · exact .inl isLate
      · exact .inr (.inl isClosed)
      · rcases List.mem_cons.mp isLeft with rfl | stillLeft
        · exact .inr (.inl (Hub.closed_close race.hub other isInside))
        · exact .inr (.inr stillLeft)
  · have counted := sound.counted
    rw [stands, StopStage.total_append] at counted
    show StopStage.total (earlier ++ _ :: later) =
      List.countP _ (_ :: race.closes)
    rw [StopStage.total_append, List.countP_cons, ← counted]
    cases (race.hub.peer id).closed with
    | false =>
        simp only [StopStage.total, StopStage.count, CloseCall.isFreshByStop]
        simp
        omega
    | true => simp [StopStage.total, StopStage.count, CloseCall.isFreshByStop]

/-- A call is through. -/
theorem answer
    (sound : Sound race) {earlier later : List StopStage} {count : Nat}
    (stands : race.stops = earlier ++ .closing [] count :: later) :
    Sound { race with stops := earlier ++ .returned count :: later } where
  orderly := sound.orderly
  overseen := by
    have overseen := sound.overseen
    rw [stands] at overseen
    have member :
        StopStage.closing [] count ∈ earlier ++ .closing [] count :: later :=
      List.mem_append.mpr (.inr List.mem_cons_self)
    have told := (overseen.told _ member).resolve_left (by rintro ⟨⟩)
    refine overseen.replace told ?_ ?_
    · rintro _ ⟨⟩
      exact overseen.inside _ member _ rfl
    · rintro _ ⟨⟩
      exact overseen.seen _ member _ rfl
  once := sound.once
  counted := by
    rw [← sound.counted, stands]
    exact total_replace rfl

/-- The opening of a session registers it: late, if a call has looked at the
registry. -/
theorem register
    (sound : Sound race) {task : TaskId} {id : PeerId}
    (isTask : race.hub.task task = .attend id .arriving)
    (isNew : race.stage id = .unregistered) :
    Sound (race.register task id) := by
  have seated := sound.orderly.attended.seated sound.orderly.housed isTask
  have serves : (Doer.running task (race.hub.task task)).serves = some id := by
    show (race.hub.task task).serves? = some id
    rw [isTask]
    rfl
  have course := (Course.takeUp race.hub rfl).trans
    (Course.register { race.hub with ready := race.hub.ready.erase task }
      serves isTask Hub.firstWindow) (by rintro _ ⟨⟩; exact seated.below)
  refine ⟨sound.orderly.register isTask isNew, ?_, ?_, sound.counted⟩
  · refine sound.overseen.keep (fun told => course.stopping.trans told)
      (Nat.le_of_eq course.peers.symm)
      (fun other isClosed => (course.peer other).closed isClosed)
      fun other isServed isRegistered => ?_
    by_cases same : other = id
    · exact .inl fun told => (if_pos same).trans told
    · have notServed :
        (Doer.running task (race.hub.task task)).serves ≠ some other := by
        rw [serves]
        exact fun isSame => same (Option.some.inj isSame).symm
      refine .inr ⟨?_, ?_, if_neg same⟩
      · exact fun isNew => isServed ((if_neg same).trans isNew)
      · exact ((course.peer other).registered notServed).symm.trans isRegistered
  · exact sound.once.keep fun other => Hub.closed_updatePeer _ id other rfl

/-- A session begins to read. -/
theorem enter
    (sound : Sound race) {task : TaskId} {id : PeerId}
    (isTask : race.hub.task task = .attend id .arriving)
    (hasPassed : race.stage id = .passed) :
    Sound { race.setStage id .running with hub := race.hub.enter task id } := by
  have seated := sound.orderly.attended.seated sound.orderly.housed isTask
  have attends : (Doer.running task (.attend id .arriving)).Attends task id :=
    ⟨rfl, rfl, fun _ => ⟨rfl, by rintro ⟨⟩⟩, fun _ => ⟨rfl, rfl⟩⟩
  have course :=
    Course.enter attends race.hub (by rintro _ ⟨⟩; exact seated.below)
  have peers : ∀ other, ((race.hub.enter task id).peer other).closed =
      (race.hub.peer other).closed ∧
      ((race.hub.enter task id).peer other).registered =
        (race.hub.peer other).registered := by
    intro other
    let noted : Hub := (race.hub.note (.joined id)).count Counters.noteOpened
    let opened : Hub := noted.renewDeadline id race.hub.timing.heartbeat
    have below : task < opened.tasks.size := seated.below
    obtain ⟨tasks, ready, same, -⟩ := Hub.readOn_eq opened id below
    have entered : race.hub.enter task id = { opened with tasks, ready } := same
    rw [entered]
    exact ⟨Hub.closed_updatePeer noted id other rfl,
      Hub.peer_updatePeer_keeps noted id other fun _ => rfl⟩
  refine ⟨sound.orderly.enter isTask hasPassed, ?_, sound.once.keep fun other =>
    (peers other).1,
      sound.counted⟩
  refine sound.overseen.keep (fun told => course.stopping.trans told)
    (Nat.le_of_eq course.peers.symm)
    (fun other isClosed => (course.peer other).closed isClosed)
    fun other isServed isRegistered =>
      .inr ⟨?_, (peers other).2.symm.trans isRegistered, rfl⟩
  by_cases same : other = id
  · rw [same, hasPassed]
    rintro ⟨⟩
  · exact fun isNew => isServed ((if_neg same).trans isNew)

/-- Something else happens. -/
theorem turn
    (sound : Sound race) {hub : Hub}
    (turnover : Turnover (manner.outsider race.hub.peers.size) race.hub hub)
    (stopping : hub.stopping = race.hub.stopping)
    (unopened : ∀ task id, race.hub.task task = .attend id .arriving →
      hub.task task = .attend id .arriving) :
    Sound { race with
      hub := hub
      closes := (hub.closedSince race.hub).map (fun id => ⟨id, false, true⟩) ++
        race.closes } where
  orderly :=
    sound.orderly.turn turnover (fun told => stopping.trans told) unopened
  overseen := by
    refine sound.overseen.keep (fun told => stopping.trans told)
      turnover.peers_le (fun id isClosed => turnover.closed isClosed)
      fun id isServed isRegistered => .inr ⟨isServed, ?_, rfl⟩
    exact turnover.joins (sound.orderly.inside id isServed)
      (fun task => unopened task id) isRegistered
  once := sound.once.turn fun id isClosed =>
    turnover.closed isClosed
  counted := by
    have none :
        ((hub.closedSince race.hub).map fun id =>
          CloseCall.mk id false true).countP
        CloseCall.isFreshByStop = 0 := by
      rw [List.countP_map]
      exact List.countP_eq_zero.mpr fun _ _ => by rintro ⟨⟩
    rw [sound.counted, List.countP_append, none, Nat.zero_add]

/-- Every step keeps what holds of a race. -/
theorem step (sound : Sound race) (step : Step manner race after) :
    Sound after := by
  cases step with
  | call =>
      refine ⟨sound.orderly, sound.overseen.call, sound.once, ?_⟩
      rw [← sound.counted, StopStage.total_append]
      rfl
  | tell stands => exact sound.tell stands
  | look stands => exact sound.look stands
  | close stands => exact sound.closeNext stands
  | answer stands => exact sound.answer stands
  | register isTask isReady isNew => exact sound.register isTask isNew
  | @ask id isRegistered =>
      have isServed :
          race.stage id ≠ .unregistered := by rw [isRegistered]; rintro ⟨⟩
      have notRunning :
          race.stage id ≠ .running := by rw [isRegistered]; rintro ⟨⟩
      refine sound.setStage isServed ?_ notRunning ?_ fun isLate isPassed => ?_
      · split <;> rintro ⟨⟩
      · split <;> rintro ⟨⟩
      · rw [if_pos (sound.orderly.lateTold id isLate).1] at isPassed
        cases isPassed
  | @refuse id isRefused =>
      have isServed :
          race.stage id ≠ .unregistered := by rw [isRefused]; rintro ⟨⟩
      have notRunning : race.stage id ≠ .running := by rw [isRefused]; rintro ⟨⟩
      have inside := sound.orderly.inside id isServed
      obtain ⟨orderly, overseen, once⟩ := sound.close inside
      have uncounted :
          (race.close id false).closes.countP CloseCall.isFreshByStop =
          race.closes.countP CloseCall.isFreshByStop :=
        List.countP_cons_of_neg (by rintro ⟨⟩)
      have closed : Sound (race.close id false) :=
        ⟨orderly, overseen, once false, sound.counted.trans uncounted.symm⟩
      exact closed.setStage isServed (by rintro ⟨⟩) notRunning (by rintro ⟨⟩)
        fun _ _ => Hub.closed_close race.hub id inside
  | enter isTask hasPassed => exact sound.enter isTask hasPassed
  | turn turnover stopping unopened =>
      exact sound.turn turnover stopping unopened

theorem ofSteps
    {configuration : Configuration} {chance : Nat → Nat} {first last : Race}
    (steps : Steps manner first last)
    (begins : first = .start configuration chance) : Sound last := by
  induction steps with
  | refl =>
      rw [begins]
      exact .start configuration chance
  | step _ step induction => exact induction.step step

end Sound

/-- What has come of a race.  Once a call has answered, each session that stands
in the registry and has the question behind it is closed; a latecomer never
takes anything, and ends because it is closed; and of the calls that close a
session just one finds it open, so the calls that stop the server count it
once. -/
structure Outcome (race : Race) : Prop where
  closed : ∀ count, .returned count ∈ race.stops → ∀ id,
    race.stage id = .passed ∨ race.stage id = .running →
    (race.hub.peer id).registered = true → (race.hub.peer id).closed = true
  untaken : ∀ id, race.late id = true → Untaken id race.hub.chronicle
  exit : ∀ id, race.late id = true →
    ∀ time exit, ⟨time, .left id exit⟩ ∈ race.hub.chronicle →
      exit = .socketClosed
  ends : ∀ id, race.late id = true → race.stage id = .running →
    (∃ time, ⟨time, .left id .socketClosed⟩ ∈ race.hub.chronicle) ∨
      ∃ task ∈ race.hub.ready, (race.hub.task task).serves? = some id ∧
        ∃ time, ⟨time, .left id .socketClosed⟩ ∈ (race.hub.goOn task).chronicle
  once : ∀ id, race.closes.countP (CloseCall.isFreshOf id) =
    (race.hub.peer id).closed.toNat
  counted : StopStage.total race.stops =
    (race.closes.filter CloseCall.isFreshByStop).length
  distinct :
    ((race.closes.filter CloseCall.isFreshByStop).map CloseCall.peer).Nodup

namespace Sound

variable {race : Race}

theorem latecomer
    (sound : Sound race) {id : PeerId} (isLate : race.late id = true) :
    Doomed race.hub id ∨ race.stage id ≠ .running ∧ Unopened race.hub id := by
  by_cases isRunning : race.stage id = .running
  · exact .inl (sound.orderly.doomed id isLate isRunning)
  · exact .inr ⟨isRunning, sound.orderly.unopened id isRunning⟩

theorem nodup_fresh (sound : Sound race) :
    ((race.closes.filter CloseCall.isFreshByStop).map
      CloseCall.peer).Nodup := by
  rw [List.nodup_iff_count_le_one]
  intro id
  rw [List.count, List.countP_map, List.countP_filter]
  refine Nat.le_trans (List.countP_mono_left fun call _ => ?_)
    (Nat.le_trans (Nat.le_of_eq (sound.once id)) (Bool.toNat_le _))
  simp only [CloseCall.isFreshOf, CloseCall.isFreshByStop, Function.comp,
    Bool.and_eq_true, beq_iff_eq, decide_eq_true_eq]
  exact fun both => ⟨both.1, both.2.2⟩

theorem outcome (sound : Sound race) : Outcome race where
  closed count answered id hasPassed isRegistered := by
    have isServed : race.stage id ≠ .unregistered := by
      rcases hasPassed with isPassed | isRunning
      · rw [isPassed]
        rintro ⟨⟩
      · rw [isRunning]
        rintro ⟨⟩
    rcases sound.overseen.seen _ answered [] rfl id isServed isRegistered with
      isLate | isClosed | isLeft
    · exact sound.orderly.lateClosed id isLate hasPassed
    · exact isClosed
    · cases isLeft
  untaken id isLate := by
    rcases sound.latecomer isLate with doomed | ⟨-, unopened⟩
    · cases doomed with
      | reading seated isTask isClosed awake untaken stays => exact untaken
      | left seated isOver untaken member only => exact untaken
    · exact fun time item member => unopened.silent _ member rfl
  exit id isLate time exit member := by
    rcases sound.latecomer isLate with doomed | ⟨-, unopened⟩
    · cases doomed with
      | reading seated isTask isClosed awake untaken stays =>
          exact absurd member (stays time exit)
      | left seated isOver untaken isMember only => exact only time exit member
    · exact absurd rfl (unopened.silent _ member)
  ends id isLate isRunning := by
    cases sound.orderly.doomed id isLate isRunning with
    | @reading task alarm seated isTask isClosed awake untaken stays =>
        obtain ⟨news, passage, step⟩ := ReadStep.goOn seated isTask
        obtain ⟨-, quiet, -, told⟩ := step.of_closed isClosed
        refine .inr ⟨task, awake, ?_, race.hub.now, ?_⟩
        · rw [isTask]
          rfl
        · rw [passage.chronicle, told]
          exact List.mem_append.mpr
            (.inl (List.mem_append.mpr (.inr List.mem_cons_self)))
    | left seated isOver untaken member only => exact .inl member
  once := sound.once
  counted := by rw [sound.counted, List.countP_eq_length_filter]
  distinct := sound.nodup_fresh

end Sound

/-- What the next call comes to if nothing overtakes it: a race of the same
kind, in which the server has done all that stopping does, or all that a session
does when its task opens it. -/
structure WholeCalls (manner : Manner) (race : Race) : Prop where
  stop : ∃ after, Steps manner race after ∧ after.hub = race.hub.stop.1 ∧
    after.stops = race.stops ++ [.returned race.hub.stop.2] ∧ Outcome after
  goOn : ∀ task id, race.hub.task task = .attend id .arriving →
    task ∈ race.hub.ready → race.stage id = .unregistered →
      ∃ after, Steps manner race after ∧ after.hub = race.hub.goOn task ∧
        after.stage id = .running ∧ after.stops = race.stops ∧ Outcome after

variable {manner : Manner} {configuration : Configuration}
  {chance : Nat → Nat} {race : Race}

theorem Outcome.ofSteps
    (steps : Steps manner (start configuration chance) race) : Outcome race :=
  (Sound.ofSteps steps rfl).outcome

theorem WholeCalls.ofSteps
    (steps : Steps manner (start configuration chance) race) :
    WholeCalls manner race where
  stop := by
    obtain ⟨after, further, hub, stops⟩ := steps_stop race
    exact ⟨after, further, hub, stops, .ofSteps (steps.trans further)⟩
  goOn task id isTask isReady isNew := by
    obtain ⟨after, further, hub, stage, stops⟩ :=
      steps_goOn isTask isReady isNew
    exact ⟨after, further, hub, stage, stops, .ofSteps (steps.trans further)⟩

/-- Whichever way calls that stop the server and openings of sessions overtake
each other, no session is left open, and none is closed twice.  This covers the
calls that nothing overtakes. -/
theorem stopping_outcome
    (steps : Steps manner (start configuration chance) race) :
    Outcome race ∧ WholeCalls manner race :=
  ⟨.ofSteps steps, .ofSteps steps⟩

/-- Sessions with scripted sockets are opened. -/
def guests : Manner where
  allows action := ∃ script, action = .serve script
  inOrder := False

/-- A session is to be opened by a task. -/
def serve (race : Race) : Race :=
  { race with
    hub :=
      (race.hub.addPeer
        { socket := .scripted {}, attendant := some race.hub.nextTask }).spawn
        (.attend race.hub.peers.size .arriving) }

theorem Step.serve (race : Race) : Step guests race race.serve := by
  let served : Hub :=
    (race.hub.addPeer
      { socket := .scripted {}, attendant := some race.hub.nextTask }).spawn
      (.attend race.hub.peers.size .arriving)
  have none : served.closedSince race.hub = [] := by
    apply List.eq_nil_iff_forall_not_mem.mpr
    intro id member
    obtain ⟨wasOpen, isClosed⟩ := Hub.mem_closedSince.mp member
    change ((race.hub.addPeer _).peer id).closed = true at isClosed
    rw [Hub.peer_addPeer] at isClosed
    split at isClosed
    · cases isClosed
    · cases wasOpen.symm.trans isClosed
  have turn : Step guests race { race with
      hub := served
      closes := (served.closedSince race.hub).map
        (fun id => ⟨id, false, true⟩) ++ race.closes } := by
    refine .turn (.serve ⟨_, ⟨{}, rfl⟩, rfl⟩ ⟨_, ⟨{}, rfl⟩, _, rfl⟩ (.inl rfl))
      rfl ?_
    intro task id isTask
    rw [Hub.task_spawn]
    split
    · rename_i isNew
      have fresh := Hub.task_of_size_le race.hub task (Nat.le_of_eq isNew.symm)
      rw [fresh] at isTask
      cases isTask
    · exact isTask
  rw [none] at turn
  exact turn

/-- A session has been registered and let through; then the server is told to
stop, and another session is served before that is registered. -/
def overtaken : Race :=
  let first := ((start {} fun _ => 0).serve.register 0 0).setStage 0 .passed
  { first.serve with
    hub := { first.serve.hub with stopping := true }
    stops := [.closing [0] 0] }

/-- The latecomer is registered, finds the server stopping and begins to read;
the first session begins to read, and the call closes it. -/
def overtaking : Race :=
  let asked := (overtaken.register 1 1).setStage 1 .refused
  let refused := (asked.close 1 false).setStage 1 .passed
  let late := { refused.setStage 1 .running with hub := refused.hub.enter 1 1 }
  let both := { late.setStage 0 .running with hub := late.hub.enter 0 0 }
  { both.close 0 true with stops := [.returned 1] }

theorem Steps.overtaken : Steps guests (start {} fun _ => 0) overtaken := by
  have served := (Steps.refl (start {} fun _ => 0)).step (.serve _)
  have registered :=
    served.step (@Step.register guests _ 0 0 rfl (by decide) rfl)
  have passed := registered.step (@Step.ask guests _ 0 rfl)
  have told := (passed.step .call).step (@Step.tell guests _ [] [] rfl)
  exact (told.step (@Step.look guests _ [] [] rfl)).step (.serve _)

theorem Steps.overtaking : Steps guests (start {} fun _ => 0) overtaking := by
  have registered :=
    Steps.overtaken.step (@Step.register guests _ 1 1 rfl (by decide) rfl)
  have refused := (registered.step (@Step.ask guests _ 1 rfl)).step
    (@Step.refuse guests _ 1 rfl)
  have late := refused.step (@Step.enter guests _ 1 1 rfl rfl)
  have both := late.step (@Step.enter guests _ 0 0 rfl rfl)
  have closed := both.step (@Step.close guests _ [] [] 0 [] 0 rfl)
  exact closed.step (@Step.answer guests _ [] [] 1 rfl)

/-- The call answers that it closed the first session; the latecomer was closed
by its own opening, and is about to end. -/
theorem stopping_outcome_of_overtaking :
    overtaking.stops = [.returned 1] ∧ overtaking.hub.registry = [0, 1] ∧
      overtaking.stage 0 = .running ∧ overtaking.stage 1 = .running ∧
      overtaking.late 1 = true ∧
      (overtaking.hub.peer 0).closed = true ∧
      (overtaking.hub.peer 1).closed = true ∧
      Outcome overtaking ∧ WholeCalls guests overtaking :=
  ⟨rfl, by decide, rfl, rfl, rfl, rfl, rfl, stopping_outcome Steps.overtaking⟩

end Race

end BroadcastHub.Server
