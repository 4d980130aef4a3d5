import BroadcastHub.Proofs.Server.Beginnings
import BroadcastHub.Proofs.Server.Echoes

/-!
# What clients do to a hub that echoes

Clients that write and read, and the clock, change no task.  They wake tasks,
which then stand behind those that were ready, and what they read still counts
as written to them.
-/

namespace BroadcastHub.Server

open Scenario

/-- What is changed by clients that write and read, and by the clock. -/
structure Gentle (before after : Hub) : Prop where
  stopping : after.stopping = before.stopping
  watches : after.watches = before.watches
  tasks : after.tasks = before.tasks
  peers : after.peers.size = before.peers.size
  peer : ∀ id, (after.peer id).closed = (before.peer id).closed ∧
    (after.peer id).turn = (before.peer id).turn ∧
    (after.peer id).registered = (before.peer id).registered
  desk : ∀ id, (before.peer id).socket.KeepsDesk (after.peer id).socket
  ready : ∃ woken, after.ready = before.ready ++ woken ∧
    (before.ready.Nodup → after.ready.Nodup) ∧
    ∀ number ∈ woken, number < before.tasks.size ∧
      ∀ id frame limit, before.task number ≠ .deliver id frame limit .unstarted
  news : ∃ news, after.chronicle = news ++ before.chronicle ∧
    ∀ entry ∈ news, ∃ id octets, entry.happening = .fed id octets

namespace Hub

variable (hub : Hub)

/-- Serves a new client over a link. -/
def wire (room limit : Nat) : Hub :=
  let client : Peer :=
    { socket := .link (.connect room limit), attendant := some hub.nextTask }
  (hub.addPeer client).spawn (.attend hub.peers.size .arriving)

/-- Who is woken stands behind those who are ready. -/
theorem wake_behind (number : TaskId) :
    ∃ woken,
    hub.wake number = { hub with ready := hub.ready ++ woken } ∧
      (hub.ready.Nodup → (hub.ready ++ woken).Nodup) ∧
      ∀ other ∈ woken, other = number := by
  unfold wake
  split
  · refine ⟨[], ?_, ?_, ?_⟩
    · rw [List.append_nil]
    · rw [List.append_nil]
      exact fun distinct => distinct
    · rintro _ ⟨⟩
  · rename_i idle
    refine ⟨[number], rfl, fun distinct => ?_,
      fun other => List.mem_singleton.mp⟩
    refine List.nodup_append.mpr ⟨distinct, List.nodup_singleton number, ?_⟩
    rintro other member _ isNumber rfl
    rw [List.mem_singleton.mp isNumber] at member
    exact idle (List.contains_iff_mem.mpr member)

theorem wakeAll_behind (numbers : List TaskId) :
    ∃ woken,
    hub.wakeAll numbers = { hub with ready := hub.ready ++ woken } ∧
      (hub.ready.Nodup → (hub.ready ++ woken).Nodup) ∧
      ∀ other ∈ woken, other ∈ numbers := by
  induction numbers generalizing hub with
  | nil =>
      refine ⟨[], ?_, ?_, ?_⟩
      · rw [List.append_nil]
        rfl
      · rw [List.append_nil]
        exact fun distinct => distinct
      · rintro _ ⟨⟩
  | cons first rest induction =>
      obtain ⟨woken, same, distinct, isFirst⟩ := wake_behind hub first
      obtain ⟨more, sameLater, distinctLater, isLater⟩ :=
        induction (hub.wake first)
      rw [same] at sameLater distinctLater
      refine ⟨woken ++ more, ?_, ?_, fun other member => ?_⟩
      · show (hub.wake first).wakeAll rest = _
        rw [same, sameLater, List.append_assoc]
      · rw [← List.append_assoc]
        exact fun alone => distinctLater (distinct alone)
      · rcases List.mem_append.mp member with early | late
        · exact List.mem_cons.mpr (.inl (isFirst other early))
        · exact List.mem_cons.mpr (.inr (isLater other late))

theorem usesSocket_of_attend
    {id : PeerId} {number : TaskId} {stage : Attendance}
    (isTask : hub.task number = .attend id stage) :
    hub.usesSocket id = true := by
  have below : number < hub.tasks.size :=
    hub.lt_size_of_task number (by rw [isTask]; rintro ⟨⟩)
  obtain ⟨⟨entry, position⟩, isPosition, same⟩ :=
    List.mem_map.mp (hub.mem_toList_tasks number below)
  cases same
  refine Array.any_eq_true'.mpr ⟨hub.task number, ?_, ?_⟩
  · exact Array.mem_toList_iff.mp
      (List.mem_of_getElem? (List.mk_mem_zipIdx_iff_getElem?.mp isPosition))
  · rw [isTask]
    exact decide_eq_true rfl

end Hub

namespace Gentle

variable {first second third before after : Hub} {id : PeerId}

theorem refl (hub : Hub) : Gentle hub hub where
  stopping := rfl
  watches := rfl
  tasks := rfl
  peers := rfl
  peer _ := ⟨rfl, rfl, rfl⟩
  desk _ := Socket.keepsDesk_of_eq rfl
  ready :=
    ⟨[], (List.append_nil _).symm, fun distinct => distinct, by rintro _ ⟨⟩⟩
  news := ⟨[], rfl, by rintro _ ⟨⟩⟩

theorem trans (one : Gentle first second) (two : Gentle second third) :
    Gentle first third where
  stopping := two.stopping.trans one.stopping
  watches := two.watches.trans one.watches
  tasks := two.tasks.trans one.tasks
  peers := two.peers.trans one.peers
  peer id := by
    obtain ⟨closed, turn, registered⟩ := one.peer id
    obtain ⟨closedLater, turnLater, registeredLater⟩ := two.peer id
    exact ⟨closedLater.trans closed, turnLater.trans turn,
      registeredLater.trans registered⟩
  desk id desk same := by
    obtain ⟨later, isLater, alike⟩ := one.desk id desk same
    obtain ⟨last, isLast, alikeLater⟩ := two.desk id later isLater
    exact ⟨last, isLast, alikeLater.encoded.trans alike.encoded,
      alikeLater.accepted.trans alike.accepted,
      alikeLater.closed.trans alike.closed,
      alikeLater.written.trans alike.written⟩
  ready := by
    obtain ⟨woken, ready, distinct, plain⟩ := one.ready
    obtain ⟨more, readyLater, distinctLater, plainLater⟩ := two.ready
    refine ⟨woken ++ more, ?_, fun alone => distinctLater (distinct alone),
      fun number member => ?_⟩
    · rw [readyLater, ready, List.append_assoc]
    · rcases List.mem_append.mp member with early | late
      · exact plain number early
      · have same : second.task number = first.task number := by
          rw [Hub.task, one.tasks]
          rfl
        rw [← one.tasks, ← same]
        exact plainLater number late
  news := by
    obtain ⟨older, chronicle, isFed⟩ := one.news
    obtain ⟨newer, chronicleLater, isFedLater⟩ := two.news
    refine ⟨newer ++ older, ?_, fun entry member => ?_⟩
    · rw [chronicleLater, chronicle, List.append_assoc]
    · rcases List.mem_append.mp member with late | early
      · exact isFedLater entry late
      · exact isFed entry early

theorem wakeAll (hub : Hub) {numbers : List TaskId}
    (plain : ∀ number ∈ numbers, number < hub.tasks.size ∧
      ∀ id frame limit, hub.task number ≠ .deliver id frame limit .unstarted) :
    Gentle hub (hub.wakeAll numbers) := by
  obtain ⟨woken, same, distinct, isWoken⟩ := hub.wakeAll_behind numbers
  rw [same]
  exact
    { refl hub with
      ready := ⟨woken, rfl, distinct,
        fun number member => plain number (isWoken number member)⟩ }

theorem wakeReader (hub : Hub) (id : PeerId) :
    Gentle hub (Play.wakeReader hub id) := by
  unfold Play.wakeReader
  split
  · rename_i task _
    split
    · rename_i reads
      refine @wakeAll hub [task] fun number member => ?_
      rw [List.mem_singleton.mp member]
      refine ⟨hub.lt_size_of_task task fun same => ?_,
        fun peer frame limit same => ?_⟩
      · rw [same] at reads
        cases reads
      · rw [same] at reads
        cases reads
    · exact refl hub
  · exact refl hub

/-- A client changes its link. -/
theorem updateLink
    (hub : Hub) (id : PeerId) {change : Link → Link}
    (alike : ∀ link, (change link).desk.Alike link.desk) :
    Gentle hub (hub.updateLink id change) := by
  have keeps : ∀ other,
      ((hub.updateLink id change).peer other).closed = (hub.peer other).closed ∧
      ((hub.updateLink id change).peer other).turn = (hub.peer other).turn ∧
      ((hub.updateLink id change).peer other).registered =
        (hub.peer other).registered := by
    intro other
    unfold Hub.updateLink
    refine ⟨Hub.peer_updatePeer_keeps hub id other fun peer => ?_,
      Hub.peer_updatePeer_keeps hub id other fun peer => ?_,
      Hub.peer_updatePeer_keeps hub id other fun peer => ?_⟩
    all_goals
      split <;> rfl
  refine
    { refl hub with
      peers := Hub.size_peers_updatePeer hub id _
      peer := keeps
      desk := fun other before isDesk => ?_ }
  obtain ⟨link, connected, rfl⟩ := Socket.desk?_eq_some isDesk
  by_cases same : id = other
  · subst same
    refine ⟨(change link).desk, ?_, alike link⟩
    rw [Hub.peer_updateLink_self hub id connected]
    rfl
  · refine ⟨link.desk, ?_, rfl, rfl, rfl, rfl⟩
    rw [Hub.peer_updateLink_of_ne hub id other change same]
    exact isDesk

theorem noteFed (hub : Hub) (id : PeerId) (octets : Octets) :
    Gentle hub (hub.note (.fed id octets)) :=
  { refl hub with
    news := ⟨[⟨hub.now, .fed id octets⟩], rfl, fun _ member =>
      ⟨id, octets, congrArg Entry.happening (List.mem_singleton.mp member)⟩⟩ }

theorem clientWrites (hub : Hub) (id : PeerId) (octets : Octets) :
    Gentle hub (Play.clientWrites hub id octets) := by
  let noted : Hub := hub.note (.fed id octets)
  have written :
      Gentle noted (noted.updateLink id fun link => link.clientWrites octets) :=
    updateLink noted id fun _ => ⟨rfl, rfl, rfl, rfl⟩
  exact ((noteFed hub id octets).trans written).trans (wakeReader _ id)

theorem letRead (hub : Hub) (id : PeerId) (free : (hub.peer id).turn = {}) :
    Gentle hub (hub.letRead id) := by
  have read : Gentle hub (hub.updateLink id Link.clientReads) := by
    refine updateLink hub id fun link => ?_
    unfold Link.clientReads
    split
    · refine ⟨rfl, rfl, rfl, ?_⟩
      by_cases none : link.outbound.content = [] <;>
        simp [Desk.written, Link.desk, Pipe.clear, none]
    · exact ⟨rfl, rfl, rfl, rfl⟩
  have still :
      ((hub.updateLink id Link.clientReads).peer id).turn.holder = none := by
    rw [(read.peer id).2.1, free]
  unfold Hub.letRead
  split
  · exact refl hub
  · simp only [still]
    split <;> exact read

theorem letSip
    (hub : Hub) (id : PeerId) (count : Nat) (free : (hub.peer id).turn = {}) :
    Gentle hub (hub.letSip id count) := by
  unfold Hub.letSip
  rw [free]
  refine updateLink hub id fun link => ⟨rfl, rfl, rfl, ?_⟩
  simp [Desk.written, Link.desk, Link.clientSips]

theorem dropUnused
    (hub : Hub) (id : PeerId)
    (attended : id < hub.peers.size →
      ∃ task stage, hub.task task = .attend id stage) :
    Gentle hub (hub.dropUnused id) := by
  have same : hub.dropUnused id = hub := by
    unfold Hub.dropUnused
    split
    · rfl
    · rename_i link connected
      obtain ⟨task, stage, isTask⟩ :=
        attended (hub.lt_size_of_link id connected)
      rw [hub.usesSocket_of_attend isTask, Bool.or_true]
      rfl
  rw [same]
  exact refl hub

theorem ring
    (hub : Hub) (later : Instant) (prompt : Prompt hub)
    (still : hub.ready = []) : Gentle hub { hub with now := later }.ring := by
  have moved : Gentle hub { hub with now := later } := { refl hub with }
  refine moved.trans (wakeAll _ fun number member => ?_)
  obtain ⟨⟨alarm, task⟩, isRung, rfl⟩ := List.mem_map.mp member
  have isAlarm := (List.mem_filter.mp (List.mem_mergeSort.mp isRung)).1
  refine ⟨Hub.lt_size_of_mem_alarms _ _ isAlarm, fun id frame limit same => ?_⟩
  have same : hub.task task = .deliver id frame limit .unstarted := same
  -- A delivery that has not begun would be ready.
  have begun := prompt task (by rw [same]; rfl)
  rw [still] at begun
  cases begun

end Gentle

theorem takenSince_of_fed
    {id : PeerId} {news older : List Entry}
    (isFed : ∀ entry ∈ news, ∃ peer octets,
      entry.happening = .fed peer octets) :
    takenSince id (news ++ older) = takenSince id older := by
  induction news with
  | nil => rfl
  | cons entry rest induction =>
      obtain ⟨peer, octets, same⟩ := isFed entry List.mem_cons_self
      rw [List.cons_append, takenSince, same]
      exact induction fun other member =>
        isFed other (List.mem_cons_of_mem entry member)

/-! ### Peers of which nothing is told -/

section

variable {id : PeerId} {chronicle : List Entry}

/-- Before a session is opened nothing is taken since. -/
theorem takenSince_of_untold
    (untold : ∀ entry ∈ chronicle, ¬ entry.happening.Concerns id) :
    takenSince id chronicle = none := by
  induction chronicle with
  | nil => rfl
  | cons entry older induction =>
      have none := induction fun other member =>
        untold other (List.mem_cons_of_mem entry member)
      have isUntold := untold entry List.mem_cons_self
      unfold takenSince
      split
      · rename_i peer same
        rw [same] at isUntold
        exact (if_neg isUntold).trans none
      · rw [none]
        rfl
      · exact none

end

namespace Echoes

variable {before after : Hub}

/-- What clients write and read changes nothing for those to whom something is
to be written. -/
theorem gentle (echoes : Echoes before) (gentle : Gentle before after) :
    Echoes after := by
  obtain ⟨woken, ready, distinct, isWoken⟩ := gentle.ready
  obtain ⟨news, chronicle, isFed⟩ := gentle.news
  have sameTask : ∀ number, after.task number = before.task number := by
    intro number
    rw [Hub.task, gentle.tasks]
    rfl
  refine ⟨echoes.smooth.keep gentle.stopping gentle.watches
    (distinct echoes.smooth.distinct) ?_
    (fun number => .inl (sameTask number)) (fun _ id _ => (gentle.peer id).2.2),
    fun id isPeer => ?_⟩
  · intro number member
    rw [gentle.tasks]
    rw [ready] at member
    rcases List.mem_append.mp member with early | late
    · exact echoes.smooth.inside number early
    · exact (isWoken number late).1
  · rw [gentle.peers] at isPeer
    have echoing := echoes.echoing id isPeer
    obtain ⟨closed, turn, registered⟩ := gentle.peer id
    have silent : ∀ {α : Type} (tells : Happening → List α),
        (∀ id octets, tells (.fed id octets) = []) →
          account tells news = [] := by
      intro _ tells none
      apply account_of_silent
      intro entry member
      obtain ⟨peer, octets, same⟩ := isFed entry member
      rw [same, none]
    have sameTaken :
        takenSince id after.chronicle = takenSince id before.chronicle := by
      rw [chronicle]
      exact takenSince_of_fed isFed
    have sameDue : due id news = [] := silent _ fun _ _ => rfl
    have attended : ∃ number stage, after.task number = .attend id stage := by
      obtain ⟨number, stage, isTask⟩ := echoing.attended
      exact ⟨number, stage, (sameTask number).trans isTask⟩
    refine echoing.keep closed turn (gentle.desk id) attended chronicle
      (silent _ fun _ _ => rfl) ?_ ?_ ?_
    · rw [sameTaken, registered]
      exact echoing.registered
    · rw [envelopesSince, sameTaken, chronicle, due_append, sameDue,
        List.append_nil]
      exact echoing.passedOn
    · have none : callsIn after.task id woken = [] := by
        apply List.flatMap_eq_nil_iff.mpr
        intro number member
        rw [sameTask]
        exact Task.callsTo_eq_nil (isWoken number member).2 id number
      have same : callsIn after.task id before.ready =
          callsIn before.task id before.ready :=
        callsIn_congr fun number _ => by rw [sameTask]
      rw [Hub.callsAhead, ready, callsIn_append, none, same, sameDue]
      rfl

end Echoes

/-! ### Clients that connect -/

namespace Hub

variable (hub : Hub) (room limit : Nat)

theorem peer_wire (id : PeerId) :
    (hub.wire room limit).peer id = if id = hub.peers.size then
    { socket := .link (.connect room limit), attendant := some hub.nextTask }
    else hub.peer id :=
  Hub.peer_addPeer hub id _

theorem size_peers_wire :
    (hub.wire room limit).peers.size = hub.peers.size + 1 :=
  Hub.size_peers_addPeer hub _

theorem task_wire (number : TaskId) :
    (hub.wire room limit).task number =
    if number = hub.tasks.size then .attend hub.peers.size .arriving
      else hub.task number := by
  rw [wire, Hub.task_spawn]
  rfl

theorem size_tasks_wire :
    (hub.wire room limit).tasks.size = hub.tasks.size + 1 :=
  Hub.size_tasks_spawn _ _

theorem ready_wire :
    (hub.wire room limit).ready = hub.ready ++ [hub.tasks.size] :=
  Hub.ready_spawn _ _

theorem chronicle_wire : (hub.wire room limit).chronicle = hub.chronicle := rfl

end Hub

section

variable {hub : Hub} {id : PeerId} (room limit : Nat)

theorem Smooth.wire (smooth : Smooth hub) : Smooth (hub.wire room limit) where
  goesOn := smooth.goesOn
  unwatched := smooth.unwatched
  distinct := by
    rw [Hub.ready_wire]
    refine List.nodup_append.mpr ⟨smooth.distinct, List.nodup_singleton _, ?_⟩
    rintro number member _ isNew rfl
    rw [List.mem_singleton.mp isNew] at member
    exact Nat.lt_irrefl _ (smooth.inside _ member)
  inside number member := by
    rw [Hub.ready_wire] at member
    rw [Hub.size_tasks_wire]
    rcases List.mem_append.mp member with early | late
    · exact Nat.lt_succ_of_lt (smooth.inside number early)
    · rw [List.mem_singleton.mp late]
      exact Nat.lt_succ_self _
  plain number := by
    rw [Hub.task_wire]
    split
    · exact .arriving _
    · exact smooth.plain number
  unregistered number id isTask := by
    rw [Hub.peer_wire]
    split
    · rfl
    · rename_i different
      rw [Hub.task_wire] at isTask
      split at isTask
      · cases isTask
        exact absurd rfl different
      · exact smooth.unregistered number id isTask

theorem callsAhead_wire (smooth : Smooth hub) :
    (hub.wire room limit).callsAhead id = hub.callsAhead id := by
  have none : callsIn (hub.wire room limit).task id [hub.tasks.size] = [] := by
    rw [callsIn, List.flatMap_singleton, Hub.task_wire, if_pos rfl]
    rfl
  rw [Hub.callsAhead, Hub.ready_wire, callsIn_append, none, List.append_nil]
  apply callsIn_congr
  intro number member
  rw [Hub.task_wire, if_neg (Nat.ne_of_lt (smooth.inside number member))]

theorem Echoing.wire (echoing : Echoing hub id) (smooth : Smooth hub)
    (inside : id < hub.peers.size) : Echoing (hub.wire room limit) id := by
  have same : (hub.wire room limit).peer id = hub.peer id := by
    rw [Hub.peer_wire, if_neg (Nat.ne_of_lt inside)]
  refine echoing.still (by rw [same]; exact ⟨rfl, rfl, rfl, rfl⟩) ?_
    (Hub.chronicle_wire hub room limit) (callsAhead_wire room limit smooth)
  obtain ⟨number, stage, isTask⟩ := echoing.attended
  have below : number < hub.tasks.size :=
    hub.lt_size_of_task number (by rw [isTask]; rintro ⟨⟩)
  refine ⟨number, stage, ?_⟩
  rw [Hub.task_wire, if_neg (Nat.ne_of_lt below)]
  exact isTask

/-- Nothing is due to a client that connects. -/
theorem echoing_wire (smooth : Smooth hub) (housed : Housed hub) :
    Echoing (hub.wire room limit) hub.peers.size := by
  have untold :
      ∀ entry ∈ hub.chronicle, ¬ entry.happening.Concerns hub.peers.size :=
    fun entry member concerns =>
      Nat.lt_irrefl _ (housed.told entry member _ concerns)
  have uncalled : calls hub.peers.size hub.chronicle = [] := by
    refine account_of_untold (fun happening other => ?_) untold
    cases happening with
    | asked task peer request => exact if_neg other
    | _ => rfl
  have undue : due hub.peers.size hub.chronicle = [] := by
    refine account_of_untold (fun happening other => ?_) untold
    cases happening with
    | broadcast first recipients frame limit => exact if_neg other
    | _ => rfl
  have untaken := takenSince_of_untold untold
  have none : hub.callsAhead hub.peers.size = [] := by
    apply List.flatMap_eq_nil_iff.mpr
    intro number member
    exact Task.callsTo_of_not_regards
      (fun regards => Nat.lt_irrefl _ (housed.tasks number _ regards)) number
  have self := (Hub.peer_wire hub room limit hub.peers.size).trans (if_pos rfl)
  refine ⟨?_, ?_, ⟨(Link.connect room limit).desk, ?_, ⟨rfl, rfl, rfl⟩, ?_⟩,
    ⟨hub.tasks.size, .arriving, ?_⟩, ?_, ?_, ?_⟩
  · rw [self]
  · rw [self]
  · rw [self]
    rfl
  · rw [Hub.chronicle_wire, uncalled]
    rfl
  · rw [Hub.task_wire, if_pos rfl]
  · rw [Hub.chronicle_wire, untaken, self]
    rfl
  · rw [Hub.chronicle_wire, undue, envelopesSince, untaken]
    rfl
  · rw [Hub.chronicle_wire, undue, uncalled, callsAhead_wire room limit smooth,
      none]
    rfl

theorem Echoes.wire (echoes : Echoes hub) (housed : Housed hub) :
    Echoes (hub.wire room limit) := by
  refine ⟨echoes.smooth.wire room limit, fun id isPeer => ?_⟩
  rw [Hub.size_peers_wire] at isPeer
  rcases Nat.lt_succ_iff_lt_or_eq.mp isPeer with isOld | isNew
  · exact (echoes.echoing id isOld).wire room limit echoes.smooth isOld
  · rw [isNew]
    exact echoing_wire room limit echoes.smooth housed

end

end BroadcastHub.Server
