import BroadcastHub.Proofs.Server.Requests

/-!
# Replies in the order of their requests

`Replies` says how all heartbeat requests of a session stand that have begun: at
most one of them has the slot, it has it for no longer than its delay and its
write may take, and the replies that were handed to the socket are in the order
in which the requests began.  Every turnover preserves it, with the requests
that begin in it.
-/

namespace BroadcastHub.Server

open Scenario

/-- How long a reply has had the slot, for which its task took it at an
instant. -/
inductive Held
    (hub : Hub) (task : TaskId) (id : PeerId) (payload : Octets)
    (since : Instant) : Ponging → Prop
  | delaying
      {ends : Alarm} (untold : deeds task hub.chronicle = [])
      (soon : ends.due ≤ since + hub.timing.longestDelay.nanos)
      (inTime : hub.now ≤ ends.due) (whole : Span.perMillisecond ∣ ends.due) :
      Held hub task id payload since (.delaying ends)
  | writing
      {writing : Writing} {called : Instant} (early : since ≤ called)
      (soon : called ≤ since + hub.timing.longestDelay.nanos)
      (sending : Sending hub called task id (.pong payload)
        hub.timing.pongWrite) :
      Held hub task id payload since (.writing writing)

/-- What was handed to the socket of a session for some requests. -/
def handed (pings : List Ping) (id : PeerId) (chronicle : List Entry) :
    List Call :=
  (calls id chronicle).filter fun call => (pings.map Ping.task).contains call.1

/-- How the heartbeat requests of a session stand that have begun. -/
structure Replies (pings : List Ping) (hub : Hub) (id : PeerId) : Prop where
  known : ∀ ping ∈ pings, ping.task < hub.tasks.size ∧
    ((∃ payload stage, stage ≠ .unstarted ∧
      hub.task ping.task = .pong (some id) payload stage) ∨
      (hub.task ping.task).isFinished = true)
  times : ∀ ping ∈ pings, ping.time ≤ hub.now ∧ Span.perMillisecond ∣ ping.time
  distinct : (pings.map Ping.task).Nodup
  holder : ∀ task payload stage, stage ≠ .unstarted →
    hub.task task = .pong (some id) payload stage →
      (hub.peer id).ponging = true ∧
      ∃ since, ⟨task, payload, since⟩ ∈ pings ∧
      Held hub task id payload since stage
  sole : ∀ first second payload other, hub.Answers id first payload →
    hub.Answers id second other → first = second
  taken : (hub.peer id).ponging = true →
    ∃ task payload, hub.Answers id task payload
  /-- The replies are handed over in the order of their requests, and the one
  that has the slot comes after those that were handed over before. -/
  order :
    ∃ answered waiting, handed pings id hub.chronicle = answered.map Ping.call ∧
      (answered ++ waiting).Sublist pings ∧
      ∀ task payload, hub.Answers id task payload →
        (hub.task task).operationAt id = none →
        ∃ since, waiting = [⟨task, payload, since⟩]

/-- Nothing is told of a reply that goes on and is delayed. -/
theorem deeds_goOn_of_delaying
    {hub : Hub} {task : TaskId} {id : PeerId} {payload : Octets}
    {stage : Ponging} {ends : Alarm} (housed : Housed hub)
    (isTask : hub.task task = .pong (some id) payload stage)
    (delays : (hub.goOn task).task task =
      .pong (some id) payload (.delaying ends)) :
    deeds task (hub.goOn task).chronicle = deeds task hub.chronicle := by
  have idle : ((hub.goOn task).task task).postAt id = none := by
    rw [delays]
    rfl
  cases WriteTurn.goOn (fun peer writes =>
      housed.tasks task peer (Task.regards_of_writes writes)) id with
  | aside own aside => exact aside.deeds_of_goOn (by rw [isTask]; rfl)
  | @frame frame span stage told station written sends within own step
      stationAfter chronicle ended posts =>
      exfalso
      rw [posts, if_pos rfl] at idle
      cases written with
      | finished result =>
          have finished := ended result rfl
          rw [delays] at finished
          cases finished
      | pending next =>
          obtain ⟨begun, -⟩ := step.pending
          cases next with
          | unstarted => exact begun rfl
          | _ => cases idle
  | @close current next told station earlier asks own step stationAfter
      chronicle elsewhere ended posts =>
      exfalso
      rw [isTask] at asks own
      cases current with
      | none => rcases asks rfl with same | ⟨-, alarm, same⟩ <;> cases same
      | some closing =>
          cases stage with
          | writing writing =>
              have same : writing.post? (.pong payload) = some closing.post :=
                (if_pos rfl).symm.trans own
              cases writing <;> cases same
          | _ => cases own

namespace Held

variable {before after hub : Hub} {task : TaskId} {id : PeerId}
  {payload : Octets} {since : Instant} {stage : Ponging}

/-- A reply that does not go on keeps the slot no longer than it may. -/
theorem turn
    {outsider : Outsider} (housed : Housed before)
    (turnover : Turnover outsider before after)
    (isTask : before.task task = .pong (some id) payload stage)
    (kept : after.task task = .pong (some id) payload stage)
    (held : Held before task id payload since stage) :
    Held after task id payload since stage := by
  have below : task < before.tasks.size := by
    apply Hub.lt_size_of_task
    rw [isTask]
    rintro ⟨⟩
  have timing : after.timing = before.timing :=
    congrArg Configuration.timing turnover.configuration_eq
  cases held with
  | @delaying ends untold soon inTime whole =>
      rw [← timing] at soon
      cases turnover.task below with
      | own =>
          refine .delaying ?_ soon ((Course.goOn before task).now.symm ▸ inTime)
            whole
          rw [deeds_goOn_of_delaying housed isTask kept]
          exact untold
      | kept other =>
          exact .delaying (other.deeds.trans untold) soon
            (other.now.symm ▸ inTime) whole
      | @tick later forward passes =>
          have waits : (ends, task) ∈ before.alarms := by
            refine Hub.mem_alarms before task below ?_
            rw [isTask]
            exact List.mem_cons_self
          have bound := passes ends task waits
          rw [Instant.tick_of_whole whole, Nat.max_eq_right inTime] at bound
          obtain ⟨ready, same, -⟩ := Hub.ring_eq { before with now := later }
          rw [same] at soon ⊢
          exact .delaying untold soon bound whole
  | writing early soon sending =>
      rw [← timing] at soon sending
      exact .writing early soon (sending.turn housed turnover)

theorem bound
    (held : Held hub task id payload since stage)
    (isTask : hub.task task = .pong (some id) payload stage) :
    hub.now ≤ (Instant.after (since + hub.timing.longestDelay.nanos)
      hub.timing.pongWrite).tick := by
  cases held with
  | delaying untold soon inTime whole =>
      exact Nat.le_trans (Nat.le_trans inTime soon)
        (Nat.le_trans (Instant.le_after _ _) (Instant.le_tick _))
  | writing early soon sending =>
      rcases sending.state with
        ⟨stage, -, -, -, -, inTime, -⟩ | ⟨result, finished, -⟩
      · exact Nat.le_trans inTime
          (Instant.tick_mono (Instant.after_mono soon _))
      · rw [isTask] at finished
        cases finished

end Held

theorem not_mem_calls_of_untold
    {task : TaskId} {id : PeerId} {chronicle : List Entry}
    (untold : deeds task chronicle = []) {call : Call}
    (member : call ∈ calls id chronicle) : call.1 ≠ task := by
  rintro rfl
  obtain ⟨entry, isEntry, tells⟩ := (mem_account _).mp member
  have isBy : entry.happening.isBy call.1 = true := by
    cases same : entry.happening <;> rw [same] at tells <;> try cases tells
    rename_i asker peer request
    have tells : call ∈ if peer = id then [(asker, request)] else [] := tells
    split at tells
    · rw [List.mem_singleton.mp tells]
      simp [Happening.isBy]
    · cases tells
  have told := mem_deeds.mpr ⟨isEntry, isBy⟩
  rw [untold] at told
  cases told

namespace Replies

variable {before after hub : Hub} {id : PeerId} {pings : List Ping}
  {task : TaskId} {payload : Octets} {stage : Ponging}

theorem start
    (configuration : Configuration) (chance : Nat → Nat) (id : PeerId) :
    Replies [] { Hub.start configuration with chance } id := by
  have none : ∀ task,
      ({ Hub.start configuration with chance } : Hub).task task = default :=
    fun task => Hub.task_of_size_le { Hub.start configuration with chance } task
      (Nat.zero_le task)
  have noAnswers : ∀ task payload,
      ¬ ({ Hub.start configuration with chance } : Hub).Answers id task
        payload := by
    rintro task payload ⟨stage, -, isTask⟩
    rw [none task] at isTask
    cases isTask
  refine ⟨by rintro _ ⟨⟩, by rintro _ ⟨⟩, List.nodup_nil,
    fun task payload stage begun isTask => ?_,
    fun first _ payload _ answers => absurd answers (noAnswers first payload),
    fun taken => ?_, [], [], rfl, List.Sublist.refl _,
    fun task payload answers => absurd answers (noAnswers _ _)⟩
  · exact absurd ⟨stage, begun, isTask⟩ (noAnswers task payload)
  · have noPeer :
      ({ Hub.start configuration with chance } : Hub).peer id = default :=
      Hub.peer_of_size_le _ id (Nat.zero_le id)
    rw [noPeer] at taken
    cases taken

/-- What leaves the requests of a session alone keeps them as they stand. -/
theorem beside
    {outsider : Outsider} (housed : Housed before)
    (replies : Replies pings before id)
    (turnover : Turnover outsider before after)
    (beside : Beside id before after) : Replies pings after id := by
  have answers : ∀ {task payload}, after.Answers id task payload →
      before.Answers id task payload := by
    rintro task payload ⟨stage, begun, isTask⟩
    exact ⟨stage, begun, beside.back task payload stage isTask begun⟩
  refine
    { known := fun ping member => ?_
      times := fun ping member => ?_
      distinct := replies.distinct
      holder := fun task payload stage begun isTask => ?_
      sole := fun first second payload other one two =>
        replies.sole first second payload other (answers one) (answers two)
      taken := fun taken => ?_
      order := ?_ }
  · obtain ⟨below, stands⟩ := replies.known ping member
    refine ⟨Nat.lt_of_lt_of_le below beside.tasks_le,
      stands.imp ?_ (beside.finished ping.task below)⟩
    rintro ⟨payload, stage, begun, isTask⟩
    exact ⟨payload, stage, begun, beside.keeps _ _ _ isTask⟩
  · obtain ⟨early, whole⟩ := replies.times ping member
    exact ⟨Nat.le_trans early turnover.now_le, whole⟩
  · have wasTask := beside.back task payload stage isTask begun
    obtain ⟨taken, since, member, held⟩ :=
      replies.holder task payload stage begun wasTask
    exact ⟨beside.slot.trans taken, since, member,
      held.turn housed turnover wasTask isTask⟩
  · obtain ⟨task, payload, stage, begun, isTask⟩ :=
      replies.taken (beside.slot.symm.trans taken)
    exact ⟨task, payload, stage, begun, beside.keeps _ _ _ isTask⟩
  · obtain ⟨answered, waiting, isHanded, inOrder, isWaiting⟩ := replies.order
    refine ⟨answered, waiting, ?_, inOrder,
      fun task payload replying idle => ?_⟩
    · obtain ⟨news, grown, strange⟩ := beside.calls
      have none :
          (news.filter fun call => (pings.map Ping.task).contains call.1) =
            [] := by
        refine List.filter_eq_nil_iff.mpr fun call member contained => ?_
        obtain ⟨ping, isPing, sameTask⟩ :=
          List.mem_map.mp (List.contains_iff_mem.mp contained)
        obtain ⟨unfinished, noPong⟩ := strange call member
        rw [← sameTask] at unfinished noPong
        rcases (replies.known ping isPing).2 with
          ⟨payload, stage, -, isTask⟩ | finished
        · exact noPong payload stage isTask
        · rw [finished] at unfinished
          cases unfinished
      rw [handed, grown, List.filter_append, none, List.append_nil]
      exact isHanded
    · refine isWaiting task payload (answers replying) ?_
      obtain ⟨stage, begun, isTask⟩ := replying
      rw [beside.back task payload stage isTask begun, ← isTask]
      exact idle

/-! ### The turn of a request -/

/-- The requests after the turn of one of them, which may have begun in it. -/
inductive Grown
    (pings : List Ping) (hub : Hub) (task : TaskId) (payload : Octets) :
    Ponging → List Ping → Prop
  | begins :
      Grown pings hub task payload .unstarted
        (pings ++ [⟨task, payload, hub.now⟩])
  | goesOn {stage : Ponging} (begun : stage ≠ .unstarted) :
      Grown pings hub task payload stage pings

theorem grown (isTask : hub.task task = .pong (some id) payload stage) :
    Grown pings hub task payload stage
      (pings ++ Hub.begun id hub (hub.goOn task)) := by
  by_cases fresh : stage = .unstarted
  · subst fresh
    rw [Hub.begun_goOn_pong isTask]
    exact .begins
  · have below : task < hub.tasks.size := by
      apply hub.lt_size_of_task task
      rw [isTask]
      rintro ⟨⟩
    rw [Hub.begun_of_kept, List.append_nil]
    · exact .goesOn fresh
    · intro other data isOther
      have different : other ≠ task := by
        rintro rfl
        cases isTask.symm.trans isOther
        exact fresh rfl
      have inside : other < hub.tasks.size := by
        apply hub.lt_size_of_task other
        rw [isOther]
        rintro ⟨⟩
      rw [(Course.goOn hub task).task other inside
        fun running => different (Option.some.inj running).symm, isOther]
      rfl

section

variable {all : List Ping}

theorem not_mem_of_unstarted
    (replies : Replies pings hub id)
    (isTask : hub.task task = .pong (some id) payload .unstarted) :
    task ∉ pings.map Ping.task := by
  intro member
  obtain ⟨ping, isPing, rfl⟩ := List.mem_map.mp member
  rcases (replies.known ping isPing).2 with
    ⟨data, stage, begun, same⟩ | finished
  · cases isTask.symm.trans same
    exact begun rfl
  · rw [isTask] at finished
    cases finished

theorem Grown.sublist (grown : Grown pings hub task payload stage all) :
    pings.Sublist all := by
  cases grown with
  | begins => exact List.sublist_append_left _ _
  | goesOn begun => exact List.Sublist.refl _

/-- Who is known after the turn of a request. -/
theorem known_goOn
    (replies : Replies pings hub id)
    (isTask : hub.task task = .pong (some id) payload stage)
    (grown : Grown pings hub task payload stage all)
    (stands : (∃ data next, next ≠ .unstarted ∧
      (hub.goOn task).task task = .pong (some id) data next) ∨
      ((hub.goOn task).task task).isFinished = true) :
    ∀ ping ∈ all, ping.task < (hub.goOn task).tasks.size ∧
      ((∃ data stage, stage ≠ .unstarted ∧
          (hub.goOn task).task ping.task = .pong (some id) data stage) ∨
        ((hub.goOn task).task ping.task).isFinished = true) := by
  have course := Course.goOn hub task
  have below : task < hub.tasks.size := by
    apply hub.lt_size_of_task task
    rw [isTask]
    rintro ⟨⟩
  have older : ∀ ping ∈ pings, ping.task < (hub.goOn task).tasks.size ∧
      ((∃ data stage, stage ≠ .unstarted ∧
          (hub.goOn task).task ping.task = .pong (some id) data stage) ∨
        ((hub.goOn task).task ping.task).isFinished = true) := by
    intro ping member
    obtain ⟨inside, before⟩ := replies.known ping member
    refine ⟨Nat.lt_of_lt_of_le inside course.tasks_le, ?_⟩
    by_cases own : task = ping.task
    · rw [← own]
      exact stands
    · rw [course.task ping.task inside fun running =>
        own (Option.some.inj running)]
      exact before
  cases grown with
  | begins =>
      intro ping member
      rcases List.mem_append.mp member with old | new
      · exact older ping old
      · rw [List.mem_singleton.mp new]
        exact ⟨Nat.lt_of_lt_of_le below course.tasks_le, stands⟩
  | goesOn begun => exact older

theorem times_goOn
    (replies : Replies pings hub id) (whole : Span.perMillisecond ∣ hub.now)
    (grown : Grown pings hub task payload stage all) :
    ∀ ping ∈ all, ping.time ≤ (hub.goOn task).now ∧
      Span.perMillisecond ∣ ping.time := by
  rw [(Course.goOn hub task).now]
  cases grown with
  | begins =>
      intro ping member
      rcases List.mem_append.mp member with old | new
      · exact replies.times ping old
      · rw [List.mem_singleton.mp new]
        exact ⟨Nat.le_refl _, whole⟩
  | goesOn begun => exact replies.times

theorem distinct_goOn
    (replies : Replies pings hub id)
    (isTask : hub.task task = .pong (some id) payload stage)
    (grown : Grown pings hub task payload stage all) :
    (all.map Ping.task).Nodup := by
  cases grown with
  | begins =>
      rw [List.map_append]
      refine List.nodup_append.mpr ⟨replies.distinct, by simp, ?_⟩
      rintro first member _ isNew same
      rw [List.map_singleton, List.mem_singleton] at isNew
      rw [same, isNew] at member
      exact replies.not_mem_of_unstarted isTask member
  | goesOn begun => exact replies.distinct

theorem handed_grown (unheard : Unheard hub)
    (isTask : hub.task task = .pong (some id) payload stage)
    (grown : Grown pings hub task payload stage all) :
    handed all id hub.chronicle = handed pings id hub.chronicle := by
  cases grown with
  | begins =>
      have untold : deeds task hub.chronicle = [] :=
        unheard task (.inl (by rw [isTask]; rfl))
      refine List.filter_congr fun call member => ?_
      have other := not_mem_calls_of_untold untold member
      simp [List.map_append, other]
  | goesOn begun => rfl

/-- How long a reply has had the slot after its turn. -/
theorem held_goOn
    {outsider : Outsider} {next : Ponging} (housed : Housed hub)
    (unheard : Unheard hub) (whole : Span.perMillisecond ∣ hub.now)
    (turnover : Turnover outsider hub (hub.goOn task))
    (replies : Replies pings hub id)
    (isTask : hub.task task = .pong (some id) payload stage)
    (grown : Grown pings hub task payload stage all)
    (how : PongStage hub.now hub.timing stage next)
    (isNext : (hub.goOn task).task task = .pong (some id) payload next) :
    ∃ since, ⟨task, payload, since⟩ ∈ all ∧
      Held (hub.goOn task) task id payload since next := by
  have course := Course.goOn hub task
  have timing : (hub.goOn task).timing = hub.timing :=
    congrArg Configuration.timing course.configuration
  -- A write that is called for now has its limit from now on.
  have calls :
      ∀ {writing since}, writing ≠ .unstarted → next = .writing writing →
      hub.posts id task = none → deeds task hub.chronicle = [] →
      since ≤ hub.now →
      hub.now ≤ since + hub.timing.longestDelay.nanos →
      Held (hub.goOn task) task id payload since next := by
    rintro writing since begun rfl idle untold early soon
    have sends : hub.Sends task id (.pong payload) hub.timing.pongWrite :=
      ⟨by rw [isTask]; rfl, by rw [isTask]; rfl, by rw [isTask]; rfl⟩
    have notYet : ¬ hub.HasCalled id task := by
      rintro (called | told)
      · rw [idle] at called
        cases called
      · exact told untold
    have hasCalled : (hub.goOn task).HasCalled id task := by
      refine .inl ?_
      have post :
          (hub.goOn task).posts id task = writing.post? (.pong payload) := by
        rw [Hub.posts, isNext]
        exact if_pos rfl
      rw [post]
      cases writing with
      | unstarted => exact absurd rfl begun
      | _ => rfl
    refine .writing early (timing.symm ▸ soon) ?_
    rw [timing]
    exact .ofCall housed turnover sends notYet hasCalled
  cases grown with
  | begins =>
      refine ⟨hub.now, List.mem_append_right _ List.mem_cons_self, ?_⟩
      have untold : deeds task hub.chronicle = [] :=
        unheard task (.inl (by rw [isTask]; rfl))
      cases how with
      | stays same early => cases same
      | delays fresh late soon isWhole =>
          refine .delaying ?_ (timing.symm ▸ soon) ?_ (isWhole whole)
          · rw [deeds_goOn_of_delaying housed isTask isNext]
            exact untold
          · rw [course.now]
            exact Nat.le_of_lt late
      | writes begun rung =>
          exact calls begun rfl (by rw [Hub.posts, isTask]; rfl) untold
            (Nat.le_refl _) (Nat.le_add_right _ _)
  | goesOn begun =>
      obtain ⟨-, since, member, held⟩ :=
        replies.holder task payload stage begun isTask
      refine ⟨since, member, ?_⟩
      cases how with
      | stays same early =>
          subst same
          exact held.turn housed turnover isTask isNext
      | delays fresh late soon isWhole => exact absurd fresh begun
      | writes begunWriting rung =>
          cases held with
          | delaying untold soon inTime wholeEnds =>
              have now : hub.now = _ := Nat.le_antisymm inTime (rung _ rfl)
              refine calls begunWriting rfl (by rw [Hub.posts, isTask]; rfl)
                untold (replies.times _ member).1 ?_
              rw [now]
              exact soon
          | writing early soon sending =>
              rw [← timing] at soon sending
              exact .writing early soon (sending.turn housed turnover)

/-- A request that finds no session, or the slot taken, leaves the others as
they stand. -/
theorem lost
    {outsider : Outsider} (housed : Housed hub) (unheard : Unheard hub)
    (whole : Span.perMillisecond ∣ hub.now)
    (turnover : Turnover outsider hub (hub.goOn task))
    (replies : Replies pings hub id)
    (isTask : hub.task task = .pong (some id) payload .unstarted)
    (grown : Grown pings hub task payload .unstarted all)
    (ended : ((hub.goOn task).task task).isFinished = true)
    (silent : (hub.goOn task).chronicle = hub.chronicle)
    (keeps : ((hub.goOn task).peer id).ponging = (hub.peer id).ponging) :
    Replies all (hub.goOn task) id := by
  have others : ∀ {other data stage}, stage ≠ .unstarted →
      (hub.goOn task).task other = .pong (some id) data stage →
      other ≠ task ∧ hub.task other = .pong (some id) data stage := by
    intro other data stage begun isOther
    have different : other ≠ task := by
      rintro rfl
      rw [isOther] at ended
      cases ended
    exact ⟨different, Hub.pong_of_goOn different isOther begun⟩
  have answers : ∀ {other data}, (hub.goOn task).Answers id other data →
      hub.Answers id other data := by
    rintro other data ⟨stage, begun, isOther⟩
    exact ⟨stage, begun, (others begun isOther).2⟩
  refine
    { known := replies.known_goOn isTask grown (.inr ended)
      times := replies.times_goOn whole grown
      distinct := replies.distinct_goOn isTask grown
      holder := fun other data stage begun isOther => ?_
      sole := fun first second data more one two =>
        replies.sole first second data more (answers one) (answers two)
      taken := fun taken => ?_
      order := ?_ }
  · obtain ⟨-, wasOther⟩ := others begun isOther
    obtain ⟨taken, since, member, held⟩ :=
      replies.holder other data stage begun wasOther
    exact ⟨keeps.trans taken, since, grown.sublist.subset member,
      held.turn housed turnover wasOther isOther⟩
  · obtain ⟨other, data, stage, begun, isOther⟩ :=
      replies.taken (keeps.symm.trans taken)
    have different : other ≠ task := by
      rintro rfl
      cases isTask.symm.trans isOther
      exact begun rfl
    have inside : other < hub.tasks.size := by
      apply hub.lt_size_of_task other
      rw [isOther]
      rintro ⟨⟩
    refine ⟨other, data, stage, begun, ?_⟩
    rw [(Course.goOn hub task).task other inside
      fun running => different (Option.some.inj running).symm, isOther]
  · obtain ⟨answered, waiting, isHanded, inOrder, isWaiting⟩ := replies.order
    refine ⟨answered, waiting, ?_, inOrder.trans grown.sublist,
      fun other data replying idle => ?_⟩
    · rw [silent, handed_grown unheard isTask grown]
      exact isHanded
    · refine isWaiting other data (answers replying) ?_
      obtain ⟨stage, begun, isOther⟩ := replying
      rw [(others begun isOther).2, ← isOther]
      exact idle

/-- A reply that is handed over in its turn is the last one so far, and
otherwise it is still the one that waits. -/
theorem order_goOn
    (housed : Housed hub) (unheard : Unheard hub)
    (replies : Replies pings hub id)
    (isTask : hub.task task = .pong (some id) payload stage)
    (grown : Grown pings hub task payload stage all)
    (same : ∀ data, (hub.goOn task).Answers id task data → data = payload) :
    ∃ answered waiting, handed all id (hub.goOn task).chronicle =
      answered.map Ping.call ∧
      (answered ++ waiting).Sublist all ∧
      ∀ data, (hub.goOn task).Answers id task data →
        ((hub.goOn task).task task).operationAt id = none →
          ∃ since, waiting = [⟨task, data, since⟩] := by
  obtain ⟨answered, waiting, isHanded, inOrder, isWaiting⟩ := replies.order
  rw [← handed_grown unheard isTask grown] at isHanded
  have earlier : answered.Sublist pings :=
    (List.sublist_append_left _ _).trans inOrder
  have unfinished : ∀ {data}, (hub.goOn task).Answers id task data →
      ¬ ((hub.goOn task).task task).isFinished = true := by
    rintro data ⟨next, -, isNext⟩ finished
    rw [isNext] at finished
    cases finished
  cases (WriteTurn.goOn (fun peer writes =>
      housed.tasks task peer (Task.regards_of_writes writes)) id).asks with
  | silent silent idle =>
      -- Nothing has been handed over, so a reply that has the slot still waits.
      have isHandedAfter :
          handed all id (hub.goOn task).chronicle = answered.map Ping.call := by
        rw [handed, silent]
        exact isHanded
      cases grown with
      | begins =>
          refine ⟨answered, [⟨task, payload, hub.now⟩], isHandedAfter,
            earlier.append_right _, ?_⟩
          intro data answers _
          exact ⟨hub.now, by rw [same data answers]⟩
      | goesOn begun =>
          refine ⟨answered, waiting, isHandedAfter, inOrder,
            fun data answers isIdle => ?_⟩
          rw [same data answers]
          exact isWaiting task payload ⟨stage, begun, isTask⟩
            ((idle isIdle).resolve_right (unfinished answers))
  | asks request asked notFinished sends idle busy =>
      have isRequest : request = .frame (.pong payload) :=
        sends _ (by rw [isTask]; rfl)
      subst isRequest
      -- The reply has been handed over just now, so none waits behind those
      -- that have been.
      have noneWaits : ∀ data, (hub.goOn task).Answers id task data →
          ((hub.goOn task).task task).operationAt id = none →
            ∃ since, ([] : List Ping) = [⟨task, data, since⟩] :=
        fun data answers isIdle => absurd (busy isIdle) (unfinished answers)
      have isHandedAfter : ∀ since, (⟨task, payload, since⟩ : Ping) ∈ all →
          handed all id (hub.goOn task).chronicle =
            (answered ++ [(⟨task, payload, since⟩ : Ping)]).map Ping.call := by
        intro since member
        have contained : (all.map Ping.task).contains task = true :=
          List.contains_iff_mem.mpr (List.mem_map.mpr ⟨_, member, rfl⟩)
        rw [handed, asked, List.filter_append, List.map_append, ← isHanded]
        simp only [List.filter_cons, contained, if_true, List.filter_nil]
        rfl
      cases grown with
      | begins =>
          refine ⟨answered ++ [⟨task, payload, hub.now⟩], [],
            isHandedAfter hub.now ?_, ?_, noneWaits⟩
          · exact List.mem_append_right _ List.mem_cons_self
          · rw [List.append_nil]
            exact earlier.append_right _
      | goesOn begun =>
          obtain ⟨since, isSince⟩ :=
            isWaiting task payload ⟨stage, begun, isTask⟩ idle
          subst isSince
          refine ⟨answered ++ [⟨task, payload, since⟩], [],
            isHandedAfter since ?_, ?_, noneWaits⟩
          · exact inOrder.subset (List.mem_append_right _ List.mem_cons_self)
          · rw [List.append_nil]
            exact inOrder

/-- A reply that has the slot keeps it or gives it back. -/
theorem replied
    {outsider : Outsider} (housed : Housed hub) (unheard : Unheard hub)
    (whole : Span.perMillisecond ∣ hub.now)
    (turnover : Turnover outsider hub (hub.goOn task))
    (replies : Replies pings hub id)
    (isTask : hub.task task = .pong (some id) payload stage)
    (grown : Grown pings hub task payload stage all)
    (alone : ∀ other data, hub.Answers id other data → other = task)
    (reply : ReplyTurn hub.now hub.timing true task id payload stage
      (hub.goOn task)) :
    Replies all (hub.goOn task) id := by
  have noOther : ∀ {other data}, (hub.goOn task).Answers id other data →
      other = task := by
    rintro other data ⟨next, begun, isOther⟩
    by_cases own : other = task
    · exact own
    · exact alone other data ⟨next, begun, Hub.pong_of_goOn own isOther begun⟩
  have stands : (∃ data next, next ≠ .unstarted ∧
      (hub.goOn task).task task = .pong (some id) data next) ∨
      ((hub.goOn task).task task).isFinished = true := by
    cases reply with
    | goesOn isNext how keeps =>
        exact .inl ⟨payload, _, by cases how <;> rintro ⟨⟩, isNext⟩
    | concluded attempted ended frees =>
        rw [ended]
        exact .inr rfl
  have same : ∀ data, (hub.goOn task).Answers id task data →
      data = payload := by
    rintro data ⟨next, -, isNext⟩
    cases reply with
    | goesOn isPong how keeps =>
        cases isPong.symm.trans isNext
        rfl
    | concluded attempted ended frees => cases ended.symm.trans isNext
  obtain ⟨answered, waiting, isHanded, inOrder, isWaiting⟩ :=
    replies.order_goOn housed unheard isTask grown same
  refine
    { known := replies.known_goOn isTask grown stands
      times := replies.times_goOn whole grown
      distinct := replies.distinct_goOn isTask grown
      holder := fun other data next begun isOther => ?_
      sole :=
    fun first second data more one two => (noOther one).trans (noOther two).symm
      taken := fun taken => ?_
      order :=
    ⟨answered, waiting, isHanded, inOrder, fun other data answers idle => ?_⟩ }
  · have answers : (hub.goOn task).Answers id other data :=
      ⟨next, begun, isOther⟩
    have own := noOther answers
    subst own
    cases reply with
    | goesOn isNext how keeps =>
        cases isNext.symm.trans isOther
        exact ⟨keeps, replies.held_goOn housed unheard whole turnover isTask
          grown how isNext⟩
    | concluded attempted ended frees => cases ended.symm.trans isOther
  · cases reply with
    | goesOn isNext how keeps =>
        exact ⟨task, payload, _, by cases how <;> rintro ⟨⟩, isNext⟩
    | concluded attempted ended frees =>
        rw [frees] at taken
        cases taken
  · have own := noOther answers
    subst own
    exact isWaiting data answers idle

/-- The turn of a request. -/
theorem goOn
    {outsider : Outsider} (housed : Housed hub) (unheard : Unheard hub)
    (whole : Span.perMillisecond ∣ hub.now)
    (turnover : Turnover outsider hub (hub.goOn task))
    (replies : Replies pings hub id)
    (isTask : hub.task task = .pong (some id) payload stage) :
    Replies (pings ++ Hub.begun id hub (hub.goOn task)) (hub.goOn task) id := by
  have isGrown : Grown pings hub task payload stage _ := grown isTask
  have inside : id < hub.peers.size :=
    housed.tasks task id (Task.regards_of_writes (by rw [isTask]; rfl))
  cases Hub.pongTurn inside isTask with
  | unknown absent ended silent keeps =>
      exact replies.lost housed unheard whole turnover isTask isGrown
        (by rw [ended]; rfl) silent keeps
  | coalesced present taken ended silent keeps =>
      exact replies.lost housed unheard whole turnover isTask isGrown
        (by rw [ended]; rfl) silent (keeps.trans taken.symm)
  | takes present free reply =>
      refine replies.replied housed unheard whole turnover isTask
        isGrown ?_ reply
      rintro other data ⟨next, begun, isOther⟩
      have taken := (replies.holder other data next begun isOther).1
      rw [free] at taken
      cases taken
  | replies begun reply =>
      have taken := (replies.holder task payload stage begun isTask).1
      rw [taken] at reply
      exact replies.replied housed unheard whole turnover isTask isGrown
        (fun other data answers => replies.sole other task data payload answers
          ⟨stage, begun, isTask⟩) reply

end

/-- Every turnover in which nobody takes slots from outside leaves the requests
of a session in order. -/
theorem turn
    {manner : Manner} (never : ¬ (manner.outsider before.peers.size).takesPongs)
    (housed : Housed before) (unheard : Unheard before)
    (whole : Span.perMillisecond ∣ before.now)
    (turnover : Turnover (manner.outsider before.peers.size) before after)
    (replies : Replies pings before id) :
    Replies (pings ++ Hub.begun id before after) after id := by
  rcases turnover.beside never housed id with
    ⟨task, payload, stage, -, isTask, rfl⟩ | isBeside
  · exact replies.goOn housed unheard whole turnover isTask
  · rw [Hub.begun_of_kept, List.append_nil]
    · exact replies.beside housed turnover isBeside
    · intro task payload isTask
      rw [isBeside.keeps task payload _ isTask]
      rfl

end Replies

end BroadcastHub.Server
