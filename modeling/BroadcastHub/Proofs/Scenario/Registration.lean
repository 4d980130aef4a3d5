import BroadcastHub.Proofs.Scenario.Keeping
import BroadcastHub.Proofs.Scenario.SessionLoop
import BroadcastHub.Proofs.Server.Residence

/-!
# No dead session stays registered

Sessions are closed by deliveries, by operators and by the shutdown, but only
their own tasks take them out of the registry, and operators do.  The main
statement `registered_sessions_live` says that both fit together: whenever no
task can go on, a registered session that has a task is not closed and reads,
and a session that has ended is not registered.  Nor does leaving the registry
close anybody.
-/

namespace BroadcastHub.Server

open Scenario

/-- Whether a session leaves the registry, or its reading ends. -/
def Departs (id : PeerId) (before after : Hub) : Prop :=
  ((before.peer id).registered = true ∧ (after.peer id).registered = false) ∨
    ∃ time exit, ⟨time, .left id exit⟩ ∈ after.chronicle ∧
      ⟨time, .left id exit⟩ ∉ before.chronicle

namespace Departs

variable {manner : Manner} {hub before after : Hub} {id : PeerId}

theorem ofRegistered (departs : Departs id before after)
    (registered : (after.peer id).registered = (before.peer id).registered) :
    ∃ time exit, ⟨time, .left id exit⟩ ∈ after.chronicle ∧
      ⟨time, .left id exit⟩ ∉ before.chronicle := by
  rcases departs with ⟨was, gone⟩ | left
  · rw [registered, was] at gone
    cases gone
  · exact left

theorem not_of_quiet
    {news : List Entry} (chronicle : after.chronicle = news ++ before.chronicle)
    (quiet : ∀ entry ∈ news, ¬ entry.happening.Paces id) :
    ¬ ∃ time exit, ⟨time, .left id exit⟩ ∈ after.chronicle ∧
      ⟨time, .left id exit⟩ ∉ before.chronicle := by
  rintro ⟨time, exit, member, isNew⟩
  rw [chronicle] at member
  exact isNew (left_of_append quiet member)

/-- Only the task of a session ends it. -/
theorem exists_reading
    {number : TaskId} (departs : Departs id hub (hub.goOn number))
    (housed : Housed hub) (attended : Attended hub)
    (residence : Residence hub id) (isReady : number ∈ hub.ready) :
    Seated hub number id ∧
      ∃ alarm, hub.task number = .attend id (.reading alarm) := by
  have turnover :
      Turnover (Manner.visits.outsider hub.peers.size) hub (hub.goOn number) :=
    .go isReady (by rintro ⟨⟩)
  by_cases serves : (hub.task number).serves? = some id
  · cases residence with
    | unopened unopened isGuest =>
        obtain ⟨news, chronicle, ⟨waits, quiet⟩ | ⟨task, opens⟩⟩ :=
          unopened.turn housed attended turnover
        · rcases departs with ⟨was, -⟩ | left
          · cases (attended number id serves).symm.trans (isGuest was)
          · exact absurd left (not_of_quiet chronicle quiet)
        · rcases departs with ⟨was, -⟩ | ⟨time, exit, member, isNew⟩
          · cases (attended number id serves).symm.trans (isGuest was)
          · rw [chronicle, opens.told] at member
            rcases List.mem_cons.mp member with same | early
            · cases same
            · exact absurd early isNew
    | @reading task alarm seated isTask awake stays =>
        cases seated.attendant.symm.trans (attended number id serves)
        exact ⟨seated, alarm, isTask⟩
    | finished seated isOver isGone =>
        obtain ⟨news, passage, turn⟩ :=
          SessionTurn.ofTurnover attended seated turnover
        rcases departs with ⟨was, -⟩ | left
        · cases isGone.symm.trans was
        · exact absurd left
            (not_of_quiet passage.chronicle (turn.of_isOver isOver).2)
  · have course := Course.goOn hub number
    obtain ⟨news, isNews⟩ := course.news
    exact absurd (departs.ofRegistered ((course.peer id).registered serves))
      (not_of_quiet isNews.chronicle (quiet_of_news isNews serves))

/-- Nobody but a task that goes on writes down ends. -/
theorem quiet_or_goes
    {outsider : Outsider} (turnover : Turnover outsider before after)
    (id : PeerId) :
    (∃ number, number ∈ before.ready ∧ after = before.goOn number) ∨
      ¬ ∃ time exit, ⟨time, .left id exit⟩ ∈ after.chronicle ∧
        ⟨time, .left id exit⟩ ∉ before.chronicle := by
  cases turnover with
  | outside outside =>
      obtain ⟨news, isNews, -⟩ := outside.news
      exact .inr (not_of_quiet isNews.chronicle (quiet_of_outside isNews id))
  | register added => exact .inr fun ⟨time, exit, member, isNew⟩ => isNew member
  | serve added opened serves =>
      exact .inr fun ⟨time, exit, member, isNew⟩ => isNew member
  | @go number isReady => exact .inl ⟨number, isReady, rfl⟩
  | @tick later still forward whole passes =>
      refine .inr fun ⟨time, exit, member, isNew⟩ => ?_
      rw [Hub.chronicle_ring] at member
      exact isNew member

end Departs

end BroadcastHub.Server

namespace BroadcastHub.Scenario

open Server

variable {manner : Manner} {holds : Play → Prop} {configuration : Configuration}
  {play after : Play} {id : PeerId}

theorem Run.residence
    (run : Run manner holds configuration play) (id : PeerId) :
    Residence play.hub id := by
  refine @Run.invariant manner holds configuration (fun hub => Residence hub id)
    play run (fun chance => .start configuration chance id) ?_
  intro _ _ before turnover residence
  exact Residence.turn residence before.housed before.attended turnover

theorem Action.not_closes_of_unregisters
    {action : Action} (unregisters : action.Unregisters) : ¬ action.Closes := by
  cases action <;> first | exact unregisters.elim | exact id

/-- What is done from outside takes a session out of the registry or closes it,
but not both. -/
theorem Play.closed_perform
    {action : Action} (immediate : action.isImmediate = true)
    (was : (play.hub.peer id).registered = true)
    (gone : ((play.perform action).2.hub.peer id).registered = false) :
    ((play.perform action).2.hub.peer id).closed =
      (play.hub.peer id).closed := by
  have inside : id < play.hub.peers.size := by
    refine Nat.lt_of_not_le fun outside => ?_
    rw [Hub.peer_of_size_le play.hub id outside] at was
    cases was
  by_cases unregisters : action.Unregisters
  · have notCloses := Action.not_closes_of_unregisters unregisters
    exact play.view_perform lasting_closed immediate inside
      (fun closes => absurd closes notCloses) fun _ _ _ _ => rfl
  · -- Whatever else is done leaves the registry as it is, so nobody is gone.
    have registered :=
      play.view_perform lasting_registered immediate inside (fun _ _ _ => rfl)
        fun removes => absurd removes unregisters
    rw [registered, was] at gone
    cases gone

/-- Leaving the registry closes nobody. -/
theorem Move.closed_of_departs (run : Run manner holds configuration play)
    (move : Move manner play after) (departs : Departs id play.hub after.hub) :
    (after.hub.peer id).closed = (play.hub.peer id).closed := by
  have goes :
      ∀ number ∈ play.hub.ready, Departs id play.hub (play.hub.goOn number) →
      ((play.hub.goOn number).peer id).closed = (play.hub.peer id).closed := by
    intro number isReady departs
    obtain ⟨seated, alarm, isTask⟩ :=
      departs.exists_reading run.housed run.attended (run.residence id) isReady
    exact (Hub.goOn_reading isTask seated.inside seated.below).closed
  rcases Departs.quiet_or_goes (.ofMove move) id with
    ⟨number, isReady, same⟩ | quiet
  · rw [same] at departs ⊢
    exact goes number isReady departs
  · obtain ⟨was, gone⟩ := departs.resolve_right quiet
    have keeps : ∀ {later : Hub}, Keeps Peer.closed play.hub later →
        (later.peer id).closed = (play.hub.peer id).closed :=
      fun keeps => keeps.peer id
    cases move with
    | act allowed immediate isThere =>
        exact Play.closed_perform immediate was gone
    | @write _ octets connected isOpen fits =>
        exact keeps (.clientWrites lasting_closed play.hub _ _)
    | go isReady first => exact goes _ isReady departs
    | tidy peer => exact keeps (.dropUnused lasting_closed play.hub peer)
    | read peer => exact keeps (.letRead lasting_closed play.hub peer)
    | sip peer count => exact keeps (.letSip lasting_closed play.hub peer count)
    | @tick later still forward whole passes =>
        show (({ play.hub with now := later } : Hub).ring.peer id).closed = _
        rw [Hub.peer, Hub.peers_ring]
        rfl
    | notice known jobs => rfl

/-- No dead session stays registered.  When no task can go on, a registered
session that has a task is being read and is not closed; a session whose reading
has ended is not registered; and what takes a session out of the registry leaves
it as closed as it was. -/
theorem registered_sessions_live
    (run : Run manner holds configuration play) (id : PeerId) :
    (∀ task, (play.hub.peer id).attendant = some task →
      (play.hub.peer id).registered = true →
      (∃ alarm, play.hub.task task = .attend id (.reading alarm)) ∧
        (play.hub.ready = [] → (play.hub.peer id).closed = false)) ∧
    (∀ task, (play.hub.peer id).attendant = some task →
      play.hub.IsOver task id →
      (play.hub.peer id).registered = false) ∧
    (∀ time exit, ⟨time, .left id exit⟩ ∈ play.hub.chronicle →
      (play.hub.peer id).registered = false) ∧
    (∀ after, Move manner play after → Departs id play.hub after.hub →
      (after.hub.peer id).closed = (play.hub.peer id).closed) := by
  have residence := run.residence id
  refine ⟨fun task attends isRegistered => ?_, fun task attends isOver => ?_,
    fun time exit left => residence.isGone left,
    fun after move departs => move.closed_of_departs run departs⟩
  · obtain ⟨reads, awake⟩ := residence.reads attends isRegistered
    refine ⟨reads, fun still => ?_⟩
    cases closed : (play.hub.peer id).closed with
    | false => rfl
    | true =>
        have ready := awake closed
        rw [still] at ready
        cases ready
  · cases isRegistered : (play.hub.peer id).registered with
    | false => rfl
    | true =>
        obtain ⟨⟨alarm, isTask⟩, -⟩ := residence.reads attends isRegistered
        exact absurd isOver (Hub.not_isOver_of_reading isTask)

/-! ### A client that says goodbye -/

/-- The end has arrived for a session. -/
def Play.hailed : Play := (Play.served.perform (.arrive 0 [.ok .close])).2

/-- The session has taken it. -/
def Play.parted : Play := Play.hailed.withHub fun hub => hub.goOn 0

theorem Run.hailed : Run .hearings (fun _ => True) {} .hailed :=
  Run.served.move
    (.act (.inr ⟨0, [.ok .close], rfl⟩) rfl (by rintro _ ⟨⟩; decide)) trivial

theorem Move.parted : Move .hearings .hailed .parted :=
  .go (by decide) (by rintro ⟨⟩)

/-- The session was being read while it was registered, and has left the
registry without having been closed. -/
theorem registered_sessions_live_of_goodbye :
    (Play.hailed.hub.peer 0).registered = true ∧
      (∃ alarm, Play.hailed.hub.task 0 = .attend 0 (.reading alarm)) ∧
      Departs 0 Play.hailed.hub Play.parted.hub ∧
      (Play.parted.hub.peer 0).registered = false ∧
      (Play.parted.hub.peer 0).closed = (Play.hailed.hub.peer 0).closed := by
  obtain ⟨live, -, -, kept⟩ := registered_sessions_live Run.hailed 0
  obtain ⟨-, -, gone, -⟩ :=
    registered_sessions_live (Run.hailed.move Move.parted trivial) 0
  have departs : Departs 0 Play.hailed.hub Play.parted.hub := .inl ⟨rfl, rfl⟩
  exact ⟨rfl, (live 0 rfl rfl).1, departs,
    gone 0 .closeFrame List.mem_cons_self, kept _ Move.parted departs⟩

end BroadcastHub.Scenario
