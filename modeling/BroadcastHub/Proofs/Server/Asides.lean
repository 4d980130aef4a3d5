import BroadcastHub.Proofs.Server.Alike
import BroadcastHub.Proofs.Server.Sessions

/-!
# Steps aside

What a task does that concerns one session only leaves all other sessions alone,
unless it announces a broadcast, and so does what is done to that session from
outside.
-/

namespace BroadcastHub.Server

/-! ### Tasks -/

namespace Task

variable {id peer : PeerId} {task other : Task}

/-- A task that concerns one session has to do with no other one. -/
theorem eq_of_isWithin
    (within : task.isWithin id = true)
    (regards : task.writes? = some peer ∨ task.serves? = some peer ∨
      task.answers? = some peer ∨ task.Renews peer) :
    peer = id := by
  cases task
  case pong known payload stage =>
    cases known with
    | none =>
        cases stage <;>
          simp [writes?, serves?, answers?, Renews] at regards
    | some own =>
        have isOwn : own = id := of_decide_eq_true within
        cases stage <;>
          simp [writes?, serves?, answers?, Renews] at regards <;>
          exact regards.symm.trans isOwn
  case attend own _ | deliver own _ _ _ | send own _ _ _ | sendClose own _ =>
    have isOwn : own = id := of_decide_eq_true within
    simp [writes?, serves?, answers?, Renews] at regards
    exact regards.symm.trans isOwn
  all_goals
    simp [writes?, serves?, answers?, Renews, isWithin] at regards within

/-- Such a task starts replies to the session's heartbeat requests, and
deliveries. -/
theorem isWithin_of_mayStart
    (within : task.isWithin id = true) (starts : task.MayStart other) :
    other.isWithin id = true ∨ ∃ peer frame limit stage,
      other = .deliver peer frame limit stage := by
  cases task <;> cases other <;> simp only [MayStart] at starts
  case attend.deliver => exact .inr ⟨_, _, _, _, rfl⟩
  case attend.pong =>
    rw [starts.1]
    exact .inl within
  case converse.attend => cases within

theorem isWithin_of_follows
    (within : task.isWithin id = true) (follows : task.Follows other) :
    other.isWithin id = true := by
  cases task <;> cases other <;> simp only [Follows] at follows
  case attend.attend => exact follows.1 ▸ within
  case deliver.deliver => exact follows.1 ▸ within
  case pong.pong peer _ _ _ _ _ =>
    rw [follows.1]
    cases peer <;> exact within
  case send.send => exact follows.1 ▸ within
  case sendClose.sendClose => exact follows.1 ▸ within
  all_goals cases within

end Task

theorem Task.not_opens_of_isWithin
    {id peer : PeerId} {task : Task} (within : task.isWithin id = true) :
    ¬ task.MayStart (.attend peer .arriving) := by
  cases task <;> simp only [MayStart] <;>
    first
      | exact fun never => never
      | cases within

theorem Doer.staysWithin_running
    {id : PeerId} {others : List TaskId} {number : TaskId} {task : Task}
    (elsewhere : number ∉ others) (within : task.isWithin id = true) :
    (Doer.running number task).StaysWithin id others where
  task := ⟨number, rfl, elsewhere⟩
  reaches peer reached := by
    rcases reached with nobody | regards
    · cases nobody
    · exact Task.eq_of_isWithin within regards
  starts _ := Task.isWithin_of_mayStart within
  becomes _ := Task.isWithin_of_follows within
  opens := Task.not_opens_of_isWithin within

theorem Hub.announcements_goOn {hub : Hub} {number : TaskId}
    (plain : ¬ (hub.task number).Announces) :
    (hub.goOn number).announcements = hub.announcements := by
  obtain ⟨news, isNews⟩ := (Course.goOn hub number).news
  rw [announcements, isNews.chronicle, List.countP_append,
    List.countP_eq_zero.mpr, Nat.zero_add]
  · rfl
  · intro entry member
    have brings := isNews.brought entry member
    cases same : entry.happening with
    | broadcast first recipients frame limit =>
        rw [same] at brings
        exact absurd brings plain
    | _ => simp [Entry.isAnnouncement, same]

/-- Whether the loop of a session contributes no broadcast when a task goes
on. -/
def Hub.KeepsQuiet (hub : Hub) (id : PeerId) (number : TaskId) : Prop :=
  (∃ stage, hub.task number = .attend id stage) →
    (hub.goOn number).announcements = hub.announcements

/-- Somebody on the session's side waits for tasks anew. -/
theorem Fenced.withWatches {id : PeerId} {others : List TaskId} {hub : Hub}
    (fenced : Fenced id others hub) {watches : List (TaskId × TaskId)}
    (watchers : ∀ watch ∈ watches, hub.Excludes others watch.2) :
    Fenced id others { hub with watches } where
  within := fenced.within
  below := fenced.below
  unmoved := fenced.unmoved
  ready := fenced.ready
  holder task held :=
    ⟨(fenced.holder task held).below, (fenced.holder task held).elsewhere⟩
  waiting task waits :=
    ⟨(fenced.waiting task waits).below, (fenced.waiting task waits).elsewhere⟩
  attendant task attends :=
    ⟨(fenced.attendant task attends).below,
      (fenced.attendant task attends).elsewhere⟩
  watchers watch member :=
    ⟨(watchers watch member).below, (watchers watch member).elsewhere⟩

namespace Apart

variable {id : PeerId} {others : List TaskId} {hub : Hub} {number : TaskId}

/-- A task that concerns one session goes on. -/
theorem goOn
    (fenced : Fenced id others hub) (elsewhere : number ∉ others)
    (quiet : hub.KeepsQuiet id number) :
    Apart id others hub (hub.goOn number) := by
  have within := fenced.within number elsewhere
  have silent : (hub.goOn number).announcements = hub.announcements := by
    cases isTask : hub.task number with
    | attend peer stage =>
        rw [isTask] at within
        have own : peer = id := of_decide_eq_true within
        exact quiet ⟨stage, own ▸ isTask⟩
    | _ =>
        exact Hub.announcements_goOn (by rw [isTask]; exact fun never => never)
  by_cases inside : number < hub.tasks.size
  · refine .ofCourse (Course.goOn hub number)
      (Doer.staysWithin_running elsewhere within) ?_ silent fenced
    rintro _ ⟨⟩
    exact inside
  · -- A task that is not there does nothing when it goes on.
    rw [Hub.goOn_of_finished
      (Hub.task_of_size_le hub number (Nat.not_lt.mp inside))]
    refine .ofEnclosed (.idle fenced rfl rfl (fun _ member => member)
      (fun task member => fenced.ready task (List.mem_of_mem_erase member))
      (Hub.queue_erase hub elsewhere) (Nat.le_refl _)) rfl rfl rfl rfl
      (fun _ _ => rfl) rfl

/-! ### From outside -/

/-- The session is changed, but neither its line of writers nor who serves
it. -/
theorem updatePeer (fenced : Fenced id others hub) {change : Peer → Peer}
    (turn : (change (hub.peer id)).turn = (hub.peer id).turn)
    (attendant : (change (hub.peer id)).attendant = (hub.peer id).attendant) :
    Apart id others hub (hub.updatePeer id change) := by
  refine .ofEnclosed (.updatePeer fenced ?_ ?_ attendant) rfl rfl rfl
    (Hub.size_peers_updatePeer hub id _) (fun _ _ => rfl) rfl
  · rw [turn]
    exact fenced.holder
  · rw [turn]
    exact fenced.waiting

theorem updateLink (fenced : Fenced id others hub) (change : Link → Link) :
    Apart id others hub (hub.updateLink id change) :=
  updatePeer fenced (by split <;> rfl) (by split <;> rfl)

theorem wake
    (fenced : Fenced id others hub) (excluded : hub.Excludes others number) :
    Apart id others hub (hub.wake number) := by
  have woken : Enclosed id others hub (hub.wakeAll [number]) :=
    .wakeAll fenced fun other member => by
      rw [List.mem_singleton.mp member]
      exact excluded
  obtain ⟨ready, same, -⟩ := Hub.wake_eq hub number
  have enclosed : Enclosed id others hub (hub.wake number) := woken
  rw [same] at enclosed ⊢
  exact .ofEnclosed enclosed rfl rfl rfl rfl (fun _ _ => rfl) rfl

theorem note (fenced : Fenced id others hub) {happening : Happening}
    (plain : ∀ other, other ≠ id → happening.dealing? other = none) :
    Apart id others hub (hub.note happening) :=
  have enclosed : Enclosed id others hub (hub.note happening) :=
    .idle fenced rfl rfl (fun _ member => member) fenced.ready rfl
      (Nat.le_refl _)
  { enclosed with
    now := rfl
    configuration := rfl
    stopping := rfl
    peers := rfl
    task := fun _ _ => rfl
    dealings := fun other different => by
      simp [Hub.dealings, Hub.note, plain other different] }

end Apart

end BroadcastHub.Server
