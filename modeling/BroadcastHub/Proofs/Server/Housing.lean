import BroadcastHub.Proofs.Scenario.Turnover
import BroadcastHub.Proofs.Server.WriteTurns

/-!
# Nothing concerns peers that are not there

Tasks serve peers that have joined and write to such, and the chronicle tells
of no others.  So whoever joins finds nothing under way for him and nothing
told of him.
-/

namespace BroadcastHub.Server

open Scenario

def Happening.Concerns (id : PeerId) : Happening → Prop
  | .joined peer => peer = id
  | .fed peer _ => peer = id
  | .arrived peer _ => peer = id
  | .took peer _ => peer = id
  | .broadcast _ recipients _ _ => id ∈ recipients
  | .asked _ peer _ => peer = id
  | .answered _ peer _ _ => peer = id
  | .wrote _ peer _ _ => peer = id
  | .left peer _ => peer = id

theorem Happening.concerns_of_isAt {id : PeerId} {happening : Happening}
    (isAt : happening.isAt id) : happening.Concerns id := by
  cases happening <;> first | exact isAt | cases isAt

/-- Whether a task serves a peer or writes to it. -/
def Task.Regards (id : PeerId) : Task → Prop
  | attend peer _ => peer = id
  | deliver peer _ _ _ => peer = id
  | pong peer _ _ => peer = some id
  | send peer _ _ _ => peer = id
  | sendClose peer _ => peer = id
  | converse peer => peer = id
  | _ => False

/-- Tasks and the chronicle are about peers that are there. -/
structure Housed (hub : Hub) : Prop where
  tasks : ∀ number id, (hub.task number).Regards id → id < hub.peers.size
  told : ∀ entry ∈ hub.chronicle, ∀ id, entry.happening.Concerns id →
    id < hub.peers.size

/-- An account of what concerns a peer tells nothing where nothing is told of
the peer. -/
theorem account_of_untold
    {α : Type} {id : PeerId} {tells : Happening → List α}
    {chronicle : List Entry}
    (about : ∀ happening, ¬ happening.Concerns id → tells happening = [])
    (untold : ∀ entry ∈ chronicle, ¬ entry.happening.Concerns id) :
    account tells chronicle = [] :=
  account_of_silent tells fun entry member => about _ (untold entry member)

namespace Task

variable {id : PeerId} {task other : Task}

theorem regards_of_serves (serves : task.serves? = some id) :
    task.Regards id := by
  cases task with
  | attend peer stage => exact Option.some.inj serves
  | converse peer => exact Option.some.inj serves
  | _ => cases serves

theorem regards_of_writes (writes : task.writes? = some id) :
    task.Regards id := by
  cases task with
  | attend peer stage => exact Option.some.inj writes
  | deliver peer frame limit stage => exact Option.some.inj writes
  | pong peer payload stage => exact writes
  | send peer frame limit stage => exact Option.some.inj writes
  | sendClose peer stage => exact Option.some.inj writes
  | _ => cases writes

theorem not_regards_of_finished (finished : task.isFinished = true) :
    ¬ task.Regards id := by
  cases task with
  | finished outcome => exact fun regards => regards
  | _ => cases finished

theorem regards_of_follows
    (follows : task.Follows other) (regards : other.Regards id) :
    task.Regards id := by
  cases task <;> cases other <;> simp only [Follows] at follows
  case attend.attend => exact follows.1.symm.trans regards
  case deliver.deliver => exact follows.1.symm.trans regards
  case pong.pong => exact follows.1.symm.trans regards
  case send.send => exact follows.1.symm.trans regards
  case sendClose.sendClose => exact follows.1.symm.trans regards
  all_goals cases regards

/-- A task that was started by another one is about the same peer, unless it
is a delivery. -/
theorem regards_of_mayStart (starts : task.MayStart other)
    (plain : ∀ peer frame limit stage, other ≠ .deliver peer frame limit stage)
    (regards : other.Regards id) : task.Regards id := by
  cases task <;> cases other <;> simp only [MayStart] at starts
  case attend.deliver => exact absurd rfl (plain _ _ _ _)
  case attend.pong => exact Option.some.inj (starts.1.symm.trans regards)
  case converse.attend => exact starts.1.symm.trans regards

end Task

namespace Housed

section

variable {manner : Manner} {peers : Nat} {id : PeerId} {task : Task}

/-- Who is outside starts no task that serves a peer, and none that writes to a
peer that is not there, unless it is a delivery. -/
theorem lt_of_starts (starts : (manner.outsider peers).starts task)
    (plain : ∀ peer frame limit stage, task ≠ .deliver peer frame limit stage)
    (regards : task.Regards id) : id < peers := by
  obtain ⟨action, -, started, isThere⟩ := starts
  cases action <;> simp only [Action.Starts] at started
  case send peer frame limit =>
    subst started
    exact isThere id (congrArg some regards)
  case ping peer payload =>
    obtain ⟨known, isKnown, rfl⟩ := started
    have same : known = some id := regards
    rcases isKnown with isNone | isPeer
    · rw [isNone] at same
      cases same
    · exact isThere id (isPeer.symm.trans same)
  case broadcast frame limit =>
    rcases started with ⟨peer, rfl⟩ | ⟨deliveries, rfl⟩
    · exact absurd rfl (plain _ _ _ _)
    · cases regards
  case closeFrame peer =>
    subst started
    exact isThere id (congrArg some regards)
  case awaitClose peer =>
    subst started
    cases regards
  case wait limit server =>
    rcases started with rfl | ⟨serving, rfl⟩
    · cases regards
    · cases regards

theorem eq_of_opens
    {hub : Hub}
    (serves : task = .attend hub.peers.size .arriving ∨
      task = .converse hub.peers.size)
    (regards : task.Regards id) : id = hub.peers.size := by
  rcases serves with rfl | rfl
  · exact Eq.symm regards
  · exact Eq.symm regards

end

variable {before after hub : Hub} {news : List Entry}
  {brings : Happening → Prop}

theorem lt_of_announced
    (isNews : News brings before after news) {number : TaskId} {peer : PeerId}
    {frame : Frame} {limit : Span} {stage : Writing}
    (above : before.tasks.size ≤ number) (below : number < after.tasks.size)
    (isTask : after.task number = .deliver peer frame limit stage) :
    peer < after.peers.size := by
  obtain ⟨entry, member, first, recipients, position, same, isPeer, -⟩ :=
    isNews.announced number peer frame limit stage above below isTask
  obtain ⟨-, launched⟩ :=
    isNews.launched entry member first recipients frame limit same
  exact launched.inside peer (List.mem_of_getElem? isPeer)

theorem lt_of_news
    (isNews : News brings before after news)
    (peers : after.peers.size = before.peers.size)
    (bound : ∀ happening id, brings happening → happening.Concerns id →
      (∃ first recipients frame limit,
        happening = .broadcast first recipients frame limit) ∨
        id < before.peers.size)
    (entry : Entry) (member : entry ∈ news) (id : PeerId)
    (concerns : entry.happening.Concerns id) : id < after.peers.size := by
  rcases bound _ id (isNews.brought entry member) concerns with
    ⟨first, recipients, frame, limit, same⟩ | below
  · obtain ⟨-, launched⟩ :=
      isNews.launched entry member first recipients frame limit same
    rw [same] at concerns
    exact launched.inside id concerns
  · exact peers ▸ below

theorem course
    {task : TaskId} (housed : Housed before)
    (course : Course (.running task (before.task task)) before after) :
    Housed after := by
  obtain ⟨news, isNews⟩ := course.news
  refine ⟨fun number id regards => ?_, fun entry member id concerns => ?_⟩
  · by_cases below : number < before.tasks.size
    · rw [course.peers]
      by_cases own : task = number
      · subst own
        rcases course.own task rfl with same | finished | follows
        · exact housed.tasks task id (same ▸ regards)
        · exact absurd regards (Task.not_regards_of_finished finished)
        · exact housed.tasks task id (Task.regards_of_follows follows regards)
      · rw [course.task number below fun same =>
          own (Option.some.inj same)] at regards
        exact housed.tasks number id regards
    · have inside : number < after.tasks.size := by
        apply Nat.lt_of_not_le
        intro outside
        rw [Hub.task_of_size_le after number outside] at regards
        exact Task.not_regards_of_finished rfl regards
      have above := Nat.not_lt.mp below
      have starts := (course.newTask number above inside).1
      by_cases isDelivery : ∃ peer frame limit stage,
          after.task number = .deliver peer frame limit stage
      · obtain ⟨peer, frame, limit, stage, same⟩ := isDelivery
        have there := lt_of_announced isNews above inside same
        rw [same] at regards
        exact regards ▸ there
      · rw [course.peers]
        refine housed.tasks task id (Task.regards_of_mayStart starts ?_ regards)
        exact fun peer frame limit stage same =>
          isDelivery ⟨peer, frame, limit, stage, same⟩
  · rw [isNews.chronicle] at member
    rcases List.mem_append.mp member with late | early
    · refine lt_of_news isNews course.peers ?_ entry late id concerns
      intro happening peer brings isAbout
      have about : (before.task task).Regards peer → peer < before.peers.size :=
        housed.tasks task peer
      cases happening with
      | joined other =>
          exact .inr (about (Task.regards_of_serves (isAbout ▸ brings)))
      | fed other octets => cases brings
      | arrived other item => cases brings
      | took other item =>
          exact .inr (about (Task.regards_of_serves (isAbout ▸ brings)))
      | broadcast first recipients frame limit =>
          exact .inl ⟨first, recipients, frame, limit, rfl⟩
      | asked doer other request =>
          exact .inr (about (Task.regards_of_writes (isAbout ▸ brings.2)))
      | answered doer other request result =>
          exact .inr (about (Task.regards_of_writes (isAbout ▸ brings.2)))
      | wrote doer other frame result =>
          exact .inr (about (Task.regards_of_writes (isAbout ▸ brings.2)))
      | left other exit =>
          exact .inr (about (Task.regards_of_serves (isAbout ▸ brings)))
    · rw [course.peers]
      exact housed.told entry early id concerns

theorem outside
    {manner : Manner} (housed : Housed before)
    (outside : Outside (manner.outsider before.peers.size) before after) :
    Housed after := by
  obtain ⟨news, isNews, -⟩ := outside.news
  refine ⟨fun number id regards => ?_, fun entry member id concerns => ?_⟩
  · by_cases below : number < before.tasks.size
    · rw [outside.task number below] at regards
      rw [outside.peers]
      exact housed.tasks number id regards
    · have inside : number < after.tasks.size := by
        apply Nat.lt_of_not_le
        intro beyond
        rw [Hub.task_of_size_le after number beyond] at regards
        exact Task.not_regards_of_finished rfl regards
      have above := Nat.not_lt.mp below
      by_cases isDelivery : ∃ peer frame limit stage,
          after.task number = .deliver peer frame limit stage
      · obtain ⟨peer, frame, limit, stage, same⟩ := isDelivery
        have there := lt_of_announced isNews above inside same
        rw [same] at regards
        exact regards ▸ there
      · rw [outside.peers]
        refine lt_of_starts (outside.newTask number above inside).1 ?_ regards
        exact fun peer frame limit stage same =>
          isDelivery ⟨peer, frame, limit, stage, same⟩
  · rw [isNews.chronicle] at member
    rcases List.mem_append.mp member with late | early
    · refine lt_of_news isNews outside.peers ?_ entry late id concerns
      intro happening peer brings isAbout
      cases happening with
      | fed other octets => exact .inr (isAbout ▸ brings)
      | arrived other item => exact .inr (isAbout ▸ brings)
      | broadcast first recipients frame limit =>
          exact .inl ⟨first, recipients, frame, limit, rfl⟩
      | _ => cases brings
    · rw [outside.peers]
      exact housed.told entry early id concerns

theorem start (configuration : Configuration) (chance : Nat → Nat) :
    Housed { Hub.start configuration with chance } where
  tasks number id regards := by
    rw [Hub.task_of_size_le { Hub.start configuration with chance } number
      (Nat.zero_le number)] at regards
    exact absurd regards (Task.not_regards_of_finished rfl)
  told entry member := by cases member

/-- Every turnover keeps to the peers that are there. -/
theorem turn
    {manner : Manner} (housed : Housed before)
    (turnover : Turnover (manner.outsider before.peers.size) before after) :
    Housed after := by
  cases turnover with
  | outside outside => exact housed.outside outside
  | register added =>
      refine ⟨fun number id regards => ?_, fun entry member id concerns => ?_⟩
      · rw [Hub.size_peers_addPeer]
        exact Nat.lt_succ_of_lt (housed.tasks number id regards)
      · rw [Hub.size_peers_addPeer]
        exact Nat.lt_succ_of_lt (housed.told entry member id concerns)
  | @serve socket task added opened serves =>
      have size :
          ((before.addPeer { socket, attendant := some before.nextTask }).spawn
          task).peers.size = before.peers.size + 1 :=
        Hub.size_peers_addPeer before _
      refine ⟨fun number id regards => ?_, fun entry member id concerns => ?_⟩
      · rw [size]
        rw [Hub.task_spawn] at regards
        split at regards
        · rw [eq_of_opens serves regards]
          exact Nat.lt_succ_self _
        · exact Nat.lt_succ_of_lt (housed.tasks number id regards)
      · rw [size]
        exact Nat.lt_succ_of_lt (housed.told entry member id concerns)
  | go isReady => exact housed.course (Course.goOn before _)
  | @tick later still forward whole passes =>
      obtain ⟨ready, same, -⟩ := Hub.ring_eq { before with now := later }
      rw [same]
      exact ⟨housed.tasks, housed.told⟩

end Housed

end BroadcastHub.Server
