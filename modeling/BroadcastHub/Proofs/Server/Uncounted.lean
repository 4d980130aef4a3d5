import BroadcastHub.Proofs.Server.Elementary

/-!
# What leaves the counters alone

Sessions, deliveries and heartbeat replies are counted where they end, and
nowhere else: nothing that is done on the way there moves a counter, and no
write is said to have succeeded before it has ended.  Requests that are answered
may only be counted as refused.
-/

namespace BroadcastHub.Server

/-- What a chronicle tells of ends: the number of writes that have succeeded,
and the number of sessions that have been left for each reason. -/
structure Tally where
  written : Nat := 0
  left : Reason → Nat := fun _ => 0

namespace Tally

def noteWritten (tally : Tally) : Tally :=
  { tally with written := tally.written + 1 }

def noteLeft (tally : Tally) (reason : Reason) : Tally :=
  { tally with
    left := fun other => if other = reason then tally.left other + 1
      else tally.left other }

def note (tally : Tally) : Happening → Tally
  | .wrote _ _ _ (.ok ()) => tally.noteWritten
  | .left _ exit => tally.noteLeft exit.reason
  | _ => tally

def ofChronicle (chronicle : List Entry) : Tally :=
  chronicle.foldr (fun entry tally => tally.note entry.happening) {}

end Tally

/-- What a hub's chronicle tells of ends. -/
def Hub.tally (hub : Hub) : Tally := .ofChronicle hub.chronicle

/-- Nothing is counted, and nothing comes to an end. -/
structure Uncounted (before after : Hub) : Prop where
  counters : after.counters = before.counters
  tally : after.tally = before.tally

namespace Uncounted

variable {first second third : Hub}

theorem refl (hub : Hub) : Uncounted hub hub := ⟨rfl, rfl⟩

theorem ofSame (counters : second.counters = first.counters)
    (chronicle : second.chronicle = first.chronicle) : Uncounted first second :=
  ⟨counters, by rw [Hub.tally, chronicle]; rfl⟩

theorem trans (one : Uncounted first second) (two : Uncounted second third) :
    Uncounted first third :=
  ⟨two.counters.trans one.counters, two.tally.trans one.tally⟩

variable (hub : Hub) {task : TaskId} {id : PeerId}

theorem updatePeer (id : PeerId) (change : Peer → Peer) :
    Uncounted hub (hub.updatePeer id change) :=
  ⟨rfl, rfl⟩

theorem noteAlarm : Uncounted hub hub.noteAlarm := ⟨rfl, rfl⟩

theorem setTask (task : TaskId) (later : Task) :
    Uncounted hub (hub.setTask task later) := ⟨rfl, rfl⟩

theorem spawn (task : Task) : Uncounted hub (hub.spawn task) := ⟨rfl, rfl⟩

theorem wakeAll (numbers : List TaskId) :
    Uncounted hub (hub.wakeAll numbers) := by
  obtain ⟨ready, same, -⟩ := Hub.wakeAll_eq hub numbers
  rw [same]
  exact ⟨rfl, rfl⟩

theorem finish (task : TaskId) (outcome : Outcome) :
    Uncounted hub (hub.finish task outcome) := by
  rw [Hub.finish_eq_wakeAll]
  have woken :=
    wakeAll hub ((hub.watches.filter fun entry => entry.1 = task).map Prod.snd)
  exact ⟨woken.counters, woken.tally⟩

theorem note
    {happening : Happening} (plain : hub.tally.note happening = hub.tally) :
    Uncounted hub (hub.note happening) :=
  ⟨rfl, plain⟩

theorem close (id : PeerId) : Uncounted hub (hub.close id) := by
  obtain ⟨ready, same⟩ | ⟨same, -⟩ := Hub.close_eq hub id
  · rw [same]
    exact ⟨rfl, rfl⟩
  · rw [same]
    exact refl hub

theorem releaseTurn (id : PeerId) : Uncounted hub (hub.releaseTurn id) := by
  unfold Hub.releaseTurn
  simp only
  split
  · exact (updatePeer hub id _).trans (wakeAll _ [_])
  · exact updatePeer hub id _

theorem noteProgress
    (id : PeerId) (task : TaskId) (request : SinkRequest)
    (progress : Progress) :
    Uncounted hub (hub.noteProgress id task request progress) := by
  cases progress with
  | done result => exact note hub rfl
  | underway operation => exact refl hub

theorem startRequest (id : PeerId) (task : TaskId) (request : SinkRequest) :
    Uncounted hub (hub.startRequest id task request).1 := by
  have asked : Uncounted hub (hub.note (.asked task id request)) := note hub rfl
  exact ((asked.trans (updatePeer _ id _)).trans (noteAlarm _)).trans
    (noteProgress _ id task request _)

theorem proceedRequest
    (id : PeerId) (task : TaskId) (request : SinkRequest)
    (operation : Operation) :
    Uncounted hub (hub.proceedRequest id task request operation).1 :=
  (updatePeer hub id _).trans (noteProgress _ id task request _)

theorem abandonRequest (id : PeerId) (request : SinkRequest) :
    Uncounted hub (hub.abandonRequest id request) :=
  (updatePeer hub id _).trans (releaseTurn _ id)

theorem settleRequest (id : PeerId) (progress : Progress) :
    Uncounted hub (hub.settleRequest id progress).1 := by
  cases progress with
  | done result => exact releaseTurn hub id
  | underway operation => exact refl hub

theorem beginFrame (id : PeerId) (task : TaskId) (frame : Frame) :
    Uncounted hub (hub.beginFrame id task frame).1 := by
  unfold Hub.beginFrame
  split
  · exact releaseTurn hub id
  · exact (startRequest hub id task (.frame frame)).trans (settleRequest _ id _)

theorem tryFrame (id : PeerId) (task : TaskId) (frame : Frame) :
    Uncounted hub (hub.tryFrame id task frame).1 := by
  unfold Hub.tryFrame
  split
  · exact beginFrame hub id task frame
  · exact refl hub

theorem abandonFrame
    (id : PeerId) (task : TaskId) (frame : Frame) (standing : Standing) :
    Uncounted hub (hub.abandonFrame id task frame standing) := by
  cases standing with
  | underway operation => exact abandonRequest hub id (.frame frame)
  | _ => exact ⟨rfl, rfl⟩

theorem boundFrame
    (id : PeerId) (task : TaskId) (frame : Frame) (span : Span) (limit : Alarm)
    (standing : Standing) :
    Uncounted hub (hub.boundFrame id task frame span limit standing).1 := by
  unfold Hub.boundFrame
  split
  · exact refl hub
  · split
    · exact abandonFrame hub id task frame standing
    · exact refl hub

theorem advanceFrame
    (id : PeerId) (task : TaskId) (frame : Frame) (span : Span)
    (stage : Writing) :
    Uncounted hub (hub.advanceFrame id task frame span stage).1 := by
  cases stage with
  | unstarted =>
      simp only [Hub.advanceFrame]
      split
      · exact refl hub
      · have requested : Uncounted hub (hub.requestTurn id task) :=
          updatePeer hub id _
        exact ((requested.trans (tryFrame _ id task frame)).trans
          (noteAlarm _)).trans (boundFrame _ id task frame span _ _)
  | queued limit =>
      exact (tryFrame hub id task frame).trans
        (boundFrame _ id task frame span limit _)
  | underway operation limit =>
      exact ((proceedRequest hub id task (.frame frame) operation).trans
        (settleRequest _ id _)).trans (boundFrame _ id task frame span limit _)

theorem boundClosing (id : PeerId) (limit : Alarm) (standing : Standing) :
    Uncounted hub (hub.boundClosing id limit standing).1 := by
  cases standing with
  | underway operation =>
      unfold Hub.boundClosing
      simp only
      split
      · exact abandonRequest hub id .close
      · exact refl hub
  | _ => exact refl hub

theorem startClosing (id : PeerId) (task : TaskId) :
    Uncounted hub (hub.startClosing id task).1 := by
  unfold Hub.startClosing
  split
  · have requested : Uncounted hub (hub.requestTurn id task) :=
      updatePeer hub id _
    have settled := (requested.trans (startRequest _ id task .close)).trans
      (settleRequest _ id
        ((hub.requestTurn id task).startRequest id task .close).2)
    exact (settled.trans (noteAlarm _)).trans (boundClosing _ id _ _)
  · exact refl hub

theorem proceedClosing (id : PeerId) (task : TaskId) (closing : Closing) :
    Uncounted hub (hub.proceedClosing id task closing).1 :=
  ((proceedRequest hub id task .close closing.operation).trans
    (settleRequest _ id _)).trans (boundClosing _ id closing.limit _)

theorem startDeliveries (frame : Frame) (limit : Span) :
    Uncounted hub (hub.startDeliveries frame limit) := by
  have told :
      Uncounted hub
        (hub.note (.broadcast hub.nextTask hub.registry frame limit)) :=
    note hub rfl
  obtain ⟨tasks, same, -⟩ := Hub.spawnDeliveries_eq
    (hub.note (.broadcast hub.nextTask hub.registry frame limit)) frame limit
    hub.registry
  rw [Hub.startDeliveries, same]
  exact ⟨told.counters, told.tally⟩

theorem releaseSlot (id : PeerId) : Uncounted hub (hub.releaseSlot id) := by
  unfold Hub.releaseSlot
  split <;> exact ⟨rfl, rfl⟩

variable {hub} {after : Hub} {frame : Frame} {span : Span}
  {stage next : Writing} {result : Except Fault Unit}

theorem pollFrame_pending
    (polled : hub.pollFrame id task frame span stage = (after, .pending next)) :
    Uncounted hub after := by
  have advanced := advanceFrame hub id task frame span stage
  unfold Hub.pollFrame at polled
  split at polled <;> rename_i same <;> rw [same] at advanced <;> cases polled
  exact advanced

theorem pollFrame_finished
    (polled : hub.pollFrame id task frame span stage =
      (after, .finished result)) :
    after.counters = hub.counters ∧
      after.tally = hub.tally.note (.wrote task id frame result) := by
  have advanced := advanceFrame hub id task frame span stage
  unfold Hub.pollFrame at polled
  split at polled <;> rename_i same <;> rw [same] at advanced <;> cases polled
  refine ⟨advanced.counters, ?_⟩
  rw [← advanced.tally]
  rfl

end Uncounted

/-- Nothing is counted but requests that are refused, and nothing comes to an
end. -/
structure Refusing (before after : Hub) : Prop where
  counters : ∃ refused, after.counters = { before.counters with refused }
  tally : after.tally = before.tally

theorem Uncounted.refusing
    {before after : Hub} (uncounted : Uncounted before after) :
    Refusing before after :=
  ⟨⟨before.counters.refused, uncounted.counters⟩, uncounted.tally⟩

namespace Refusing

variable {first second third : Hub}

theorem trans (one : Refusing first second) (two : Refusing second third) :
    Refusing first third := by
  obtain ⟨_, same⟩ := one.counters
  obtain ⟨refused, sameToo⟩ := two.counters
  exact ⟨⟨refused, by rw [sameToo, same]⟩, two.tally.trans one.tally⟩

/-- An answer counts nothing but that a session is refused. -/
theorem respond (hub : Hub) (request : Http.Request) (upgradable : Bool) :
    Refusing hub (Http.respond hub request upgradable).1 := by
  have same : Refusing hub hub := (Uncounted.refl hub).refusing
  have opened :
      Refusing hub (Http.openSession hub request.fields upgradable).1 := by
    unfold Http.openSession
    split
    · exact same
    · split
      · exact ⟨⟨hub.counters.refused + 1, rfl⟩, rfl⟩
      · simp only
        split <;> exact ⟨⟨hub.counters.refused, rfl⟩, rfl⟩
  have answered : ∀ route : Http.Route,
      Refusing hub (route.answer hub request upgradable).1 := by
    intro route
    cases route with
    | session => exact opened
    | _ => exact same
  unfold Http.respond
  split
  · exact same
  · split
    · exact answered _
    · split
      · exact answered _
      · exact same

end Refusing

end BroadcastHub.Server
