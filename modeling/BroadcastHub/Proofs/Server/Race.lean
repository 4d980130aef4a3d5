import BroadcastHub.Proofs.Server.Openings

/-!
# Stopping against opening

A call that stops the server and the opening of a session take several steps
each, and between these anything may happen, also steps of other such calls.
Taken in one go they are what the server does at one instant.
-/

namespace BroadcastHub.Server

open Scenario

/-- How far a call that stops the server has come. -/
inductive StopStage
  | called
  /-- The server knows that it stops. -/
  | told
  /-- The registry has been looked at; some sessions are left to be closed, and
  some of the others were open. -/
  | closing (rest : List PeerId) (count : Nat)
  | returned (count : Nat)

/-- How far the opening of a session has come. -/
inductive OpeningStage
  | unregistered
  | registered
  /-- The server was found to be stopping, so the session is closed next. -/
  | refused
  /-- The question whether the server stops is behind it. -/
  | passed
  | running
deriving DecidableEq

/-- A call that closes a session, and whether that was open. -/
structure CloseCall where
  peer : PeerId
  byStop : Bool
  fresh : Bool

/-- A server with the calls that stop it and the openings of sessions.  Of a
session it is noted whether it was registered after the server had been told to
stop, and of the calls that close sessions what they answered. -/
structure Race where
  hub : Hub
  stops : List StopStage := []
  stage : PeerId → OpeningStage := fun _ => .unregistered
  late : PeerId → Bool := fun _ => false
  closes : List CloseCall := []

/-- The sessions that are closed and were not before. -/
def Hub.closedSince (after before : Hub) : List PeerId :=
  after.peers.numbers.filter fun id => !(before.peer id).closed &&
    (after.peer id).closed

namespace Race

/-- Notes how far the opening of a session has come. -/
def setStage (race : Race) (id : PeerId) (stage : OpeningStage) : Race :=
  { race with
    stage := fun other => if other = id then stage else race.stage other }

/-- Closes a session; notes whether it was open. -/
def close (race : Race) (id : PeerId) (byStop : Bool) : Race :=
  { race with
    hub := race.hub.close id
    closes := ⟨id, byStop, !(race.hub.peer id).closed⟩ :: race.closes }

/-- Registers a session; notes whether the server has been told to stop. -/
def register (race : Race) (task : TaskId) (id : PeerId) : Race :=
  { race.setStage id .registered with
    hub := { race.hub with ready := race.hub.ready.erase task }.register id
      Hub.firstWindow
    late :=
      fun other => if other = id then race.hub.stopping else race.late other }

/-- One step of a call, of an opening, or of anybody else. -/
inductive Step (manner : Manner) : Race → Race → Prop
  | call {race : Race} :
      Step manner race { race with stops := race.stops ++ [.called] }
  | tell {race : Race} {earlier later : List StopStage}
      (stands : race.stops = earlier ++ .called :: later) :
      Step manner race
        { race with
          hub := { race.hub with stopping := true }
          stops := earlier ++ .told :: later }
  | look
      {race : Race} {earlier later : List StopStage}
      (stands : race.stops = earlier ++ .told :: later) :
      Step manner race
        { race with stops := earlier ++ .closing race.hub.registry 0 :: later }
  | close
      {race : Race} {earlier later : List StopStage} {id : PeerId}
      {rest : List PeerId} {count : Nat}
      (stands : race.stops = earlier ++ .closing (id :: rest) count :: later) :
      Step manner race
        { race.close id true with
          stops := earlier ++
            .closing rest (if (race.hub.peer id).closed then count
              else count + 1) :: later }
  | answer
      {race : Race} {earlier later : List StopStage} {count : Nat}
      (stands : race.stops = earlier ++ .closing [] count :: later) :
      Step manner race
        { race with stops := earlier ++ .returned count :: later }
  | register
      {race : Race} {task : TaskId} {id : PeerId}
      (isTask : race.hub.task task = .attend id .arriving)
      (isReady : task ∈ race.hub.ready)
      (isNew : race.stage id = .unregistered) :
      Step manner race (race.register task id)
  | ask
      {race : Race} {id : PeerId} (isRegistered : race.stage id = .registered) :
      Step manner race
        (race.setStage id (if race.hub.stopping then .refused else .passed))
  | refuse {race : Race} {id : PeerId} (isRefused : race.stage id = .refused) :
      Step manner race ((race.close id false).setStage id .passed)
  | enter
      {race : Race} {task : TaskId} {id : PeerId}
      (isTask : race.hub.task task = .attend id .arriving)
      (hasPassed : race.stage id = .passed) :
      Step manner race { race.setStage id .running with
        hub := race.hub.enter task id }
  /-- Anything else happens; only the calls tell the server to stop, and only
  the openings open sessions. -/
  | turn
      {race : Race} {after : Hub}
      (turnover : Turnover (manner.outsider race.hub.peers.size) race.hub after)
      (stopping : after.stopping = race.hub.stopping)
      (unopened : ∀ task id, race.hub.task task = .attend id .arriving →
        after.task task = .attend id .arriving) :
      Step manner race
        { race with
          hub := after
          closes := (after.closedSince race.hub).map
            (fun id => ⟨id, false, true⟩) ++ race.closes }

inductive Steps (manner : Manner) : Race → Race → Prop
  | refl (race : Race) : Steps manner race race
  | step {first second third : Race} (steps : Steps manner first second)
      (step : Step manner second third) : Steps manner first third

/-- A server that has just started, without any calls. -/
def start (configuration : Configuration) (chance : Nat → Nat) : Race where
  hub := { Hub.start configuration with chance }

/-! ### Calls in one go -/

variable {manner : Manner}

theorem Steps.trans
    {first second third : Race} (one : Steps manner first second)
    (two : Steps manner second third) : Steps manner first third := by
  induction two with
  | refl => exact one
  | step _ step induction => exact induction.step step

/-- A session that is opened in one go does what its task does. -/
theorem steps_goOn
    {race : Race} {task : TaskId} {id : PeerId}
    (isTask : race.hub.task task = .attend id .arriving)
    (isReady : task ∈ race.hub.ready) (isNew : race.stage id = .unregistered) :
    ∃ after, Steps manner race after ∧ after.hub = race.hub.goOn task ∧
      after.stage id = .running ∧ after.stops = race.stops := by
  let start : Hub := { race.hub with ready := race.hub.ready.erase task }
  have polled : race.hub.goOn task = start.arrive task id := by
    have same : start.task task = .attend id .arriving := isTask
    show start.poll task = _
    rw [Hub.poll, same]
    rfl
  have registered : (race.register task id).stage id = .registered := if_pos rfl
  have first : Steps manner race (race.register task id) :=
    (Steps.refl race).step (.register isTask isReady isNew)
  have asked := first.step (.ask registered)
  rw [polled, Hub.arrive_eq_enter]
  cases stopping : race.hub.stopping with
  | false =>
      have open_ : (race.register task id).hub.stopping = false := stopping
      rw [open_, if_neg Bool.false_ne_true] at asked
      have isHere :
          ((race.register task id).setStage id .passed).hub.task task =
          .attend id .arriving := isTask
      rw [if_neg Bool.false_ne_true]
      exact ⟨_, asked.step (.enter isHere (if_pos rfl)), rfl, if_pos rfl, rfl⟩
  | true =>
      have stops : (race.register task id).hub.stopping = true := stopping
      rw [stops, if_pos rfl] at asked
      have refused := asked.step (.refuse (if_pos rfl))
      have isHere :
          (((((race.register task id).setStage id .refused).close id
            false).setStage id
          .passed).hub.task task) = .attend id .arriving := by
        have tasks := Hub.tasks_close (race.register task id).hub id
        show ((race.register task id).hub.close id).task task = _
        rw [Hub.task, tasks]
        exact isTask
      rw [if_pos rfl]
      exact ⟨_, refused.step (.enter isHere (if_pos rfl)), rfl, if_pos rfl, rfl⟩

theorem steps_closeEach
    (race : Race) {earlier later : List StopStage} {rest : List PeerId}
    {count : Nat}
    (stands : race.stops = earlier ++ .closing rest count :: later) :
    ∃ after, Steps manner race after ∧
      after.hub = (race.hub.closeEach count rest).1 ∧
      after.stops = earlier ++ .closing [] (race.hub.closeEach count rest).2 ::
        later := by
  induction rest generalizing race count with
  | nil => exact ⟨race, .refl race, rfl, stands⟩
  | cons id rest induction =>
      let count' := if (race.hub.peer id).closed then count else count + 1
      let next : Race :=
        { race.close id true with
          stops := earlier ++ .closing rest count' :: later }
      have closed : Steps manner race next :=
        (Steps.refl race).step (.close stands)
      obtain ⟨after, steps, hub, stops⟩ := induction next rfl
      exact ⟨after, closed.trans steps, hub, stops⟩

/-- A call that stops the server in one go does what stopping does, and answers
the number of the sessions that it closed. -/
theorem steps_stop (race : Race) :
    ∃ after, Steps manner race after ∧ after.hub = race.hub.stop.1 ∧
      after.stops = race.stops ++ [.returned race.hub.stop.2] := by
  let looked : Race :=
    { race with
      hub := { race.hub with stopping := true }
      stops := race.stops ++ [.closing race.hub.registry 0] }
  have called :
      Steps manner race { race with stops := race.stops ++ [.called] } :=
    (Steps.refl race).step .call
  have looks : Steps manner race looked :=
    (called.step (.tell rfl)).step (.look rfl)
  obtain ⟨after, closed, hub, stops⟩ := steps_closeEach looked rfl
  exact ⟨_, (looks.trans closed).step (.answer stops), hub, rfl⟩

end Race

end BroadcastHub.Server
