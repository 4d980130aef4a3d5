import BroadcastHub.Proofs.Server.Sends

/-!
# Heartbeat replies, one at a time

A heartbeat request takes the slot of its session when it goes on for the first
time, unless somebody has it, and gives it back when its reply is over, however
that ends.  `PongTurn` lists what its turns may be.
-/

namespace BroadcastHub.Server

open Scenario

def Timing.longestDelay (timing : Timing) : Span :=
  .ofMillis timing.pongJitter.wholeMillis

/-- How a reply goes on that has the slot. -/
inductive PongStage (now : Instant) (timing : Timing) (stage : Ponging) :
    Ponging → Prop
  /-- The delay is not over. -/
  | stays
      {ends : Alarm} (same : stage = .delaying ends) (early : now < ends.due) :
      PongStage now timing stage (.delaying ends)
  | delays {ends : Alarm} (fresh : stage = .unstarted) (late : now < ends.due)
      (soon : ends.due ≤ now + timing.longestDelay.nanos)
      (whole : Span.perMillisecond ∣ now → Span.perMillisecond ∣ ends.due) :
      PongStage now timing stage (.delaying ends)
  | writes {writing : Writing} (begun : writing ≠ .unstarted)
      (rung : ∀ ends, stage = .delaying ends → ends.due ≤ now) :
      PongStage now timing stage (.writing writing)

/-- What a reply that has the slot does in its turn. -/
inductive ReplyTurn
    (now : Instant) (timing : Timing) (slot : Bool) (task : TaskId)
    (id : PeerId) (payload : Octets) (stage : Ponging) (after : Hub) : Prop
  | goesOn
      {next : Ponging} (isTask : after.task task = .pong (some id) payload next)
      (how : PongStage now timing stage next)
      (keeps : (after.peer id).ponging = slot)
  | concluded
      {result : HeartbeatResult}
      (attempted : result = .answered ∨ result = .failed)
      (ended : after.task task = .finished (.heartbeat result))
      (frees : (after.peer id).ponging = false)

/-- What becomes of a heartbeat request in its turn. -/
inductive PongTurn
    (before : Hub) (task : TaskId) (id : PeerId) (payload : Octets) :
    Ponging → Hub → Prop
  | unknown {after : Hub} (absent : (before.peer id).registered = false)
      (ended : after.task task = .finished (.heartbeat .unknown))
      (silent : after.chronicle = before.chronicle)
      (keeps : (after.peer id).ponging = (before.peer id).ponging) :
      PongTurn before task id payload .unstarted after
  | coalesced {after : Hub} (present : (before.peer id).registered = true)
      (taken : (before.peer id).ponging = true)
      (ended : after.task task = .finished (.heartbeat .coalesced))
      (silent : after.chronicle = before.chronicle)
      (keeps : (after.peer id).ponging = true) :
      PongTurn before task id payload .unstarted after
  | takes
      {after : Hub} (present : (before.peer id).registered = true)
      (free : (before.peer id).ponging = false)
      (reply : ReplyTurn before.now before.timing true task id payload
        .unstarted after) :
      PongTurn before task id payload .unstarted after
  | replies
      {stage : Ponging} {after : Hub} (begun : stage ≠ .unstarted)
      (reply : ReplyTurn before.now before.timing (before.peer id).ponging task
        id payload stage after) :
      PongTurn before task id payload stage after

namespace Instant

theorem after_le (now : Instant) (span : Span) :
    now.after span ≤ now + span.nanos := by
  unfold after
  split
  · rename_i beyond
    have seconds : 9223372036854775807 ≤ span.nanos / 1000000000 :=
      of_decide_eq_true beyond
    have short : 946080000000000000 ≤ span.nanos := by omega
    exact Nat.add_le_add_left short now
  · exact Nat.le_refl _

theorem after_mono
    {first second : Instant} (le : first ≤ second) (span : Span) :
    first.after span ≤ second.after span := by
  unfold after
  split <;> exact Nat.add_le_add_right le _

theorem tick_mono {first second : Instant} (le : first ≤ second) :
    first.tick ≤ second.tick :=
  Nat.mul_le_mul_right _ (Nat.div_le_div_right (Nat.add_le_add_right le _))

end Instant

namespace Hub

variable {hub : Hub} {task : TaskId} {id : PeerId}

theorem ponging_setPonging (inside : id < hub.peers.size) (ponging : Bool) :
    ((hub.setPonging id ponging).peer id).ponging = ponging := by
  rw [setPonging, peer_updatePeer_self hub id _ inside]

theorem ponging_finishPong
    (inside : id < hub.peers.size) (result : Except Fault Unit) :
    ((hub.finishPong task id result).peer id).ponging = false := by
  cases result with
  | ok =>
      rw [finishPong]
      simp only [finishPing, peer_finish]
      exact ponging_setPonging inside false
  | error fault =>
      rw [finishPong]
      simp only [finishPing, peer_finish]
      exact ponging_setPonging inside false

theorem task_finishPong
    (id : PeerId) (below : task < hub.tasks.size) (result : Except Fault Unit) :
    ∃ outcome, (outcome = .answered ∨ outcome = .failed) ∧
      (hub.finishPong task id result).task task =
        .finished (.heartbeat outcome) := by
  cases result with
  | ok => exact ⟨.answered, .inl rfl, task_finish_self _ task _ below⟩
  | error fault => exact ⟨.failed, .inr rfl, task_finish_self _ task _ below⟩

/-- The write of a reply keeps the slot until it is over. -/
theorem reply_writePong
    (hub : Hub) {now : Instant} {timing : Timing} {stage : Ponging}
    (below : task < hub.tasks.size) (inside : id < hub.peers.size)
    (payload : Octets) (writing : Writing)
    (rung : ∀ ends, stage = .delaying ends → ends.due ≤ now) :
    ReplyTurn now timing (hub.peer id).ponging task id payload stage
      (hub.writePong task id payload writing) := by
  let writer : Doer :=
    { task := some task, writes := some id, starts := fun _ => False }
  have isInside : writer.Inside hub := by
    rintro _ ⟨⟩
    exact below
  have course : Course writer hub _ :=
    Course.pollFrame hub isInside rfl rfl (.pong payload) hub.timing.pongWrite
      writing
  have stays := WriteTurn.below_pollFrame hub below id (.pong payload)
    hub.timing.pongWrite writing
  have peers := course.peers
  have ponging := (course.peer id).ponging (by rintro ⟨⟩)
  unfold writePong
  split <;> rename_i polled <;> rw [polled] at stays peers ponging
  · obtain ⟨outcome, attempted, ended⟩ := task_finishPong id stays _
    exact .concluded attempted ended (ponging_finishPong (peers ▸ inside) _)
  · exact .goesOn (task_setTask_self _ _ _ stays)
      (.writes (begun_pollFrame polled) rung) ponging

theorem nextDelay_le (hub : Hub) :
    hub.nextDelay.nanos ≤ hub.timing.longestDelay.nanos :=
  Nat.mul_le_mul_right _ (Nat.le_of_lt_succ (Nat.mod_lt _ (Nat.succ_pos _)))

theorem reply_delayPong
    (hub : Hub) (below : task < hub.tasks.size) (inside : id < hub.peers.size)
    (payload : Octets) :
    ReplyTurn hub.now hub.timing (hub.peer id).ponging task id payload
      .unstarted (hub.delayPong task id payload) := by
  let drawn : Hub := { hub with drawn := hub.drawn + 1 }
  unfold delayPong
  split
  · exact reply_writePong hub below inside payload .unstarted (by rintro _ ⟨⟩)
  · simp only
    split
    · exact reply_writePong drawn below inside payload .unstarted
        (by rintro _ ⟨⟩)
    · rename_i positive
      have wholeDelay : Span.perMillisecond ∣ hub.nextDelay.nanos :=
        Nat.dvd_mul_left _ _
      refine .goesOn (task_setTask_self drawn.noteAlarm task _ below)
        (.delays rfl ?_ ?_ fun whole => ?_) rfl
      · have longer : hub.now < hub.now + hub.nextDelay.nanos :=
          Nat.lt_add_of_pos_right (Nat.pos_of_ne_zero positive)
        show hub.now < hub.now.after hub.nextDelay
        unfold Instant.after
        split
        · exact Nat.lt_add_of_pos_right (by decide)
        · exact longer
      · exact Nat.le_trans (Instant.after_le _ _)
          (Nat.add_le_add_left hub.nextDelay_le _)
      · exact Instant.whole_after whole wholeDelay

/-- A heartbeat request goes on in one of the ways that `PongTurn` lists. -/
theorem pongTurn
    {stage : Ponging} {payload : Octets} (inside : id < hub.peers.size)
    (isTask : hub.task task = .pong (some id) payload stage) :
    PongTurn hub task id payload stage (hub.goOn task) := by
  have below : task < hub.tasks.size := by
    apply hub.lt_size_of_task task
    rw [isTask]
    rintro ⟨⟩
  let start : Hub := { hub with ready := hub.ready.erase task }
  have polled :
      hub.goOn task = start.pollPong task (some id) payload stage := by
    have same : start.task task = .pong (some id) payload stage := isTask
    show start.poll task = _
    rw [poll, same]
  rw [polled]
  cases stage with
  | unstarted =>
      let renewed : Hub := start.renewDeadline id start.timing.heartbeat
      have renewedPeer : renewed.peer id = { hub.peer id with
          readDeadline := start.now.after start.timing.heartbeat } :=
        peer_updatePeer_self start id _ inside
      have stillInside : id < renewed.peers.size := by
        rw [show renewed.peers.size =
          start.peers.size from size_peers_updatePeer start id _]
        exact inside
      show PongTurn hub task id payload .unstarted
        (start.startPong task id payload)
      unfold startPong
      split
      · rename_i present
        have ponging : (renewed.peer id).ponging = (hub.peer id).ponging := by
          rw [renewedPeer]
        simp only
        split
        · rename_i taken
          have wasTaken : (hub.peer id).ponging = true :=
            ponging.symm.trans taken
          refine .coalesced present wasTaken (task_finish_self _ task _ below)
            (chronicle_finish ..) ?_
          rw [finishPing, peer_finish]
          exact taken
        · rename_i free
          have wasFree : (hub.peer id).ponging = false :=
            ponging.symm.trans (Bool.eq_false_iff.mpr free)
          have insideStill : id < (renewed.setPonging id true).peers.size := by
            rw [setPonging, size_peers_updatePeer]
            exact stillInside
          have reply := reply_delayPong (renewed.setPonging id true)
            (show task < (renewed.setPonging id true).tasks.size from below)
            insideStill payload
          rw [ponging_setPonging stillInside] at reply
          exact .takes present wasFree reply
      · rename_i absent
        refine .unknown (Bool.eq_false_iff.mpr absent)
          (task_finish_self start task _ below) (chronicle_finish ..) ?_
        rw [finishPing, peer_finish]
        rfl
  | delaying ends =>
      refine .replies (by rintro ⟨⟩) ?_
      simp only [pollPong]
      split
      · rename_i rung
        refine reply_writePong start below inside payload .unstarted ?_
        rintro _ ⟨⟩
        exact of_decide_eq_true rung
      · rename_i early
        have notYet : ¬ ends.due ≤ hub.now :=
          fun late => early (decide_eq_true late)
        exact .goesOn isTask (.stays rfl (Nat.lt_of_not_le notYet)) rfl
  | writing writing =>
      exact .replies (by rintro ⟨⟩)
        (reply_writePong start below inside payload writing (by rintro _ ⟨⟩))

/-- A request that finds its session registered moves its read deadline,
whatever becomes of it. -/
theorem readDeadline_goOn_pong
    {payload : Octets}
    (isTask : hub.task task = .pong (some id) payload .unstarted)
    (present : (hub.peer id).registered = true) :
    ((hub.goOn task).peer id).readDeadline =
      hub.now.after hub.timing.heartbeat := by
  have below : task < hub.tasks.size := by
    apply hub.lt_size_of_task task
    rw [isTask]
    rintro ⟨⟩
  have inside : id < hub.peers.size := by
    apply Nat.lt_of_not_le
    intro outside
    rw [peer_of_size_le hub id outside] at present
    cases present
  let start : Hub := { hub with ready := hub.ready.erase task }
  let renewed : Hub := start.renewDeadline id start.timing.heartbeat
  have polled : hub.goOn task = start.startPong task id payload := by
    have same : start.task task = .pong (some id) payload .unstarted := isTask
    show start.poll task = _
    rw [poll, same]
    rfl
  have moved :
      (renewed.peer id).readDeadline = hub.now.after hub.timing.heartbeat := by
    rw [show renewed.peer id = _ from peer_updatePeer_self start id _ inside]
    rfl
  rw [polled, startPong,
    if_pos (show (start.peer id).registered = true from present)]
  simp only
  split
  · rw [finishPing, peer_finish]
    exact moved
  · -- Whoever writes a reply moves no read deadlines any more.
    let writer : Doer :=
      { task := some task
        writes := some id
        answers := some id
        starts := fun _ => False
        becomes := fun _ => True }
    have isInside : writer.Inside (renewed.setPonging id true) := by
      rintro _ ⟨⟩
      exact below
    have course : Course writer (renewed.setPonging id true)
        ((renewed.setPonging id true).delayPong task id payload) :=
      Course.delayPong _ isInside rfl rfl rfl fun _ _ => trivial
    rcases (course.peer id).deadline (by rintro ⟨⟩) with same | ⟨⟨⟩, -⟩
    have kept : ((renewed.setPonging id true).peer id).readDeadline =
        (renewed.peer id).readDeadline :=
      peer_updatePeer_keeps renewed id id fun _ => rfl
    exact same.trans (kept.trans moved)

end Hub

end BroadcastHub.Server
