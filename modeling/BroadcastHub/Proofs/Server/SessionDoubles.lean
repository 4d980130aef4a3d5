import BroadcastHub.Proofs.Server.Doubles
import BroadcastHub.Proofs.Server.Sessions

/-!
# What sessions do in hubs that are alike

The task of a session may start other tasks.  Those that concern other sessions
are started in both hubs, in the same order, and stand for each other from then
on.
-/

namespace BroadcastHub.Server

/-- Two hubs after steps that may have started tasks. -/
def Alike.Leads (id : PeerId) (pairs : TaskPairs) (first second : Hub) : Prop :=
  ∃ more orders, Alike id (pairs ++ more) orders first second

namespace Alike.Leads

variable {id peer : PeerId} {pairs : TaskPairs} {first second : Hub}

theorem ofLater (later : Alike.Later id pairs first second) :
    Alike.Leads id pairs first second := by
  obtain ⟨orders, alike⟩ := later
  refine ⟨[], orders, ?_⟩
  rw [List.append_nil]
  exact alike

theorem now {orders : AlarmPairs} (alike : Alike id pairs orders first second) :
    Alike.Leads id pairs first second :=
  .ofLater alike.later

theorem spawn (leads : Alike.Leads id pairs first second) {task : Task}
    (like : ∀ orders, task.Like id orders task) :
    Alike.Leads id pairs (first.spawn task) (second.spawn task) := by
  obtain ⟨more, orders, alike⟩ := leads
  have spawned := alike.spawn (like orders)
  rw [List.append_assoc] at spawned
  exact ⟨_, orders, spawned⟩

/-- A task that concerns only the session may be started in either hub. -/
theorem spawnWithin (leads : Alike.Leads id pairs first second) {task : Task}
    (within : task.isWithin id = true) (inFirst inSecond : Bool) :
    Alike.Leads id pairs (if inFirst then first.spawn task else first)
      (if inSecond then second.spawn task else second) := by
  obtain ⟨more, orders, alike⟩ := leads
  have spawned : ∀ {hub : Hub} {others : List TaskId}, Fenced id others hub →
      ∀ isThere : Bool,
      Apart id others hub (if isThere then hub.spawn task else hub) := by
    intro hub others fenced isThere
    cases isThere with
    | false => exact .refl fenced
    | true => exact .spawn fenced within
  exact ⟨more, orders,
    alike.apart (spawned alike.firstFenced inFirst)
      (spawned alike.secondFenced inSecond)⟩

/-- Deliveries to the same recipients, but for the session. -/
theorem spawnDeliveries
    (leads : Alike.Leads id pairs first second) (frame : Frame) (limit : Span)
    (recipients : List PeerId) {inFirst inSecond : PeerId → Bool}
    (same : ∀ peer ∈ recipients, peer ≠ id → inFirst peer = inSecond peer) :
    Alike.Leads id pairs
      (first.spawnDeliveries frame limit (recipients.filter inFirst))
      (second.spawnDeliveries frame limit (recipients.filter inSecond)) := by
  induction recipients generalizing first second with
  | nil => exact leads
  | cons peer rest induction =>
      have peeled : ∀ (hub : Hub) (isRecipient : PeerId → Bool),
          hub.spawnDeliveries frame limit ((peer :: rest).filter isRecipient) =
            (if isRecipient peer then
              hub.spawn (.deliver peer frame limit .unstarted)
              else hub).spawnDeliveries frame limit
                (rest.filter isRecipient) := by
        intro hub isRecipient
        cases isThere : isRecipient peer <;> simp [isThere, Hub.spawnDeliveries]
      rw [peeled, peeled]
      refine induction ?_ fun other member =>
        same other (List.mem_cons_of_mem peer member)
      by_cases isOwn : peer = id
      · have within :
          (Task.deliver peer frame limit .unstarted).isWithin id = true :=
          decide_eq_true isOwn
        exact leads.spawnWithin within _ _
      · rw [← same peer (List.mem_cons_self ..) isOwn]
        split
        · exact leads.spawn fun _ => .deliver isOwn frame limit .unstarted
        · exact leads

theorem readOn
    {number other : TaskId} (leads : Alike.Leads id pairs first second)
    (different : peer ≠ id) (pair : (number, other) ∈ pairs) :
    Alike.Leads id pairs (first.readOn number peer)
      (second.readOn other peer) := by
  obtain ⟨more, orders, alike⟩ := leads
  have listed : (number, other) ∈ pairs ++ more :=
    List.mem_append_left more pair
  exact ⟨more, orders, (alike.setTask listed (.attend different .looking)).again
    listed⟩

end Alike.Leads

namespace Alike

variable {id : PeerId} {pairs : TaskPairs} {orders : AlarmPairs}
  {first second : Hub} (alike : Alike id pairs orders first second)
  {one two : TaskId} {peer : PeerId}

include alike

/-! ### Ends of sessions -/

theorem finishSession
    (different : peer ≠ id) (pair : (one, two) ∈ pairs) (exit : Exit) :
    Alike id pairs orders (first.finishSession one peer exit)
      (second.finishSession two peer exit) :=
  ((alike.count _ _).releaseSlot different).finish pair _

theorem settleParting
    (different : peer ≠ id) (pair : (one, two) ∈ pairs)
    {closing other : Option Closing}
    (closings : Closing.LikeIfAny orders closing other) :
    Alike id pairs orders (first.settleParting one peer closing)
      (second.settleParting two peer other) := by
  cases closings with
  | nothing => exact alike.finishSession different pair _
  | closing closings =>
      exact alike.setTask pair (.attend different (.parting closings))

theorem leave
    (different : peer ≠ id) (pair : (one, two) ∈ pairs) (exit : Exit) :
    Alike.Later id pairs (first.leave one peer exit)
      (second.leave two peer exit) := by
  have noted : Alike id pairs orders (first.note (.left peer exit))
      (second.note (.left peer exit)) := alike.note fun _ _ => rfl
  have gone := noted.unregister different
  have finished := (gone.finishSession different pair exit).later
  cases exit with
  | socketClosed =>
      obtain ⟨later, -, closed, closings⟩ := gone.startClosing different pair
      exact ⟨later, closed.settleParting different pair closings⟩
  | closeFrame => exact finished
  | streamEnded => exact finished
  | readError fault => exact finished
  | deadlineExpired => exact finished

/-! ### Reading -/

theorem readOn (different : peer ≠ id) (pair : (one, two) ∈ pairs) :
    Alike id pairs orders (first.readOn one peer) (second.readOn two peer) :=
  (alike.setTask pair (.attend different .looking)).again pair

theorem enter (different : peer ≠ id) (pair : (one, two) ∈ pairs) :
    Alike id pairs orders (first.enter one peer) (second.enter two peer) := by
  have noted : Alike id pairs orders (first.note (.joined peer))
      (second.note (.joined peer)) :=
    alike.note fun _ _ => rfl
  unfold Hub.enter
  rw [← alike.timing]
  exact ((noted.count _ _).renewDeadline different _).readOn different pair

theorem arrive (different : peer ≠ id) (pair : (one, two) ∈ pairs) :
    Alike id pairs orders (first.arrive one peer) (second.arrive two peer) := by
  have registered := alike.register different Hub.firstWindow
  rw [Hub.arrive_eq_enter, Hub.arrive_eq_enter, ← alike.stopping]
  split
  · exact (registered.close different).enter different pair
  · exact registered.enter different pair

/-! ### Arrivals -/

theorem startDeliveries (frame : Frame) (limit : Span) :
    Alike.Leads id pairs (first.startDeliveries frame limit)
      (second.startDeliveries frame limit) := by
  have noted : Alike id pairs orders
      (first.note (.broadcast first.nextTask first.registry frame limit))
      (second.note (.broadcast second.nextTask second.registry frame limit)) :=
    alike.note fun _ _ => rfl
  have registry : second.registry =
      first.peers.numbers.filter fun peer => (second.peer peer).registered := by
    unfold Hub.registry Table.numbers
    rw [alike.peers]
  have delivered :=
    (Leads.now noted).spawnDeliveries frame limit first.peers.numbers
      fun peer _ different => (alike.peer peer different).registered
  rw [← registry] at delivered
  exact delivered

theorem act
    (different : peer ≠ id) (pair : (one, two) ∈ pairs) (frame : Frame) :
    Alike.Leads id pairs (first.act one peer frame)
      (second.act two peer frame) := by
  have renewed := alike.renewDeadline different first.timing.heartbeat
  have read : Alike.Leads id pairs
      ((first.renewDeadline peer first.timing.heartbeat).readOn one peer)
      ((second.renewDeadline peer first.timing.heartbeat).readOn two peer) :=
    .now (renewed.readOn different pair)
  have announced : ∀ content, Alike.Leads id pairs
      (((first.renewDeadline peer first.timing.heartbeat).startDeliveries
        content first.timing.broadcastWrite).readOn one peer)
      (((second.renewDeadline peer first.timing.heartbeat).startDeliveries
        content second.timing.broadcastWrite).readOn two peer) := by
    intro content
    rw [← alike.timing]
    exact (renewed.startDeliveries content _).readOn different pair
  unfold Hub.act
  rw [← alike.timing]
  cases frame with
  | close => exact .ofLater (renewed.leave different pair _)
  | ping payload =>
      have replied := (Leads.now renewed).spawn fun orders =>
        .pong different payload .unstarted
      exact replied.readOn different pair
  | pong payload => exact read
  | text content => exact announced _
  | binary content => exact announced _

theorem takeArrival
    (different : peer ≠ id) (pair : (one, two) ∈ pairs) {alarm other : Alarm}
    (alarms : alarm.Like orders other) :
    Alike.Leads id pairs (first.takeArrival one peer alarm)
      (second.takeArrival two peer other) := by
  unfold Hub.takeArrival
  rw [(alike.peer peer different).socket]
  generalize (second.peer peer).socket.take = taken
  obtain ⟨socket, arrival⟩ := taken
  have took := alike.setSocket different socket
  cases arrival with
  | nothing =>
      exact .now (took.setTask pair (.attend different (.reading alarms)))
  | ended => exact .ofLater (took.leave different pair _)
  | item item =>
      have noted : Alike id pairs orders
          ((first.setSocket peer socket).note (.took peer item))
          ((second.setSocket peer socket).note (.took peer item)) :=
        took.note fun _ _ => rfl
      cases item with
      | error fault => exact .ofLater (noted.leave different pair _)
      | ok frame => exact noted.act different pair frame

theorem checkDeadline
    (different : peer ≠ id) (pair : (one, two) ∈ pairs) {alarm other : Alarm}
    (alarms : alarm.Like orders other) :
    Alike.Leads id pairs (first.checkDeadline one peer alarm)
      (second.checkDeadline two peer other) := by
  have rung : alarm.hasRung first.now = other.hasRung second.now := by
    rw [alike.now]
    exact alarms.hasRung_eq _
  unfold Hub.checkDeadline
  rw [rung, alarms.due, (alike.peer peer different).readDeadline]
  split
  · split
    · exact .now (alike.readOn different pair)
    · exact .ofLater (alike.leave different pair _)
  · exact alike.takeArrival different pair alarms

theorem read
    (different : peer ≠ id) (pair : (one, two) ∈ pairs)
    {stage other : Option Alarm}
    (stages : Attendance.Like orders (.reading stage) (.reading other)) :
    Alike.Leads id pairs (first.read one peer stage)
      (second.read two peer other) := by
  have same := alike.peer peer different
  unfold Hub.read
  rw [same.closed]
  split
  · exact .ofLater (alike.leave different pair _)
  · cases stages with
    | looking =>
        exact alike.noteAlarm.checkDeadline different pair
          (.next same.readDeadline _ _)
    | reading alarms => exact alike.checkDeadline different pair alarms

theorem pollSession
    (different : peer ≠ id) (pair : (one, two) ∈ pairs)
    {stage other : Attendance} (stages : stage.Like orders other) :
    Alike.Leads id pairs (first.pollSession one peer stage)
      (second.pollSession two peer other) := by
  cases stages with
  | arriving => exact .now (alike.arrive different pair)
  | looking => exact alike.read different pair .looking
  | reading alarms => exact alike.read different pair (.reading alarms)
  | parting closings =>
      obtain ⟨later, -, proceeded, settled⟩ :=
        alike.proceedClosing different closings
      exact .now (proceeded.settleParting different pair settled)

/-! ### Steps -/

/-- A task that concerns another session goes on in both hubs. -/
theorem poll (pair : (one, two) ∈ pairs)
    (luck : ∀ peer, first.draws? one = some peer →
      first.chance first.drawn = second.chance second.drawn) :
    Alike.Leads id pairs (first.poll one) (second.poll two) := by
  have like := alike.task _ pair
  unfold Hub.draws? at luck
  unfold Hub.poll
  generalize first.task one = task at like luck ⊢
  generalize second.task two = other at like ⊢
  cases like with
  | attend different stages => exact alike.pollSession different pair stages
  | deliver different frame limit stages =>
      exact .ofLater (alike.pollDelivery different pair frame limit stages)
  | @pong peer different payload stage later stages =>
      refine .ofLater (alike.pollPong different pair payload stages
        fun unstarted draws => ?_)
      subst unstarted
      exact luck peer (if_pos draws)
  | send different frame limit stages =>
      exact .ofLater (alike.pollSend different pair frame limit stages)
  | finished outcome => exact .now alike

theorem goOn (pair : (one, two) ∈ pairs) {rest others : List TaskId}
    (next : first.ready = one :: rest) (nextToo : second.ready = two :: others)
    (luck : ∀ peer, first.draws? one = some peer →
      first.chance first.drawn = second.chance second.drawn) :
    Alike.Leads id pairs (first.goOn one) (second.goOn two) :=
  (alike.takeUp pair next nextToo).poll pair luck

end Alike

end BroadcastHub.Server
