import BroadcastHub.Proofs.Server.Beginnings
import BroadcastHub.Proofs.Server.SessionSteps
import BroadcastHub.Proofs.Server.Uncounted

/-!
# What is counted when a task goes on

A task counts what it has come to at the moment at which it comes to it, and
nothing else: a session that it has opened and that it has ended, a delivery
whether it has reached its recipient, and a heartbeat reply that it has been
written or left to another one.  Whatever a task does before leaves the counters
alone.  `Credit` says so for all kinds of tasks, together with what the
chronicle tells of ends.
-/

namespace BroadcastHub.Server

/-! ### Single tasks -/

/-- Whether a task is of a kind that counts nothing. -/
def Task.isPlain : Task → Bool
  | attend _ _ => false
  | deliver _ _ _ _ => false
  | pong _ _ _ => false
  | send _ _ _ _ => false
  | finished (.attended _) => false
  | finished (.delivered _) => false
  | finished (.heartbeat _) => false
  | finished (.sent _) => false
  | _ => true

/-- What becomes of a task that goes on, of the counters, and of what is told of
ends.  A session that is closed on this side is told to be left before its close
frame is sent, and counted when the close frame is dealt with. -/
inductive Credit (counters : Counters) (tally : Tally) :
    Task → Task → Counters → Tally → Prop
  | idle (task : Task) : Credit counters tally task task counters tally
  | opens (id : PeerId) :
      Credit counters tally (.attend id .arriving) (.attend id (.reading none))
        counters.noteOpened tally
  | reads {id : PeerId} (alarm later : Option Alarm) :
      Credit counters tally (.attend id (.reading alarm))
        (.attend id (.reading later)) counters tally
  | leaves {id : PeerId} (alarm : Option Alarm) (closing : Closing) :
      Credit counters tally (.attend id (.reading alarm))
        (.attend id (.parting closing)) counters (tally.noteLeft .socketClosed)
  | parts {id : PeerId} (closing later : Closing) :
      Credit counters tally (.attend id (.parting closing))
        (.attend id (.parting later)) counters tally
  | ends {id : PeerId} (alarm : Option Alarm) (exit : Exit) :
      Credit counters tally (.attend id (.reading alarm))
        (.finished (.attended exit))
        (counters.noteEnded exit.reason) (tally.noteLeft exit.reason)
  | departs {id : PeerId} (closing : Closing) :
      Credit counters tally (.attend id (.parting closing))
        (.finished (.attended .socketClosed))
        (counters.noteEnded .socketClosed) tally
  | delivers
      {id : PeerId} {frame : Frame} {limit : Span} (stage later : Writing) :
      Credit counters tally (.deliver id frame limit stage)
        (.deliver id frame limit later) counters tally
  | reached {id : PeerId} {frame : Frame} {limit : Span} (stage : Writing) :
      Credit counters tally (.deliver id frame limit stage)
        (.finished (.delivered true))
        { counters with delivered := counters.delivered + 1 } tally.noteWritten
  | lost {id : PeerId} {frame : Frame} {limit : Span} (stage : Writing) :
      Credit counters tally (.deliver id frame limit stage)
        (.finished (.delivered false))
        { counters with undelivered := counters.undelivered + 1 } tally
  | replies {peer : Option PeerId} {payload : Octets} (stage later : Ponging) :
      Credit counters tally (.pong peer payload stage)
        (.pong peer payload later) counters tally
  | answered {peer : Option PeerId} {payload : Octets} (stage : Ponging) :
      Credit counters tally (.pong peer payload stage)
        (.finished (.heartbeat .answered))
        { counters with ponged := counters.ponged + 1 } tally.noteWritten
  | coalesced {peer : Option PeerId} {payload : Octets} (stage : Ponging) :
      Credit counters tally (.pong peer payload stage)
        (.finished (.heartbeat .coalesced))
        { counters with coalesced := counters.coalesced + 1 } tally
  | failed {peer : Option PeerId} {payload : Octets} (stage : Ponging) :
      Credit counters tally (.pong peer payload stage)
        (.finished (.heartbeat .failed)) counters tally
  | unknown {peer : Option PeerId} {payload : Octets} (stage : Ponging) :
      Credit counters tally (.pong peer payload stage)
        (.finished (.heartbeat .unknown)) counters tally
  | sends {id : PeerId} {frame : Frame} {limit : Span} (stage later : Writing) :
      Credit counters tally (.send id frame limit stage)
        (.send id frame limit later) counters tally
  | sent {id : PeerId} {frame : Frame} {limit : Span} (stage : Writing) :
      Credit counters tally (.send id frame limit stage)
        (.finished (.sent (.ok ()))) counters tally.noteWritten
  | unsent
      {id : PeerId} {frame : Frame} {limit : Span} (stage : Writing)
      (fault : Fault) :
      Credit counters tally (.send id frame limit stage)
        (.finished (.sent (.error fault))) counters tally
  | plain
      {task later : Task} (isPlain : task.isPlain = true)
      (stays : later.isPlain = true) (refused : Nat) :
      Credit counters tally task later { counters with refused } tally

/-- What the turn of a task that was at some stage has brought. -/
def Hub.Credits (hub : Hub) (task : TaskId) (own : Task) (after : Hub) : Prop :=
  Credit hub.counters hub.tally own (after.task task) after.counters after.tally

namespace Hub.Credits

variable {hub middle after : Hub} {task : TaskId} {own later : Task}
  {id : PeerId}

theorem before
    (uncounted : Uncounted hub middle)
    (credits : middle.Credits task own after) : hub.Credits task own after := by
  rw [Credits, ← uncounted.counters, ← uncounted.tally]
  exact credits

theorem idle (isTask : hub.task task = own) : hub.Credits task own hub := by
  rw [Credits, isTask]
  exact .idle own

theorem setTask
    (below : task < middle.tasks.size)
    (credit : Credit hub.counters hub.tally own later middle.counters
      middle.tally) :
    hub.Credits task own (middle.setTask task later) := by
  rw [Credits, task_setTask_self middle task later below]
  exact credit

theorem finish
    {outcome : Outcome} (below : task < middle.tasks.size)
    (credit : Credit hub.counters hub.tally own (.finished outcome)
      middle.counters middle.tally) :
    hub.Credits task own (middle.finish task outcome) := by
  have done := Uncounted.finish middle task outcome
  rw [Credits, task_finish_self middle task outcome below, done.counters,
    done.tally]
  exact credit

/-! ### Deliveries -/

section

variable {frame : Frame} {limit : Span}

theorem finishDelivery
    (stage : Writing) (below : task < middle.tasks.size)
    (counters : middle.counters = hub.counters) {result : Except Fault Unit}
    (tally : middle.tally = hub.tally.note (.wrote task id frame result)) :
    hub.Credits task (.deliver id frame limit stage)
      (middle.finishDelivery task id result) := by
  cases result with
  | ok =>
      refine finish below ?_
      show Credit _ _ _ _ { middle.counters with
        delivered := middle.counters.delivered + 1 }
        middle.tally
      rw [counters, tally]
      exact .reached stage
  | error fault =>
      have closed := Uncounted.close
        (middle.count fun counters =>
          { counters with undelivered := counters.undelivered + 1 }) id
      refine finish ?_ ?_
      · rw [tasks_close]
        exact below
      · rw [closed.counters, closed.tally]
        show Credit _ _ _ _ { middle.counters with
          undelivered := middle.counters.undelivered + 1 }
          middle.tally
        rw [counters, tally]
        exact .lost stage

theorem pollDelivery (below : task < hub.tasks.size) (stage : Writing) :
    hub.Credits task (.deliver id frame limit stage)
      (hub.pollDelivery task id frame limit stage) := by
  have stays := WriteTurn.below_pollFrame hub below id frame limit stage
  unfold Hub.pollDelivery
  split <;> rename_i polled <;> rw [polled] at stays
  · obtain ⟨counters, tally⟩ := Uncounted.pollFrame_finished polled
    exact finishDelivery stage stays counters tally
  · obtain ⟨counters, tally⟩ := Uncounted.pollFrame_pending polled
    refine setTask stays ?_
    rw [counters, tally]
    exact .delivers stage _

theorem pollSend (below : task < hub.tasks.size) (stage : Writing) :
    hub.Credits task (.send id frame limit stage)
      (hub.pollSend task id frame limit stage) := by
  have stays := WriteTurn.below_pollFrame hub below id frame limit stage
  unfold Hub.pollSend
  split <;> rename_i polled <;> rw [polled] at stays
  · obtain ⟨counters, tally⟩ := Uncounted.pollFrame_finished polled
    refine finish stays ?_
    rw [counters, tally]
    rename_i result
    cases result with
    | ok => exact .sent stage
    | error fault => exact .unsent stage fault
  · obtain ⟨counters, tally⟩ := Uncounted.pollFrame_pending polled
    refine setTask stays ?_
    rw [counters, tally]
    exact .sends stage _

end

/-! ### Heartbeats -/

section

variable {payload : Octets}

theorem finishPong
    (stage : Ponging) (below : task < middle.tasks.size)
    (counters : middle.counters = hub.counters) {result : Except Fault Unit}
    (tally : middle.tally =
      hub.tally.note (.wrote task id (.pong payload) result)) :
    hub.Credits task (.pong (some id) payload stage)
      (middle.finishPong task id result) := by
  cases result with
  | ok =>
      refine finish below ?_
      show Credit _ _ _ _ { middle.counters with
        ponged := middle.counters.ponged + 1 } middle.tally
      rw [counters, tally]
      exact .answered stage
  | error fault =>
      refine finish below ?_
      show Credit _ _ _ _ middle.counters middle.tally
      rw [counters, tally]
      exact .failed stage

theorem writePong
    (below : task < hub.tasks.size) (own : Ponging) (stage : Writing) :
    hub.Credits task (.pong (some id) payload own)
      (hub.writePong task id payload stage) := by
  have stays := WriteTurn.below_pollFrame hub below id (.pong payload)
    hub.timing.pongWrite stage
  unfold Hub.writePong
  split <;> rename_i polled <;> rw [polled] at stays
  · obtain ⟨counters, tally⟩ := Uncounted.pollFrame_finished polled
    exact finishPong own stays counters tally
  · obtain ⟨counters, tally⟩ := Uncounted.pollFrame_pending polled
    refine setTask stays ?_
    rw [counters, tally]
    exact .replies own _

theorem delayPong (below : task < hub.tasks.size) (own : Ponging) :
    hub.Credits task (.pong (some id) payload own)
      (hub.delayPong task id payload) := by
  have drawn : Uncounted hub { hub with drawn := hub.drawn + 1 } := ⟨rfl, rfl⟩
  unfold Hub.delayPong
  split
  · exact writePong below own .unstarted
  · simp only
    split
    · refine before drawn (writePong ?_ own .unstarted)
      exact below
    · exact setTask below (.replies own _)

theorem startPong (below : task < hub.tasks.size) :
    hub.Credits task (.pong (some id) payload .unstarted)
      (hub.startPong task id payload) := by
  have renewed : Uncounted hub (hub.renewDeadline id hub.timing.heartbeat) :=
    .updatePeer hub id _
  unfold Hub.startPong
  split
  · simp only
    split
    · exact finish below (.coalesced .unstarted)
    · refine before (renewed.trans (.updatePeer _ id _))
        (delayPong ?_ .unstarted)
      exact below
  · exact finish below (.unknown .unstarted)

theorem pollPong
    (below : task < hub.tasks.size) {peer : Option PeerId} {stage : Ponging}
    (isTask : hub.task task = .pong peer payload stage) :
    hub.Credits task (.pong peer payload stage)
      (hub.pollPong task peer payload stage) := by
  cases peer with
  | none => exact finish below (.unknown stage)
  | some id =>
      cases stage with
      | unstarted => exact startPong below
      | delaying ends =>
          simp only [Hub.pollPong]
          split
          · exact writePong below (.delaying ends) .unstarted
          · exact idle isTask
      | writing stage => exact writePong below (.writing stage) stage

end

/-! ### Sessions -/

section

variable {alarm : Option Alarm}

theorem finishSession (below : task < middle.tasks.size) (exit : Exit)
    (ends : Credit hub.counters hub.tally own (.finished (.attended exit))
      (middle.counters.noteEnded exit.reason) middle.tally) :
    hub.Credits task own (middle.finishSession task id exit) := by
  have released := Uncounted.releaseSlot
    (middle.count fun counters => counters.noteEnded exit.reason) id
  refine finish ?_ ?_
  · rw [tasks_releaseSlot]
    exact below
  · rw [released.counters, released.tally]
    exact ends

/-- A session that is closed on this side ends unless its close frame is still
under way. -/
theorem settleParting
    (below : task < middle.tasks.size)
    (goesOn : ∀ closing,
      Credit hub.counters hub.tally own (.attend id (.parting closing))
      middle.counters middle.tally)
    (ends : Credit hub.counters hub.tally own
      (.finished (.attended .socketClosed))
      (middle.counters.noteEnded .socketClosed) middle.tally)
    (closing : Option Closing) :
    hub.Credits task own (middle.settleParting task id closing) := by
  cases closing with
  | none => exact finishSession below .socketClosed ends
  | some closing => exact setTask below (goesOn closing)

/-- Out of the registry, a session that is closed on this side starts to send
its close frame. -/
theorem part
    (below : task < middle.tasks.size)
    (counters : middle.counters = hub.counters)
    (tally : middle.tally = hub.tally.noteLeft .socketClosed) :
    hub.Credits task (.attend id (.reading alarm))
      ((middle.startClosing id task).1.settleParting task id
        (middle.startClosing id task).2) := by
  have started : Uncounted middle (middle.startClosing id task).1 :=
    .startClosing middle id task
  have inside : (Doer.writer task id).Inside middle :=
    Doer.inside_writer below id
  refine settleParting ((Course.startClosing middle inside rfl rfl).inside
    inside task rfl) (fun closing => ?_) ?_ _
  · rw [started.counters, started.tally, counters, tally]
    exact .leaves alarm closing
  · rw [started.counters, started.tally, counters, tally]
    exact .ends alarm .socketClosed

theorem leave (below : task < hub.tasks.size) (exit : Exit) :
    hub.Credits task (.attend id (.reading alarm))
      (hub.leave task id exit) := by
  unfold Hub.leave
  cases exit with
  | socketClosed =>
      refine part ?_ rfl rfl
      exact below
  | _ =>
      refine finishSession ?_ _ (.ends alarm _)
      exact below

theorem readOn (below : task < hub.tasks.size) :
    hub.Credits task (.attend id (.reading alarm)) (hub.readOn task id) := by
  have read : hub.Credits task (.attend id (.reading alarm))
      (hub.setTask task (.attend id (.reading none))) :=
    setTask below (.reads alarm none)
  exact read

theorem actMessage (below : task < hub.tasks.size) {frame envelope : Frame}
    (message : frame.envelope? = some envelope) :
    hub.Credits task (.attend id (.reading alarm)) (hub.act task id frame) := by
  have renewed : Uncounted hub (hub.renewDeadline id hub.timing.heartbeat) :=
    .updatePeer hub id _
  obtain ⟨tasks, ready, same, size⟩ := startDeliveries_eq
    (hub.renewDeadline id hub.timing.heartbeat) envelope
    hub.timing.broadcastWrite
  rw [act_message hub task id message]
  refine before (renewed.trans (.startDeliveries _ envelope _)) (readOn ?_)
  rw [same]
  exact Nat.lt_of_lt_of_le below
    (Nat.le_trans (Nat.le_add_right _ _) (Nat.le_of_eq size.symm))

theorem act (below : task < hub.tasks.size) (frame : Frame) :
    hub.Credits task (.attend id (.reading alarm)) (hub.act task id frame) := by
  have renewed : Uncounted hub (hub.renewDeadline id hub.timing.heartbeat) :=
    .updatePeer hub id _
  cases frame with
  | close =>
      refine before renewed (leave ?_ .closeFrame)
      exact below
  | ping payload =>
      have asked :
          Uncounted hub ((hub.renewDeadline id hub.timing.heartbeat).spawn
          (.pong (some id) payload .unstarted)) := renewed.trans (.spawn _ _)
      refine before asked (readOn ?_)
      rw [size_tasks_spawn]
      exact Nat.lt_succ_of_lt below
  | pong payload =>
      refine before renewed (readOn ?_)
      exact below
  | text content => exact actMessage below rfl
  | binary content => exact actMessage below rfl

theorem takeArrival (below : task < hub.tasks.size) (limit : Alarm) :
    hub.Credits task (.attend id (.reading alarm))
      (hub.takeArrival task id limit) := by
  have taken : Uncounted hub (hub.setSocket id (hub.peer id).socket.take.1) :=
    .updatePeer hub id _
  unfold Hub.takeArrival
  simp only
  split
  · exact setTask below (.reads alarm (some limit))
  · refine before taken (leave ?_ .streamEnded)
    exact below
  · rename_i fault _
    refine before (taken.trans (.note _ rfl)) (leave ?_ (.readError fault))
    exact below
  · rename_i frame _
    refine before (taken.trans (.note _ rfl)) (act ?_ frame)
    exact below

theorem checkDeadline (below : task < hub.tasks.size) (limit : Alarm) :
    hub.Credits task (.attend id (.reading alarm))
      (hub.checkDeadline task id limit) := by
  unfold Hub.checkDeadline
  split
  · split
    · exact readOn below
    · exact leave below .deadlineExpired
  · exact takeArrival below limit

theorem arrive (below : task < hub.tasks.size) :
    hub.Credits task (.attend id .arriving) (hub.arrive task id) := by
  have entered : Uncounted hub
      (if hub.stopping then (hub.register id firstWindow).close id
        else hub.register id firstWindow) := by
    split
    · exact (Uncounted.updatePeer hub id _).trans (.close _ id)
    · exact .updatePeer hub id _
  have isTask := task_arrive hub below id
  rw [Credits, isTask, arrive_eq_enter]
  generalize (if hub.stopping then (hub.register id firstWindow).close id
    else hub.register id firstWindow) = middle at entered
  have noted : Uncounted middle (middle.note (.joined id)) := .note middle rfl
  show Credit _ _ _ _ middle.counters.noteOpened
    (middle.note (.joined id)).tally
  rw [noted.tally, entered.counters, entered.tally]
  exact .opens id

theorem pollSession (below : task < hub.tasks.size) (stage : Attendance) :
    hub.Credits task (.attend id stage) (hub.pollSession task id stage) := by
  cases stage with
  | arriving => exact arrive below
  | reading alarm =>
      show hub.Credits task _ (hub.read task id alarm)
      unfold Hub.read
      split
      · exact leave below .socketClosed
      · cases alarm with
        | some limit => exact checkDeadline below limit
        | none =>
            refine before (.noteAlarm hub) (checkDeadline ?_ _)
            exact below
  | parting closing =>
      have proceeded : Uncounted hub (hub.proceedClosing id task closing).1 :=
        .proceedClosing hub id task closing
      have inside : (Doer.writer task id).Inside hub :=
        Doer.inside_writer below id
      refine settleParting ((Course.proceedClosing hub inside rfl rfl
        closing).inside inside task rfl) (fun later => ?_) ?_ _
      · rw [proceeded.counters, proceeded.tally]
        exact .parts closing later
      · rw [proceeded.counters, proceeded.tally]
        exact .departs closing

end

end Hub.Credits

/-! ### Other tasks -/

namespace Hub.Credits

variable {hub middle : Hub} {task : TaskId} {own later : Task}

theorem plainly (isPlain : own.isPlain = true) (refusing : Refusing hub middle)
    (isTask : middle.task task = later) (stays : later.isPlain = true) :
    hub.Credits task own middle := by
  obtain ⟨refused, same⟩ := refusing.counters
  rw [Credits, isTask, same, refusing.tally]
  exact .plain isPlain stays refused

theorem finishPlainly
    (isPlain : own.isPlain = true) (refusing : Refusing hub middle)
    (below : task < middle.tasks.size) {outcome : Outcome}
    (stays : (Task.finished outcome).isPlain = true) :
    hub.Credits task own (middle.finish task outcome) :=
  plainly isPlain
    (refusing.trans (Uncounted.finish middle task outcome).refusing)
    (task_finish_self middle task outcome below) stays

theorem pollSendClose
    (below : task < hub.tasks.size) (id : PeerId) (stage : Option Closing) :
    hub.Credits task (.sendClose id stage)
      (hub.pollSendClose task id stage) := by
  have inside : (Doer.writer task id).Inside hub := Doer.inside_writer below id
  have closing : Uncounted hub (hub.closeOn task id stage).1 ∧
      task < (hub.closeOn task id stage).1.tasks.size := by
    cases stage with
    | none =>
        exact ⟨.startClosing hub id task,
          (Course.startClosing hub inside rfl rfl).inside inside task rfl⟩
    | some closing =>
        exact ⟨.proceedClosing hub id task closing,
          (Course.proceedClosing hub inside rfl rfl closing).inside
            inside task rfl⟩
  rw [pollSendClose_eq]
  split
  · exact finishPlainly rfl closing.1.refusing closing.2 rfl
  · exact plainly rfl (closing.1.trans (.setTask _ task _)).refusing
      (task_setTask_self _ task _ closing.2) rfl

theorem pollAwaitClose (below : task < hub.tasks.size) {id : PeerId}
    (isTask : hub.task task = .awaitClose id) :
    hub.Credits task (.awaitClose id) (hub.pollAwaitClose task id) := by
  unfold Hub.pollAwaitClose
  split
  · exact finishPlainly rfl (Uncounted.refl hub).refusing below rfl
  · exact idle isTask

theorem pollTally (below : task < hub.tasks.size) {deliveries : List TaskId}
    (isTask : hub.task task = .tally deliveries) :
    hub.Credits task (.tally deliveries) (hub.pollTally task deliveries) := by
  unfold Hub.pollTally
  split
  · exact finishPlainly rfl (Uncounted.refl hub).refusing below rfl
  · exact idle isTask

theorem pollLinger
    (below : task < hub.tasks.size) (span : Span) (stage : Option Alarm) :
    hub.Credits task (.linger span stage) (hub.pollLinger task span stage) := by
  have noted : Uncounted hub (if stage.isNone then hub.noteAlarm else hub) := by
    split
    · exact .noteAlarm hub
    · exact .refl hub
  have inside :
      task < (if stage.isNone then hub.noteAlarm else hub).tasks.size := by
    split <;> exact below
  unfold Hub.pollLinger
  simp only
  generalize (if stage.isNone then hub.noteAlarm else hub) =
    middle at noted inside ⊢
  split
  · exact finishPlainly rfl noted.refusing inside rfl
  · exact plainly rfl (noted.trans (.setTask _ task _)).refusing
      (task_setTask_self _ task _ inside) rfl

section

variable {server : TaskId} {span : Span} {limit : Alarm} {stage : Draining}

theorem boundDrain (below : task < hub.tasks.size) (next : Draining) :
    hub.Credits task (.drain server span stage)
      (hub.boundDrain task server span limit next) := by
  unfold Hub.boundDrain
  split
  · exact finishPlainly rfl (Uncounted.refl hub).refusing below rfl
  · exact plainly rfl (Uncounted.setTask hub task _).refusing
      (task_setTask_self _ task _ below) rfl

theorem checkRegistry (below : task < hub.tasks.size) :
    hub.Credits task (.drain server span stage)
      (hub.checkRegistry task server span limit) := by
  unfold Hub.checkRegistry
  split
  · exact finishPlainly rfl (Uncounted.refl hub).refusing below rfl
  · refine before (.noteAlarm hub) (boundDrain ?_ _)
    exact below

theorem checkServer (below : task < hub.tasks.size) :
    hub.Credits task (.drain server span stage)
      (hub.checkServer task server span limit) := by
  unfold Hub.checkServer
  split
  · exact checkRegistry below
  · exact boundDrain below _

theorem pollDrain (below : task < hub.tasks.size) (stage : Draining) :
    hub.Credits task (.drain server span stage)
      (hub.pollDrain task server span stage) := by
  cases stage with
  | unstarted =>
      refine before (.noteAlarm hub) (checkServer ?_)
      exact below
  | awaitingServer limit => exact checkServer below
  | pausing pause limit =>
      simp only [Hub.pollDrain]
      split
      · exact checkRegistry below
      · exact boundDrain below _

end

/-! ### Conversations -/

section

variable {id : PeerId}

theorem beginSession
    (below : task < middle.tasks.size) (refusing : Refusing hub middle) :
    hub.Credits task (.converse id) (middle.beginSession task id) := by
  have started : Uncounted middle ((middle.updatePeer id fun peer =>
      { peer with holdsSlot := true, attendant := some middle.nextTask }).spawn
        (.attend id .arriving)) := ⟨rfl, rfl⟩
  refine finishPlainly rfl (refusing.trans started.refusing) ?_ rfl
  rw [size_tasks_spawn]
  exact Nat.lt_succ_of_lt below

theorem refuse (below : task < hub.tasks.size) (offence : Http.Offence) :
    hub.Credits task (.converse id) (hub.refuse task id offence) := by
  have replied : Uncounted hub
      (hub.reply id (withConnection (.bare offence.status) "close")) :=
    .updatePeer hub id _
  refine finishPlainly rfl replied.refusing ?_ rfl
  exact below

theorem converseOn
    (below : task < hub.tasks.size) (isTask : hub.task task = .converse id)
    (request : Http.Request) (content : Http.Content) (rest : Octets) :
    hub.Credits task (.converse id)
      (hub.converseOn task id request content rest) := by
  have read : Uncounted hub (hub.updateLink id fun link =>
      { link with unread := (content.behind? rest).getD [] }) := .updatePeer hub
        id _
  have responded :=
    read.refusing.trans (.respond _ request request.isUpgradable)
  obtain ⟨admission, counters, same⟩ :=
    respond_eq (hub.updateLink id fun link =>
      { link with unread := (content.behind? rest).getD [] }) request
        request.isUpgradable
  unfold Hub.converseOn
  simp only
  generalize Http.respond (hub.updateLink id fun link =>
    { link with unread := (content.behind? rest).getD [] }) request
      request.isUpgradable = answer
    at responded same ⊢
  obtain ⟨middle, response, begins⟩ := answer
  change middle = _ at same
  have replied : Uncounted middle
      (middle.reply id (asSent response request.version request.keepsAlive)) :=
    .updatePeer middle id _
  have refusing := responded.trans replied.refusing
  have inside : task <
      (middle.reply id
        (asSent response request.version request.keepsAlive)).tasks.size := by
    rw [same]
    exact below
  have stays :
      (middle.reply id
        (asSent response request.version request.keepsAlive)).task task =
      .converse id := by
    rw [same]
    exact isTask
  simp only
  split
  · exact beginSession inside refusing
  · split
    · exact plainly rfl ⟨refusing.counters, refusing.tally⟩ stays rfl
    · exact finishPlainly rfl refusing inside rfl

theorem pollConversation
    (below : task < hub.tasks.size) (isTask : hub.task task = .converse id) :
    hub.Credits task (.converse id) (hub.pollConversation task id) := by
  have read : Uncounted hub (hub.updateLink id Link.readPipe) :=
    .updatePeer hub id _
  have ending : hub.Credits task (.converse id)
      ((hub.updateLink id Link.readPipe).finish task .over) := by
    refine finishPlainly rfl read.refusing ?_ rfl
    exact below
  unfold Hub.pollConversation
  simp only
  split
  · exact ending
  · split
    · split
      · refine before read (converseOn ?_ ?_ _ _ _)
        · exact below
        · exact isTask
      · refine before read (refuse ?_ _)
        exact below
    · refine before read (refuse ?_ _)
      exact below
    · split
      · exact ending
      · have stays :
          (hub.updateLink id Link.readPipe).task task = .converse id := isTask
        exact plainly rfl read.refusing stays rfl

end

end Hub.Credits

/-- What the turn of any task brings. -/
theorem Hub.credits_goOn
    (hub : Hub) {task : TaskId} (below : task < hub.tasks.size) :
    hub.Credits task (hub.task task) (hub.goOn task) := by
  have takenUp : Uncounted hub { hub with ready := hub.ready.erase task } :=
    ⟨rfl, rfl⟩
  refine .before takenUp ?_
  generalize isStart :
    ({ hub with ready := hub.ready.erase task } : Hub) = start
  have inside : task < start.tasks.size := isStart ▸ below
  have same : start.task task = hub.task task := isStart ▸ rfl
  have polled : hub.goOn task = start.poll task := isStart ▸ rfl
  rw [polled, Hub.poll]
  cases isTask : hub.task task <;> rw [isTask] at same <;> rw [same]
  case attend id stage => exact .pollSession inside stage
  case deliver id frame limit stage => exact .pollDelivery inside stage
  case pong peer payload stage => exact .pollPong inside same
  case send id frame limit stage => exact .pollSend inside stage
  case sendClose id stage => exact .pollSendClose inside id stage
  case awaitClose id => exact .pollAwaitClose inside same
  case tally deliveries => exact .pollTally inside same
  case linger span stage => exact .pollLinger inside span stage
  case drain server limit stage => exact .pollDrain inside stage
  case converse id => exact .pollConversation inside same
  case finished outcome => exact .idle same

end BroadcastHub.Server
