import BroadcastHub.Proofs.Server.Ledger

/-!
# What the turn of a task means for one writing side

When a ready task goes on, then for any given peer it either leaves alone
everything that writers to this peer share, or a write goes on, or the sending
of a close frame does.
-/

namespace BroadcastHub.Server

/-- Whether something happened at the writing side of a peer. -/
def Happening.isAt (id : PeerId) : Happening → Prop
  | .asked _ peer _ => peer = id
  | .answered _ peer _ _ => peer = id
  | .wrote _ peer _ _ => peer = id
  | _ => False

theorem calls_of_elsewhere
    {id : PeerId} {news : List Entry}
    (elsewhere : ∀ entry ∈ news, ¬ entry.happening.isAt id) :
    calls id news = [] := by
  apply account_of_silent
  intro entry member
  have notAt := elsewhere entry member
  cases same : entry.happening <;> rw [same] at notAt <;> try rfl
  exact if_neg notAt

theorem successes_of_elsewhere
    {id : PeerId} {news : List Entry}
    (elsewhere : ∀ entry ∈ news, ¬ entry.happening.isAt id) :
    successes id news = [] := by
  apply account_of_silent
  intro entry member
  have notAt := elsewhere entry member
  cases same : entry.happening <;> rw [same] at notAt <;> try rfl
  case wrote task peer frame result =>
    cases result with
    | ok => exact if_neg notAt
    | error fault => rfl

/-- Where a writer stands that has begun. -/
inductive Post
  /-- It waits for the turn, or the turn has just come to it. -/
  | inLine (limit : Alarm)
  /-- It has asked the socket. -/
  | asking (request : SinkRequest) (operation : Operation) (limit : Alarm)

namespace Post

/-- What a writer has under way at the socket. -/
def operation? : Post → Option (SinkRequest × Operation)
  | inLine _ => none
  | asking request operation _ => some (request, operation)

def limit : Post → Alarm
  | inLine limit => limit
  | asking _ _ limit => limit

end Post

def Writing.post? (frame : Frame) : Writing → Option Post
  | unstarted => none
  | queued limit => some (.inLine limit)
  | underway operation limit => some (.asking (.frame frame) operation limit)

/-- Where the write of a frame stands afterwards. -/
def Written.post? (frame : Frame) : Written → Option Post
  | .finished _ => none
  | .pending stage => stage.post? frame

/-- Where the sending of a close frame stands. -/
def Closing.post (closing : Closing) : Post :=
  .asking .close closing.operation closing.limit

namespace Task

/-- Where a task stands as a writer to a peer. -/
def postAt (id : PeerId) : Task → Option Post
  | attend peer (.parting closing) =>
      if peer = id then some closing.post else none
  | deliver peer frame _ stage => if peer = id then stage.post? frame else none
  | pong peer payload (.writing stage) =>
      if peer = some id then stage.post? (.pong payload) else none
  | send peer frame _ stage => if peer = id then stage.post? frame else none
  | sendClose peer stage => if peer = id then stage.map Closing.post else none
  | _ => none

/-- What a task has under way at a peer's socket. -/
def operationAt (id : PeerId) (task : Task) :
    Option (SinkRequest × Operation) :=
  (task.postAt id).bind Post.operation?

/-- How long a task may take to write its frame. -/
def span? (timing : Timing) : Task → Option Span
  | deliver _ _ limit _ => some limit
  | pong _ _ _ => some timing.pongWrite
  | send _ _ limit _ => some limit
  | _ => none

def frame? : Task → Option Frame
  | deliver _ frame _ _ => some frame
  | pong _ payload _ => some (.pong payload)
  | send _ frame _ _ => some frame
  | _ => none

variable {id : PeerId} {task other : Task}

theorem postAt_of_writes_ne (elsewhere : task.writes? ≠ some id) :
    task.postAt id = none := by
  cases task with
  | attend peer stage =>
      cases stage with
      | parting closing =>
          exact if_neg fun same => elsewhere (congrArg some same)
      | _ => rfl
  | deliver peer frame limit stage =>
      exact if_neg fun same => elsewhere (congrArg some same)
  | pong peer payload stage =>
      cases stage with
      | writing stage => exact if_neg elsewhere
      | _ => rfl
  | send peer frame limit stage =>
      exact if_neg fun same => elsewhere (congrArg some same)
  | sendClose peer stage =>
      exact if_neg fun same => elsewhere (congrArg some same)
  | _ => rfl

theorem operationAt_of_postAt (idle : task.postAt id = none) :
    task.operationAt id = none := by
  rw [operationAt, idle]
  rfl

theorem operationAt_of_post?
    {frame : Frame} {stage : Writing}
    (same : task.postAt id = stage.post? frame) :
    task.operationAt id = stage.operation? frame := by
  rw [operationAt, same]
  cases stage <;> rfl

theorem operationAt_of_closing {closing : Option Closing}
    (same : task.postAt id = closing.map Closing.post) :
    task.operationAt id = Wired.closing? closing := by
  rw [operationAt, same]
  cases closing <;> rfl

theorem postAt_of_finished (finished : task.isFinished = true) :
    task.postAt id = none := by
  cases task with
  | finished outcome => rfl
  | _ => cases finished

theorem postAt_of_mayStart (starts : task.MayStart other) :
    other.postAt id = none := by
  cases task <;> cases other <;> simp only [MayStart] at starts
  case attend.deliver => rw [starts.2]; exact ite_self _
  case attend.pong => rw [starts.2]; rfl
  case converse.attend => rw [starts.2]; rfl

theorem writes?_of_follows (follows : task.Follows other) :
    other.writes? = task.writes? := by
  cases task <;> cases other <;> simp only [Follows] at follows
  case attend.attend => exact congrArg some follows.1
  case deliver.deliver => exact congrArg some follows.1
  case pong.pong => exact follows.1
  case send.send => exact congrArg some follows.1
  case sendClose.sendClose => exact congrArg some follows.1
  case linger.linger => rfl
  case drain.drain => rfl

theorem serves?_of_follows (follows : task.Follows other) :
    other.serves? = task.serves? := by
  cases task <;> cases other <;> simp only [Follows] at follows
  case attend.attend => exact congrArg some follows.1
  all_goals rfl

theorem frame?_of_follows (follows : task.Follows other) :
    other.frame? = task.frame? := by
  cases task <;> cases other <;> simp only [Follows] at follows
  case attend.attend => rfl
  case deliver.deliver => exact congrArg some follows.2.1
  case pong.pong => exact congrArg (some ∘ Frame.pong) follows.2.1
  case send.send => exact congrArg some follows.2.1
  all_goals rfl

end Task

namespace Hub

variable (hub : Hub) (task : TaskId) (id other : PeerId)

theorem station_updatePeer {change : Peer → Peer}
    (turn : ∀ peer, (change peer).turn = peer.turn)
    (socket : ∀ peer, (change peer).socket = peer.socket) :
    (hub.updatePeer id change).station other = hub.station other := by
  unfold station
  rw [peer_updatePeer_keeps hub id other turn,
    peer_updatePeer_keeps hub id other socket]

@[simp] theorem station_finish (outcome : Outcome) :
    (hub.finish task outcome).station id = hub.station id := by
  rw [station, peer_finish]
  rfl

@[simp] theorem station_close :
    (hub.close id).station other = hub.station other := by
  obtain ⟨ready, same⟩ | ⟨same, -⟩ := close_eq hub id
  · rw [same]
    exact station_updatePeer hub id other (fun _ => rfl) fun _ => rfl
  · rw [same]

@[simp] theorem station_setPonging (ponging : Bool) :
    (hub.setPonging id ponging).station other = hub.station other :=
  station_updatePeer hub id other (fun _ => rfl) fun _ => rfl

@[simp] theorem station_finishDelivery (result : Except Fault Unit) :
    (hub.finishDelivery task id result).station other = hub.station other := by
  cases result with
  | ok => exact station_finish _ task other _
  | error fault =>
      rw [finishDelivery, station_finish, station_close]
      rfl

@[simp] theorem station_finishPong (result : Except Fault Unit) :
    (hub.finishPong task id result).station other = hub.station other := by
  cases result with
  | ok =>
      rw [finishPong]
      simp only [finishPing, station_finish]
      exact station_setPonging hub id other false
  | error fault =>
      rw [finishPong]
      simp only [finishPing, station_finish, station_setPonging]

@[simp] theorem chronicle_finishPong (result : Except Fault Unit) :
    (hub.finishPong task id result).chronicle = hub.chronicle := by
  cases result with
  | ok =>
      rw [finishPong]
      simp only [finishPing, chronicle_finish]
      rfl
  | error fault =>
      rw [finishPong]
      simp only [finishPing, chronicle_finish]
      rfl

@[simp] theorem station_finishSession (exit : Exit) :
    (hub.finishSession task id exit).station other = hub.station other := by
  rw [finishSession, station_finish, releaseSlot]
  split
  · exact station_updatePeer hub id other (fun _ => rfl) fun _ => rfl
  · rfl

@[simp] theorem chronicle_finishSession (exit : Exit) :
    (hub.finishSession task id exit).chronicle = hub.chronicle := by
  rw [finishSession, chronicle_finish, releaseSlot]
  split
  · rfl
  · rfl

theorem isFinished_finish (outcome : Outcome) (inside : task < hub.tasks.size) :
    ((hub.finish task outcome).task task).isFinished = true := by
  rw [task_finish_self hub task outcome inside]
  rfl

theorem isFinished_finishPong
    (result : Except Fault Unit) (inside : task < hub.tasks.size) :
    ((hub.finishPong task id result).task task).isFinished = true := by
  cases result with
  | ok => exact isFinished_finish _ task _ inside
  | error fault => exact isFinished_finish _ task _ inside

theorem isFinished_finishSession
    (exit : Exit) (inside : task < hub.tasks.size) :
    ((hub.finishSession task id exit).task task).isFinished = true := by
  refine isFinished_finish _ task _ ?_
  unfold releaseSlot
  split
  · exact inside
  · exact inside

end Hub

/-- What somebody leaves alone who does not write to a peer. -/
structure Aside (id : PeerId) (before after : Hub) : Prop where
  turn : (after.peer id).turn = (before.peer id).turn
  desk : (after.peer id).socket.desk? = (before.peer id).socket.desk?
  sent : (after.peer id).socket.sent? = (before.peer id).socket.sent?
  posts : ∀ other, (after.task other).postAt id = (before.task other).postAt id
  chronicle : ∃ news, after.chronicle = news ++ before.chronicle ∧
    ∀ entry ∈ news, ¬ entry.happening.isAt id

/-- What the turn of a task is for the writing side of a peer. -/
inductive WriteTurn (id : PeerId) (task : TaskId) (before after : Hub) : Prop
  | aside
      (own : (before.task task).postAt id = none)
      (aside : Aside id before after)
  | frame
      {frame : Frame} {span : Span} {stage : Writing} {told : List Happening}
      {station : Station} {written : Written}
      (sends : (before.task task).frame? = some frame)
      (within : (before.task task).span? before.timing = some span)
      (own : (before.task task).postAt id = stage.post? frame)
      (step : FrameStep before.now (before.peer id).closed task id frame
        span stage (before.station id) told station written)
      (stationAfter : after.station id = station)
      (chronicle : after.chronicle =
        entriesAt before.now told ++ before.chronicle)
      (ended : ∀ result, written = .finished result →
        (after.task task).isFinished = true)
      (posts : ∀ other, (after.task other).postAt id =
        if other = task then written.post? frame
          else (before.task other).postAt id)
  | close
      {current next : Option Closing} {told : List Happening}
      {station : Station} {earlier : List Entry}
      (asks : current = none → before.task task = .sendClose id none ∨
        (before.peer id).closed = true ∧
          ∃ alarm, before.task task = .attend id (.reading alarm))
      (own : (before.task task).postAt id = current.map Closing.post)
      (step : CloseStep before.now task id current (before.station id) told
        station next)
      (stationAfter : after.station id = station)
      (chronicle : after.chronicle =
        entriesAt before.now told ++ (earlier ++ before.chronicle))
      (elsewhere : ∀ entry ∈ earlier, ¬ entry.happening.isAt id)
      (ended : next = none → (after.task task).isFinished = true)
      (posts : ∀ other, (after.task other).postAt id =
        if other = task then next.map Closing.post
          else (before.task other).postAt id)

theorem Course.posts
    {doer : Doer} {before after : Hub} (course : Course doer before after)
    (id : PeerId) (starts : ∀ task, doer.starts task → task.postAt id = none)
    (other : TaskId) (notOwn : doer.task ≠ some other) :
    (after.task other).postAt id = (before.task other).postAt id := by
  by_cases below : other < before.tasks.size
  · rw [course.task other below notOwn]
  · rw [Hub.task_of_size_le before other (Nat.not_lt.mp below)]
    by_cases inside : other < after.tasks.size
    · exact starts _ (course.newTask other (Nat.not_lt.mp below) inside).1
    · rw [Hub.task_of_size_le after other (Nat.not_lt.mp inside)]

theorem Course.posts_own
    {doer : Doer} {before after : Hub} {task : TaskId} {id : PeerId}
    {post : Option Post} (course : Course doer before after)
    (running : doer.task = some task)
    (starts : ∀ task, doer.starts task → task.postAt id = none)
    (own : (after.task task).postAt id = post) (other : TaskId) :
    (after.task other).postAt id =
      if other = task then post else (before.task other).postAt id := by
  split
  · rename_i same
    rw [same, own]
  · rename_i different
    refine course.posts id starts other ?_
    rw [running]
    exact fun same => different (Option.some.inj same).symm

namespace WriteTurn

variable {id : PeerId} {task : TaskId} {before after : Hub} {frame : Frame}

/-- What tasks have under way after one of them has gone on with a frame. -/
theorem operations_frame
    {written : Written}
    (posts : ∀ other, (after.task other).postAt id =
      if other = task then written.post? frame
        else (before.task other).postAt id)
    (other : TaskId) :
    (after.task other).operationAt id =
      if other = task then written.operation? frame
        else (before.task other).operationAt id := by
  rw [Task.operationAt, posts]
  split
  · cases written with
    | finished result => rfl
    | pending stage => cases stage <;> rfl
  · rfl

theorem operations_closing
    {closing : Option Closing}
    (posts : ∀ other, (after.task other).postAt id =
      if other = task then closing.map Closing.post
        else (before.task other).postAt id)
    (other : TaskId) :
    (after.task other).operationAt id =
      if other = task then Wired.closing? closing
        else (before.task other).operationAt id := by
  rw [Task.operationAt, posts]
  split
  · cases closing <;> rfl
  · rfl

end WriteTurn

theorem Aside.operations
    {id : PeerId} {before after : Hub} (aside : Aside id before after)
    (other : TaskId) :
    (after.task other).operationAt id = (before.task other).operationAt id := by
  rw [Task.operationAt, aside.posts]
  rfl

/-- Whoever does not write to a peer leaves its writing side alone. -/
theorem Aside.ofCourse
    {doer : Doer} {before after : Hub} {task : TaskId} {id : PeerId}
    (course : Course doer before after) (elsewhere : doer.writes ≠ some id)
    (running : doer.task = some task)
    (starts : ∀ task, doer.starts task → task.postAt id = none)
    (becomes : ∀ task, doer.becomes task → task.postAt id = none)
    (own : (before.task task).postAt id = none) : Aside id before after where
  turn := (course.peer id).turn elsewhere
  desk := (course.peer id).desk elsewhere
  sent := (course.peer id).sent elsewhere
  posts other := by
    have ownAfter : (after.task task).postAt id = none := by
      rcases course.own task running with same | finished | later
      · rw [same, own]
      · exact Task.postAt_of_finished finished
      · exact becomes _ later
    rw [course.posts_own running starts ownAfter other]
    split
    · rename_i same
      rw [same, own]
    · rfl
  chronicle := by
    obtain ⟨news, isNews⟩ := course.news
    refine ⟨news, isNews.chronicle, fun entry member isAt => ?_⟩
    have brings := isNews.brought entry member
    cases same : entry.happening <;> rw [same] at brings isAt <;> try cases isAt
    all_goals exact elsewhere brings.2

/-- A task that writes to a peer and starts nothing. -/
def Doer.writer (task : TaskId) (id : PeerId) : Doer where
  task := some task
  writes := some id
  answers := some id
  starts _ := False
  becomes _ := True

/-- A task that has nothing under way at a peer and starts nothing. -/
def Doer.idler (task : TaskId) (id : PeerId) : Doer where
  task := some task
  answers := some id
  starts _ := False
  becomes other := other.postAt id = none
  renews _ := True

theorem Doer.inside_idler
    {hub : Hub} {task : TaskId} (below : task < hub.tasks.size) (id : PeerId) :
    (idler task id).Inside hub := by
  rintro _ ⟨⟩
  exact below

/-- The task of a session that does not send its close frame. -/
def Doer.reader (task : TaskId) (id : PeerId) : Doer where
  task := some task
  serves := some id
  starts := (Task.attend id .arriving).MayStart
  becomes other := ∃ alarm, other = .attend id (.reading alarm)
  announces := True
  joins peer := peer = id

theorem Doer.attends_reader (task : TaskId) (id : PeerId) :
    (reader task id).Attends task id :=
  ⟨rfl, rfl, fun alarm => ⟨alarm, rfl⟩, fun _ => ⟨rfl, rfl⟩⟩

theorem Doer.inside_reader
    {hub : Hub} {task : TaskId} (below : task < hub.tasks.size) (id : PeerId) :
    (reader task id).Inside hub := by
  rintro _ ⟨⟩
  exact below

/-- The task of a session that sends its close frame. -/
def Doer.parter (task : TaskId) (id : PeerId) : Doer where
  task := some task
  serves := some id
  writes := some id
  starts _ := False
  becomes _ := True

theorem Doer.inside_parter
    {hub : Hub} {task : TaskId} (below : task < hub.tasks.size) (id : PeerId) :
    (parter task id).Inside hub := by
  rintro _ ⟨⟩
  exact below

theorem Doer.inside_writer
    {hub : Hub} {task : TaskId} (below : task < hub.tasks.size) (id : PeerId) :
    (writer task id).Inside hub := by
  rintro _ ⟨⟩
  exact below

namespace WriteTurn

variable {id : PeerId} {task : TaskId} {hub : Hub}

theorem aside_of_elsewhere (elsewhere : (hub.task task).writes? ≠ some id) :
    Aside id hub (hub.goOn task) := by
  refine Aside.ofCourse (Course.goOn hub task) elsewhere rfl
    (fun _ starts => Task.postAt_of_mayStart starts) (fun other follows => ?_)
    (Task.postAt_of_writes_ne elsewhere)
  refine Task.postAt_of_writes_ne ?_
  rw [Task.writes?_of_follows follows]
  exact elsewhere

theorem ofElsewhere (elsewhere : (hub.task task).writes? ≠ some id) :
    WriteTurn id task hub (hub.goOn task) :=
  .aside (Task.postAt_of_writes_ne elsewhere) (aside_of_elsewhere elsewhere)

theorem ofIdle
    {after : Hub} (own : (hub.task task).postAt id = none)
    (course : Course (.idler task id) hub after) :
    WriteTurn id task hub after :=
  .aside own (.ofCourse course (by rintro ⟨⟩) rfl (by rintro _ ⟨⟩)
    (fun _ same => same) own)

/-! ### Frames -/

section

variable {after : Hub} {frame : Frame} {stage : Writing} {payload : Octets}

/-- A write that goes on, whatever the task does with its result. -/
theorem ofPolled
    (start : Hub) (span : Span) (sends : (hub.task task).frame? = some frame)
    (within : (hub.task task).span? hub.timing = some span)
    (own : (hub.task task).postAt id = stage.post? frame)
    (scene : Scene start id hub.now (hub.peer id).closed (hub.station id)
      hub.chronicle)
    (tasks : start.tasks = hub.tasks)
    (course : Course (.writer task id) start after)
    (stationAfter : after.station id =
      (start.pollFrame id task frame span stage).1.station id)
    (chronicle : after.chronicle =
      (start.pollFrame id task frame span stage).1.chronicle)
    (ended : ∀ result, (start.pollFrame id task frame span stage).2 =
      .finished result →
      (after.task task).isFinished = true)
    (goesOn : ∀ stage_, (start.pollFrame id task frame span stage).2 =
      .pending stage_ →
      (after.task task).postAt id = stage_.post? frame) :
    WriteTurn id task hub after := by
  have ownAfter : (after.task task).postAt id =
      (start.pollFrame id task frame span stage).2.post? frame := by
    cases become : (start.pollFrame id task frame span stage).2 with
    | finished result => exact Task.postAt_of_finished (ended result become)
    | pending stage_ => exact goesOn stage_ become
  obtain ⟨told, station, step, seen⟩ :=
    Scene.pollFrame scene task frame span stage
  refine .frame sends within own step (stationAfter.trans seen.station)
    (chronicle.trans seen.chronicle) ended fun other => ?_
  have sameTask : start.task other = hub.task other := by
    rw [Hub.task, tasks]
    rfl
  rw [course.posts_own rfl (by rintro _ ⟨⟩) ownAfter, sameTask]

theorem below_pollFrame
    (start : Hub) (below : task < start.tasks.size) (id : PeerId)
    (frame : Frame) (span : Span) (stage : Writing) :
    task < (start.pollFrame id task frame span stage).1.tasks.size := by
  exact Nat.lt_of_lt_of_le below
    (Course.pollFrame start (Doer.inside_writer below id) rfl rfl frame span
      stage).tasks_le

theorem deliver
    {limit : Span} (inside : id < hub.peers.size)
    (below : task < hub.tasks.size)
    (isTask : hub.task task = .deliver id frame limit stage) :
    WriteTurn id task hub (hub.goOn task) := by
  let start : Hub := { hub with ready := hub.ready.erase task }
  have same : start.task task = .deliver id frame limit stage := isTask
  have polled :
      hub.goOn task = start.pollDelivery task id frame limit stage := by
    show start.poll task = _
    rw [Hub.poll, same]
  have stays := below_pollFrame start below id frame limit stage
  have course : Course (.writer task id) start
      (start.pollDelivery task id frame limit stage) :=
    Course.pollDelivery start (Doer.inside_writer below id) rfl rfl
      (fun _ => trivial) stage
  rw [polled]
  refine ofPolled start limit (by rw [isTask]; rfl) (by rw [isTask]; rfl)
    (by rw [isTask]; exact if_pos rfl) ⟨inside, rfl, rfl, rfl, rfl⟩ rfl course
    ?_ ?_ ?_ ?_
  all_goals
    unfold Hub.pollDelivery
    split <;> rename_i written <;> rw [written] at stays ⊢
  · exact Hub.station_finishDelivery ..
  · rfl
  · exact Hub.chronicle_finishDelivery ..
  · rfl
  · intro _ _
    rw [Hub.task_finishDelivery _ _ _ _ stays]
    rfl
  · rintro _ ⟨⟩
  · rintro _ ⟨⟩
  · rintro _ ⟨⟩
    rw [Hub.task_setTask_self _ _ _ stays]
    exact if_pos rfl

theorem send
    {limit : Span} (inside : id < hub.peers.size)
    (below : task < hub.tasks.size)
    (isTask : hub.task task = .send id frame limit stage) :
    WriteTurn id task hub (hub.goOn task) := by
  let start : Hub := { hub with ready := hub.ready.erase task }
  have same : start.task task = .send id frame limit stage := isTask
  have polled : hub.goOn task = start.pollSend task id frame limit stage := by
    show start.poll task = _
    rw [Hub.poll, same]
  have stays := below_pollFrame start below id frame limit stage
  have course : Course (.writer task id) start
      (start.pollSend task id frame limit stage) :=
    Course.pollSend start (Doer.inside_writer below id) rfl rfl
      (fun _ => trivial) stage
  rw [polled]
  refine ofPolled start limit (by rw [isTask]; rfl) (by rw [isTask]; rfl)
    (by rw [isTask]; exact if_pos rfl) ⟨inside, rfl, rfl, rfl, rfl⟩ rfl course
    ?_ ?_ ?_ ?_
  all_goals
    unfold Hub.pollSend
    split <;> rename_i written <;> rw [written] at stays ⊢
  · exact Hub.station_finish ..
  · rfl
  · exact Hub.chronicle_finish ..
  · rfl
  · intro _ _
    rw [Hub.task_finish_self _ _ _ stays]
    rfl
  · rintro _ ⟨⟩
  · rintro _ ⟨⟩
  · rintro _ ⟨⟩
    rw [Hub.task_setTask_self _ _ _ stays]
    exact if_pos rfl

/-- The write of a heartbeat reply, after everything that precedes it. -/
theorem writePong
    (start : Hub) (below : task < hub.tasks.size)
    (sends : (hub.task task).frame? = some (.pong payload))
    (within : (hub.task task).span? hub.timing = some start.timing.pongWrite)
    (own : (hub.task task).postAt id = stage.post? (.pong payload))
    (scene : Scene start id hub.now (hub.peer id).closed (hub.station id)
      hub.chronicle)
    (tasks : start.tasks = hub.tasks) :
    WriteTurn id task hub (start.writePong task id payload stage) := by
  have inside : task < start.tasks.size := by
    rw [tasks]
    exact below
  have stays :=
    below_pollFrame start inside id (.pong payload) start.timing.pongWrite stage
  have course :
      Course (.writer task id) start (start.writePong task id payload stage) :=
    Course.writePong start (Doer.inside_writer inside id) rfl rfl rfl
      (fun _ _ => trivial) stage
  refine ofPolled start start.timing.pongWrite sends within own scene tasks
    course ?_ ?_ ?_ ?_
  all_goals
    unfold Hub.writePong
    split <;> rename_i written <;> rw [written] at stays ⊢
  · exact Hub.station_finishPong ..
  · rfl
  · exact Hub.chronicle_finishPong ..
  · rfl
  · exact fun _ _ => Hub.isFinished_finishPong _ _ _ _ stays
  · rintro _ ⟨⟩
  · rintro _ ⟨⟩
  · rintro _ ⟨⟩
    rw [Hub.task_setTask_self _ _ _ stays]
    exact if_pos rfl

theorem delayPong
    (start : Hub) (below : task < hub.tasks.size)
    (isTask : hub.task task = .pong (some id) payload .unstarted)
    (course : Course (.idler task id) hub start)
    (scene : Scene start id hub.now (hub.peer id).closed (hub.station id)
      hub.chronicle)
    (tasks : start.tasks = hub.tasks) :
    WriteTurn id task hub (start.delayPong task id payload) := by
  have inside := Doer.inside_idler below id
  have writes : ∀ middle : Hub,
      Scene middle id hub.now (hub.peer id).closed (hub.station id)
      hub.chronicle →
      middle.tasks = hub.tasks → middle.configuration = start.configuration →
      WriteTurn id task hub (middle.writePong task id payload .unstarted) := by
    intro middle seen same configuration
    have timing : middle.timing = hub.timing :=
      congrArg Configuration.timing (configuration.trans course.configuration)
    exact writePong middle below (by rw [isTask]; rfl)
      (by rw [isTask, timing]; rfl) (by rw [isTask]; rfl) seen same
  unfold Hub.delayPong
  split
  · exact writes start scene tasks rfl
  · simp only
    split
    · exact writes _ { scene with } tasks rfl
    · have drawn := course.trans (Course.idle rfl rfl rfl rfl rfl rfl rfl
          (Nat.le_succ _) (Nat.le_refl _) fun _ member => member :
        Course (.idler task id) start { start with drawn := start.drawn + 1 })
          inside
      have noted := drawn.trans (Course.noteAlarm _) inside
      exact ofIdle (by rw [isTask]; rfl)
        (noted.trans (Course.setTask _ rfl rfl) inside)

theorem pong
    {stage : Ponging} (inside : id < hub.peers.size)
    (below : task < hub.tasks.size)
    (isTask : hub.task task = .pong (some id) payload stage) :
    WriteTurn id task hub (hub.goOn task) := by
  let start : Hub := { hub with ready := hub.ready.erase task }
  have takenUp : Course (.idler task id) hub start := Course.takeUp hub rfl
  have scene : Scene start id hub.now (hub.peer id).closed (hub.station id)
      hub.chronicle :=
    ⟨inside, rfl, rfl, rfl, rfl⟩
  have idle := Doer.inside_idler below id
  have polled :
      hub.goOn task = start.pollPong task (some id) payload stage := by
    have same : start.task task = .pong (some id) payload stage := isTask
    show start.poll task = _
    rw [Hub.poll, same]
  rw [polled]
  cases stage with
  | unstarted =>
      have own : (hub.task task).postAt id = none := by rw [isTask]; rfl
      show WriteTurn id task hub (start.startPong task id payload)
      unfold Hub.startPong
      split
      · have renewed :=
          takenUp.trans (Course.renewDeadline start id (.inr trivial)) idle
        simp only
        split
        · have counted := renewed.trans (Course.count _ fun counters =>
            { counters with coalesced := counters.coalesced + 1 }) idle
          exact ofIdle own
            (counted.trans (Course.finish _ (counted.inside idle) rfl _) idle)
        · refine delayPong _ below isTask
            (renewed.trans (Course.setPonging _ rfl true) idle) ?_ rfl
          have later :
              Scene (start.renewDeadline id start.timing.heartbeat) id hub.now
              (hub.peer id).closed (hub.station id) hub.chronicle :=
            scene.keep (fun _ => rfl) (fun _ => rfl) fun _ => rfl
          exact later.keep (fun _ => rfl) (fun _ => rfl) fun _ => rfl
      · exact ofIdle own (takenUp.trans (Course.finish start idle rfl _) idle)
  | delaying ends =>
      simp only [Hub.pollPong]
      split
      · exact writePong start below (by rw [isTask]; rfl) (by rw [isTask]; rfl)
          (by rw [isTask]; rfl) scene rfl
      · exact ofIdle (by rw [isTask]; rfl) takenUp
  | writing stage =>
      exact writePong start below (by rw [isTask]; rfl) (by rw [isTask]; rfl)
        (by rw [isTask]; exact if_pos rfl) scene rfl

end

/-! ### Close frames -/

section

variable {doer : Doer} {middle after : Hub} {current next : Option Closing}
  {told : List Happening} {station : Station}

/-- The sending of a close frame that goes on, whatever the task does with what
has come of it. -/
theorem ofClosing
    (start : Hub) (earlier : List Entry)
    (asks : current = none → hub.task task = .sendClose id none ∨
      (hub.peer id).closed = true ∧
        ∃ alarm, hub.task task = .attend id (.reading alarm))
    (own : (hub.task task).postAt id = current.map Closing.post)
    (step : CloseStep hub.now task id current (hub.station id) told
      station next)
    (seen : Scene middle id hub.now (hub.peer id).closed station
      (entriesAt hub.now told ++ (earlier ++ hub.chronicle)))
    (elsewhere : ∀ entry ∈ earlier, ¬ entry.happening.isAt id)
    (tasks : start.tasks = hub.tasks) (course : Course doer start after)
    (running : doer.task = some task)
    (starts : ∀ task, doer.starts task → task.postAt id = none)
    (stationAfter : after.station id = middle.station id)
    (chronicle : after.chronicle = middle.chronicle)
    (ended : next = none → (after.task task).isFinished = true)
    (goesOn : ∀ closing, next = some closing →
      (after.task task).postAt id = some closing.post) :
    WriteTurn id task hub after := by
  have ownAfter : (after.task task).postAt id = next.map Closing.post := by
    cases next with
    | none => exact Task.postAt_of_finished (ended rfl)
    | some closing => exact goesOn closing rfl
  refine .close asks own step (stationAfter.trans seen.station)
    (chronicle.trans seen.chronicle) elsewhere ended fun other => ?_
  have sameTask : start.task other = hub.task other := by
    rw [Hub.task, tasks]
    rfl
  rw [course.posts_own running starts ownAfter, sameTask]

theorem sendClose
    {stage : Option Closing} (inside : id < hub.peers.size)
    (below : task < hub.tasks.size)
    (isTask : hub.task task = .sendClose id stage) :
    WriteTurn id task hub (hub.goOn task) := by
  let start : Hub := { hub with ready := hub.ready.erase task }
  have scene : Scene start id hub.now (hub.peer id).closed (hub.station id)
      hub.chronicle :=
    ⟨inside, rfl, rfl, rfl, rfl⟩
  have polled : hub.goOn task = start.pollSendClose task id stage := by
    have same : start.task task = .sendClose id stage := isTask
    show start.poll task = _
    rw [Hub.poll, same]
  have course :
      Course (.writer task id) start (start.pollSendClose task id stage) :=
    Course.pollSendClose start (Doer.inside_writer below id) rfl rfl
      (fun _ => trivial) stage
  obtain ⟨told, station, step, seen, stays⟩ : ∃ told station,
      CloseStep hub.now task id stage (hub.station id) told station
      (start.closeOn task id stage).2 ∧
      Scene (start.closeOn task id stage).1 id hub.now
        (hub.peer id).closed station (entriesAt hub.now told ++ hub.chronicle) ∧
      task < (start.closeOn task id stage).1.tasks.size := by
    cases stage with
    | none =>
        obtain ⟨told, station, step, seen⟩ := Scene.startClosing scene task
        exact ⟨told, station, step, seen, Nat.lt_of_lt_of_le below
          (Course.startClosing start (Doer.inside_writer below id) rfl
            rfl).tasks_le⟩
    | some closing =>
        obtain ⟨told, station, step, seen⟩ :=
          Scene.proceedClosing scene task closing
        exact ⟨told, station, step, seen, Nat.lt_of_lt_of_le below
          (Course.proceedClosing start (Doer.inside_writer below id) rfl rfl
            closing).tasks_le⟩
  rw [polled]
  refine ofClosing start [] ?_ ?_ step seen (by rintro _ ⟨⟩) rfl course rfl
    (by rintro _ ⟨⟩) ?_ ?_ ?_ ?_
  · intro unstarted
    rw [← unstarted]
    exact .inl isTask
  · rw [isTask]
    exact if_pos rfl
  all_goals rw [Hub.pollSendClose_eq]
  · split
    · exact Hub.station_finish ..
    · rfl
  · split
    · exact Hub.chronicle_finish ..
    · rfl
  · intro isOver
    rw [isOver]
    exact Hub.isFinished_finish _ _ _ stays
  · intro closing more
    rw [more]
    simp only
    rw [Hub.task_setTask_self _ _ _ stays]
    exact if_pos rfl

/-- What is left to do for a session once its close frame was dealt with. -/
theorem settleParting
    (start : Hub) (earlier : List Entry)
    (asks : current = none →
      (hub.peer id).closed = true ∧
        ∃ alarm, hub.task task = .attend id (.reading alarm))
    (own : (hub.task task).postAt id = current.map Closing.post)
    (step : CloseStep hub.now task id current (hub.station id) told
      station next)
    (seen : Scene middle id hub.now (hub.peer id).closed station
      (entriesAt hub.now told ++ (earlier ++ hub.chronicle)))
    (elsewhere : ∀ entry ∈ earlier, ¬ entry.happening.isAt id)
    (tasks : start.tasks = hub.tasks) (below : task < start.tasks.size)
    (course : Course (.parter task id) start middle) :
    WriteTurn id task hub (middle.settleParting task id next) := by
  have inside := Doer.inside_parter below id
  have stays : task < middle.tasks.size :=
    Nat.lt_of_lt_of_le below course.tasks_le
  have settled :
      Course (.parter task id) start (middle.settleParting task id next) :=
    course.trans (Course.settleParting rfl ⟨rfl, fun _ => trivial⟩ middle
      (course.inside inside) next) inside
  refine ofClosing start earlier (fun unstarted => .inr (asks unstarted)) own
    step seen elsewhere tasks settled rfl (by rintro _ ⟨⟩) ?_ ?_ ?_ ?_
  · cases next with
    | none => exact Hub.station_finishSession ..
    | some closing => rfl
  · cases next with
    | none => exact Hub.chronicle_finishSession ..
    | some closing => rfl
  · rintro rfl
    exact Hub.isFinished_finishSession _ _ _ _ stays
  · rintro closing rfl
    rw [Hub.settleParting, Hub.task_setTask_self _ _ _ stays]
    exact if_pos rfl

theorem attend
    {stage : Attendance} (inside : id < hub.peers.size)
    (below : task < hub.tasks.size)
    (isTask : hub.task task = .attend id stage) :
    WriteTurn id task hub (hub.goOn task) := by
  let start : Hub := { hub with ready := hub.ready.erase task }
  have scene : Scene start id hub.now (hub.peer id).closed (hub.station id)
      hub.chronicle :=
    ⟨inside, rfl, rfl, rfl, rfl⟩
  have polled : hub.goOn task = start.pollSession task id stage := by
    have same : start.task task = .attend id stage := isTask
    show start.poll task = _
    rw [Hub.poll, same]
  have reads : ∀ after, (hub.task task).postAt id = none →
      Course (.reader task id) start after → WriteTurn id task hub after := by
    intro after own course
    have takenUp : Course (.reader task id) hub start := Course.takeUp hub rfl
    refine .aside own (.ofCourse
      (takenUp.trans course (Doer.inside_reader below id)) (by rintro ⟨⟩)
      rfl (fun _ starts => Task.postAt_of_mayStart starts) ?_ own)
    rintro _ ⟨alarm, rfl⟩
    rfl
  have readerInside : (Doer.reader task id).Inside start :=
    Doer.inside_reader below id
  have parterInside : (Doer.parter task id).Inside start :=
    Doer.inside_parter below id
  rw [polled]
  cases stage with
  | arriving =>
      exact reads _ (by rw [isTask]; rfl)
        (Course.arrive (Doer.attends_reader task id) rfl start readerInside)
  | reading alarm =>
      have own : (hub.task task).postAt id = none := by
        rw [isTask]
        rfl
      cases closed : (hub.peer id).closed with
      | false =>
          exact reads _ own
            (Course.readOpen (Doer.attends_reader task id) trivial
            (fun peer frame limit data => ⟨data, rfl⟩) start readerInside
            closed alarm)
      | true =>
          have leaves : start.pollSession task id (.reading alarm) =
              start.leave task id .socketClosed := if_pos closed
          rw [leaves]
          have noted : Course (.parter task id) start
              (start.note (.left id .socketClosed)) :=
            Course.note start rfl (by rintro _ _ _ _ ⟨⟩)
          have gone := noted.trans (Course.unregister _ rfl) parterInside
          have closing := gone.trans
            (Course.startClosing _ (gone.inside parterInside) rfl rfl)
            parterInside
          have goneScene :
              Scene ((start.note (.left id .socketClosed)).unregister id)
              id hub.now (hub.peer id).closed (hub.station id)
              ([⟨hub.now, .left id .socketClosed⟩] ++ hub.chronicle) :=
            Scene.keep (Scene.note scene _) (fun _ => rfl) (fun _ => rfl)
              fun _ => rfl
          obtain ⟨told, station, step, seen⟩ :=
            Scene.startClosing goneScene task
          have ownNone :
              (hub.task task).postAt id = Option.map Closing.post none := own
          refine settleParting start [⟨hub.now, .left id .socketClosed⟩]
            (fun _ => ⟨closed, alarm, isTask⟩) ownNone step seen ?_ rfl
            below closing
          intro entry member
          rw [List.mem_singleton.mp member]
          rintro ⟨⟩
  | parting closing =>
      obtain ⟨told, station, step, seen⟩ :=
        Scene.proceedClosing scene task closing
      refine settleParting start [] (by rintro ⟨⟩) ?_ step seen
        (by rintro _ ⟨⟩) rfl below
        (Course.proceedClosing start parterInside rfl rfl closing)
      rw [isTask]
      exact if_pos rfl

end

/-- What the turn of a ready task is for the writing side of a peer. -/
theorem goOn
    (housed : ∀ peer, (hub.task task).writes? = some peer →
      peer < hub.peers.size)
    (id : PeerId) : WriteTurn id task hub (hub.goOn task) := by
  by_cases writes : (hub.task task).writes? = some id
  · have inside := housed id writes
    have below : task < hub.tasks.size := by
      apply Hub.lt_size_of_task
      intro same
      rw [same] at writes
      cases writes
    cases isTask : hub.task task <;> rw [isTask] at writes
    case attend peer stage =>
      rw [Option.some.inj writes] at isTask
      exact attend inside below isTask
    case deliver peer frame limit stage =>
      rw [Option.some.inj writes] at isTask
      exact deliver inside below isTask
    case pong peer payload stage =>
      have isSome : peer = some id := writes
      rw [isSome] at isTask
      exact pong inside below isTask
    case send peer frame limit stage =>
      rw [Option.some.inj writes] at isTask
      exact send inside below isTask
    case sendClose peer stage =>
      rw [Option.some.inj writes] at isTask
      exact sendClose inside below isTask
    all_goals cases writes
  · exact ofElsewhere writes

end WriteTurn

end BroadcastHub.Server
