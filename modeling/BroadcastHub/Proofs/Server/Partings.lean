import BroadcastHub.Proofs.Server.Attendants

/-!
# The close frame comes last

Where nobody but the tasks of sessions closes sockets, closing is the last thing
that is asked of a socket: its session is closed by then, so no frame follows,
and the one task that serves the session asks for it only once.  The same holds
of close frames as a whole where nobody else writes any.
-/

namespace BroadcastHub.Server

def Call.Closes (call : Call) : Prop := Link.frameOf call.2 = .close

/-- Whether a request closes a socket, or writes a close frame where these
count as well. -/
def SinkRequest.Parts (withFrames : Bool) : SinkRequest → Prop
  | .frame content => withFrames = true ∧ content = .close
  | .close => True

theorem Call.parts_iff (call : Call) : call.2.Parts true ↔ call.Closes := by
  obtain ⟨task, request⟩ := call
  cases request with
  | frame frame => exact ⟨And.right, fun same => ⟨rfl, same⟩⟩
  | close => exact ⟨fun _ => rfl, fun _ => trivial⟩

end BroadcastHub.Server

namespace BroadcastHub.Scenario

open Server

def Action.SendsClose : Action → Prop
  | closeFrame _ => True
  | send _ frame _ => frame = .close
  | broadcast frame _ => frame = .close
  | _ => False

/-- Whether close frames are left to the tasks of sessions. -/
def Manner.LeavesClosing (manner : Manner) : Prop :=
  ∀ action, manner.allows action → ¬ action.SendsClose

/-- Whether an action starts a task that asks for a parting request. -/
def Action.Parts (withFrames : Bool) : Action → Prop
  | closeFrame _ => True
  | send _ frame _ => (SinkRequest.frame frame).Parts withFrames
  | broadcast frame _ => (SinkRequest.frame frame).Parts withFrames
  | _ => False

/-- Whether parting requests are left to the tasks of sessions. -/
def Manner.LeavesParting (manner : Manner) (withFrames : Bool) : Prop :=
  ∀ action, manner.allows action → ¬ action.Parts withFrames

theorem Manner.LeavesClosing.leavesParting
    {manner : Manner} (leaves : manner.LeavesClosing) :
    manner.LeavesParting true := by
  intro action allowed parts
  refine leaves action allowed ?_
  cases action with
  | closeFrame id => exact trivial
  | send id frame limit => exact parts.2
  | broadcast frame limit => exact parts.2
  | _ => cases parts

end BroadcastHub.Scenario

namespace BroadcastHub.Server

open Scenario

/-- Only sessions close sockets, and whatever else might be asked of a socket
afterwards, there is nobody to ask it. -/
structure Partings (withFrames : Bool) (hub : Hub) : Prop where
  frames : ∀ number frame, (hub.task number).frame? = some frame →
    ¬ (SinkRequest.frame frame).Parts withFrames
  senders : ∀ number id stage, hub.task number ≠ .sendClose id stage
  last :
    ∀ id earlier call later, calls id hub.chronicle = earlier ++ call :: later →
      call.2.Parts withFrames → later = [] ∧ (hub.peer id).closed = true ∧
        ∀ number, (hub.task number).serves? = some id →
        (hub.task number).operationAt id ≠ none

/-- A write asks the socket at most once, and only while the session is open. -/
theorem FrameStep.calls_told
    {now : Instant} {closed : Bool} {task : TaskId} {id : PeerId}
    {frame : Frame} {span : Span} {stage : Writing} {before after : Station}
    {told : List Happening} {written : Written}
    (step : FrameStep now closed task id frame span stage before told after
      written) :
    calls id (entriesAt now told) = [] ∧
        (∀ next, written = .pending next → next.hasAsked = stage.hasAsked) ∨
      closed = false ∧ stage.hasAsked = false ∧
        (∀ next, written = .pending next → next.hasAsked = true) ∧
        calls id (entriesAt now told) = [(task, .frame frame)] := by
  cases step with
  | refused isClosed => exact .inl ⟨rfl, by rintro _ ⟨⟩⟩
  | refusedInTurn isClosed held => exact .inl ⟨rfl, by rintro _ ⟨⟩⟩
  | answeredAtOnce early isOpen held started =>
      refine .inr ⟨isOpen, early, by rintro _ ⟨⟩, ?_⟩
      simp [entriesAt, calls, account, Happening.callsTo]
  | cutAtOnce early isOpen held started late =>
      refine .inr ⟨isOpen, early, by rintro _ ⟨⟩, ?_⟩
      simp [entriesAt, calls, account, Happening.callsTo]
  | begun early isOpen held started due inTime =>
      refine .inr ⟨isOpen, early, by rintro _ ⟨⟩; rfl, ?_⟩
      simp [entriesAt, calls, account, Happening.callsTo]
  | cutInLine early waits late => exact .inl ⟨rfl, by rintro _ ⟨⟩⟩
  | inLine early waits due inTime =>
      exact .inl ⟨rfl, by rintro _ ⟨⟩; exact early.symm⟩
  | answered proceeded => exact .inl ⟨rfl, by rintro _ ⟨⟩⟩
  | cut proceeded late => exact .inl ⟨rfl, by rintro _ ⟨⟩⟩
  | goesOn proceeded inTime => exact .inl ⟨rfl, by rintro _ ⟨⟩; rfl⟩

theorem CloseStep.calls_told
    {now : Instant} {task : TaskId} {id : PeerId}
    {current next : Option Closing} {before after : Station}
    {told : List Happening}
    (step : CloseStep now task id current before told after next) :
    calls id (entriesAt now told) = [] ∨
      current = none ∧ calls id (entriesAt now told) = [(task, .close)] := by
  cases step with
  | busy taken => exact .inl rfl
  | answeredAtOnce free started =>
      exact .inr ⟨rfl, by simp [entriesAt, calls, account, Happening.callsTo]⟩
  | cutAtOnce free started =>
      exact .inr ⟨rfl, by simp [entriesAt, calls, account, Happening.callsTo]⟩
  | begun free started =>
      exact .inr ⟨rfl, by simp [entriesAt, calls, account, Happening.callsTo]⟩
  | answered proceeded => exact .inl rfl
  | cut proceeded => exact .inl rfl
  | goesOn proceeded => exact .inl rfl

namespace Task

variable {task other : Task} {id : PeerId}

theorem frame?_of_mayStart (starts : task.MayStart other) {frame : Frame}
    (sends : other.frame? = some frame) (withFrames : Bool) :
    ¬ (SinkRequest.frame frame).Parts withFrames := by
  rintro ⟨-, rfl⟩
  cases task <;> cases other <;> simp only [MayStart] at starts
  case attend.deliver peer stage toPeer frame limit toStage =>
    rw [Option.some.inj sends] at starts
    cases starts.1
  case attend.pong => cases sends
  case converse.attend => cases sends

theorem ne_sendClose_of_mayStart (starts : task.MayStart other) (peer : PeerId)
    (stage : Option Closing) : other ≠ .sendClose peer stage := by
  rintro rfl
  cases task <;> cases starts

theorem ne_sendClose_of_follows (follows : task.Follows other)
    (notBefore : ∀ peer stage, task ≠ .sendClose peer stage) (peer : PeerId)
    (stage : Option Closing) : other ≠ .sendClose peer stage := by
  rintro rfl
  cases task with
  | sendClose before beforeStage => exact notBefore before beforeStage rfl
  | _ => cases follows

theorem serves?_of_frame? {frame : Frame} (sends : task.frame? = some frame) :
    task.serves? = none := by
  cases task with
  | attend peer stage => cases sends
  | converse peer => cases sends
  | _ => rfl

end Task

namespace Partings

variable {withFrames : Bool} {before after hub : Hub} {task : TaskId}
  {id : PeerId}

theorem start (configuration : Configuration) (chance : Nat → Nat) :
    Partings withFrames { Hub.start configuration with chance } := by
  have none : ∀ number,
      ({ Hub.start configuration with chance } : Hub).task number = default :=
    fun number =>
      Hub.task_of_size_le { Hub.start configuration with chance } number
        (Nat.zero_le number)
  refine ⟨fun number frame same => ?_, fun number id stage same => ?_, ?_⟩
  · rw [none number] at same
    cases same
  · rw [none number] at same
    cases same
  · intro id earlier call later same
    have empty : calls id [] = earlier ++ call :: later := same
    exact absurd empty (by simp [calls])

/-- Where closing is left to sessions, nobody outside starts a task that does
it. -/
theorem plain_of_starts
    {manner : Manner} {peers : Nat} {task : Task}
    (leaves : manner.LeavesParting withFrames)
    (starts : (manner.outsider peers).starts task) :
    (∀ frame, task.frame? = some frame →
      ¬ (SinkRequest.frame frame).Parts withFrames) ∧
      ∀ id stage, task ≠ .sendClose id stage := by
  obtain ⟨action, allowed, started, -⟩ := starts
  have leavesParting := leaves action allowed
  cases action <;> simp only [Action.Starts] at started
  case send peer frame limit =>
    subst started
    exact ⟨fun _ same => Option.some.inj same ▸ leavesParting, by rintro _ _ ⟨⟩⟩
  case ping =>
    obtain ⟨known, -, rfl⟩ := started
    refine ⟨?_, by rintro _ _ ⟨⟩⟩
    rintro _ ⟨⟩ ⟨-, ⟨⟩⟩
  case broadcast frame limit =>
    rcases started with ⟨peer, rfl⟩ | ⟨deliveries, rfl⟩
    · exact ⟨fun _ same => Option.some.inj same ▸ leavesParting, by
        rintro _ _ ⟨⟩⟩
    · exact ⟨by rintro _ ⟨⟩, by rintro _ _ ⟨⟩⟩
  case closeFrame => exact absurd trivial leavesParting
  case awaitClose =>
    subst started
    exact ⟨by rintro _ ⟨⟩, by rintro _ _ ⟨⟩⟩
  case wait =>
    rcases started with rfl | ⟨serving, rfl⟩
    · exact ⟨by rintro _ ⟨⟩, by rintro _ _ ⟨⟩⟩
    · exact ⟨by rintro _ ⟨⟩, by rintro _ _ ⟨⟩⟩

/-- While somebody serves a session who is not parting from it, no close frame
has been asked for. -/
theorem noneBefore
    (partings : Partings withFrames before)
    (serves : (before.task task).serves? = some id)
    (idle : (before.task task).operationAt id = none) (call : Call)
    (member : call ∈ calls id before.chronicle) :
    ¬ call.2.Parts withFrames := by
  intro closes
  obtain ⟨earlier, later, same⟩ := List.append_of_mem member
  exact (partings.last id earlier call later same closes).2.2 task serves idle

/-- Nothing comes after a close frame, however few of the calls are looked
at. -/
theorem last_of_sublist
    (partings : Partings withFrames hub) {some_ earlier later : List Call}
    {call : Call} (isSublist : some_.Sublist (calls id hub.chronicle))
    (same : some_ = earlier ++ call :: later)
    (closes : call.2.Parts withFrames) : later = [] := by
  rw [same] at isSublist
  obtain ⟨front, back, whole, -, inBack⟩ := List.append_sublist_iff.mp isSublist
  obtain ⟨upTo, rest, backIs, member, inRest⟩ := List.cons_sublist_iff.mp inBack
  obtain ⟨first, second, upToIs⟩ := List.append_of_mem member
  have split : calls id hub.chronicle =
      (front ++ first) ++ call :: (second ++ rest) := by
    rw [whole, backIs, upToIs]
    simp
  have none := (partings.last id _ _ _ split closes).1
  rw [(List.append_eq_nil_iff.mp none).2] at inRest
  exact List.sublist_nil.mp inRest

theorem noneWhileOpen
    (partings : Partings withFrames before)
    (isOpen : (before.peer id).closed = false) (call : Call)
    (member : call ∈ calls id before.chronicle) :
    ¬ call.2.Parts withFrames := by
  intro closes
  obtain ⟨earlier, later, same⟩ := List.append_of_mem member
  have closed := (partings.last id earlier call later same closes).2.1
  rw [isOpen] at closed
  cases closed

/-- Where one more call follows others without close frames, only that one may
send one. -/
theorem last_of_append
    {asked earlier later : List Call} {own call : Call}
    (none : ∀ call ∈ asked, ¬ call.2.Parts withFrames)
    (same : asked ++ [own] = earlier ++ call :: later)
    (closes : call.2.Parts withFrames) : later = [] ∧ call = own := by
  rcases List.eq_nil_or_concat later with rfl | ⟨more, last, rfl⟩
  · have single : [own] = [call] := List.append_inj_right' same rfl
    exact ⟨rfl, (List.cons.inj single).1.symm⟩
  · exfalso
    have split : asked ++ [own] = (earlier ++ call :: more) ++ [last] := by
      simp [same]
    have front : asked = earlier ++ call :: more :=
      (List.append_inj' split rfl).1
    exact none call (by rw [front]; simp) closes

/-- Tasks that write no close frames go on to write none. -/
theorem tasks_goOn (partings : Partings withFrames hub) (task : TaskId) :
    (∀ number frame, ((hub.goOn task).task number).frame? = some frame →
        ¬ (SinkRequest.frame frame).Parts withFrames) ∧
      ∀ number id stage, (hub.goOn task).task number ≠ .sendClose id stage := by
  have course := Course.goOn hub task
  have kept :
      ∀ number, (∀ frame, ((hub.goOn task).task number).frame? = some frame →
        ¬ (SinkRequest.frame frame).Parts withFrames) ∧
      ∀ id stage, (hub.goOn task).task number ≠ .sendClose id stage := by
    intro number
    have before := And.intro (partings.frames number) (partings.senders number)
    by_cases below : number < hub.tasks.size
    · by_cases own : task = number
      · subst own
        rcases course.own task rfl with same | finished | follows
        · rw [same]
          exact before
        · refine ⟨fun frame same => ?_, fun id stage same => ?_⟩
          · cases isTask :
              (hub.goOn task).task task <;> rw [isTask] at same finished <;>
              first | cases finished; done | cases same
          · rw [same] at finished
            cases finished
        · refine ⟨?_, Task.ne_sendClose_of_follows follows before.2⟩
          rw [Task.frame?_of_follows follows]
          exact before.1
      · rw [course.task number below fun same => own (Option.some.inj same)]
        exact before
    · by_cases inside : number < (hub.goOn task).tasks.size
      · have starts := (course.newTask number (Nat.not_lt.mp below) inside).1
        exact ⟨fun _ sends => Task.frame?_of_mayStart starts sends withFrames,
          Task.ne_sendClose_of_mayStart starts⟩
      · rw [Hub.task_of_size_le _ number (Nat.not_lt.mp inside)]
        exact ⟨by rintro _ ⟨⟩, by rintro _ _ ⟨⟩⟩
  exact ⟨fun number => (kept number).1, fun number => (kept number).2⟩

/-- Those who serve a session after a turn: the task itself, others that have
served it before, or the session that follows a conversation. -/
theorem server_goOn (task : TaskId) {number : TaskId}
    (serves : ((hub.goOn task).task number).serves? = some id) :
    number = task ∧ (hub.task task).serves? = some id ∨
      number ≠ task ∧ (hub.goOn task).task number = hub.task number ∨
      hub.task task = .converse id := by
  have course := Course.goOn hub task
  by_cases own : number = task
  · subst own
    refine .inl ⟨rfl, ?_⟩
    rcases course.own number rfl with same | finished | follows
    · exact same ▸ serves
    · rw [Task.serves?_of_finished finished] at serves
      cases serves
    · exact (Task.serves?_of_follows follows).symm.trans serves
  · by_cases below : number < hub.tasks.size
    · exact .inr (.inl ⟨own, course.task number below fun same =>
        own (Option.some.inj same).symm⟩)
    · by_cases inside : number < (hub.goOn task).tasks.size
      · have starts := (course.newTask number (Nat.not_lt.mp below) inside).1
        exact .inr (.inr (Task.converse_of_mayStart starts serves))
      · rw [Hub.task_of_size_le _ number (Nat.not_lt.mp inside)] at serves
        cases serves

/-- A turn in which nothing is asked. -/
theorem last_of_unasked
    (partings : Partings withFrames hub) (task : TaskId)
    (quiet : calls id (hub.goOn task).chronicle = calls id hub.chronicle)
    (own : ∀ call ∈ calls id hub.chronicle, call.2.Parts withFrames →
      (hub.task task).serves? = some id →
      ((hub.goOn task).task task).serves? = some id →
      ((hub.goOn task).task task).operationAt id ≠ none)
    (earlier later : List Call) (call : Call)
    (same : calls id (hub.goOn task).chronicle = earlier ++ call :: later)
    (closes : call.2.Parts withFrames) :
    later = [] ∧ ((hub.goOn task).peer id).closed = true ∧
      ∀ number, ((hub.goOn task).task number).serves? = some id →
        ((hub.goOn task).task number).operationAt id ≠ none := by
  rw [quiet] at same
  obtain ⟨isLast, closed, parting⟩ :=
    partings.last id earlier call later same closes
  refine ⟨isLast, ((Course.goOn hub task).peer id).closed closed,
    fun number serves => ?_⟩
  have member : call ∈ calls id hub.chronicle := by
    rw [same]
    simp
  rcases server_goOn task serves with ⟨rfl, before⟩ | ⟨-, before⟩ | converses
  · exact own call member closes before serves
  · rw [before] at serves ⊢
    exact parting number serves
  · have before : (hub.task task).serves? = some id := by
      rw [converses]
      rfl
    have idle : (hub.task task).operationAt id = none := by
      rw [converses]
      rfl
    exact absurd closes (partings.noneBefore before idle call member)

theorem goOn
    (housed : Housed hub) (attended : Attended hub)
    (partings : Partings withFrames hub) (task : TaskId) :
    Partings withFrames (hub.goOn task) := by
  obtain ⟨frames, senders⟩ := partings.tasks_goOn task
  refine ⟨frames, senders, fun id earlier call later same closes => ?_⟩
  cases WriteTurn.goOn (fun peer writes =>
      housed.tasks task peer (Task.regards_of_writes writes)) id with
  | aside own aside =>
      obtain ⟨news, chronicle, elsewhere⟩ := aside.chronicle
      replace own := Task.operationAt_of_postAt own
      refine partings.last_of_unasked task ?_ ?_ earlier later call same closes
      · rw [chronicle, calls_append, calls_of_elsewhere elsewhere,
          List.append_nil]
      · intro other member closesToo serves
        exact absurd closesToo (partings.noneBefore serves own other member)
  | @frame frame span stage told station written sends within own step
      stationAfter chronicle ended posts =>
      rcases step.calls_told with ⟨unasked, -⟩ | ⟨isOpen, -, -, asked⟩
      · -- Who sends a frame of data serves no session.
        refine partings.last_of_unasked task ?_ ?_ earlier later call
          same closes
        · rw [chronicle, calls_append, unasked, List.append_nil]
        · intro other member closesToo serves
          rw [Task.serves?_of_frame? sends] at serves
          cases serves
      · rw [chronicle, calls_append, asked] at same
        obtain ⟨-, isOwn⟩ :=
          last_of_append (partings.noneWhileOpen isOpen) same closes
        rw [isOwn] at closes
        exact absurd closes (partings.frames task frame sends)
  | @close current next told station before asks own step stationAfter chronicle
      elsewhere ended posts =>
      have operations := WriteTurn.operations_closing posts
      have parts : ((hub.goOn task).task task).serves? = some id →
          ((hub.goOn task).task task).operationAt id ≠ none := by
        intro serves
        cases next with
        | none =>
            rw [Task.serves?_of_finished (ended rfl)] at serves
            cases serves
        | some closing =>
            rw [operations task, if_pos rfl]
            rintro ⟨⟩
      have grown : calls id (hub.goOn task).chronicle =
          calls id hub.chronicle ++ calls id (entriesAt hub.now told) := by
        rw [chronicle, calls_append, calls_append, calls_of_elsewhere elsewhere,
          List.append_nil]
      rcases step.calls_told with unasked | ⟨isNone, asked⟩
      · refine partings.last_of_unasked task ?_ ?_ earlier later call
          same closes
        · rw [grown, unasked, List.append_nil]
        · exact fun _ _ _ _ serves => parts serves
      · -- The close frame is asked for by the task of the session, which had
        -- asked for none before.
        rcases asks isNone with sender | ⟨closed, alarm, isTask⟩
        · exact absurd sender (partings.senders task id none)
        · have serves : (hub.task task).serves? = some id := by
            rw [isTask]
            rfl
          rw [isNone] at own
          replace own := Task.operationAt_of_postAt own
          rw [grown, asked] at same
          obtain ⟨isLast, -⟩ :=
            last_of_append (partings.noneBefore serves own) same closes
          refine ⟨isLast, ((Course.goOn hub task).peer id).closed closed,
            fun number server => ?_⟩
          rcases server_goOn task server with
            ⟨rfl, -⟩ | ⟨other, sameTask⟩ | converses
          · exact parts server
          · rw [sameTask] at server
            exact absurd (attended.sole server serves) other
          · rw [isTask] at converses
            cases converses

theorem outside
    {manner : Manner} {peers : Nat} (leaves : manner.LeavesParting withFrames)
    (partings : Partings withFrames before)
    (outside : Outside (manner.outsider peers) before after) :
    Partings withFrames after := by
  obtain ⟨news, isNews, peerOutside, -⟩ := outside.news
  have kept : ∀ number, after.task number = before.task number ∨
      (manner.outsider peers).starts (after.task number) ∨
      after.task number = default := by
    intro number
    by_cases below : number < before.tasks.size
    · exact .inl (outside.task number below)
    · by_cases inside : number < after.tasks.size
      · exact
          .inr (.inl (outside.newTask number (Nat.not_lt.mp below) inside).1)
      · exact
          .inr (.inr (Hub.task_of_size_le after number (Nat.not_lt.mp inside)))
  refine ⟨fun number => ?_, fun number id stage => ?_,
    fun id earlier call later same closes => ?_⟩
  · rcases kept number with same | starts | none
    · rw [same]
      exact partings.frames number
    · exact (plain_of_starts leaves starts).1
    · rw [none]
      rintro _ ⟨⟩
  · rcases kept number with same | starts | none
    · rw [same]
      exact partings.senders number id stage
    · exact (plain_of_starts leaves starts).2 id stage
    · rw [none]
      rintro ⟨⟩
  · have elsewhere : ∀ entry ∈ news, ¬ entry.happening.isAt id := by
      intro entry member isAt
      have brings := isNews.brought entry member
      cases isKind : entry.happening <;> rw [isKind] at brings isAt <;>
        first | cases brings; done | cases isAt
    rw [isNews.chronicle, calls_append, calls_of_elsewhere elsewhere,
      List.append_nil] at same
    obtain ⟨isLast, closed, parting⟩ :=
      partings.last id earlier call later same closes
    refine ⟨isLast, (peerOutside id).closed closed, fun number serves => ?_⟩
    rcases kept number with isSame | starts | none
    · rw [isSame] at serves ⊢
      exact parting number serves
    · rw [Task.serves?_of_starts starts] at serves
      cases serves
    · rw [none] at serves
      cases serves

/-- Somebody who has just joined has not been sent a close frame. -/
theorem last_of_join
    (housed : Housed hub) (partings : Partings withFrames hub) (after : Hub)
    (chronicle : after.chronicle = hub.chronicle)
    (peer : ∀ id, id ≠ hub.peers.size → after.peer id = hub.peer id)
    (task : ∀ number id, id ≠ hub.peers.size →
      (after.task number).serves? = some id →
      after.task number = hub.task number)
    (id : PeerId) (earlier : List Call) (call : Call) (later : List Call)
    (same : calls id after.chronicle = earlier ++ call :: later)
    (closes : call.2.Parts withFrames) :
    later = [] ∧ (after.peer id).closed = true ∧
      ∀ number, (after.task number).serves? = some id →
        (after.task number).operationAt id ≠ none := by
  rw [chronicle] at same
  by_cases joined : id = hub.peers.size
  · have elsewhere : ∀ entry ∈ hub.chronicle, ¬ entry.happening.isAt id := by
      intro entry member isAt
      refine absurd joined (Nat.ne_of_lt ?_)
      exact housed.told entry member id (Happening.concerns_of_isAt isAt)
    rw [calls_of_elsewhere elsewhere] at same
    exact absurd same (by simp)
  · obtain ⟨isLast, closed, parting⟩ :=
      partings.last id earlier call later same closes
    refine ⟨isLast, by rw [peer id joined]; exact closed,
      fun number serves => ?_⟩
    have sameTask := task number id joined serves
    rw [sameTask] at serves ⊢
    exact parting number serves

/-- Every turnover leaves the close frame of a session the last one. -/
theorem turn
    {manner : Manner} (leaves : manner.LeavesParting withFrames)
    (housed : Housed before) (attended : Attended before)
    (partings : Partings withFrames before)
    (turnover : Turnover (manner.outsider before.peers.size) before after) :
    Partings withFrames after := by
  cases turnover with
  | outside outside => exact partings.outside leaves outside
  | register added =>
      refine ⟨partings.frames, partings.senders,
        last_of_join housed partings _ rfl ?_ ?_⟩
      · intro id different
        rw [Hub.peer_addPeer, if_neg different]
      · exact fun number id different serves => rfl
  | @serve socket task added opened serves =>
      have kept : ∀ number, ((before.addPeer
          { socket, attendant := some before.nextTask }).spawn task).task
          number =
          if number = before.tasks.size then task else before.task number :=
        fun number => Hub.task_spawn (before.addPeer _) task number
      refine ⟨fun number => ?_, fun number id stage => ?_,
        last_of_join housed partings _ rfl ?_ ?_⟩
      · rw [kept]
        split
        · rcases serves with rfl | rfl <;> rintro _ ⟨⟩
        · exact partings.frames number
      · rw [kept]
        split
        · rcases serves with rfl | rfl <;> rintro ⟨⟩
        · exact partings.senders number id stage
      · intro id different
        exact (Hub.peer_addPeer before id _).trans (if_neg different)
      · intro number id different isServer
        rw [kept] at isServer ⊢
        split at isServer
        · exact absurd (Housed.eq_of_opens serves
            (Task.regards_of_serves isServer)) different
        · rw [if_neg ‹_›]
  | go isReady => exact goOn housed attended partings _
  | @tick later still forward whole passes =>
      obtain ⟨ready, same, -⟩ := Hub.ring_eq { before with now := later }
      rw [same]
      exact ⟨partings.frames, partings.senders, partings.last⟩

end Partings

end BroadcastHub.Server
