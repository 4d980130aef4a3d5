import BroadcastHub.Proofs.Server.SessionTurns

/-!
# What a session hears

A session takes the frames of its client one after the other as its decoder
finds them, in whatever pieces they arrive.  When nothing can go on, it has
taken all that have been finished.
-/

namespace BroadcastHub.Server

open Scenario

/-- A session at its opening: its task, its decoder, and the octets that have
arrived for it. -/
structure Opening where
  task : TaskId
  peer : PeerId
  decoder : Wire.Decoder
  atHand : Octets

namespace Opening

variable (opening : Opening) (story : List Entry)

/-- What the client has written for the session. -/
def stream : Octets := opening.atHand ++ fed opening.peer story

def finished : List Frame :=
  (opening.decoder.drain (opening.stream story)).frames

end Opening

/-- Whether a session has not ended. -/
def Stays (id : PeerId) (story : List Entry) : Prop :=
  ∀ time exit, ⟨time, .left id exit⟩ ∉ story

/-- What has been taken and what is there to be found is what the client has
written. -/
def Heard (opening : Opening) (hub : Hub) (story : List Entry) : Prop :=
  ∃ intake, (hub.peer opening.peer).socket.intake? = some intake ∧
    ∀ more, opening.decoder.drain (opening.stream story ++ more) =
      { intake.found more with
        frames := taken opening.peer story ++ (intake.found more).frames }

/-- Whether there is no frame to be found. -/
def Hub.IsEmptyFor (hub : Hub) (id : PeerId) : Prop :=
  ∃ intake, (hub.peer id).socket.intake? = some intake ∧
    (intake.found []).frames = []

/-- How far a session has come with what its client has written. -/
inductive Hearing (opening : Opening) (hub : Hub) (story : List Entry) : Prop
  | arriving (isTask : hub.task opening.task = .attend opening.peer .arriving)
      (stays : Stays opening.peer story) (heard : Heard opening hub story)
  | reading
      {alarm : Option Alarm}
      (isTask : hub.task opening.task = .attend opening.peer (.reading alarm))
      (stays : Stays opening.peer story) (heard : Heard opening hub story)
      (awake : opening.task ∈ hub.ready ∨ alarm.isSome = true ∧
        hub.IsEmptyFor opening.peer)
  | ended (isOver : hub.IsOver opening.task opening.peer)
      (left : ∃ time exit, ⟨time, .left opening.peer exit⟩ ∈ story)

section

variable {id : PeerId} {task : TaskId} {hub : Hub} {news story : List Entry}

theorem stays_append (news_stay : Stays id news) (stays : Stays id story) :
    Stays id (news ++ story) := by
  intro time exit member
  rcases List.mem_append.mp member with late | early
  · exact news_stay time exit late
  · exact stays time exit early

theorem stays_of_quiet (quiet : ∀ entry ∈ news, ¬ entry.happening.Paces id) :
    Stays id news :=
  fun _ _ member => quiet _ member rfl

theorem Acts.accounts
    {before after : Hub} {frame : Frame} {acts : List Entry} {time : Instant}
    (did : Acts id before after frame acts)
    (told : news = acts ++ [⟨time, .took id (.ok frame)⟩]) :
    fed id news = [] ∧ taken id news = [frame] ∧ Stays id news := by
  subst told
  cases did with
  | message =>
      exact ⟨rfl, by simp [taken, Happening.takenBy], by simp [Stays]⟩
  | ping => exact ⟨rfl, by simp [taken, Happening.takenBy], by simp [Stays]⟩
  | pong => exact ⟨rfl, by simp [taken, Happening.takenBy], by simp [Stays]⟩

end

namespace Heard

variable {opening : Opening} {before after : Hub} {news story : List Entry}

/-- The octets that arrive stand behind those that were there. -/
theorem extend
    (heard : Heard opening before story)
    (untaken : taken opening.peer news = [])
    (intake : ∀ intake, (before.peer opening.peer).socket.intake? =
      some intake →
      ∃ inbound, (after.peer opening.peer).socket.intake? =
        some { intake with inbound } ∧
        inbound.content = intake.inbound.content ++ fed opening.peer news) :
    Heard opening after (news ++ story) := by
  obtain ⟨first, isFirst, found⟩ := heard
  obtain ⟨inbound, isLater, content⟩ := intake first isFirst
  refine ⟨_, isLater, fun more => ?_⟩
  have longer : Intake.found { first with inbound } more =
      first.found (fed opening.peer news ++ more) := by
    simp only [Intake.found, content, List.append_assoc]
  have stream : opening.stream (news ++ story) ++ more =
      opening.stream story ++ (fed opening.peer news ++ more) := by
    simp only [Opening.stream, fed_append, List.append_assoc]
  rw [longer, stream, found, taken_append, untaken, List.append_nil]

/-- A frame that is taken is the first of those that are there. -/
theorem take
    {frame : Frame} (heard : Heard opening before story)
    (took : taken opening.peer news = [frame])
    (unfed : fed opening.peer news = [])
    (intake : ∀ intake, (before.peer opening.peer).socket.intake? =
      some intake →
      ∃ later, (after.peer opening.peer).socket.intake? = some later ∧
        ∀ more, intake.found more =
          { later.found more with
            frames := frame :: (later.found more).frames }) :
    Heard opening after (news ++ story) := by
  obtain ⟨first, isFirst, found⟩ := heard
  obtain ⟨later, isLater, same⟩ := intake first isFirst
  refine ⟨later, isLater, fun more => ?_⟩
  have stream : opening.stream (news ++ story) = opening.stream story := by
    rw [Opening.stream, fed_append, unfed, List.append_nil]
    rfl
  rw [stream, found, same, taken_append, took, List.append_assoc]
  rfl

theorem look
    (heard : Heard opening before story)
    (intake : ∀ intake, (before.peer opening.peer).socket.intake? =
      some intake →
      ∃ later, (after.peer opening.peer).socket.intake? = some later ∧
        (∀ more, intake.found more = later.found more) ∧
        (later.found []).frames = []) :
    Heard opening after story ∧ after.IsEmptyFor opening.peer := by
  obtain ⟨first, isFirst, found⟩ := heard
  obtain ⟨later, isLater, same, none⟩ := intake first isFirst
  refine ⟨⟨later, isLater, fun more => ?_⟩, later, isLater, none⟩
  rw [found, same]

theorem keep
    (heard : Heard opening before story)
    (intake : (after.peer opening.peer).socket.intake? =
      (before.peer opening.peer).socket.intake?) :
    Heard opening after story := by
  obtain ⟨first, isFirst, found⟩ := heard
  exact ⟨first, intake.trans isFirst, found⟩

/-- Nothing is taken that has not been finished, and nothing in another
order. -/
theorem finished_eq (heard : Heard opening before story) :
    ∃ intake, (before.peer opening.peer).socket.intake? = some intake ∧
      opening.finished story =
        taken opening.peer story ++ (intake.found []).frames := by
  obtain ⟨intake, isIntake, found⟩ := heard
  refine ⟨intake, isIntake, ?_⟩
  have whole := found []
  rw [List.append_nil] at whole
  rw [Opening.finished, whole]

theorem all_taken
    (heard : Heard opening before story)
    (empty : before.IsEmptyFor opening.peer) :
    taken opening.peer story = opening.finished story := by
  obtain ⟨intake, isIntake, same⟩ := heard.finished_eq
  obtain ⟨other, isOther, none⟩ := empty
  have both : intake = other := Option.some.inj (isIntake.symm.trans isOther)
  rw [same, both, none, List.append_nil]

end Heard

namespace Hearing

variable {outsider : Outsider} {opening : Opening} {before after : Hub}
  {news story : List Entry}

theorem ofArriving (hearing : Hearing opening before story)
    (isTask : before.task opening.task = .attend opening.peer .arriving) :
    Stays opening.peer story ∧ Heard opening before story := by
  cases hearing with
  | arriving other stays heard => exact ⟨stays, heard⟩
  | reading other => cases isTask.symm.trans other
  | ended isOver => exact absurd isOver (Hub.not_isOver_of_arriving isTask)

theorem ofReading
    {alarm : Option Alarm} (hearing : Hearing opening before story)
    (isTask : before.task opening.task =
      .attend opening.peer (.reading alarm)) :
    Stays opening.peer story ∧ Heard opening before story ∧
      (opening.task ∈ before.ready ∨ alarm.isSome = true ∧
        before.IsEmptyFor opening.peer) := by
  cases hearing with
  | arriving other => cases isTask.symm.trans other
  | reading other stays heard awake =>
      cases isTask.symm.trans other
      exact ⟨stays, heard, awake⟩
  | ended isOver => exact absurd isOver (Hub.not_isOver_of_reading isTask)

theorem heard
    (hearing : Hearing opening before story)
    (stays : Stays opening.peer story) : Heard opening before story := by
  cases hearing with
  | arriving isTask _ heard => exact heard
  | reading isTask _ heard => exact heard
  | ended isOver left =>
      obtain ⟨time, exit, member⟩ := left
      exact absurd member (stays time exit)

/-- Whatever others do, what arrives meanwhile wakes a session that reads. -/
theorem aside
    (hearing : Hearing opening before story)
    (quiet : ∀ entry ∈ news, ¬ entry.happening.Paces opening.peer)
    (sameTask : after.task opening.task = before.task opening.task)
    (kept : opening.task ∈ before.ready → opening.task ∈ after.ready)
    (wakes : Reached opening.peer news →
      Play.isReader (after.task opening.task) = true →
      opening.task ∈ after.ready)
    (intake : ∀ intake, (before.peer opening.peer).socket.intake? =
      some intake →
      ∃ inbound, (after.peer opening.peer).socket.intake? =
        some { intake with inbound } ∧
        inbound.content = intake.inbound.content ++ fed opening.peer news) :
    Hearing opening after (news ++ story) := by
  have untaken := taken_of_quiet quiet
  have newsStay := stays_of_quiet quiet
  cases hearing with
  | arriving isTask stays heard =>
      exact .arriving (sameTask.trans isTask) (stays_append newsStay stays)
        (heard.extend untaken intake)
  | @reading alarm isTask stays heard awake =>
      have later := sameTask.trans isTask
      refine .reading later (stays_append newsStay stays)
        (heard.extend untaken intake) ?_
      by_cases reached : Reached opening.peer news
      · refine .inl (wakes reached ?_)
        rw [later]
        rfl
      · rcases awake with ready | ⟨waits, first, isFirst, none⟩
        · exact .inl (kept ready)
        · obtain ⟨inbound, isLater, content⟩ := intake first isFirst
          refine .inr ⟨waits, _, isLater, ?_⟩
          rw [fed_of_not_reached reached, List.append_nil] at content
          simp only [Intake.found, content]
          exact none
  | ended isOver left =>
      obtain ⟨time, exit, member⟩ := left
      refine .ended ?_ ⟨time, exit, List.mem_append.mpr (.inr member)⟩
      rw [Hub.IsOver, sameTask]
      exact isOver

/-- What every turn preserves. -/
theorem turn (hearing : Hearing opening before story)
    (turn : SessionTurn outsider opening.task opening.peer before after news) :
    Hearing opening after (news ++ story) := by
  cases turn with
  | aside now quiet sameTask kept wakes closes intake =>
      exact hearing.aside quiet sameTask kept wakes intake
  | ticks still silent forward whole passes tasks peers =>
      subst silent
      have sameTask : after.task opening.task = before.task opening.task := by
        rw [Hub.task, tasks]
        rfl
      have samePeer : after.peer opening.peer = before.peer opening.peer := by
        rw [Hub.peer, peers]
        rfl
      -- For what a session hears the clock is somebody else.
      refine hearing.aside (by rintro _ ⟨⟩) sameTask (fun ready => ?_)
        (fun reached => absurd reached (not_reached_nil _))
        fun intake isIntake => ?_
      · rw [still] at ready
        cases ready
      · rw [samePeer]
        exact ⟨intake.inbound, isIntake, (List.append_nil _).symm⟩
  | ended now quiet wasOver isOver =>
      cases hearing with
      | arriving isTask =>
          exact absurd wasOver (Hub.not_isOver_of_arriving isTask)
      | reading isTask =>
          exact absurd wasOver (Hub.not_isOver_of_reading isTask)
      | ended _ left =>
          obtain ⟨time, exit, member⟩ := left
          exact .ended isOver ⟨time, exit, List.mem_append.mpr (.inr member)⟩
  | arrives now wasTask isTask awake told socket deadline =>
      obtain ⟨stays, heard⟩ := hearing.ofArriving wasTask
      have intake :
          ∀ intake, (before.peer opening.peer).socket.intake? = some intake →
          ∃ inbound, (after.peer opening.peer).socket.intake? =
            some { intake with inbound } ∧
            inbound.content =
              intake.inbound.content ++ fed opening.peer news := by
        intro intake same
        refine ⟨intake.inbound, ?_, ?_⟩
        · rw [socket]
          exact same
        · rw [told]
          exact (List.append_nil _).symm
      refine .reading isTask (stays_append ?_ stays) (heard.extend ?_ intake)
        (.inl awake)
      · intro time exit member
        rw [told] at member
        cases List.mem_singleton.mp member
      · rw [told]
        rfl
  | reads now wasTask step =>
      obtain ⟨stays, heard, -⟩ := hearing.ofReading wasTask
      cases step with
      | moves isOpen rung moved isTask awake silent peer =>
          subst silent
          exact .reading isTask stays (heard.keep (by rw [peer])) (.inl awake)
      | waits isOpen early found isTask silent intake =>
          subst silent
          obtain ⟨later, empty⟩ := heard.look intake
          exact .reading isTask stays later (.inr ⟨rfl, empty⟩)
      | takes isOpen early found isTask awake did told intake =>
          obtain ⟨unfed, taken_, newsStay⟩ := did.accounts told
          exact .reading isTask (stays_append newsStay stays)
            (heard.take taken_ unfed intake) (.inl awake)
      | @leaves exit last quiet ends isOver told =>
          refine .ended isOver ⟨before.now, exit, ?_⟩
          rw [told]
          simp

/-- When nothing can go on, a session that has not ended has taken all that its
client has finished. -/
theorem all_taken
    (hearing : Hearing opening before story) (prompt : Prompt before)
    (still : before.ready = []) (stays : Stays opening.peer story) :
    taken opening.peer story = opening.finished story := by
  cases hearing with
  | arriving isTask =>
      have begun := prompt.begun still opening.task
      rw [isTask] at begun
      cases begun
  | reading isTask _ heard awake =>
      rcases awake with ready | ⟨-, empty⟩
      · rw [still] at ready
        cases ready
      · exact heard.all_taken empty
  | ended isOver left =>
      obtain ⟨time, exit, member⟩ := left
      exact absurd member (stays time exit)

end Hearing

end BroadcastHub.Server
