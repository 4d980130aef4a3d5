import BroadcastHub.Proofs.Scenario.SessionLoop
import BroadcastHub.Proofs.Server.Attention
import BroadcastHub.Proofs.Wire.ClientMessage

/-!
# When a client counts as silent

A session is given up only if its client has finished no frame for a whole
heartbeat.  What counts is what the session takes: heartbeat requests, replies
and whole messages.  A client that writes a long message in many fragments
finishes nothing before the last of them, and is given up although it writes
all the time.
-/

namespace BroadcastHub.Server

open Scenario

section

variable {id : PeerId} {sign : Instant} {news story : List Entry}

theorem lastSign_append (quiet : ∀ entry ∈ news, ¬ entry.happening.Paces id) :
    lastSign id (news ++ story) = lastSign id story := by
  induction news with
  | nil => rfl
  | cons entry rest induction =>
      have noSign : ¬ entry.happening.isSign id = true := fun isSign =>
        quiet entry List.mem_cons_self (Happening.paces_of_isSign isSign)
      rw [List.cons_append, lastSign, if_neg noSign]
      exact induction fun other member =>
        quiet other (List.mem_cons_of_mem entry member)

theorem lastSign_append_of_quiet
    (quiet : ∀ entry ∈ story, ¬ entry.happening.Paces id) :
    lastSign id (news ++ story) = lastSign id news := by
  induction news with
  | nil =>
      have same := @lastSign_append id story [] quiet
      rwa [List.append_nil] at same
  | cons entry rest induction =>
      rw [List.cons_append, lastSign, lastSign, induction]

/-- The last sign is one of those that were given, and no other came later. -/
theorem lastSign_spec
    (inTurn : story.Pairwise fun newer older => older.time ≤ newer.time)
    (isLast : lastSign id story = some sign) :
    (∃ entry ∈ story, entry.time = sign) ∧
      ∀ entry ∈ story, entry.happening.isSign id = true →
      entry.time ≤ sign := by
  induction story with
  | nil => cases isLast
  | cons entry older induction =>
      obtain ⟨above, inTurn⟩ := List.pairwise_cons.mp inTurn
      rw [lastSign] at isLast
      split at isLast
      · cases isLast
        refine ⟨⟨entry, List.mem_cons_self, rfl⟩, fun other member _ => ?_⟩
        rcases List.mem_cons.mp member with rfl | early
        · exact Nat.le_refl _
        · exact above other early
      · rename_i noSign
        obtain ⟨⟨given, listed, time⟩, latest⟩ := induction inTurn isLast
        refine ⟨⟨given, List.mem_cons_of_mem entry listed, time⟩,
          fun other member isSign => ?_⟩
        rcases List.mem_cons.mp member with rfl | early
        · exact absurd isSign noSign
        · exact latest other early isSign

/-- Whatever a session took, it had taken by its last sign. -/
theorem taken_upTo_of_latest
    {time : Instant}
    (latest : ∀ entry ∈ story, entry.happening.isSign id = true →
      entry.time ≤ sign)
    (notBefore : sign ≤ time) :
    taken id (upTo time story) = taken id story := by
  refine account_upTo fun entry member later => ?_
  cases happened : entry.happening with
  | took peer item =>
      cases item with
      | error fault => rfl
      | ok frame =>
          refine if_neg fun own => ?_
          have isSign : entry.happening.isSign id = true := by
            rw [happened]
            exact decide_eq_true own
          have inTime := Nat.le_trans (latest entry member isSign) notBefore
          exact absurd later (Nat.not_lt.mpr inTime)
  | _ => rfl

end

/-- How a session that has ended came to its end. -/
theorem LoopStory.of_left
    {id : PeerId} {timing : Timing} {story : List Entry} {state : LoopState}
    (sofar : LoopStory id timing story state) {time : Instant} {exit : Exit}
    (told : ⟨time, .left id exit⟩ ∈ story) :
    state = .ended ∧ ∃ newer last older deadline,
      story = newer ++ ⟨time, .left id exit⟩ :: (last ++ older) ∧
      (∀ entry ∈ newer, ¬ entry.happening.Paces id) ∧ Stays id older ∧
      LoopStory id timing older (.reading deadline) ∧
      Farewell id deadline time exit last := by
  induction sofar generalizing time exit with
  | start => cases told
  | @aside entry story state sofar quiet induction =>
      rcases List.mem_cons.mp told with rfl | earlier
      · exact absurd rfl quiet
      · obtain ⟨ended, newer, last, older, deadline, rfl, isQuiet, rest⟩ :=
          induction earlier
        refine ⟨ended, entry :: newer, last, older, deadline, rfl,
          fun other member => ?_, rest⟩
        rcases List.mem_cons.mp member with rfl | late
        · exact quiet
        · exact isQuiet other late
  | opened sofar induction =>
      rcases List.mem_cons.mp told with same | earlier
      · cases same
      · cases (induction earlier).1
  | message sofar early isMessage induction =>
      rcases List.mem_cons.mp told with same | taken
      · cases same
      · rcases List.mem_cons.mp taken with same | earlier
        · cases same
        · cases (induction earlier).1
  | heartbeat sofar early isControl stays induction =>
      rcases List.mem_cons.mp told with same | earlier
      · cases same
      · cases (induction earlier).1
  | @ended at_ deadline reason last story sofar farewell induction =>
      have stays : Stays id story :=
        fun time exit earlier => by cases (induction earlier).1
      have untold : ⟨time, .left id exit⟩ ∉ last := by
        cases farewell <;> simp
      rcases List.mem_cons.mp told with same | earlier
      · cases same
        exact ⟨rfl, [], last, story, deadline, rfl, by rintro _ ⟨⟩, stays,
          sofar, farewell⟩
      · rcases List.mem_append.mp earlier with taken | before
        · exact absurd taken untold
        · exact absurd before (stays time exit)

end BroadcastHub.Server

namespace BroadcastHub.Scenario

open Server Wire

variable {manner : Manner} {configuration : Configuration} {play last : Play}
  {task : TaskId} {id : PeerId} {link : Link} {story : List Entry}

/-- The octets of a link that a session will take from its opening on. -/
def openingOf (task : TaskId) (id : PeerId) (link : Link) : Opening :=
  ⟨task, id, link.decoder, link.unread ++ link.inbound.content⟩

theorem Run.attentive
    (run : Run manner (fun _ => True) configuration play)
    (isTask : play.hub.task task = .attend id .arriving)
    (connected : (play.hub.peer id).socket = .link link)
    (moves : Moves manner play last) :
    ∃ story, last.hub.chronicle = story ++ play.hub.chronicle ∧
      Attentive (openingOf task id link) play.hub.now last.hub story := by
  induction moves with
  | refl =>
      exact ⟨[], rfl, .ofArriving run.attended run.housed isTask connected⟩
  | tail moves move induction =>
      obtain ⟨story, grown, attentive⟩ := induction
      have sofar := run.moves moves
      obtain ⟨news, grows, attentive⟩ :=
        attentive.turn sofar.attended sofar.prompt (.ofMove move)
      refine ⟨news ++ story, ?_, attentive⟩
      rw [grows, grown, List.append_assoc]

/-- Before its opening nothing is told of a session. -/
theorem Run.quiet_of_arriving
    (run : Run manner (fun _ => True) configuration play)
    (leaves : manner.LeavesDeadlines)
    (isTask : play.hub.task task = .attend id .arriving) :
    ∀ entry ∈ play.hub.chronicle, ¬ entry.happening.Paces id := by
  have serves : (play.hub.task task).serves? = some id := by
    rw [isTask]
    rfl
  obtain ⟨state, -, stands⟩ := run.looping leaves id
  cases stands with
  | unopened unopened => exact unopened.silent
  | reading seated isReading =>
      cases seated.attendant.symm.trans (run.attended task id serves)
      cases isTask.symm.trans isReading
  | ended seated isOver =>
      cases seated.attendant.symm.trans (run.attended task id serves)
      exact absurd isOver (Hub.not_isOver_of_arriving isTask)

/-- What the story of a session tells that was given up at a time.  Its last
sign of life came a heartbeat before.  In between its client has finished
nothing: what had been finished at any time was what the session ever took. -/
def Silenced
    (opening : Opening) (heartbeat : Span) (story : List Entry)
    (time : Instant) : Prop :=
  ∃ sign, lastSign opening.peer story = some sign ∧
    time = (sign.after heartbeat).tick ∧
    ∀ between, sign ≤ between → between < time →
      opening.finished (upTo between story) = taken opening.peer story

/-- A session that had been attentive until it was given up was silent for a
heartbeat. -/
theorem silenced_of_attentive
    {opening : Opening} {since : Instant} {hub : Hub} {timing : Timing}
    {newer older before : List Entry} {time deadline : Instant}
    (attentive : Attentive opening since hub
      (newer ++ ⟨time, .left opening.peer .deadlineExpired⟩ :: older))
    (quiet : ∀ entry ∈ newer, ¬ entry.happening.Paces opening.peer)
    (stays : Stays opening.peer (older ++ before))
    (unopened : ∀ entry ∈ before, ¬ entry.happening.Paces opening.peer)
    (sofar : LoopStory opening.peer timing (older ++ before)
      (.reading deadline))
    (isDue : time = deadline.tick) :
    Silenced opening timing.heartbeat
      (newer ++ ⟨time, .left opening.peer .deadlineExpired⟩ :: older) time := by
  let ending : Entry := ⟨time, .left opening.peer .deadlineExpired⟩
  have whole : newer ++ ending :: older = (newer ++ [ending]) ++ older :=
    List.append_cons newer ending older
  obtain ⟨sign, isLast, sameDeadline⟩ := sofar.deadline_eq rfl
  rw [lastSign_append_of_quiet unopened] at isLast
  obtain ⟨-, inTurn, above⟩ := List.pairwise_append.mp attentive.inTurn
  obtain ⟨⟨given, listed, isSign⟩, latest⟩ :=
    lastSign_spec (List.pairwise_cons.mp inTurn).2 isLast
  have wholeSign :
      lastSign opening.peer (newer ++ ending :: older) = some sign :=
    (lastSign_append quiet).trans isLast
  have lateSilent : taken opening.peer (newer ++ [ending]) = [] := by
    rw [taken_append, taken_of_quiet quiet, List.append_nil]
    rfl
  refine ⟨sign, wholeSign, by rw [isDue, sameDeadline],
    fun between notBefore early => ?_⟩
  have late : ∀ entry ∈ newer ++ [ending], between < entry.time := by
    intro entry member
    rcases List.mem_append.mp member with isNewer | isEnding
    · exact Nat.lt_of_lt_of_le early
        (above entry isNewer ending List.mem_cons_self)
    · rw [List.mem_singleton.mp isEnding]
      exact early
  have sinceLe : since ≤ between := by
    have member : given ∈ newer ++ ending :: older :=
      List.mem_append_right _ (List.mem_cons_of_mem _ listed)
    exact Nat.le_trans (isSign ▸ (attentive.times given member).1) notBefore
  have beforeNow : between < hub.now :=
    Nat.lt_of_lt_of_le early
      (attentive.times ending (List.mem_append_right _ List.mem_cons_self)).2
  have stayed :
      Stays opening.peer (upTo between (newer ++ ending :: older)) := by
    intro time exit member
    rw [whole, upTo_append_of_late late] at member
    exact stays time exit (List.mem_append_left _ (List.mem_filter.mp member).1)
  calc opening.finished (upTo between (newer ++ ending :: older))
      = taken opening.peer (upTo between (newer ++ ending :: older)) :=
        (attentive.caughtUp between sinceLe beforeNow stayed).symm
    _ = taken opening.peer (upTo between older) := by
      rw [whole, upTo_append_of_late late]
    _ = taken opening.peer older := taken_upTo_of_latest latest notBefore
    _ = taken opening.peer (newer ++ ending :: older) := by
        rw [whole, taken_append, lateSilent, List.append_nil]

/-- A session is given up only if its client has finished nothing for a whole
heartbeat. -/
theorem silenced_of_expired
    (leaves : manner.LeavesDeadlines)
    (run : Run manner (fun _ => True) configuration play)
    (isTask : play.hub.task task = .attend id .arriving)
    (connected : (play.hub.peer id).socket = .link link)
    (moves : Moves manner play last)
    (grown : last.hub.chronicle = story ++ play.hub.chronicle) {time : Instant}
    (expired : ⟨time, .left id .deadlineExpired⟩ ∈ story) :
    Silenced (openingOf task id link) configuration.timing.heartbeat story
      time := by
  obtain ⟨other, same, attentive⟩ := run.attentive isTask connected moves
  cases List.append_cancel_right (grown.symm.trans same)
  have unopened := run.quiet_of_arriving leaves isTask
  have later := run.moves moves
  obtain ⟨state, told, -⟩ := later.looping leaves id
  rw [Hub.timing, later.configuration_eq] at told
  have isTold : ⟨time, .left id .deadlineExpired⟩ ∈ last.hub.chronicle := by
    rw [grown]
    exact List.mem_append_left _ expired
  obtain ⟨-, newer, taking, older, deadline, split, quiet, stays, sofar,
    farewell⟩ :=
    told.of_left isTold
  cases farewell with
  | expired isDue =>
      rw [grown] at split
      rcases List.append_eq_append_iff.mp split with
        ⟨front, -, earlier⟩ | ⟨front, isStory, isRest⟩
      · -- The end would have been told before the opening.
        have member :
            ⟨time, .left id .deadlineExpired⟩ ∈ play.hub.chronicle := by
          rw [earlier]
          exact List.mem_append_right _ List.mem_cons_self
        exact absurd rfl (unopened _ member)
      · cases front with
        | nil =>
            have member :
                ⟨time, .left id .deadlineExpired⟩ ∈ play.hub.chronicle := by
              rw [← List.nil_append play.hub.chronicle, ← isRest]
              exact List.mem_cons_self
            exact absurd rfl (unopened _ member)
        | cons entry rest =>
            obtain ⟨rfl, rfl⟩ := List.cons.inj isRest
            subst isStory
            exact silenced_of_attentive attentive quiet stays unopened
              sofar isDue

/-- A client is never given up that finishes a frame within each heartbeat, be
it a heartbeat request, a reply or the last fragment of a message. -/
theorem kept_while_finishing
    (leaves : manner.LeavesDeadlines)
    (run : Run manner (fun _ => True) configuration play)
    (isTask : play.hub.task task = .attend id .arriving)
    (connected : (play.hub.peer id).socket = .link link)
    (moves : Moves manner play last)
    (grown : last.hub.chronicle = story ++ play.hub.chronicle)
    (finishes : ∀ since, play.hub.now ≤ since →
      (since.after configuration.timing.heartbeat).tick ≤ last.hub.now →
        ∃ between, since ≤ between ∧
          between < (since.after configuration.timing.heartbeat).tick ∧
          (openingOf task id link).finished (upTo between story) ≠
            (openingOf task id link).finished (upTo since story))
    (time : Instant) :
    ⟨time, .left id .deadlineExpired⟩ ∉ last.hub.chronicle := by
  intro told
  rw [grown] at told
  rcases List.mem_append.mp told with expired | earlier
  · obtain ⟨other, same, attentive⟩ := run.attentive isTask connected moves
    cases List.append_cancel_right (grown.symm.trans same)
    obtain ⟨sign, isLast, isDue, silent⟩ :=
      silenced_of_expired leaves run isTask connected moves grown expired
    obtain ⟨⟨given, listed, isSign⟩, -⟩ := lastSign_spec attentive.inTurn isLast
    have opened : play.hub.now ≤ sign :=
      isSign ▸ (attentive.times given listed).1
    have inTime : time ≤ last.hub.now := (attentive.times _ expired).2
    subst isDue
    obtain ⟨between, notBefore, early, finished⟩ := finishes sign opened inTime
    have first :=
      silent sign (Nat.le_refl _) (Nat.lt_of_le_of_lt notBefore early)
    exact finished ((silent between notBefore early).trans first.symm)
  · exact absurd rfl (run.quiet_of_arriving leaves isTask _ earlier)

/-! ### A client that is kept -/

deriving instance DecidableEq for Happening

deriving instance DecidableEq for Entry

/-- Runs of a server that waits for three tenths of a second. -/
def hasty : Configuration := { timing := { heartbeat := .ofMillis 300 } }

/-- A client has connected. -/
def Play.dialled : Play := ((Play.start hasty).perform (.wire 64 none)).2

/-- Its session has been opened. -/
def Play.picked : Play := Play.dialled.withHub fun hub => hub.goOn 0

theorem Run.dialled : Run .visits (fun _ => True) hasty .dialled := by
  have started : Run .visits (fun _ => True) hasty (Play.start hasty) :=
    .start _ trivial
  exact started.move (.act (.inl ⟨64, none, rfl⟩) rfl (by rintro _ ⟨⟩)) trivial

theorem Manner.leavesDeadlines_visits : Manner.visits.LeavesDeadlines := by
  refine ⟨fun id window => ?_, fun id payload => ?_⟩
  all_goals rintro (⟨room, limit, same⟩ | ⟨content, limit, same⟩) <;> cases same

theorem Moves.picked : Moves .visits .dialled .picked :=
  Relation.ReflTransGen.single (.goOn 0 (by decide) (by rintro ⟨⟩))

/-- A reply for which nobody has asked. -/
def beat : ClientFrame := ⟨true, .pong, ⟨0, 0, 0, 0⟩, .inline, []⟩

/-- Two tenths of a second have passed. -/
def Play.resting : Play :=
  let waiting := Play.picked.withHub fun hub => hub.goOn 0
  waiting.withHub fun hub => { hub with now := 200000000 }

/-- The client has written the reply, and the session has taken it. -/
def Play.refreshed : Play :=
  let written :=
    Play.resting.withHub fun hub => Play.clientWrites hub 0 beat.octets
  let taken := written.withHub fun hub => hub.goOn 0
  taken.withHub fun hub => hub.goOn 0

/-- The first deadline is over. -/
def Play.kept : Play :=
  Play.refreshed.withHub fun hub => { hub with now := 400000000 }

theorem Moves.kept : Moves .visits .dialled .kept := by
  have waiting := Moves.picked.tail (.goOn 0 (by decide) (by rintro ⟨⟩))
  have resting : Moves .visits .dialled .resting := by
    refine waiting.tail (.tickQuietly ?_ ?_ (by decide) ?_ ?_)
    all_goals decide +kernel
  have written : Moves .visits .dialled (Play.resting.withHub fun hub =>
      Play.clientWrites hub 0 beat.octets) :=
    resting.tail (.write_of_any (by decide +kernel))
  have taken := written.tail (.goOn 0 (by decide +kernel) (by rintro ⟨⟩))
  have refreshed : Moves .visits .dialled .refreshed :=
    taken.tail (.goOn 0 (by decide +kernel) (by rintro ⟨⟩))
  refine refreshed.tail (.tickQuietly ?_ ?_ (by decide) ?_ ?_)
  all_goals decide +kernel

/-- The connection of the client. -/
def dialledLink : Link := .connect 64 hasty.maxMessageSize

/-- The client has finished a frame in time. -/
theorem kept_while_finishing_of_kept :
    (Play.dialled.hub.peer 0).socket = .link dialledLink ∧
      (∀ since, Play.dialled.hub.now ≤ since →
        (since.after (.ofMillis 300)).tick ≤ Play.kept.hub.now →
          ∃ between, since ≤ between ∧
            between < (since.after (.ofMillis 300)).tick ∧
            (openingOf 0 0 dialledLink).finished
                (upTo between Play.kept.hub.chronicle) ≠
              (openingOf 0 0 dialledLink).finished
                (upTo since Play.kept.hub.chronicle)) ∧
      ∀ time, ⟨time, .left 0 .deadlineExpired⟩ ∉ Play.kept.hub.chronicle := by
  have told : Play.kept.hub.chronicle =
      [⟨200000000, .took 0 (.ok (.pong []))⟩,
        ⟨200000000, .fed 0 beat.octets⟩] ++ [⟨0, .joined 0⟩] := by
    decide +kernel
  have finishes : ∀ since, Play.dialled.hub.now ≤ since →
      (since.after (.ofMillis 300)).tick ≤ Play.kept.hub.now →
        ∃ between, since ≤ between ∧
          between < (since.after (.ofMillis 300)).tick ∧
          (openingOf 0 0 dialledLink).finished
              (upTo between Play.kept.hub.chronicle) ≠
            (openingOf 0 0 dialledLink).finished
              (upTo since Play.kept.hub.chronicle) := by
    intro (since : Nat) _ inTime
    have shift : Instant.after since (.ofMillis 300) = since + 300000000 :=
      if_neg (by decide)
    have least : since + 300000000 ≤ Instant.tick (since + 300000000) :=
      Instant.le_tick _
    rw [shift] at inTime ⊢
    have early : since + 300000000 ≤ 400000000 := Nat.le_trans least inTime
    -- Up to the earlier instant nothing is told but the opening.
    have before : upTo since Play.kept.hub.chronicle = [⟨0, .joined 0⟩] := by
      rw [told, upTo_append_of_late, upTo_of_past]
      · simp
      · simp only [List.forall_mem_cons]
        refine ⟨?_, ?_, by simp⟩
        · show since < 200000000
          omega
        · show since < 200000000
          omega
    refine ⟨200000000, show since ≤ 200000000 by omega,
      Nat.lt_of_lt_of_le (show 200000000 < since + 300000000 by omega) least,
      ?_⟩
    rw [before]
    decide +kernel
  exact ⟨rfl, finishes,
    kept_while_finishing Manner.leavesDeadlines_visits Run.dialled rfl rfl
      Moves.kept (List.append_nil _).symm finishes⟩

/-! ### A client that is given up while it writes -/

/-- A message of three letters, each of them in a fragment of its own. -/
def spelled : ClientMessage where
  message := .text "abc"
  first := ⟨⟨0, 0, 0, 0⟩, .inline, [97]⟩
  rest := [⟨⟨0, 0, 0, 0⟩, .inline, [98]⟩, ⟨⟨0, 0, 0, 0⟩, .inline, [99]⟩]

theorem fits_spelled {limit : Nat} (longEnough : 3 ≤ limit) :
    spelled.Fits limit :=
  ⟨rfl, by decide +kernel, by decide, longEnough⟩

def spelled.letter (number : Nat) : Octets :=
  (spelled.frames[number]?.map ClientFrame.octets).getD []

/-- The client has written the first fragment, and the session has looked at
it. -/
def Play.spelling : Play :=
  let written :=
    Play.picked.withHub fun hub => Play.clientWrites hub 0 (spelled.letter 0)
  written.withHub fun hub => hub.goOn 0

/-- Two tenths of a second have passed. -/
def Play.paused : Play :=
  Play.spelling.withHub fun hub => { hub with now := 200000000 }

/-- The client has written the second fragment, and the session has looked at
that. -/
def Play.spellingOn : Play :=
  let written :=
    Play.paused.withHub fun hub => Play.clientWrites hub 0 (spelled.letter 1)
  written.withHub fun hub => hub.goOn 0

/-- After another tenth of a second the deadline has come. -/
def Play.givenUp : Play :=
  let late :=
    Play.spellingOn.withHub fun hub => { hub with now := 300000000 }.wake 0
  late.withHub fun hub => hub.goOn 0

theorem Moves.spelling : Moves .visits .dialled .spelling := by
  have written := Moves.picked.tail
    (@Move.write .visits .picked 0 _ (spelled.letter 0) rfl rfl (by decide))
  exact written.tail (.goOn 0 (by decide +kernel) (by rintro ⟨⟩))

theorem Move.paused : Move .visits .spelling .paused := by
  refine .tickQuietly ?_ ?_ (by decide) ?_ ?_
  all_goals decide +kernel

theorem Moves.givenUp : Moves .visits .dialled .givenUp := by
  have paused : Moves .visits .dialled .paused :=
    Moves.spelling.tail Move.paused
  have written : Moves .visits .dialled (Play.paused.withHub fun hub =>
      Play.clientWrites hub 0 (spelled.letter 1)) :=
    paused.tail (.write_of_any (by decide +kernel))
  have spellingOn : Moves .visits .dialled .spellingOn :=
    written.tail (.goOn 0 (by decide +kernel) (by rintro ⟨⟩))
  have rung : { Play.spellingOn.hub with now := 300000000 }.alarms.filter
      (fun (alarm, _) => Alarm.hasRung alarm 300000000) =
        [(⟨300000000, 0⟩, 0)] := by
    decide +kernel
  have late := spellingOn.tail
    (.tickWaking (by decide +kernel) (by decide +kernel) (by decide)
      (by decide +kernel) rung)
  exact late.tail (.goOn 0 (by decide +kernel) (by rintro ⟨⟩))

/-- The client is given up at the deadline that was set when its session was
opened, although it has written a fragment of its message a tenth of a second
before.  Its octets keep to all rules.  But they have finished nothing, and the
session has found nothing to take. -/
theorem given_up_while_writing :
    Run .visits (fun _ => True) hasty .givenUp ∧
      Play.givenUp.hub.chronicle =
        [⟨300000000, .left 0 .deadlineExpired⟩,
          ⟨200000000, .fed 0 (spelled.letter 1)⟩,
          ⟨0, .fed 0 (spelled.letter 0)⟩, ⟨0, .joined 0⟩] ∧
      spelled.letter 0 ++ spelled.letter 1 <+: spelled.octets ∧
      ∃ link, (Play.dialled.hub.peer 0).socket = .link link ∧
        spelled.Fits link.decoder.limit ∧
        Silenced (openingOf 0 0 link) (.ofMillis 300) Play.givenUp.hub.chronicle
          300000000 := by
  have told : Play.givenUp.hub.chronicle =
      [⟨300000000, .left 0 .deadlineExpired⟩,
        ⟨200000000, .fed 0 (spelled.letter 1)⟩,
        ⟨0, .fed 0 (spelled.letter 0)⟩, ⟨0, .joined 0⟩] := by
    decide +kernel
  refine ⟨Run.dialled.moves Moves.givenUp, told, by decide +kernel, _, rfl,
    fits_spelled (by decide), ?_⟩
  refine silenced_of_expired Manner.leavesDeadlines_visits Run.dialled rfl rfl Moves.givenUp
    (List.append_nil _).symm ?_
  rw [told]
  exact List.mem_cons_self

end BroadcastHub.Scenario
