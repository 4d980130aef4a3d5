import BroadcastHub.Proofs.Server.Hearing
import BroadcastHub.Proofs.Server.Openings

/-!
# A session is never behind when the clock moves

The clock moves only when nothing can go on, and then a session has taken all
that its client has finished.  So at any earlier time the session had taken what
had been finished by then.
-/

namespace BroadcastHub.Server

open Scenario

/-- What had happened by a time. -/
def upTo (time : Instant) (story : List Entry) : List Entry :=
  story.filter fun entry => entry.time ≤ time

section

variable {time : Instant} {news story : List Entry}

theorem upTo_append_of_late (late : ∀ entry ∈ news, time < entry.time) :
    upTo time (news ++ story) = upTo time story := by
  have none : upTo time news = [] := by
    refine List.filter_eq_nil_iff.mpr fun entry member inTime => ?_
    exact absurd (late entry member) (Nat.not_lt.mpr (of_decide_eq_true inTime))
  rw [upTo, List.filter_append]
  exact congrArg (· ++ upTo time story) none

theorem upTo_of_past (past : ∀ entry ∈ story, entry.time ≤ time) :
    upTo time story = story :=
  List.filter_eq_self.mpr fun entry member => decide_eq_true (past entry member)

theorem account_upTo {α : Type} {tells : Happening → List α}
    (silent : ∀ entry ∈ story, time < entry.time → tells entry.happening = []) :
    account tells (upTo time story) = account tells story := by
  induction story with
  | nil => rfl
  | cons entry older induction =>
      have rest := induction fun other member =>
        silent other (List.mem_cons_of_mem entry member)
      by_cases inTime : entry.time ≤ time
      · have kept : upTo time (entry :: older) = entry :: upTo time older :=
          List.filter_cons_of_pos (decide_eq_true inTime)
        rw [kept, account_cons, account_cons, rest]
      · have dropped : upTo time (entry :: older) = upTo time older :=
          List.filter_cons_of_neg (by simpa using inTime)
        rw [dropped, account_cons, rest,
          silent entry List.mem_cons_self (Nat.not_le.mp inTime),
          List.append_nil]

end

/-- How attentive a session has been since some time. -/
structure Attentive
    (opening : Opening) (since : Instant) (hub : Hub) (story : List Entry) :
    Prop where
  seated : Seated hub opening.task opening.peer
  hearing : Hearing opening hub story
  since_le : since ≤ hub.now
  times : ∀ entry ∈ story, since ≤ entry.time ∧ entry.time ≤ hub.now
  inTurn : story.Pairwise fun newer older => older.time ≤ newer.time
  /-- While the clock stood between two instants, the session had not ended or
  had taken all that was finished. -/
  caughtUp : ∀ time, since ≤ time → time < hub.now →
    Stays opening.peer (upTo time story) →
    taken opening.peer (upTo time story) = opening.finished (upTo time story)

theorem SessionTurn.still_of_now_lt
    {outsider : Outsider} {task : TaskId} {id : PeerId} {before after : Hub}
    {news : List Entry} (turn : SessionTurn outsider task id before after news)
    (later : before.now < after.now) : before.ready = [] ∧ news = [] := by
  have moves : after.now ≠ before.now := Nat.ne_of_gt later
  cases turn with
  | ticks still silent => exact ⟨still, silent⟩
  | aside now => exact absurd now moves
  | ended now => exact absurd now moves
  | arrives now => exact absurd now moves
  | reads now => exact absurd now moves

namespace Attentive

variable {outsider : Outsider} {opening : Opening} {since : Instant}
  {before after : Hub} {story : List Entry}

/-- A session that has a task and a link, and has not been opened. -/
theorem ofArriving
    {hub : Hub} {task : TaskId} {id : PeerId} {link : Link}
    (attended : Attended hub) (housed : Housed hub)
    (isTask : hub.task task = .attend id .arriving)
    (connected : (hub.peer id).socket = .link link) :
    Attentive ⟨task, id, link.decoder, link.unread ++ link.inbound.content⟩
      hub.now hub [] where
  seated := attended.seated housed isTask
  hearing := by
    refine .arriving isTask (by rintro _ _ ⟨⟩) ⟨link.intake, ?_, fun more => ?_⟩
    · rw [connected]
      rfl
    · simp only [Opening.stream, Intake.found, List.append_assoc]
      rfl
  since_le := Nat.le_refl _
  times := by rintro _ ⟨⟩
  inTurn := .nil
  caughtUp time late early := absurd early (Nat.not_lt.mpr late)

/-- Every turn leaves a session as attentive as it was. -/
theorem turn
    (attentive : Attentive opening since before story)
    (attended : Attended before) (prompt : Prompt before)
    (turnover : Turnover outsider before after) :
    ∃ news, after.chronicle = news ++ before.chronicle ∧
      Attentive opening since after (news ++ story) := by
  obtain ⟨news, passage, turn⟩ :=
    SessionTurn.ofTurnover attended attentive.seated turnover
  have forward := turnover.now_le
  refine ⟨news, passage.chronicle, attentive.seated.turn passage turn,
    attentive.hearing.turn turn,
    Nat.le_trans attentive.since_le forward, ?_, ?_, ?_⟩
  · intro entry member
    rcases List.mem_append.mp member with late | early
    · rw [passage.time entry late]
      exact ⟨attentive.since_le, forward⟩
    · obtain ⟨notBefore, notAfter⟩ := attentive.times entry early
      exact ⟨notBefore, Nat.le_trans notAfter forward⟩
  · have same : ∀ first ∈ news, ∀ second ∈ news, second.time ≤ first.time :=
      fun first isFirst second isSecond =>
        Nat.le_of_eq ((passage.time second isSecond).trans
          (passage.time first isFirst).symm)
    refine List.pairwise_append.mpr ⟨List.pairwise_of_forall_mem_list same,
      attentive.inTurn, ?_⟩
    intro newer late older early
    rw [passage.time newer late]
    exact (attentive.times older early).2
  · intro time notBefore early
    by_cases past : time < before.now
    · have late : ∀ entry ∈ news, time < entry.time := by
        intro entry member
        rw [passage.time entry member]
        exact past
      rw [upTo_append_of_late late]
      exact attentive.caughtUp time notBefore past
    · -- The clock has just moved, so the session had nothing left to take.
      have stood := Nat.not_lt.mp past
      obtain ⟨still, silent⟩ :=
        turn.still_of_now_lt (Nat.lt_of_le_of_lt stood early)
      subst silent
      have all : upTo time story = story :=
        upTo_of_past fun entry member =>
          Nat.le_trans (attentive.times entry member).2 stood
      rw [List.nil_append, all]
      exact attentive.hearing.all_taken prompt still

end Attentive

end BroadcastHub.Server
