import BroadcastHub.Proofs.Scenario.Turnover
import BroadcastHub.Proofs.Server.Deliveries
import BroadcastHub.Scenario.Report

/-!
# What is played is a run

A scenario is played in large steps: an action is performed, ready tasks go on
in their order until none is left, clients read what has arrived, and the clock
passes from alarm to alarm.  Each of these steps is made of single moves.  So
whatever holds in every run holds of every scenario that is played.
-/

namespace BroadcastHub.Server

open Scenario

/-- What happens of its own accord while the clock stands still. -/
structure Settles (manner : Manner) (before after : Hub) : Prop where
  now : after.now = before.now
  moves : ∀ play : Play, play.hub = before →
    Moves manner play { play with hub := after }

namespace Settles

variable {manner : Manner} {first second third hub after : Hub}

theorem refl (hub : Hub) : Settles manner hub hub where
  now := rfl
  moves play same := by
    subst same
    exact .refl

theorem trans
    (one : Settles manner first second) (two : Settles manner second third) :
    Settles manner first third where
  now := two.now.trans one.now
  moves play same :=
    (one.moves play same).trans (two.moves { play with hub := second } rfl)

theorem step (step : hub.step? = some after) : Settles manner hub after := by
  rw [Hub.step?_eq] at step
  obtain ⟨task, isFirst, rfl⟩ := Option.map_eq_some_iff.mp step
  refine ⟨(Course.goOn hub task).now, fun play same => ?_⟩
  subst same
  exact .single (.goOn task (List.mem_of_head? isFirst) fun _ => isFirst)

theorem runReady (hub : Hub) (count : Nat) :
    Settles manner hub (hub.runReady count) := by
  induction count generalizing hub with
  | zero => exact .refl hub
  | succ count induction =>
      unfold Hub.runReady
      split
      · exact .refl hub
      · rename_i next stepped
        exact (step stepped).trans (induction next)

theorem dropUnused (hub : Hub) (id : PeerId) :
    Settles manner hub (hub.dropUnused id) where
  now := (@Outside.dropUnused (manner.outsider 0) hub id).now
  moves play same := by
    subst same
    exact .single (.tidy id)

theorem letRead (hub : Hub) (id : PeerId) :
    Settles manner hub (hub.letRead id) where
  now := (@Outside.letRead (manner.outsider 0) hub id).now
  moves play same := by
    subst same
    exact .single (.read id)

theorem fold
    {change : Hub → PeerId → Hub}
    (settles : ∀ hub id, Settles manner hub (change hub id)) (ids : List PeerId)
    (hub : Hub) : Settles manner hub (ids.foldl change hub) := by
  induction ids generalizing hub with
  | nil => exact .refl hub
  | cons id ids induction => exact (settles hub id).trans (induction _)

theorem letClientsRead (hub : Hub) : Settles manner hub hub.letClientsRead :=
  fold (fun hub id => (dropUnused hub id).trans (letRead _ id))
    hub.peers.numbers hub

theorem settleWithin (hub : Hub) (count rounds : Nat) :
    Settles manner hub (hub.settleWithin count rounds) := by
  induction rounds generalizing hub with
  | zero => exact .refl hub
  | succ rounds induction =>
      have round : Settles manner hub (hub.runReady count).letClientsRead :=
        (runReady hub count).trans (letClientsRead _)
      simp only [Hub.settleWithin]
      split
      · exact round
      · exact round.trans (induction _)

theorem settle (hub : Hub) : Settles manner hub hub.settle :=
  settleWithin hub Hub.plenty Hub.plenty

end Settles

theorem Hub.le_of_nextRing?
    {hub : Hub} {instant : Instant} (next : hub.nextRing? = some instant)
    {entry : Alarm × TaskId} (listed : entry ∈ hub.alarms) :
    instant ≤ entry.1.due.tick :=
  (List.min?_eq_some_iff.mp next).2 _ (List.mem_map_of_mem listed)

end BroadcastHub.Server

namespace BroadcastHub.Scenario

open Server

variable {manner : Manner} {play : Play}

/-! ### The clock -/

theorem Move.tickBefore {later : Instant} (still : play.hub.ready = [])
    (forward : play.hub.now ≤ later) (whole : Span.perMillisecond ∣ later)
    (early : ∀ entry ∈ play.hub.alarms, later < entry.1.due.tick) :
    Move manner play (play.withHub fun hub => { hub with now := later }) := by
  refine .tickQuietly still forward whole (fun entry listed => ?_) ?_
  · exact Nat.le_trans (Nat.le_of_lt (early entry listed))
      (Nat.le_max_right _ _)
  · refine List.filter_eq_nil_iff.mpr fun entry listed rung => ?_
    have due := Instant.tick_le_of_dvd whole (of_decide_eq_true rung)
    exact absurd (early entry listed) (Nat.not_lt.mpr due)

theorem Move.tickNext
    {instant : Instant} (still : play.hub.ready = [])
    (whole : Span.perMillisecond ∣ play.hub.now)
    (next : play.hub.nextRing? = some instant) :
    Move manner play
      (play.withHub fun hub =>
        { hub with now := max play.hub.now instant }.ring) := by
  obtain ⟨entry, -, isTick⟩ := List.mem_map.mp (List.min?_eq_some_iff.mp next).1
  refine .tick still (Nat.le_max_left _ _) ?_ fun alarm task listed => ?_
  · rcases Nat.le_total instant play.hub.now with past | ahead
    · exact (Nat.max_eq_left past).symm ▸ whole
    · exact (Nat.max_eq_right ahead).symm ▸ isTick ▸ Nat.dvd_mul_left _ _
  · have passes := Hub.le_of_nextRing? next listed
    exact Nat.max_le.mpr ⟨Nat.le_max_left _ _,
      Nat.le_trans passes (Nat.le_max_right _ _)⟩

/-- The clock passes from alarm to alarm up to an instant. -/
theorem Moves.advanceWithin
    {target : Instant} (count : Nat)
    (whole : Span.perMillisecond ∣ play.hub.now)
    (isWhole : Span.perMillisecond ∣ target) (forward : play.hub.now ≤ target) :
    Moves manner play
      { play with hub := play.hub.advanceWithin target count } := by
  induction count generalizing play with
  | zero => exact .refl
  | succ count induction =>
      by_cases still : play.hub.ready = []
      · cases next : play.hub.nextRing? with
        | none =>
            rw [Hub.advanceWithin, if_neg (not_not.mpr still), next]
            have none := List.map_eq_nil_iff.mp (List.min?_eq_none_iff.mp next)
            refine .single (.tickBefore still forward isWhole ?_)
            rw [none]
            rintro entry ⟨⟩
        | some instant =>
            rw [Hub.advanceWithin, if_neg (not_not.mpr still), next]
            dsimp only
            by_cases inTime : instant ≤ target
            · rw [if_pos inTime]
              let rung := { play.hub with now := max play.hub.now instant }.ring
              have moves : Move manner play { play with hub := rung } :=
                .tickNext still whole next
              have settled : Settles manner rung rung.settle := .settle rung
              have onward :
                  Moves manner play { play with hub := rung.settle } :=
                .trans (.single moves)
                  (settled.moves { play with hub := rung } rfl)
              have now : rung.settle.now = max play.hub.now instant := by
                obtain ⟨ready, same, -⟩ :=
                  Hub.ring_eq { play.hub with now := max play.hub.now instant }
                rw [settled.now]
                exact congrArg Hub.now same
              refine onward.trans (induction (onward.whole whole) ?_)
              exact now ▸ Nat.max_le.mpr ⟨forward, inTime⟩
            · rw [if_neg inTime]
              refine .single
                (.tickBefore still forward isWhole fun entry listed => ?_)
              exact Nat.lt_of_lt_of_le (Nat.not_le.mp inTime)
                (Hub.le_of_nextRing? next listed)
      · rw [Hub.advanceWithin, if_pos still]
        exact .refl

theorem Moves.settle (play : Play) : Moves manner play play.settle :=
  (Settles.settle play.hub).moves play rfl

theorem Moves.advance
    (whole : Span.perMillisecond ∣ play.hub.now) (millis : Nat) :
    Moves manner play (play.withHub fun hub =>
      hub.advance (.ofMillis millis)) := by
  have settled : Settles manner play.hub play.hub.settle := .settle play.hub
  have onward := settled.moves play rfl
  refine onward.trans
    (Moves.advanceWithin Hub.plenty (onward.whole whole) ?_ ?_)
  · exact Nat.dvd_add whole (Nat.dvd_mul_left _ _)
  · exact settled.now.symm ▸ Nat.le_add_right _ _

/-! ### Actions -/

/-- A client writes, as much at a time as there is room for. -/
theorem Moves.feedWithin (id : PeerId) (rounds : Nat) (octets : Octets)
    (whole : Span.perMillisecond ∣ play.hub.now) :
    Moves manner play (play.feedWithin id rounds octets).2 := by
  induction rounds generalizing play octets with
  | zero => exact .refl
  | succ rounds induction =>
      unfold Play.feedWithin
      split
      · exact .refl
      · split
        · exact .refl
        · rename_i link connected
          split
          · exact .refl
          · rename_i isOpen
            split
            · exact Moves.advance whole 1
            · have written : Move manner play _ :=
                .write connected (Bool.not_eq_true _ ▸ isOpen)
                  (List.length_take_le _ octets)
              have onward : Moves manner play _ :=
                .head written (Moves.settle _)
              exact onward.trans (induction _ (onward.whole whole))

theorem Moves.feed
    (id : PeerId) (octets : Octets)
    (whole : Span.perMillisecond ∣ play.hub.now) :
    Moves manner play (play.feed id octets).2 := by
  unfold Play.feed
  split
  · exact .refl
  · split
    · exact .refl
    · exact .feedWithin id _ octets whole

theorem Moves.perform {action : Action} (isAllowed : manner.allows action)
    (isThere : ∀ id, action.about? = some id → id < play.hub.peers.size)
    (whole : Span.perMillisecond ∣ play.hub.now) :
    Moves manner play (play.perform action).2 := by
  cases action with
  | feed id octets => exact .feed id octets whole
  | advance millis => exact .advance whole millis
  | _ => exact .single (.act isAllowed rfl isThere)

/-! ### Scenarios -/

theorem Play.foldl_known
    {note : Play → PeerId → Play}
    (notes : ∀ play id, ∃ known, note play id = { play with known })
    (ids : List PeerId) (play : Play) :
    ∃ known, ids.foldl note play = { play with known } := by
  induction ids generalizing play with
  | nil => exact ⟨play.known, rfl⟩
  | cons id ids induction =>
      obtain ⟨first, same⟩ := notes play id
      obtain ⟨known, others⟩ := induction (note play id)
      exact ⟨known, others.trans (by rw [same])⟩

theorem Moves.look (play : Play) (ids : List PeerId) :
    Moves manner play (play.look ids) := by
  have notes : ∀ (play : Play) (id : PeerId), ∃ known,
      (if (play.hub.peer id).registered then
        play.updateKnown id fun known => { known with seen := true }
      else play) = { play with known } := by
    intro play id
    split
    · exact ⟨_, rfl⟩
    · exact ⟨play.known, rfl⟩
  obtain ⟨known, same⟩ := Play.foldl_known notes ids play
  rw [Play.look, same]
  exact .single (.notice known play.jobs)

theorem Moves.markTold (play : Play) : Moves manner play play.markTold := by
  obtain ⟨known, same⟩ := @Play.foldl_known
    (fun play id => play.updateKnown id (Play.noteTold play.hub id))
    (fun _ _ => ⟨_, rfl⟩) play.hub.peers.numbers play
  rw [Play.markTold, same]
  exact .single (.notice known _)

/-- The number of peers that an action brings. -/
def Action.newcomers : Action → Nat
  | register _ => 1
  | serve _ => 1
  | wire _ _ => 1
  | http _ => 1
  | _ => 0

/-- Whether all steps are about peers that are there by then, where the first so
many are. -/
def Sound : (peers : Nat) → List Step → Prop
  | _, [] => True
  | peers, step :: rest =>
      (∀ id, step.action.about? = some id → id < peers) ∧
        Sound (peers + step.action.newcomers) rest

theorem Sound.mono
    {fewer more : Nat} {steps : List Step} (sound : Sound fewer steps)
    (le : fewer ≤ more) : Sound more steps := by
  induction steps generalizing fewer more with
  | nil => trivial
  | cons step steps induction =>
      refine ⟨fun id isAbout => Nat.lt_of_lt_of_le (sound.1 id isAbout) le, ?_⟩
      exact induction sound.2 (Nat.add_le_add_right le _)

theorem Play.newcomers_perform
    {action : Action} (isAllowed : manner.allows action)
    (isThere : ∀ id, action.about? = some id → id < play.hub.peers.size)
    (whole : Span.perMillisecond ∣ play.hub.now) :
    play.hub.peers.size + action.newcomers ≤
      (play.perform action).2.hub.peers.size := by
  have kept := (Moves.perform isAllowed isThere whole).peers_le
  have joined :
      ∀ peer, play.hub.peers.size + 1 ≤ (play.hub.addPeer peer).peers.size :=
    fun peer => Nat.le_of_eq (Hub.size_peers_addPeer play.hub peer).symm
  cases action with
  | register script =>
      exact Nat.le_trans (joined _)
        (Nat.le_of_eq (Table.size_update _ _ _).symm)
  | serve script => exact joined _
  | wire room limit => exact joined _
  | http room => exact joined _
  | _ => exact kept

theorem Moves.playStep {step : Step}
    (whole : Span.perMillisecond ∣ (play.perform step.action).2.hub.now) :
    Moves manner (play.perform step.action).2 (play.playStep step).2 := by
  let performed := (play.perform step.action).2
  let looked := performed.settle.look (performed.settle.lookedAt step.action)
  have settled : Moves manner performed looked :=
    (Moves.settle performed).trans (Moves.look _ _)
  show Moves manner performed
    (if step.wait = 0 then looked else looked.withHub fun hub =>
      hub.advance (.ofMillis step.wait))
  split
  · exact settled
  · exact settled.trans (Moves.advance (settled.whole whole) step.wait)

/-- A scenario is played by moves. -/
theorem Moves.reports
    {steps : List Step} (isAllowed : ∀ step ∈ steps, manner.allows step.action)
    (sound : Sound play.hub.peers.size steps)
    (whole : Span.perMillisecond ∣ play.hub.now) :
    Moves manner play (play.reports steps).2 := by
  induction steps generalizing play with
  | nil => exact .refl
  | cons step steps induction =>
      obtain ⟨isThere, later⟩ := sound
      have first := isAllowed step List.mem_cons_self
      have performed : Moves manner play (play.perform step.action).2 :=
        .perform first isThere whole
      have stepped :
          Moves manner (play.perform step.action).2 (play.playStep step).2 :=
        .playStep (performed.whole whole)
      have onward : Moves manner (play.perform step.action).2 _ :=
        stepped.trans (Moves.markTold _)
      have joined := Nat.le_trans (Play.newcomers_perform first isThere whole)
        onward.peers_le
      have sofar : Moves manner play _ := performed.trans onward
      refine sofar.trans (induction (fun other listed => ?_) (later.mono joined)
        (sofar.whole whole))
      exact isAllowed other (List.mem_cons_of_mem _ listed)

/-- Whatever scenario is played on a fresh server, the play is one that runs
reach. -/
theorem Run.played
    (configuration : Configuration) {steps : List Step}
    (isAllowed : ∀ step ∈ steps, manner.allows step.action)
    (sound : Sound 0 steps) :
    Run manner (fun _ => True) configuration
      ((Play.start configuration).reports steps).2 :=
  Run.moves (.start _ trivial) (.reports isAllowed sound (Nat.dvd_zero _))

end BroadcastHub.Scenario
