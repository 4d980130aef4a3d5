import BroadcastHub.Proofs.Server.Alike

/-!
# The clock of hubs that are alike

When the clock moves, the alarms of tasks that stand for each other ring in the
same order in both hubs, whatever else rings between them.
-/

namespace BroadcastHub.Server

namespace Alarm

theorem ringsBefore_iff {one two : Alarm} :
    one.ringsBefore two = true ↔ one.due.tick < two.due.tick ∨
      one.due.tick = two.due.tick ∧ one.order ≤ two.order := by
  simp [ringsBefore]

theorem ringsBefore_trans
    (one two three : Alarm) (early : one.ringsBefore two = true)
    (late : two.ringsBefore three = true) : one.ringsBefore three = true := by
  rw [ringsBefore_iff] at early late ⊢
  rcases early with earlier | ⟨together, before⟩ <;> rcases late with
    later | ⟨togetherToo, after⟩
  · exact .inl (Nat.lt_trans earlier later)
  · exact .inl (Nat.lt_of_lt_of_eq earlier togetherToo)
  · exact .inl (by rw [together]; exact later)
  · exact .inr ⟨together.trans togetherToo, Nat.le_trans before after⟩

theorem ringsBefore_total (one two : Alarm) :
    (one.ringsBefore two || two.ringsBefore one) = true := by
  rw [Bool.or_eq_true, ringsBefore_iff, ringsBefore_iff]
  rcases Nat.lt_trichotomy one.due.tick two.due.tick with
    earlier | together | later
  · exact .inl (.inl earlier)
  · exact (Nat.le_total one.order two.order).imp
      (fun before => .inr ⟨together, before⟩)
      fun before => .inr ⟨together.symm, before⟩
  · exact .inr (.inl later)

end Alarm

namespace Hub

/-- The alarms of tasks in ascending order are set out in that order. -/
theorem alarms_filter
    (hub : Hub) {others : List TaskId} (sorted : others.Pairwise (· < ·))
    (below : ∀ number ∈ others, number < hub.tasks.size) :
    hub.alarms.filter (fun entry => entry.2 ∈ others) =
      others.flatMap fun number => (hub.task number).alarms.map fun alarm =>
        (alarm, number) := by
  have numbers :=
    filter_range'_mem 0 hub.tasks.size sorted (fun _ _ => Nat.zero_le _)
      fun number member => by
        rw [Nat.zero_add]
        exact below number member
  rw [← List.range_eq_range'] at numbers
  rw [alarms_eq, List.filter_flatMap]
  conv => rhs; rw [← numbers]
  unfold Table.numbers
  induction List.range hub.tasks.size with
  | nil => rfl
  | cons number rest induction =>
      rw [List.flatMap_cons, List.filter_cons, induction, List.filter_map]
      by_cases kept : number ∈ others
      · rw [if_pos (decide_eq_true kept), List.flatMap_cons,
          List.filter_eq_self.mpr]
        exact fun alarm _ => decide_eq_true kept
      · rw [if_neg (by simpa using kept), List.filter_eq_nil_iff.mpr,
          List.map_nil, List.nil_append]
        exact fun alarm _ => by simpa using kept

theorem filter_rung
    (hub : Hub) {others : List TaskId} (sorted : others.Pairwise (· < ·))
    (below : ∀ number ∈ others, number < hub.tasks.size) :
    (((hub.alarms.filter fun entry => entry.1.hasRung hub.now).mergeSort
        fun first second => first.1.ringsBefore second.1).map Prod.snd).filter
          (fun number => number ∈ others) =
      (((others.flatMap fun number => (hub.task number).alarms.map fun alarm =>
        (alarm, number)).filter
          fun entry => entry.1.hasRung hub.now).mergeSort
            fun first second => first.1.ringsBefore second.1).map Prod.snd := by
  rw [← hub.alarms_filter sorted below, List.filter_map, filter_mergeSort,
    List.filter_filter, List.filter_filter]
  · refine congrArg (fun entries : List (Alarm × TaskId) => (entries.mergeSort
      fun first second => first.1.ringsBefore second.1).map Prod.snd) ?_
    exact List.filter_congr fun entry _ => Bool.and_comm _ _
  · exact fun one two three => Alarm.ringsBefore_trans one.1 two.1 three.1
  · exact fun one two => Alarm.ringsBefore_total one.1 two.1

end Hub

namespace Alike

variable {id : PeerId} {pairs : TaskPairs} {orders : AlarmPairs}
  {first second : Hub} (alike : Alike id pairs orders first second)

include alike

/-- The alarms of tasks that stand for each other, side by side. -/
theorem exists_alarms {line : TaskPairs} (inside : line ⊆ pairs) :
    ∃ entries : List ((Alarm × TaskId) × (Alarm × TaskId)),
      (∀ entry ∈ entries, entry.1.1.Like orders entry.2.1 ∧
        (entry.1.2, entry.2.2) ∈ pairs) ∧
      ((line.map Prod.fst).flatMap fun number =>
        (first.task number).alarms.map fun alarm => (alarm, number)) =
          entries.map Prod.fst ∧
      ((line.map Prod.snd).flatMap fun number =>
        (second.task number).alarms.map fun alarm => (alarm, number)) =
          entries.map Prod.snd := by
  induction line with
  | nil => exact ⟨[], fun _ member => absurd member List.not_mem_nil, rfl, rfl⟩
  | cons pair rest induction =>
      obtain ⟨member, insideRest⟩ := List.cons_subset.mp inside
      obtain ⟨entries, like, isFirst, isSecond⟩ := induction insideRest
      obtain ⟨alarms, likeAlarms, isOne, isTwo⟩ :=
        (alike.task pair member).alarms
      refine ⟨(alarms.map fun both => ((both.1, pair.1), (both.2, pair.2))) ++
        entries, ?_, ?_, ?_⟩
      · intro entry listed
        rcases List.mem_append.mp listed with new | later
        · obtain ⟨both, isAlarm, rfl⟩ := List.mem_map.mp new
          exact ⟨likeAlarms both isAlarm, member⟩
        · exact like entry later
      · rw [List.map_cons, List.flatMap_cons, isFirst, isOne, List.map_append,
          List.map_map, List.map_map]
        rfl
      · rw [List.map_cons, List.flatMap_cons, isSecond, isTwo, List.map_append,
          List.map_map, List.map_map]
        rfl

theorem ringsBefore_eq
    {one two early late : Alarm} (like : one.Like orders two)
    (other : early.Like orders late) :
    one.ringsBefore early = two.ringsBefore late := by
  unfold Alarm.ringsBefore
  rw [like.due, other.due, decide_eq_decide.mpr
    (alike.order one.order two.order early.order late.order like.order
      other.order)]

/-- The alarms that have rung wake tasks that stand for each other. -/
theorem ring : Alike id pairs orders first.ring second.ring := by
  obtain ⟨entries, like, isFirst, isSecond⟩ :=
    alike.exists_alarms (fun _ member => member)
  have below : ∀ (hub : Hub), ∀ number ∈ ((hub.alarms.filter fun entry =>
      entry.1.hasRung hub.now).mergeSort fun first second =>
        first.1.ringsBefore second.1).map
          Prod.snd, number < hub.tasks.size := by
    intro hub number member
    obtain ⟨entry, listed, rfl⟩ := List.mem_map.mp member
    have isAlarm := (List.mem_filter.mp (List.mem_mergeSort.mp listed)).1
    rw [Hub.alarms_eq] at isAlarm
    obtain ⟨number, isThere, own⟩ := List.mem_flatMap.mp isAlarm
    obtain ⟨alarm, -, rfl⟩ := List.mem_map.mp own
    exact List.mem_range.mp isThere
  refine alike.wakeAll ?_ (below first) (below second)
  rw [first.filter_rung (List.pairwise_map.mpr (alike.sorted.imp And.left))
    alike.firstFenced.below, second.filter_rung
      (List.pairwise_map.mpr (alike.sorted.imp And.right))
      alike.secondFenced.below, isFirst, isSecond, List.filter_map,
      List.filter_map]
  have rung :
      entries.filter ((fun entry => entry.1.hasRung first.now) ∘ Prod.fst) =
      entries.filter ((fun entry => entry.1.hasRung second.now) ∘ Prod.snd) :=
    List.filter_congr fun entry member => by
      simp only [Function.comp_apply, alike.now]
      exact (like entry member).1.hasRung_eq _
  rw [← rung]
  have likeRung :
      ∀ entry ∈ entries.filter ((fun entry => entry.1.hasRung first.now) ∘
        Prod.fst),
      entry.1.1.Like orders entry.2.1 ∧ (entry.1.2, entry.2.2) ∈ pairs :=
    fun entry member => like entry (List.mem_filter.mp member).1
  generalize entries.filter
    ((fun entry => entry.1.hasRung first.now) ∘ Prod.fst) = line at likeRung ⊢
  let earlier : (Alarm × TaskId) × (Alarm × TaskId) →
      (Alarm × TaskId) × (Alarm × TaskId) → Bool :=
    fun one two => one.1.1.ringsBefore two.1.1
  have isSorted :
      (line.mergeSort earlier).map Prod.fst = (line.map Prod.fst).mergeSort
      fun first second => first.1.ringsBefore second.1 :=
    List.map_mergeSort fun _ _ _ _ => rfl
  have isSortedToo :
      (line.mergeSort earlier).map Prod.snd = (line.map Prod.snd).mergeSort
      fun first second => first.1.ringsBefore second.1 :=
    List.map_mergeSort fun one isOne two isTwo =>
      alike.ringsBefore_eq (likeRung one isOne).1 (likeRung two isTwo).1
  rw [← isSorted, ← isSortedToo, List.map_map, List.map_map]
  refine ⟨(line.mergeSort earlier).map fun entry => (entry.1.2, entry.2.2),
    ?_, ?_, ?_⟩
  · intro pair member
    obtain ⟨entry, listed, rfl⟩ := List.mem_map.mp member
    exact (likeRung entry (List.mem_mergeSort.mp listed)).2
  · rw [List.map_map]
    rfl
  · rw [List.map_map]
    rfl

theorem tick (later : Instant) :
    Alike id pairs orders { first with now := later }.ring
      { second with now := later }.ring := by
  have moved : Alike id pairs orders { first with now := later }
      { second with now := later } :=
    { alike with
      now := rfl
      firstFenced := alike.firstFenced.mono rfl rfl (fun _ member => member)
        alike.firstFenced.ready
      secondFenced :=
        alike.secondFenced.mono rfl rfl (fun _ member => member)
          alike.secondFenced.ready }
  exact moved.ring

end Alike

end BroadcastHub.Server
