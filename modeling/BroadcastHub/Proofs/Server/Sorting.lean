/-!
# Taking entries out of sorted lists

Alarms that ring together ring in the order in which they were set, and it does
not matter for that order which others ring with them.
-/

namespace BroadcastHub

/-- Two ways to cut a list where a property ends are the same. -/
theorem append_eq_of_forall
    {α : Type} (property : α → Bool) {one two other rest : List α}
    (same : one ++ two = other ++ rest)
    (inOne : ∀ item ∈ one, property item = true)
    (inTwo : ∀ item ∈ two, property item = false)
    (inOther : ∀ item ∈ other, property item = true)
    (inRest : ∀ item ∈ rest, property item = false) :
    one = other ∧ two = rest := by
  have kept := congrArg (List.filter property) same
  rw [List.filter_append, List.filter_append, List.filter_eq_self.mpr inOne,
    List.filter_eq_self.mpr inOther,
    List.filter_eq_nil_iff.mpr fun item member => by simp [inTwo item member],
    List.filter_eq_nil_iff.mpr fun item member => by simp [inRest item member],
    List.append_nil, List.append_nil] at kept
  subst kept
  exact ⟨rfl, List.append_cancel_left same⟩

/-- Sorting keeps the order of those that are left when others are taken out. -/
theorem filter_mergeSort
    {α : Type} {before : α → α → Bool}
    (trans : ∀ one two three, before one two = true → before two three = true →
      before one three = true)
    (total : ∀ one two, (before one two || before two one) = true)
    (keep : α → Bool) (list : List α) :
    (list.mergeSort before).filter keep =
      (list.filter keep).mergeSort before := by
  induction list with
  | nil => simp
  | cons item rest induction =>
      obtain ⟨early, late, sorted, others, isEarly⟩ :=
        List.mergeSort_cons trans total item rest
      have ordered := List.pairwise_mergeSort trans total (item :: rest)
      rw [sorted] at ordered
      have isLate :=
        (List.pairwise_cons.mp (List.pairwise_append.mp ordered).2.1).1
      rw [others, List.filter_append] at induction
      rw [sorted, List.filter_append, List.filter_cons, List.filter_cons]
      split
      · obtain ⟨front, back, sortedToo, othersToo, isFront⟩ :=
          List.mergeSort_cons trans total item (rest.filter keep)
        have orderedToo :=
          List.pairwise_mergeSort trans total (item :: rest.filter keep)
        rw [sortedToo] at orderedToo
        have isBack :=
          (List.pairwise_cons.mp (List.pairwise_append.mp orderedToo).2.1).1
        obtain ⟨rfl, rfl⟩ :=
          append_eq_of_forall (fun other => !before item other)
            (induction.trans othersToo)
            (fun other member => isEarly other (List.mem_filter.mp member).1)
            (fun other member => by
              simp [isLate other (List.mem_filter.mp member).1])
            (fun other member => isFront other member)
            (fun other member => by simp [isBack other member])
        exact sortedToo.symm
      · exact induction

/-- The numbers below a bound that are in an ascending list. -/
theorem filter_range'_mem
    {list : List Nat} (start length : Nat) (sorted : list.Pairwise (· < ·))
    (above : ∀ number ∈ list, start ≤ number)
    (below : ∀ number ∈ list, number < start + length) :
    (List.range' start length).filter (fun number => number ∈ list) = list := by
  induction length generalizing start list with
  | zero =>
      cases list with
      | nil => rfl
      | cons first rest =>
          have high := above first (List.mem_cons_self ..)
          have low := below first (List.mem_cons_self ..)
          omega
  | succ length induction =>
      rw [List.range'_succ, List.filter_cons]
      split
      · rename_i listed
        have isListed : start ∈ list := of_decide_eq_true listed
        cases list with
        | nil => cases isListed
        | cons first rest =>
            obtain ⟨larger, sortedRest⟩ := List.pairwise_cons.mp sorted
            have isFirst : first = start := by
              rcases List.mem_cons.mp isListed with same | later
              · exact same.symm
              · have less := larger start later
                have high := above first (List.mem_cons_self ..)
                omega
            subst isFirst
            have rest' := induction (first + 1) sortedRest
              (fun number member => larger number member)
              (fun number member => by
                have low := below number (List.mem_cons_of_mem _ member)
                omega)
            congr 1
            refine Eq.trans (List.filter_congr fun number member => ?_) rest'
            have high := (List.mem_range'_1.mp member).1
            have different : number ≠ first := by omega
            simp [different]
      · rename_i absent
        have isAbsent : start ∉ list :=
          fun listed => absent (decide_eq_true listed)
        refine induction (start + 1) sorted (fun number member => ?_)
          fun number member => ?_
        · have high := above number member
          rcases Nat.lt_or_eq_of_le high with less | same
          · exact less
          · exact absurd (same ▸ member) isAbsent
        · have low := below number member
          omega

end BroadcastHub
