import Mathlib.Data.List.Sort
import BroadcastHub.Proofs.Json.Objects

/-!
# Merging along a path

A path of keys leads into nested objects.  As long as it leads into objects on
both sides, it leads into an object of the merged value, and of the two members
with the next key the upper one counts unless it is missing or `null`.  The main
statement is `merge_along_paths`; what it says of a single object is collected
in `Members.Meet`.
-/

namespace BroadcastHub.Json

namespace Value

/-- The value to which a path of keys leads. -/
def at? : Value → List String → Option Value
  | value, [] => some value
  | value, key :: path => (value.get? key).bind fun inside => inside.at? path

def IsObject (value : Value) : Prop := ∃ members, value = .object members

end Value

namespace Members

/-- The members of two objects meet in those of a merged one. -/
structure Meet (lower upper merged : Members) : Prop where
  ascending : merged.Ascending
  /-- No key of the lower object is lost, and a `null` member of the upper one
  adds none. -/
  keys : ∀ key, key ∈ merged.map Prod.fst ↔
    key ∈ lower.map Prod.fst ∨ ∃ value, upper.get? key = some value ∧
      value ≠ .null
  /-- What the upper object says nothing about stays as it is below. -/
  kept : ∀ key, upper.get? key = none ∨ upper.get? key = some .null →
    merged.get? key = lower.get? key
  /-- Where no two objects meet, what the upper object says is taken as it
  is. -/
  taken : ∀ key value, upper.get? key = some value → value ≠ .null →
    (∀ old, lower.get? key = some old → ¬ (old.IsObject ∧ value.IsObject)) →
      merged.get? key = some value

/-! ### Members by their keys -/

theorem mem_keys_iff {key : String} {members : Members} :
    key ∈ members.map Prod.fst ↔ ∃ value, members.get? key = some value := by
  induction members with
  | nil => simp
  | cons first rest ih =>
      obtain ⟨name, value⟩ := first
      by_cases same : name = key
      · subst same
        simp [get?]
      · have other : key ≠ name := Ne.symm same
        simpa [get?, same, other] using ih

theorem Ascending.mem_iff
    {members : Members} (ascending : members.Ascending) {key : String}
    {value : Value} : (key, value) ∈ members ↔ members.get? key = some value :=
  ⟨ascending.get?_of_mem, mem_of_get?⟩

theorem Ascending.ext
    {first second : Members} (one : first.Ascending) (other : second.Ascending)
    (same : ∀ key, first.get? key = second.get? key) : first = second := by
  have irreflexive :
      Std.Irrefl fun one other : String × Value => one.1 < other.1 :=
    ⟨fun member => String.lt_irrefl member.1⟩
  have antisymmetric :
      Std.Antisymm fun one other : String × Value => one.1 < other.1 :=
    ⟨fun one _ less greater => absurd (String.lt_trans less greater)
      (String.lt_irrefl one.1)⟩
  refine List.Pairwise.eq_of_mem_iff one other fun member => ?_
  rw [one.mem_iff, other.mem_iff, same]

/-! ### One key of two objects -/

variable {lower upper : Members} {key : String} {value : Value}

theorem overlaid_of_blank
    (blank : upper.get? key = none ∨ upper.get? key = some .null) :
    overlaid lower upper key = lower.get? key := by
  cases blank with
  | inl missing => simp [overlaid, missing]
  | inr null => simp [overlaid, null, Option.filter_some, Value.isNull]

theorem overlaid_of_given
    (given : upper.get? key = some value) (isThere : value ≠ .null) :
    overlaid lower upper key =
      some (((lower.get? key).map fun old => old.merge value).getD value) := by
  have notNull : value.isNull = false := by
    cases value with
    | null => exact absurd rfl isThere
    | _ => rfl
  simp [overlaid, given, Option.filter_some, notNull]

/-- The upper object says nothing about a key, or it gives a value that is not
`null`. -/
theorem blank_or_given (upper : Members) (key : String) :
    (upper.get? key = none ∨ upper.get? key = some .null) ∨
      ∃ value, upper.get? key = some value ∧ value ≠ .null := by
  cases found : upper.get? key with
  | none => exact .inl (.inl rfl)
  | some value =>
      by_cases null : value = .null
      · exact .inl (.inr (congrArg some null))
      · exact .inr ⟨value, rfl, null⟩

end Members

theorem Value.merge_of_apart
    {lower upper : Value} (apart : ¬ (lower.IsObject ∧ upper.IsObject)) :
    lower.merge upper = upper := by
  by_cases below : lower.IsObject
  · exact merge_of_not_object (fun members same => apart ⟨below, members, same⟩)
      lower
  · exact merge_over_other (fun members same => below ⟨members, same⟩) upper

theorem Members.meet_merge
    {lower upper : Members} (below : lower.Ascending)
    (above : upper.Ascending) :
    Meet lower upper (Members.merge lower upper) where
  ascending := below.merge upper
  keys key := by
    rw [mem_keys_iff, mem_keys_iff, get?_merge above]
    cases blank_or_given upper key with
    | inl blank =>
        have nothing :
            ¬ ∃ value, upper.get? key = some value ∧ value ≠ .null := by
          intro ⟨value, given, isThere⟩
          cases blank with
          | inl missing => cases missing.symm.trans given
          | inr null =>
              cases null.symm.trans given
              exact isThere rfl
        rw [overlaid_of_blank blank, or_iff_left nothing]
    | inr there =>
        obtain ⟨value, given, isThere⟩ := there
        rw [overlaid_of_given given isThere]
        exact iff_of_true ⟨_, rfl⟩ (.inr ⟨value, given, isThere⟩)
  kept key blank := (get?_merge above key).trans (overlaid_of_blank blank)
  taken key value given isThere apart := by
    rw [get?_merge above, overlaid_of_given given isThere]
    cases found : lower.get? key with
    | none => rfl
    | some old => exact congrArg some (Value.merge_of_apart (apart old found))

/-! ### Along a path -/

/-- Where a path leads into objects on both sides, it leads into their merge. -/
theorem Value.at?_merge
    {lower upper : Value} (above : upper.Orderly) {path : List String}
    {lowerMembers upperMembers : Members}
    (inLower : lower.at? path = some (.object lowerMembers))
    (inUpper : upper.at? path = some (.object upperMembers)) :
    (lower.merge upper).at? path =
      some (.object (Members.merge lowerMembers upperMembers)) := by
  induction path generalizing lower upper with
  | nil =>
      cases inLower
      cases inUpper
      rw [merge_object]
      rfl
  | cons key path ih =>
      obtain ⟨old, oldFound, inOld⟩ := Option.bind_eq_some_iff.mp inLower
      obtain ⟨new, newFound, inNew⟩ := Option.bind_eq_some_iff.mp inUpper
      cases lower with
      | object outer =>
          cases above with
          | object ascending each =>
              have isThere : new ≠ .null := by
                intro null
                subst null
                cases path <;> cases inNew
              have newOrderly : new.Orderly :=
                each _ (Members.mem_of_get? newFound)
              rw [merge_object]
              refine Option.bind_eq_some_iff.mpr
                ⟨old.merge new, ?_, ih newOrderly inOld inNew⟩
              have oldThere : Members.get? key outer = some old := oldFound
              refine (Members.get?_merge ascending key).trans ?_
              rw [Members.overlaid_of_given newFound isThere, oldThere]
              rfl
          | _ => cases newFound
      | _ => cases oldFound

theorem Value.Orderly.at?
    {value inside : Value} (orderly : value.Orderly) {path : List String}
    (found : value.at? path = some inside) : inside.Orderly := by
  induction path generalizing value with
  | nil =>
      cases found
      exact orderly
  | cons key path ih =>
      obtain ⟨next, nextFound, inNext⟩ := Option.bind_eq_some_iff.mp found
      cases orderly with
      | object ascending each =>
          exact ih (each _ (Members.mem_of_get? nextFound)) inNext
      | _ => cases nextFound

/-! ### Merging twice -/

/-- An object stays as it is if its members stay as they are below those of the
upper one. -/
theorem Members.merge_eq_self
    {base upper : Members} (ascending : base.Ascending)
    (above : upper.Ascending)
    (absorbs : ∀ key value, upper.get? key = some value → value ≠ .null →
      ∃ old, base.get? key = some old ∧ old.merge value = old) :
    Members.merge base upper = base := by
  refine (ascending.merge upper).ext ascending fun key => ?_
  rw [get?_merge above]
  cases blank_or_given upper key with
  | inl blank => exact overlaid_of_blank blank
  | inr there =>
      obtain ⟨value, given, isThere⟩ := there
      obtain ⟨old, found, same⟩ := absorbs key value given isThere
      rw [overlaid_of_given given isThere, found]
      exact congrArg some same

/-- Once a value lies over another one, laying it there again changes
nothing. -/
theorem Value.merge_merge
    {lower upper : Value} (below : lower.Orderly) (above : upper.Orderly) :
    (lower.merge upper).merge upper = lower.merge upper := by
  induction above generalizing lower with
  | @object members ascending each ih =>
      have again {key : String} {value old : Value}
          (given : members.get? key = some value)
          (orderly : old.Orderly) :
          (old.merge value).merge value = old.merge value :=
        ih _ (Members.mem_of_get? given) orderly
      -- Over `null` a value is itself, so it stays itself when it is laid over
      -- itself.
      have alone {key : String} {value : Value}
          (given : members.get? key = some value) :
          value.merge value = value := by
        have fromNull : Value.null.merge value = value :=
          merge_over_other (by simp) value
        have twice := again given .null
        rwa [fromNull] at twice
      by_cases inside : lower.IsObject
      · obtain ⟨under, rfl⟩ := inside
        cases below with
        | object lower_ascending lower_each =>
            rw [merge_object, merge_object]
            refine congrArg Value.object
              (Members.merge_eq_self (lower_ascending.merge members)
                ascending ?_)
            intro key value given isThere
            refine ⟨_, (Members.get?_merge ascending key).trans
              (Members.overlaid_of_given given isThere), ?_⟩
            cases found : Members.get? key under with
            | none => exact alone given
            | some old =>
                exact again given (lower_each _ (Members.mem_of_get? found))
      · have plain : lower.merge (.object members) = .object members :=
          merge_of_apart fun both => inside both.1
        rw [plain, merge_object]
        refine congrArg Value.object
          (Members.merge_eq_self ascending ascending ?_)
        exact fun key value given _ => ⟨value, given, alone given⟩
  | _ => rw [merge_of_not_object (by simp), merge_of_not_object (by simp)]

/-- Laying a value over another one.  Unless both are objects, the upper one is
taken as it is. Wherever a path leads into objects on both sides it leads into
an object of the merged value, whose members are those in which the two objects
meet.  Laying the same value there again changes nothing, and an empty object
changes no object. -/
theorem merge_along_paths
    {lower upper : Value} (below : lower.Orderly) (above : upper.Orderly) :
    (¬ (lower.IsObject ∧ upper.IsObject) → lower.merge upper = upper) ∧
    (∀ path lowerMembers upperMembers,
      lower.at? path = some (.object lowerMembers) →
      upper.at? path = some (.object upperMembers) →
        ∃ merged, (lower.merge upper).at? path = some (.object merged) ∧
          Members.Meet lowerMembers upperMembers merged) ∧
    (lower.merge upper).merge upper = lower.merge upper ∧
    (lower.IsObject → lower.merge (.object []) = lower) := by
  refine ⟨Value.merge_of_apart, ?_, Value.merge_merge below above, ?_⟩
  · intro path lowerMembers upperMembers inLower inUpper
    cases below.at? inLower with
    | object lower_ascending =>
        cases above.at? inUpper with
        | object upper_ascending =>
            exact ⟨_, Value.at?_merge above inLower inUpper,
              Members.meet_merge lower_ascending upper_ascending⟩
  · intro ⟨members, same⟩
    subst same
    rw [Value.merge_object, Members.merge]

/-- A session with an owner and limits. -/
def Value.draft : Value :=
  .object
    [("limits",
      .object [("rate", .ofNat 5), ("sizes", .array [.ofNat 1, .ofNat 2])]),
    ("owner", .string "none")]

/-- Limits with a `null` that hides none, one that is taken along, and an array
that is replaced. -/
def Value.revision : Value :=
  .object
    [("limits", .object [("extra", .object [("deep", .null)]), ("rate", .null),
    ("sizes", .array [.null])]), ("owner", .object [])]

theorem Value.orderly_draft : draft.Orderly := by
  refine .object (Members.ascending_of_keys ["limits", "owner"] rfl (by decide))
    ?_
  simp only [List.mem_cons, List.not_mem_nil, or_false, forall_eq_or_imp,
    forall_eq]
  refine ⟨.object (Members.ascending_of_keys ["rate", "sizes"] rfl (by decide))
    ?_, .string _⟩
  simp only [List.mem_cons, List.not_mem_nil, or_false, forall_eq_or_imp,
    forall_eq]
  refine ⟨.number _, .array ?_⟩
  simp only [List.mem_cons, List.not_mem_nil, or_false, forall_eq_or_imp,
    forall_eq]
  exact ⟨.number _, .number _⟩

theorem Value.orderly_revision : revision.Orderly := by
  refine .object (Members.ascending_of_keys ["limits", "owner"] rfl (by decide))
    ?_
  simp only [List.mem_cons, List.not_mem_nil, or_false, forall_eq_or_imp,
    forall_eq]
  refine ⟨.object (Members.ascending_of_keys ["extra", "rate", "sizes"] rfl
    (by decide)) ?_, .object Members.ascending_nil (List.forall_mem_nil _)⟩
  simp only [List.mem_cons, List.not_mem_nil, or_false, forall_eq_or_imp,
    forall_eq]
  refine ⟨.object (Members.ascending_of_keys ["deep"] rfl (by decide)) ?_,
    .null, .array ?_⟩
  · simp only [List.mem_cons, List.not_mem_nil, or_false, forall_eq]
    exact .null
  · simp only [List.mem_cons, List.not_mem_nil, or_false, forall_eq]
    exact .null

theorem merge_along_paths_of_revision :
    (∃ merged : Members, (Value.draft.merge .revision).at? ["limits"] =
      some (.object merged) ∧
      merged.get? "rate" = some (.ofNat 5) ∧
      merged.get? "sizes" = some (.array [.null]) ∧
      merged.get? "extra" = some (.object [("deep", .null)])) ∧
    (Value.draft.merge .revision).merge .revision =
      Value.draft.merge .revision ∧
    Value.draft.merge (.object []) = .draft := by
  obtain ⟨-, meets, again, empty⟩ :=
    merge_along_paths Value.orderly_draft Value.orderly_revision
  obtain ⟨merged, leads, meet⟩ := meets ["limits"] _ _ rfl rfl
  refine ⟨⟨merged, leads, meet.kept "rate" (.inr rfl), ?_, ?_⟩, again,
    empty ⟨_, rfl⟩⟩
  · refine meet.taken "sizes" _ rfl nofun ?_
    intro old found both
    obtain ⟨members, same⟩ := both.2
    cases same
  · exact meet.taken "extra" _ rfl nofun nofun

end BroadcastHub.Json
