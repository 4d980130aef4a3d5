import Mathlib.Data.String.Basic
import BroadcastHub.Json.Merge
import BroadcastHub.Json.Parser

/-!
# Objects with ascending keys

The members of an object that was read from a text have ascending keys, at every
depth.  So a key has one member at most, and what an object laid over another
one gives can be said key by key.
-/

namespace BroadcastHub.Json

namespace Members

/-- Each key is less than those that follow it. -/
def Ascending (members : Members) : Prop :=
  List.Pairwise (fun first second => first.1 < second.1) members

theorem ascending_nil : Ascending [] := List.Pairwise.nil

theorem ascending_of_keys {members : Members} (keys : List String)
    (same : members.map Prod.fst = keys) (ascending : keys.Pairwise (· < ·)) :
    Ascending members := by
  subst same
  exact List.pairwise_map.mp ascending

theorem eq_or_mem_of_mem_insert
    {key : String} {value : Value} {member : String × Value} {members : Members}
    (inserted : member ∈ insert key value members) :
    member = (key, value) ∨ member ∈ members := by
  induction members with
  | nil => simpa [insert] using inserted
  | cons first rest ih =>
      obtain ⟨name, old⟩ := first
      unfold insert at inserted
      split at inserted
      · cases List.mem_cons.mp inserted with
        | inl new => exact .inl new
        | inr later => exact .inr (List.mem_cons_of_mem _ later)
      · split at inserted
        · exact List.mem_cons.mp inserted
        · cases List.mem_cons.mp inserted with
          | inl head => exact .inr (head ▸ List.mem_cons_self)
          | inr later =>
              cases ih later with
              | inl new => exact .inl new
              | inr old => exact .inr (List.mem_cons_of_mem _ old)

theorem Ascending.insert
    {members : Members} (ascending : Ascending members) (key : String)
    (value : Value) : Ascending (insert key value members) := by
  induction members with
  | nil => exact List.pairwise_singleton _ _
  | cons first rest ih =>
      obtain ⟨name, old⟩ := first
      have ⟨before, later⟩ := List.pairwise_cons.mp ascending
      unfold Members.insert
      split
      · rename_i same
        exact List.pairwise_cons.mpr
          ⟨fun other member => same ▸ before other member, later⟩
      · split
        · rename_i less
          refine List.pairwise_cons.mpr ⟨?_, ascending⟩
          intro other member
          cases List.mem_cons.mp member with
          | inl head => exact head ▸ less
          | inr tail => exact String.lt_trans less (before other tail)
        · rename_i different notLess
          refine List.pairwise_cons.mpr ⟨?_, ih later⟩
          intro other member
          cases eq_or_mem_of_mem_insert member with
          | inl new =>
              subst new
              exact lt_of_le_of_ne (not_lt.mp notLess) different
          | inr old => exact before other old

theorem ascending_ofList (members : List (String × Value)) :
    Ascending (ofList members) := by
  unfold ofList
  suffices each : ∀ sorted, Ascending sorted → Ascending
      (members.foldl (fun sorted member => insert member.1 member.2 sorted)
        sorted) from
    each [] ascending_nil
  induction members with
  | nil => exact fun sorted ascending => ascending
  | cons member rest ih =>
      exact fun sorted ascending => ih _ (ascending.insert _ _)

theorem mem_of_mem_ofList
    {members : List (String × Value)} {member : String × Value}
    (listed : member ∈ ofList members) : member ∈ members := by
  unfold ofList at listed
  suffices each : ∀ sorted : Members,
      member ∈ members.foldl (fun sorted entry => insert entry.1 entry.2 sorted)
        sorted →
        member ∈ members ∨ member ∈ sorted by
    cases each [] listed with
    | inl found => exact found
    | inr none => exact False.elim (List.not_mem_nil none)
  clear listed
  induction members with
  | nil => exact fun sorted inside => .inr inside
  | cons first rest ih =>
      intro sorted inside
      cases ih _ inside with
      | inl later => exact .inl (List.mem_cons_of_mem _ later)
      | inr now =>
          cases eq_or_mem_of_mem_insert now with
          | inl new => exact .inl (new ▸ List.mem_cons_self)
          | inr old => exact .inr old

theorem mem_of_get? {key : String} {value : Value} {members : Members}
    (found : get? key members = some value) : (key, value) ∈ members := by
  induction members with
  | nil => cases found
  | cons first rest ih =>
      obtain ⟨name, other⟩ := first
      unfold get? at found
      split at found
      · rename_i same
        cases found
        exact same ▸ List.mem_cons_self
      · exact List.mem_cons_of_mem _ (ih found)

theorem Ascending.get?_of_mem {key : String} {value : Value} {members : Members}
    (ascending : Ascending members) (inside : (key, value) ∈ members) :
    get? key members = some value := by
  induction members with
  | nil => cases inside
  | cons first rest ih =>
      obtain ⟨name, other⟩ := first
      have ⟨before, later⟩ := List.pairwise_cons.mp ascending
      unfold get?
      cases List.mem_cons.mp inside with
      | inl head =>
          cases head
          exact if_pos rfl
      | inr tail =>
          have different : name ≠ key := ne_of_lt (before _ tail)
          rw [if_neg different]
          exact ih later tail

theorem get?_eq_none_of_less {key : String} {members : Members}
    (less : ∀ member ∈ members, key < member.1) : get? key members = none := by
  cases found : get? key members with
  | none => rfl
  | some value =>
      exact False.elim (String.lt_irrefl key (less _ (mem_of_get? found)))

end Members

/-! ### Values that are orderly at every depth -/

/-- All objects in a value have ascending keys. -/
inductive Value.Orderly : Value → Prop
  | null : Orderly .null
  | bool (value : Bool) : Orderly (.bool value)
  | number (value : Number) : Orderly (.number value)
  | string (value : String) : Orderly (.string value)
  | array
      {elements : List Value} (each : ∀ element ∈ elements, element.Orderly) :
      Orderly (.array elements)
  | object {members : Members} (ascending : members.Ascending)
      (each : ∀ member ∈ members, member.2.Orderly) : Orderly (.object members)

theorem Value.Orderly.ofMembers
    {members : List (String × Value)}
    (each : ∀ member ∈ members, member.2.Orderly) :
    (Value.ofMembers members).Orderly :=
  .object (Members.ascending_ofList members)
    fun member listed => each member (Members.mem_of_mem_ofList listed)

theorem Value.Orderly.member
    {members : Members} {key : String} {value : Value}
    (orderly : (Value.object members).Orderly)
    (found : members.get? key = some value) : value.Orderly := by
  cases orderly with
  | object ascending each => exact each _ (Members.mem_of_get? found)

theorem Value.Orderly.element
    {elements : List Value} {place : Nat} {value : Value}
    (orderly : (Value.array elements).Orderly)
    (found : elements[place]? = some value) : value.Orderly := by
  cases orderly with
  | array each => exact each _ (List.mem_of_getElem? found)

/-! ### What a text means is orderly -/

namespace Token

/-- A scalar is no container, so it is orderly. -/
def Orderly (token : Token) : Prop :=
  ∀ value, token = scalar value → value.Orderly

theorem eq_of_word
    {value result : Value} {expected text rest : List Char}
    (read : word value expected text = .complete result rest) :
    result = value := by
  induction expected generalizing text with
  | nil =>
      cases read
      rfl
  | cons next more ih =>
      cases text with
      | nil => cases read
      | cons char after =>
          unfold word at read
          split at read
          · exact ih read
          · cases read

theorem orderly_ofLexeme
    {α : Type} {kind : ScalarKind} {value : α → Value} {lexeme : Lexeme α}
    (orderly : ∀ content rest, lexeme = .complete content rest →
      (value content).Orderly) :
    (ofLexeme kind value lexeme).1.Orderly := by
  intro result same
  cases lexeme with
  | complete content rest =>
      cases same
      exact orderly content rest rfl
  | cut => cases same
  | broken => cases same

theorem orderly_word
    {value : Value} (orderly : value.Orderly) (expected text : List Char) :
    (ofLexeme .other id (word value expected text)).1.Orderly :=
  orderly_ofLexeme fun _ _ read => eq_of_word read ▸ orderly

theorem orderly_starting (char : Char) (rest : List Char) :
    (starting char rest).1.Orderly := by
  unfold starting
  split
  case h_7 => exact orderly_ofLexeme fun _ _ _ => .string _
  case h_8 => exact orderly_ofLexeme fun _ _ _ => .number _
  case h_9 => exact orderly_word .null _ _
  case h_10 => exact orderly_word (.bool true) _ _
  case h_11 => exact orderly_word (.bool false) _ _
  case h_12 =>
    split
    · exact orderly_ofLexeme fun _ _ _ => .number _
    · exact fun _ same => nomatch same
  all_goals exact fun _ same => nomatch same

theorem orderly_next {text rest : List Char} {token : Token}
    (taken : next text = some (token, rest)) : token.Orderly := by
  induction text with
  | nil => cases taken
  | cons char after ih =>
      unfold next at taken
      split at taken
      · exact ih taken
      · have same : starting char after = (token, rest) := Option.some.inj taken
        have first : (starting char after).1 = token := congrArg Prod.fst same
        exact first ▸ orderly_starting char after

end Token

/-- Everything read into a container so far is orderly. -/
def Container.Orderly : Container → Prop
  | array before => ∀ value ∈ before, value.Orderly
  | object before _ => ∀ member ∈ before, member.2.Orderly

namespace Expectation

/-- Everything read so far is orderly. -/
def Orderly : Expectation → Prop
  | value around | elementOrEnd around | keyOrEnd around =>
      ∀ container ∈ around, container.Orderly
  | commaInArray before around =>
      (∀ value ∈ before, value.Orderly) ∧ ∀ container ∈ around,
        container.Orderly
  | key before around | colon before _ around | commaInObject before around =>
      (∀ member ∈ before, member.2.Orderly) ∧
        ∀ container ∈ around, container.Orderly
  | nothing result => result.Orderly

theorem orderly_after
    {result : Value} {around : List Container} (orderly : result.Orderly)
    (outside : ∀ container ∈ around, container.Orderly) :
    (after result around).Orderly := by
  cases around with
  | nil => exact orderly
  | cons inner outer =>
      have ⟨inside, rest⟩ := List.forall_mem_cons.mp outside
      cases inner with
      | array before => exact ⟨List.forall_mem_cons.mpr ⟨orderly, inside⟩, rest⟩
      | object before name =>
          exact ⟨List.forall_mem_cons.mpr ⟨orderly, inside⟩, rest⟩

theorem eq_of_opened {around : List Container} {inside next : Expectation}
    (taken : opened around inside = .ok next) : next = inside := by
  unfold opened at taken
  split at taken
  · cases taken
    rfl
  · cases taken

theorem orderly_startValue
    {around : List Container} {token : Token} {next : Expectation}
    (scalar : token.Orderly) (outside : ∀ container ∈ around, container.Orderly)
    (taken : startValue around token = .ok next) : next.Orderly := by
  cases token with
  | scalar result =>
      cases taken
      exact orderly_after (scalar result rfl) outside
  | openArray => exact eq_of_opened taken ▸ outside
  | openObject => exact eq_of_opened taken ▸ outside
  | _ => cases taken

theorem orderly_startKey
    {before : List (String × Value)} {around : List Container} {token : Token}
    {next : Expectation} (inside : ∀ member ∈ before, member.2.Orderly)
    (outside : ∀ container ∈ around, container.Orderly)
    (taken : startKey before around token = .ok next) : next.Orderly := by
  unfold startKey at taken
  split at taken
  · cases taken
    exact ⟨inside, outside⟩
  · cases taken
  · cases taken

theorem Orderly.step {expectation next : Expectation} {token : Token}
    (orderly : expectation.Orderly) (scalar : token.Orderly)
    (taken : expectation.step token = .ok next) : next.Orderly := by
  unfold Expectation.step at taken
  split at taken
  case h_1 => exact orderly_startValue scalar orderly taken
  case h_2 =>
    cases taken
    exact orderly_after (.array (List.forall_mem_nil _)) orderly
  case h_3 =>
    refine orderly_startValue scalar (List.forall_mem_cons.mpr ⟨?_, orderly⟩)
      taken
    exact List.forall_mem_nil _
  case h_4 =>
    cases taken
    exact List.forall_mem_cons.mpr orderly
  case h_5 =>
    cases taken
    exact orderly_after (.array fun value read =>
      orderly.1 value (List.mem_reverse.mp read))
        orderly.2
  case h_7 =>
    cases taken
    exact orderly_after (.object Members.ascending_nil (List.forall_mem_nil _))
      orderly
  case h_8 => exact orderly_startKey (List.forall_mem_nil _) orderly taken
  case h_9 => exact orderly_startKey orderly.1 orderly.2 taken
  case h_10 =>
    cases taken
    exact List.forall_mem_cons.mpr orderly
  case h_12 =>
    cases taken
    exact orderly
  case h_13 =>
    cases taken
    exact orderly_after
      (.ofMembers fun member read =>
        orderly.1 member (List.mem_reverse.mp read)) orderly.2
  all_goals cases taken

theorem Orderly.readTokens
    {count : Nat} {expectation : Expectation} {text : List Char}
    {result : Value} (orderly : expectation.Orderly)
    (read : readTokens count expectation text = .ok result) :
    result.Orderly := by
  have ended {last : Expectation} (orderly : last.Orderly)
    (read : last.finish = .ok result) :
      result.Orderly := by
    cases last <;> cases read
    exact orderly
  induction count generalizing expectation text with
  | zero => exact ended orderly read
  | succ count ih =>
      unfold Json.readTokens at read
      split at read
      · exact ended orderly read
      · rename_i token rest taken
        split at read
        · rename_i following stepped
          exact ih (orderly.step (Token.orderly_next taken) stepped) read
        · cases read

end Expectation

theorem orderly_of_parse
    {text : String} {value : Value} (read : parse text = .ok value) :
    value.Orderly := by
  have start : (Expectation.value []).Orderly := List.forall_mem_nil _
  exact start.readTokens read

/-! ### Laying one object over another -/

/-- What a key gives when one object lies over another: the upper member over
the lower one, unless the upper one is missing or `null`. -/
def Members.overlaid (lower upper : Members) (key : String) : Option Value :=
  match (upper.get? key).filter fun value => !value.isNull with
  | none => lower.get? key
  | some value =>
      some (((lower.get? key).map fun old => old.merge value).getD value)

theorem Members.merge_cons
    (lower : Members) (key : String) (value : Value) (rest : Members) :
    Members.merge lower ((key, value) :: rest) =
      if value.isNull then Members.merge lower rest
      else Members.merge
        (lower.insert key (((lower.get? key).map fun old =>
          old.merge value).getD value)) rest := by
  rw [Members.merge]
  cases lower.get? key <;> rfl

theorem Members.get?_merge
    {lower upper : Members} (ascending : upper.Ascending) (key : String) :
    (Members.merge lower upper).get? key = overlaid lower upper key := by
  induction upper generalizing lower with
  | nil => simp [Members.merge, overlaid]
  | cons first rest ih =>
      obtain ⟨name, value⟩ := first
      have ⟨before, later⟩ := List.pairwise_cons.mp ascending
      rw [Members.merge_cons]
      by_cases same : name = key
      · subst same
        have last : Members.get? name rest = none :=
          Members.get?_eq_none_of_less before
        by_cases blank : value.isNull
        · simp [blank, ih later, overlaid, Members.get?, last,
            Option.filter_some]
        · simp [blank, ih later, overlaid, Members.get?, last,
            Option.filter_some]
      · have other : key ≠ name := Ne.symm same
        by_cases blank : value.isNull
        · simp [blank, ih later, overlaid, Members.get?, same]
        · simp [blank, ih later, overlaid, Members.get?, same,
            Members.get?_insert_of_ne other]

theorem Members.Ascending.merge {lower : Members} (ascending : lower.Ascending)
    (upper : Members) : (Members.merge lower upper).Ascending := by
  induction upper generalizing lower with
  | nil => simpa [Members.merge] using ascending
  | cons first rest ih =>
      rw [Members.merge_cons]
      split
      · exact ih ascending
      · exact ih (ascending.insert _ _)

theorem Members.orderly_merge
    {lower upper : Members} (below : ∀ member ∈ lower, member.2.Orderly)
    (above : ∀ member ∈ upper, member.2.Orderly)
    (merged : ∀ member ∈ upper, ∀ {old : Value}, old.Orderly →
      (old.merge member.2).Orderly) :
    ∀ member ∈ Members.merge lower upper, member.2.Orderly := by
  induction upper generalizing lower with
  | nil => simpa [Members.merge] using below
  | cons first rest ih =>
      obtain ⟨key, value⟩ := first
      have ⟨value_orderly, above⟩ := List.forall_mem_cons.mp above
      have ⟨value_merged, merged⟩ := List.forall_mem_cons.mp merged
      rw [Members.merge_cons]
      split
      · exact ih below above merged
      · refine ih ?_ above merged
        intro member listed
        cases Members.eq_or_mem_of_mem_insert listed with
        | inr old => exact below member old
        | inl new =>
            subst new
            cases found : lower.get? key with
            | none => exact value_orderly
            | some old =>
                exact value_merged (below _ (Members.mem_of_get? found))

theorem Value.merge_object (lower upper : Members) :
    (Value.object lower).merge (.object upper) =
      .object (Members.merge lower upper) := by
  rw [Value.merge]

theorem Value.merge_of_not_object
    {upper : Value} (other : ∀ members, upper ≠ .object members)
    (lower : Value) : lower.merge upper = upper := by
  rw [Value.merge]
  intro below above _ same
  exact other above same

theorem Value.merge_over_other
    {lower : Value} (other : ∀ members, lower ≠ .object members)
    (upper : Value) : lower.merge upper = upper := by
  rw [Value.merge]
  intro below above same _
  exact other below same

theorem Value.Orderly.merge {lower upper : Value} (below : lower.Orderly)
    (above : upper.Orderly) : (lower.merge upper).Orderly := by
  induction above generalizing lower with
  | @object members ascending each ih =>
      cases below with
      | object lower_ascending lower_each =>
          rw [Value.merge_object]
          exact .object (lower_ascending.merge members)
            (Members.orderly_merge lower_each each fun member listed =>
              ih member listed)
      | _ =>
          rw [Value.merge_over_other (by simp)]
          exact .object ascending each
  | array each =>
      rw [Value.merge_of_not_object (by simp)]
      exact .array each
  | _ =>
      rw [Value.merge_of_not_object (by simp)]
      constructor

end BroadcastHub.Json
