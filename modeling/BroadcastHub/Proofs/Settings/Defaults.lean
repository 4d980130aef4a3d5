import Mathlib.Data.List.Pairwise
import BroadcastHub.Proofs.Json.Overlay
import BroadcastHub.Proofs.Settings.Entries

/-!
# Standard values below and beside

Standard values can be laid under a value before it is read, and they are filled
in for what is missing while it is read.  `ofValue_merge_standard` says that
both come to the same, misfits included, once the `null` members are taken out
that the merge takes no notice of: those of the value itself and those of its
sections.

The argument is `readMembers_of_filled`: members that read the standard value
back do not matter, wherever they stand between others, as long as the entries
do not interfere.
-/

namespace BroadcastHub.Json

/-! ### Values without `null` members -/

def Members.withoutNulls (members : Members) : Members :=
  members.filter fun member => !member.2.isNull

/-- An object without its `null` members; any other value as it is. -/
def Value.withoutNulls : Value → Value
  | .object members => .object (Members.withoutNulls members)
  | value => value

/-- There is no `null` in the value, at any depth. -/
inductive Value.NullFree : Value → Prop
  | bool (value : Bool) : NullFree (.bool value)
  | number (value : Number) : NullFree (.number value)
  | string (value : String) : NullFree (.string value)
  | array
      {elements : List Value} (each : ∀ element ∈ elements, element.NullFree) :
      NullFree (.array elements)
  | object {members : Members} (each : ∀ member ∈ members, member.2.NullFree) :
      NullFree (.object members)

namespace Members

theorem get?_self (key : String) (value : Value) (rest : Members) :
    get? key ((key, value) :: rest) = some value :=
  if_pos rfl

theorem get?_of_ne
    {name key : String} (different : name ≠ key) (value : Value)
    (rest : Members) : get? key ((name, value) :: rest) = get? key rest :=
  if_neg different

theorem Ascending.withoutNulls
    {members : Members} (ascending : members.Ascending) :
    members.withoutNulls.Ascending :=
  List.Pairwise.filter _ ascending

theorem Ascending.map
    {members : Members} (ascending : members.Ascending)
    (change : String → Value → Value) :
    Ascending (List.map (fun member => (member.1, change member.1 member.2))
      members) :=
  List.pairwise_map.mpr ascending

theorem get?_map
    (members : Members) (change : String → Value → Value) (key : String) :
    get? key (List.map (fun member => (member.1, change member.1 member.2))
      members) =
      (members.get? key).map (change key) := by
  induction members with
  | nil => rfl
  | cons first rest ih =>
      obtain ⟨name, value⟩ := first
      by_cases same : name = key
      · subst same
        simp [get?]
      · simpa [get?, same] using ih

theorem get?_withoutNulls_of_blank
    {members : Members} (ascending : members.Ascending) {key : String}
    (blank : members.get? key = none ∨ members.get? key = some .null) :
    members.withoutNulls.get? key = none := by
  cases found : members.withoutNulls.get? key with
  | none => rfl
  | some value =>
      obtain ⟨listed, isThere⟩ := List.mem_filter.mp (mem_of_get? found)
      have given := ascending.get?_of_mem listed
      cases blank with
      | inl missing => cases missing.symm.trans given
      | inr null =>
          cases null.symm.trans given
          cases isThere

theorem get?_withoutNulls_of_given
    {members : Members} (ascending : members.Ascending) {key : String}
    {value : Value} (given : members.get? key = some value)
    (isThere : value ≠ .null) : members.withoutNulls.get? key = some value := by
  refine ascending.withoutNulls.get?_of_mem
    (List.mem_filter.mpr ⟨mem_of_get? given, ?_⟩)
  cases value with
  | null => exact absurd rfl isThere
  | _ => rfl

end Members

theorem Value.NullFree.withoutNulls_eq
    {value : Value} (nullFree : value.NullFree) :
    value.withoutNulls = value := by
  cases nullFree with
  | object each =>
      refine congrArg Value.object
        (List.filter_eq_self.mpr fun (key, value) listed => ?_)
      have inside : value.NullFree := each (key, value) listed
      cases inside <;> rfl
  | _ => rfl

end BroadcastHub.Json

namespace BroadcastHub.Settings

open Json (Value Members)

/-! ### Members that read the standard value back -/

section Filling

variable {Section : Type} {entries : List (Entry Section)}

def entry? (entries : List (Entry Section)) (key : String) :
    Option (Entry Section) :=
  entries.find? fun entry => entry.key = key

/-- Where a value read by the second entry changes nothing, it changes nothing
after the first entry has been read either. -/
def Entry.Apart (first second : Entry Section) : Prop :=
  ∀ value other current next, first.read value current = .ok next →
    second.read other current = .ok current → second.read other next = .ok next

def Independent (entries : List (Entry Section)) : Prop :=
  entries.Pairwise fun first second => first.Apart second ∧ second.Apart first

theorem Entry.apart_of_comm
    {First Second : Type} {one other : String}
    {read : Value → Except Misfit First} {put : First → Section → Section}
    {readOther : Value → Except Misfit Second}
    {putOther : Second → Section → Section}
    (comm : ∀ first second current,
      putOther second (put first current) =
        put first (putOther second current)) :
    Entry.Apart
      ⟨one, fun value current => do return put (← read value) current⟩
      ⟨other, fun value current =>
        do return putOther (← readOther value) current⟩ := by
  intro value beside current next changed still
  obtain ⟨first, _, same⟩ := bind_eq_ok_iff.mp changed
  obtain ⟨second, second_read, unchanged⟩ := bind_eq_ok_iff.mp still
  cases same
  refine bind_eq_ok_iff.mpr ⟨second, second_read, congrArg Except.ok ?_⟩
  rw [comm, Except.ok.inj unchanged]

/-- What stands at a key is the same for its entry, or was filled in and reads
back what is there already. -/
inductive Filled
    (entries : List (Entry Section)) (current : Section) (key : String) :
    Option Value → Option Value → Prop
  | missing : Filled entries current key none none
  | standard
      {value : Value}
      (idle : ∀ entry, entry? entries key = some entry →
        entry.read value current = .ok current) :
      Filled entries current key none (some value)
  | given {value other : Value}
      (same : ∀ entry, entry? entries key = some entry →
        ∀ current, entry.read other current = entry.read value current) :
      Filled entries current key (some value) (some other)

theorem Independent.apart
    (independent : Independent entries) {first second : Entry Section}
    (one : first ∈ entries) (other : second ∈ entries)
    (different : first.key ≠ second.key) : first.Apart second :=
  have _symmetric : Std.Symm fun first second : Entry Section =>
      first.Apart second ∧ second.Apart first :=
        ⟨fun _ _ both => ⟨both.2, both.1⟩⟩
  (List.Pairwise.forall independent one other fun same =>
    different (same ▸ rfl)).1

/-- What was filled in at one key still reads back what is there after another
key was read. -/
theorem Filled.onward
    (independent : Independent entries) {current next : Section}
    {key other : String} {given filled : Option Value} {entry : Entry Section}
    {value : Value} (before : Filled entries current other given filled)
    (found : entry? entries key = some entry) (different : key ≠ other)
    (read : entry.read value current = .ok next) :
    Filled entries next other given filled := by
  cases before with
  | missing => exact .missing
  | given same => exact .given same
  | standard idle =>
      refine .standard fun beside there => ?_
      have keys : entry.key ≠ beside.key := by
        rw [key_of_find? found, key_of_find? there]
        exact different
      exact independent.apart (List.mem_of_find?_eq_some found)
        (List.mem_of_find?_eq_some there) keys _ _ _ _ read (idle beside there)

theorem readMembers_of_unknown
    {key : String} (unknown : entry? entries key = none) (value : Value)
    (rest : Members) (current : Section) :
    readMembers entries ((key, value) :: rest) current =
      readMembers entries rest current := by
  unfold entry? at unknown
  rw [readMembers, unknown]

theorem readMembers_of_entry {key : String} {entry : Entry Section}
    (found : entry? entries key = some entry) (value : Value) (rest : Members)
    (current : Section) : readMembers entries ((key, value) :: rest) current =
      (do readMembers entries rest (← entry.read value current)) := by
  unfold entry? at found
  rw [readMembers, found]

/-- What stands at each of the keys of two objects was given for both or filled
in. -/
def FilledIn
    (entries : List (Entry Section)) (current : Section)
    (given filled : Members) : Prop :=
  ∀ key, Filled entries current key (given.get? key) (filled.get? key)

namespace FilledIn

variable {current next : Section} {given filled rest : Members} {key : String}
  {value old : Value}

theorem skip (each : FilledIn entries current given ((key, value) :: rest))
    (missing : given.get? key = none) (last : rest.get? key = none) :
    FilledIn entries current given rest := by
  intro other
  by_cases same : key = other
  · subst same
    rw [missing, last]
    exact .missing
  · have there := each other
    rwa [Json.Members.get?_of_ne same] at there

theorem pass
    (each : FilledIn entries current ((key, old) :: given)
      ((key, value) :: rest))
    (missing : given.get? key = none) (last : rest.get? key = none) :
    FilledIn entries current given rest := by
  intro other
  by_cases same : key = other
  · subst same
    rw [missing, last]
    exact .missing
  · have there := each other
    rwa [Json.Members.get?_of_ne same, Json.Members.get?_of_ne same] at there

/-- Neither object has the key any more, so reading its entry disturbs
nothing. -/
theorem onward
    (each : FilledIn entries current given filled)
    (independent : Independent entries) (missing : given.get? key = none)
    (last : filled.get? key = none) {entry : Entry Section}
    (found : entry? entries key = some entry)
    (read : entry.read value current = .ok next) :
    FilledIn entries next given filled := by
  intro other
  by_cases same : key = other
  · subst same
    rw [missing, last]
    exact .missing
  · exact (each other).onward independent found same read

/-- The first key of the one object is the first of the other one if that has
it. -/
theorem exists_eq_cons
    (each : FilledIn entries current given ((key, value) :: rest))
    (given_ascending : given.Ascending)
    (ascending : Members.Ascending ((key, value) :: rest))
    (isGiven : given.get? key = some old) :
    ∃ behind, given = (key, old) :: behind := by
  cases given with
  | nil => cases isGiven
  | cons first behind =>
      obtain ⟨name, head⟩ := first
      have ⟨given_later, _⟩ := List.pairwise_cons.mp given_ascending
      have ⟨later, _⟩ := List.pairwise_cons.mp ascending
      by_cases same : name = key
      · subst same
        rw [Json.Members.get?_self] at isGiven
        cases isGiven
        exact ⟨behind, rfl⟩
      · rw [Json.Members.get?_of_ne same] at isGiven
        have less : name < key :=
          given_later _ (Json.Members.mem_of_get? isGiven)
        have there := each name
        rw [Json.Members.get?_self,
          Json.Members.get?_of_ne (Ne.symm same)] at there
        cases found : rest.get? name with
        | none =>
            rw [found] at there
            cases there
        | some other =>
            have greater : key < name :=
              later _ (Json.Members.mem_of_get? found)
            exact absurd (String.lt_trans less greater) (String.lt_irrefl name)

end FilledIn

/-- Members that were filled in make no difference. -/
theorem readMembers_of_filled
    (independent : Independent entries) {given filled : Members}
    {current : Section} (given_ascending : given.Ascending)
    (filled_ascending : filled.Ascending)
    (each : FilledIn entries current given filled) :
    readMembers entries filled current = readMembers entries given current := by
  -- What stands first in the filled object was filled in, or stands first in
  -- the given one as well.
  induction filled generalizing given current with
  | nil =>
      cases given with
      | nil => rfl
      | cons first rest =>
          have none := each first.1
          rw [Json.Members.get?_self] at none
          cases none
  | cons first rest ih =>
      obtain ⟨key, value⟩ := first
      have ⟨later, rest_ascending⟩ := List.pairwise_cons.mp filled_ascending
      have last : Members.get? key rest = none :=
        Json.Members.get?_eq_none_of_less later
      have here := each key
      rw [Json.Members.get?_self] at here
      cases isGiven : given.get? key with
      | none =>
          have skipped :=
            ih given_ascending rest_ascending (each.skip isGiven last)
          rw [isGiven] at here
          cases here with
          | standard idle =>
              cases found : entry? entries key with
              | none => exact (readMembers_of_unknown found _ _ _).trans skipped
              | some entry =>
                  rw [readMembers_of_entry found, idle entry found]
                  exact skipped
      | some old =>
          -- Its entry is read with the same outcome in both, and a misfit ends
          -- both.
          obtain ⟨behind, rfl⟩ :=
            each.exists_eq_cons given_ascending filled_ascending isGiven
          have ⟨given_later, behind_ascending⟩ :=
            List.pairwise_cons.mp given_ascending
          have missing : Members.get? key behind = none :=
            Json.Members.get?_eq_none_of_less given_later
          have beside := each.pass missing last
          rw [isGiven] at here
          cases here with
          | given same =>
              cases found : entry? entries key with
              | none =>
                  rw [readMembers_of_unknown found,
                    readMembers_of_unknown found]
                  exact ih behind_ascending rest_ascending beside
              | some entry =>
                  rw [readMembers_of_entry found, readMembers_of_entry found,
                    same entry found current]
                  cases read : entry.read old current with
                  | error misfit => rfl
                  | ok next =>
                      exact ih behind_ascending rest_ascending
                        (beside.onward independent missing last found read)

end Filling


/-! ### Standard values under an object -/

section Standing

variable {Section : Type} {entries : List (Entry Section)} {standard : Section}
  {members upper : Members} {change : String → Value → Value}

/-- Each entry has a member that reads the standard value back.  Whatever is
laid over that member is read as what it is changed to. -/
structure Standing
    (entries : List (Entry Section)) (standard : Section) (members : Members)
    (change : String → Value → Value) : Prop where
  ascending : members.Ascending
  independent : Independent entries
  each : ∀ entry ∈ entries, ∃ old, members.get? entry.key = some old ∧
    entry.read old standard = .ok standard ∧
      ∀ value, value.Orderly → value ≠ .null → ∀ current,
        entry.read (old.merge value) current =
          entry.read (change entry.key value) current

namespace Standing

theorem filledIn_merge
    (standing : Standing entries standard members change)
    (ascending : upper.Ascending)
    (orderly : ∀ member ∈ upper, member.2.Orderly) :
    FilledIn entries standard
      (List.map (fun member => (member.1, change member.1 member.2))
        upper.withoutNulls)
      (Members.merge members upper) := by
  intro key
  rw [Json.Members.get?_map, Json.Members.get?_merge ascending]
  cases Json.Members.blank_or_given upper key with
  | inl blank =>
      rw [Json.Members.overlaid_of_blank blank,
        Json.Members.get?_withoutNulls_of_blank ascending blank]
      cases stands : members.get? key with
      | none => exact .missing
      | some old =>
          refine .standard fun entry found => ?_
          obtain ⟨value, valueStands, reads, -⟩ :=
            standing.each entry (List.mem_of_find?_eq_some found)
          rw [key_of_find? found, stands] at valueStands
          cases valueStands
          exact reads
  | inr there =>
      obtain ⟨value, given, isThere⟩ := there
      rw [Json.Members.overlaid_of_given given isThere,
        Json.Members.get?_withoutNulls_of_given ascending given isThere]
      refine .given fun entry found current => ?_
      obtain ⟨old, stands, -, merged⟩ :=
        standing.each entry (List.mem_of_find?_eq_some found)
      have same := merged value (orderly _ (Json.Members.mem_of_get? given))
        isThere current
      rw [key_of_find? found] at stands same
      rw [stands]
      exact same

theorem readMembers_merge
    (standing : Standing entries standard members change)
    (ascending : upper.Ascending)
    (orderly : ∀ member ∈ upper, member.2.Orderly) :
    readMembers entries (Members.merge members upper) standard =
      readMembers entries
        (List.map (fun member => (member.1, change member.1 member.2))
          upper.withoutNulls)
        standard :=
  readMembers_of_filled standing.independent (ascending.withoutNulls.map change)
    (standing.ascending.merge upper) (standing.filledIn_merge ascending orderly)

theorem readMembers_self (standing : Standing entries standard members change) :
    readMembers entries members standard = .ok standard := by
  have alone := standing.readMembers_merge Json.Members.ascending_nil
    (List.forall_mem_nil _)
  rw [Members.merge] at alone
  exact alone

theorem readSection_merge
    (standing : Standing entries standard members fun _ value => value)
    (shape : Shape) {value : Value} (orderly : value.Orderly) :
    readSection shape entries standard ((Value.object members).merge value) =
      readSection shape entries standard value.withoutNulls := by
  cases orderly with
  | @object upper ascending each =>
      rw [Value.merge_object]
      refine (standing.readMembers_merge ascending each).trans ?_
      rw [List.map_id'' fun _ => rfl]
      rfl
  | _ =>
      rw [Value.merge_of_not_object (by simp)]
      rfl

end Standing

end Standing

/-! ### The standard settings -/

/-- A value for the settings without the `null` members that it has itself and
in its sections. -/
def pruned : Value → Value
  | .object members =>
      .object ((Members.withoutNulls members).map fun (key, value) =>
        (key, if key ∈ entries.map Entry.key then value.withoutNulls
          else value))
  | value => value

theorem pruned_of_nullFree {value : Value} (nullFree : value.NullFree) :
    pruned value = value := by
  cases nullFree with
  | @object members each =>
      have whole : (Value.object members).withoutNulls = .object members :=
        (Value.NullFree.object each).withoutNulls_eq
      have kept : Members.withoutNulls members = members :=
        Value.object.inj whole
      refine congrArg Value.object ?_
      rw [kept]
      refine (List.map_congr_left fun (key, value) listed => ?_).trans
        (List.map_id members)
      simp only [(each (key, value) listed).withoutNulls_eq, ite_self, id]
  | _ => rfl

theorem Slot.exists_scalar
    {Section Content : Type} {area : Area Section} (slot : Slot area Content)
    (put_get : slot.leaf.put (slot.leaf.get area.standard) area.standard =
      area.standard) :
    ∃ old, area.members.get? slot.place.key = some old ∧
      (slot.leaf.entry slot.place.key).read old area.standard =
        .ok area.standard ∧
      ∀ value, value.Orderly → value ≠ .null → ∀ current,
        (slot.leaf.entry slot.place.key).read (old.merge value) current =
          (slot.leaf.entry slot.place.key).read value current := by
  refine ⟨_, slot.standing, ?_, fun value _ _ current => ?_⟩
  · exact Part.entry_read_eq_ok_iff.mpr
      ⟨_, (slot.leaf.read_eq_ok_iff _ _).mpr rfl, put_get⟩
  · rw [Value.merge_over_other (slot.leaf.write_scalar _)]

/-- A section whose fields stand in the standard settings stands there
itself. -/
theorem Area.exists_object
    {Section : Type} (area : Area Section) {outer : Members}
    (written : Settings.standard.toValue = .object outer)
    (standing : Standing area.entries area.standard area.members fun _ value =>
      value)
    (put_standard : area.part.put area.standard Settings.standard =
      Settings.standard) :
    ∃ old, outer.get? area.place.key = some old ∧
      (area.part.entry area.place.key).read old Settings.standard =
        .ok Settings.standard ∧
      ∀ value, value.Orderly → value ≠ .null → ∀ current,
        (area.part.entry area.place.key).read (old.merge value) current =
          (area.part.entry area.place.key).read value.withoutNulls current := by
  obtain ⟨members, same, stands⟩ := area.standing
  cases written.symm.trans same
  refine ⟨_, stands, ?_, fun value orderly _ current => ?_⟩
  · have reads : area.part.read (.object area.members) = .ok area.standard :=
      area.read_eq ▸ standing.readMembers_self
    exact Part.entry_read_eq_ok_iff.mpr ⟨_, reads, put_standard⟩
  · simp only [Part.entry, area.read_eq,
      standing.readSection_merge area.shape orderly]

theorem Area.standing_server : Standing Area.server.entries Area.server.standard
    Area.server.members fun _ value => value where
  ascending :=
    Json.Members.ascending_of_keys ["host", "maxConnections", "maxMessageSize",
      "port"] rfl (by decide)
  independent := by
    simp only [Area.server, ServerSection.entries, Independent,
      List.pairwise_cons, List.forall_mem_cons, List.not_mem_nil, false_implies,
      implies_true, and_true, List.Pairwise.nil]
    and_intros <;> exact Entry.apart_of_comm fun _ _ _ => rfl
  each := List.forall_mem_cons.mpr ⟨Slot.host.exists_scalar rfl,
    List.forall_mem_cons.mpr ⟨Slot.port.exists_scalar rfl,
      List.forall_mem_cons.mpr ⟨Slot.maxConnections.exists_scalar rfl,
        List.forall_mem_singleton.mpr (Slot.maxMessageSize.exists_scalar rfl)⟩⟩⟩

theorem Area.standing_liveness :
    Standing Area.liveness.entries Area.liveness.standard
    Area.liveness.members fun _ value => value where
  ascending :=
    Json.Members.ascending_of_keys ["heartbeatTimeoutMs", "pongJitterMs",
      "pongWriteTimeoutMs"] rfl (by decide)
  independent := by
    simp only [Area.liveness, LivenessSection.entries, Independent,
      List.pairwise_cons, List.forall_mem_cons, List.not_mem_nil, false_implies,
      implies_true, and_true, List.Pairwise.nil]
    and_intros <;> exact Entry.apart_of_comm fun _ _ _ => rfl
  each := List.forall_mem_cons.mpr ⟨Slot.heartbeatTimeout.exists_scalar rfl,
    List.forall_mem_cons.mpr ⟨Slot.pongWriteTimeout.exists_scalar rfl,
      List.forall_mem_singleton.mpr (Slot.pongJitter.exists_scalar rfl)⟩⟩

theorem Area.standing_broadcast :
    Standing Area.broadcast.entries Area.broadcast.standard
    Area.broadcast.members fun _ value => value where
  ascending := List.pairwise_singleton _ _
  independent := List.pairwise_singleton _ _
  each := List.forall_mem_singleton.mpr (Slot.writeTimeout.exists_scalar rfl)

theorem Area.standing_shutdown :
    Standing Area.shutdown.entries Area.shutdown.standard
    Area.shutdown.members fun _ value => value where
  ascending := List.pairwise_singleton _ _
  independent := List.pairwise_singleton _ _
  each := List.forall_mem_singleton.mpr (Slot.drainTimeout.exists_scalar rfl)

theorem Area.standing_logging :
    Standing Area.logging.entries Area.logging.standard
    Area.logging.members fun _ value => value where
  ascending := Json.Members.ascending_of_keys ["json", "level"] rfl (by decide)
  independent := List.pairwise_pair.mpr
    ⟨Entry.apart_of_comm fun _ _ _ => rfl, Entry.apart_of_comm fun _ _ _ => rfl⟩
  each := List.forall_mem_cons.mpr ⟨Slot.level.exists_scalar rfl,
    List.forall_mem_singleton.mpr (Slot.json.exists_scalar rfl)⟩

/-- Every section stands in the standard settings; under a file it is read as
the file has it, but for its `null` members. -/
theorem exists_standing : ∃ outer, standard.toValue = .object outer ∧
    Standing entries standard outer fun key value =>
      if key ∈ entries.map Entry.key then value.withoutNulls else value := by
  obtain ⟨outer, written⟩ :
    ∃ outer, standard.toValue = .object outer := ⟨_, rfl⟩
  refine ⟨outer, written, ?_, ?_, ?_⟩
  · have orderly := orderly_toValue standard
    rw [written] at orderly
    cases orderly with
    | object ascending => exact ascending
  · simp only [entries, Independent, List.pairwise_cons, List.forall_mem_cons,
      List.not_mem_nil, false_implies, implies_true, and_true,
      List.Pairwise.nil]
    and_intros <;> exact Entry.apart_of_comm fun _ _ _ => rfl
  · intro entry listed
    simp only [List.mem_map_of_mem listed, if_true]
    revert entry
    refine List.forall_mem_cons.mpr
      ⟨Area.server.exists_object written Area.standing_server rfl, ?_⟩
    refine List.forall_mem_cons.mpr
      ⟨Area.liveness.exists_object written Area.standing_liveness rfl, ?_⟩
    refine List.forall_mem_cons.mpr
      ⟨Area.broadcast.exists_object written Area.standing_broadcast rfl, ?_⟩
    refine List.forall_mem_cons.mpr
      ⟨Area.shutdown.exists_object written Area.standing_shutdown rfl, ?_⟩
    exact List.forall_mem_singleton.mpr
      (Area.logging.exists_object written Area.standing_logging rfl)

/-- Laying a value over the standard settings before it is read gives the same
settings or the same misfit as reading it alone, without the `null` members that
it has itself and in its sections.  So there is no difference for a value
without `null`. -/
theorem ofValue_merge_standard {value : Value} (orderly : value.Orderly) :
    ofValue (standard.toValue.merge value) = ofValue (pruned value) ∧
      (value.NullFree →
        ofValue (standard.toValue.merge value) = ofValue value) := by
  have same :
      ofValue (standard.toValue.merge value) = ofValue (pruned value) := by
    obtain ⟨outer, written, standing⟩ := exists_standing
    rw [written]
    cases orderly with
    | @object members ascending each =>
        rw [Value.merge_object]
        exact standing.readMembers_merge ascending each
    | _ =>
        rw [Value.merge_of_not_object (by simp)]
        rfl
  refine ⟨same, fun nullFree => ?_⟩
  rw [same, pruned_of_nullFree nullFree]

/-- Settings with `null` at both levels, an unknown section, and an array with
too great a port. -/
def blemished : Value :=
  .object [("extra", .null), ("liveness", .null),
    ("logging", .object [("json", .null), ("level", .string "debug")]),
    ("server", .array [.string "::1", .ofNat 99999])]

/-- Settings with an unknown key and an array. -/
def sparse : Value :=
  .object [("logging", .array [.string "debug"]),
    ("server", .object [("color", .object []), ("port", .ofNat 9000)])]

theorem orderly_blemished : blemished.Orderly := by
  refine .object (Json.Members.ascending_of_keys
    ["extra", "liveness", "logging", "server"] rfl (by decide)) ?_
  simp only [List.mem_cons, List.not_mem_nil, or_false, forall_eq_or_imp,
    forall_eq]
  refine ⟨.null, .null,
    .object (Json.Members.ascending_of_keys ["json", "level"] rfl
    (by decide)) ?_, .array ?_⟩
  · simp only [List.mem_cons, List.not_mem_nil, or_false, forall_eq_or_imp,
      forall_eq]
    exact ⟨.null, .string _⟩
  · simp only [List.mem_cons, List.not_mem_nil, or_false, forall_eq_or_imp,
      forall_eq]
    exact ⟨.string _, .number _⟩

theorem orderly_sparse : sparse.Orderly := by
  refine .object (Json.Members.ascending_of_keys ["logging", "server"] rfl
    (by decide)) ?_
  simp only [List.mem_cons, List.not_mem_nil, or_false, forall_eq_or_imp,
    forall_eq]
  refine ⟨.array (List.forall_mem_singleton.mpr (.string _)),
    .object (Json.Members.ascending_of_keys ["color", "port"] rfl (by decide))
      ?_⟩
  simp only [List.mem_cons, List.not_mem_nil, or_false, forall_eq_or_imp,
    forall_eq]
  exact ⟨.object Json.Members.ascending_nil (List.forall_mem_nil _), .number _⟩

theorem nullFree_sparse : sparse.NullFree := by
  refine .object ?_
  simp only [List.mem_cons, List.not_mem_nil, or_false, forall_eq_or_imp,
    forall_eq]
  refine ⟨.array (List.forall_mem_singleton.mpr (.string _)), .object ?_⟩
  simp only [List.mem_cons, List.not_mem_nil, or_false, forall_eq_or_imp,
    forall_eq]
  exact ⟨.object (List.forall_mem_nil _), .number _⟩

theorem ofValue_merge_standard_of_blemished :
    ofValue (standard.toValue.merge blemished) =
      .error (.outOfRange 99999 .port) ∧
      ofValue (standard.toValue.merge sparse) =
        .ok { server := { port := 9000 }, logging := { level := "debug" } } :=
  ⟨(ofValue_merge_standard orderly_blemished).1.trans rfl,
    ((ofValue_merge_standard orderly_sparse).2 nullFree_sparse).trans rfl⟩

end BroadcastHub.Settings
