import Mathlib.Data.List.Forall2
import BroadcastHub.Proofs.Json.Objects
import BroadcastHub.Settings.Reader

/-!
# Parts of settings

A part of a section is read from one entry: the member with its key if the
section is given as an object, the element at its index if it is given as an
array.  What stands there becomes the part, and where nothing stands the part
stays as it was.  A section can be read if every entry of it fits.
-/

namespace BroadcastHub.Settings

open Json (Value Members)

theorem bind_eq_ok_iff
    {Cause First Result : Type} {first : Except Cause First}
    {rest : First → Except Cause Result} {result : Result} :
    (do rest (← first)) = .ok result ↔ ∃ middle, first = .ok middle ∧
      rest middle = .ok result := by
  cases first with
  | error cause => simp [bind, Except.bind]
  | ok middle => simp [bind, Except.bind]

/-- Where an entry stands in a section: the key of its member, or the index of
its element. -/
structure Place where
  key : String
  index : Nat

def Place.find? (place : Place) : Value → Option Value
  | .object members => Members.get? place.key members
  | .array elements => elements[place.index]?
  | _ => none

/-- A part of a section: how it is read, and how the section is seen and changed
there. -/
structure Part (Section Content : Type) where
  read : Value → Except Misfit Content
  get : Section → Content
  put : Content → Section → Section
  get_put : ∀ content current, get (put content current) = content
  /-- A part is never read from `null`. -/
  read_null : ∀ content, read .null ≠ .ok content

theorem key_of_find?
    {Section : Type} {entries : List (Entry Section)} {entry : Entry Section}
    {key : String}
    (found : (entries.find? fun entry => entry.key = key) = some entry) :
    entry.key = key := by
  simpa using List.find?_some found

namespace Part

variable {Section Content Other : Type}

def entry (part : Part Section Content) (key : String) : Entry Section :=
  ⟨key, fun value current => do return part.put (← part.read value) current⟩

/-- The part is what was found for it, or what it was before if nothing was. -/
def Follows
    (part : Part Section Content) (found : Option Value)
    (before after : Section) : Prop :=
  match found with
  | some value => part.read value = .ok (part.get after)
  | none => part.get after = part.get before

/-- An entry leaves the part as it is. -/
def SparedBy (part : Part Section Content) (entry : Entry Section) : Prop :=
  ∀ value current next, entry.read value current = .ok next →
    part.get next = part.get current

/-- No entry has the part's key or changes the part. -/
def Alone
    (part : Part Section Content) (key : String)
    (entries : List (Entry Section)) : Prop :=
  ∀ entry ∈ entries, entry.key ≠ key ∧ part.SparedBy entry

/-- The part is set by the entry at a place, and by no other one. -/
structure Stands
    (part : Part Section Content) (entries : List (Entry Section))
    (place : Place) : Prop where
  own : entries[place.index]? = some (part.entry place.key)
  others : part.Alone place.key (entries.eraseIdx place.index)

theorem entry_read_eq_ok_iff
    {part : Part Section Content} {key : String} {value : Value}
    {current next : Section} :
    (part.entry key).read value current = .ok next ↔
      ∃ content, part.read value = .ok content ∧
        part.put content current = next := by
  unfold entry
  constructor
  · intro read
    obtain ⟨content, content_read, changed⟩ := bind_eq_ok_iff.mp read
    exact ⟨content, content_read, Except.ok.inj changed⟩
  · intro ⟨content, content_read, changed⟩
    exact bind_eq_ok_iff.mpr ⟨content, content_read, congrArg Except.ok changed⟩

theorem Alone.nil {part : Part Section Content} {key : String} :
    part.Alone key [] :=
  List.forall_mem_nil _

/-- An entry that sets something else leaves the part as it is. -/
theorem Alone.cons
    {part : Part Section Content} {key other : String}
    {entries : List (Entry Section)} {read : Value → Except Misfit Other}
    {put : Other → Section → Section} (different : other ≠ key)
    (apart : ∀ content current,
      part.get (put content current) = part.get current)
    (rest : part.Alone key entries) :
    part.Alone key
      (⟨other, fun value current => do return put (← read value) current⟩ ::
        entries) := by
  refine List.forall_mem_cons.mpr ⟨⟨different, ?_⟩, rest⟩
  intro value current next set
  obtain ⟨content, _, changed⟩ := bind_eq_ok_iff.mp set
  rw [← Except.ok.inj changed, apart]

theorem follows_entry
    {part : Part Section Content} {key : String} {value : Value}
    {current next : Section}
    (read : (part.entry key).read value current = .ok next) :
    part.Follows (some value) current next := by
  obtain ⟨content, content_read, changed⟩ := entry_read_eq_ok_iff.mp read
  rw [Follows, ← changed, part.get_put, content_read]

theorem Follows.trans_none
    {part : Part Section Content} {found : Option Value}
    {before middle after : Section} (first : part.Follows found before middle)
    (second : part.Follows none middle after) :
    part.Follows found before after := by
  have same : part.get after = part.get middle := second
  cases found with
  | none => exact same.trans first
  | some value => exact first.trans (congrArg Except.ok same.symm)

theorem Follows.none_trans
    {part : Part Section Content} {found : Option Value}
    {before middle after : Section} (first : part.get middle = part.get before)
    (second : part.Follows found middle after) :
    part.Follows found before after := by
  cases found with
  | none => exact Eq.trans second first
  | some value => exact second

namespace Stands

variable {part : Part Section Content} {entries : List (Entry Section)}
  {place : Place}

theorem eq_or_mem_eraseIdx {index : Nat} {own entry : Entry Section}
    (there : entries[index]? = some own) (listed : entry ∈ entries) :
    entry = own ∨ entry ∈ entries.eraseIdx index := by
  obtain ⟨other, found⟩ := List.mem_iff_getElem?.mp listed
  by_cases same : other = index
  · subst same
    exact .inl (Option.some.inj (found.symm.trans there))
  · exact .inr (List.mem_eraseIdx_iff_getElem?.mpr ⟨other, same, found⟩)

theorem find?_key (stands : part.Stands entries place) :
    (entries.find? fun entry => entry.key = place.key) =
      some (part.entry place.key) := by
  have listed : part.entry place.key ∈ entries :=
    List.mem_of_getElem? stands.own
  cases found : entries.find? fun entry => entry.key = place.key with
  | none =>
      have other := List.find?_eq_none.mp found _ listed
      exact False.elim (other (decide_eq_true rfl))
  | some entry =>
      have key : entry.key = place.key := key_of_find? found
      cases eq_or_mem_eraseIdx stands.own (List.mem_of_find?_eq_some found) with
      | inl same => rw [same]
      | inr other => exact False.elim ((stands.others entry other).1 key)

theorem spared_of_key_ne
    (stands : part.Stands entries place) {entry : Entry Section}
    (listed : entry ∈ entries) (different : entry.key ≠ place.key) :
    part.SparedBy entry := by
  cases eq_or_mem_eraseIdx stands.own listed with
  | inl same => exact False.elim (different (same ▸ rfl))
  | inr other => exact (stands.others entry other).2

theorem follows_readMembers
    (stands : part.Stands entries place) {members : Members}
    {current next : Section} (ascending : members.Ascending)
    (read : readMembers entries members current = .ok next) :
    part.Follows (members.get? place.key) current next := by
  induction members generalizing current with
  | nil =>
      cases read
      exact rfl
  | cons member rest ih =>
      obtain ⟨key, value⟩ := member
      have ⟨before, later⟩ := List.pairwise_cons.mp ascending
      by_cases same : key = place.key
      · subst same
        have last : Members.get? place.key rest = none :=
          Members.get?_eq_none_of_less before
        simp only [readMembers, stands.find?_key] at read
        obtain ⟨middle, own, rest_read⟩ := bind_eq_ok_iff.mp read
        have rest_spared := ih later rest_read
        rw [last] at rest_spared
        simpa [Members.get?] using (follows_entry own).trans_none rest_spared
      · simp only [Members.get?, if_neg same]
        unfold readMembers at read
        split at read
        · exact ih later read
        · rename_i entry found
          obtain ⟨middle, other, rest_read⟩ := bind_eq_ok_iff.mp read
          have different : entry.key ≠ place.key :=
            fun own => same ((key_of_find? found) ▸ own)
          have spared :=
            stands.spared_of_key_ne (List.mem_of_find?_eq_some found) different
          exact (ih later rest_read).none_trans (spared _ _ _ other)

theorem get_of_readElements {elements : List Value} {current next : Section}
    (spared : ∀ entry ∈ entries, part.SparedBy entry)
    (read : readElements entries elements current = .ok next) :
    part.get next = part.get current := by
  induction entries generalizing elements current with
  | nil =>
      cases read
      rfl
  | cons entry entries ih =>
      cases elements with
      | nil =>
          cases read
          rfl
      | cons value rest =>
          obtain ⟨middle, first, rest_read⟩ := bind_eq_ok_iff.mp read
          have ⟨now, later⟩ := List.forall_mem_cons.mp spared
          exact (ih later rest_read).trans (now _ _ _ first)

theorem follows_readElements
    {index : Nat} {key : String} {elements : List Value}
    {current next : Section} (own : entries[index]? = some (part.entry key))
    (others : ∀ entry ∈ entries.eraseIdx index, part.SparedBy entry)
    (read : readElements entries elements current = .ok next) :
    part.Follows elements[index]? current next := by
  induction entries generalizing index elements current with
  | nil => simp at own
  | cons entry entries ih =>
      cases elements with
      | nil =>
          cases read
          exact rfl
      | cons value rest =>
          obtain ⟨middle, first, rest_read⟩ := bind_eq_ok_iff.mp read
          cases index with
          | zero =>
              cases own
              exact (follows_entry first).trans_none
                (get_of_readElements others rest_read)
          | succ index =>
              have ⟨spared, later⟩ := List.forall_mem_cons.mp others
              exact (ih own later rest_read).none_trans (spared _ _ _ first)

theorem follows_readSection (stands : part.Stands entries place) {shape : Shape}
    {standard result : Section} {value : Value} (orderly : value.Orderly)
    (read : readSection shape entries standard value = .ok result) :
    part.Follows (place.find? value) standard result := by
  cases orderly with
  | object ascending => exact stands.follows_readMembers ascending read
  | @array elements =>
      obtain ⟨middle, inside, rest_read⟩ := bind_eq_ok_iff.mp read
      split at rest_read
      · cases rest_read
      · cases rest_read
        exact follows_readElements stands.own
          (fun entry other => (stands.others entry other).2) inside
  | _ => cases read

end Stands

end Part

/-! ### Values that fit a section -/

/-- The key of an entry and the values that fit there. -/
structure Field where
  key : String
  Fits : Value → Prop

/-- A value fits a section if what it gives to each field fits there, in the
form of an object whose other members do not matter, or of an array that is not
too long. -/
inductive FitsSection (fields : List Field) : Value → Prop
  | object
      {members : Members}
      (each : ∀ field ∈ fields, ∀ value, members.get? field.key = some value →
        field.Fits value) :
      FitsSection fields (.object members)
  | array
      {elements : List Value} (short : elements.length ≤ fields.length)
      (each : ∀ (index : Nat) (field : Field) (value : Value),
        fields[index]? = some field →
        elements[index]? = some value → field.Fits value) :
      FitsSection fields (.array elements)

/-- An entry stands for a field: of the orderly values it reads exactly those
that fit there. -/
structure Entry.StandsFor
    {Section : Type} (entry : Entry Section) (field : Field) : Prop where
  key_eq : entry.key = field.key
  exists_read_iff : ∀ {value : Value}, value.Orderly → ∀ current,
    (∃ next, entry.read value current = .ok next) ↔ field.Fits value

section Fitting

variable {Section : Type} {entries : List (Entry Section)} {fields : List Field}

theorem exists_readElements_iff
    (matched : List.Forall₂ Entry.StandsFor entries fields)
    {elements : List Value} (orderly : ∀ value ∈ elements, value.Orderly)
    {current : Section} :
    (∃ next, readElements entries elements current = .ok next) ↔
      ∀ (index : Nat) (field : Field) (value : Value),
        fields[index]? = some field →
        elements[index]? = some value → field.Fits value := by
  induction matched generalizing elements current with
  | nil => simp [readElements]
  | @cons entry field entries fields own rest ih =>
      cases elements with
      | nil => simp [readElements]
      | cons value elements =>
          have ⟨value_orderly, orderly⟩ := List.forall_mem_cons.mp orderly
          constructor
          · intro ⟨next, read⟩ index other found there
            obtain ⟨middle, first, rest_read⟩ := bind_eq_ok_iff.mp read
            cases index with
            | zero =>
                intro standing
                cases there
                cases standing
                exact (own.exists_read_iff value_orderly _).mp ⟨middle, first⟩
            | succ index =>
                exact (ih orderly).mp ⟨next, rest_read⟩ index other found there
          · intro each
            have first_fits := each 0 field value rfl rfl
            obtain ⟨middle, first⟩ :=
              (own.exists_read_iff value_orderly current).mpr first_fits
            have rest_fits :
                ∃ next, readElements entries elements middle = .ok next :=
              (ih orderly).mpr fun index => each (index + 1)
            obtain ⟨next, rest_read⟩ := rest_fits
            exact ⟨next, bind_eq_ok_iff.mpr ⟨middle, first, rest_read⟩⟩

/-- The entry that is found for a key stands for the field that is found for
it. -/
theorem find?_standsFor
    (matched : List.Forall₂ Entry.StandsFor entries fields) (key : String) :
    Option.Rel Entry.StandsFor (entries.find? fun entry => entry.key = key)
      (fields.find? fun field => field.key = key) := by
  induction matched with
  | nil => exact .none
  | @cons entry field entries fields own rest ih =>
      by_cases same : field.key = key
      · have found : entry.key = key := own.key_eq.trans same
        simpa [same, found] using Option.Rel.some own
      · have other : entry.key ≠ key :=
          fun found => same (own.key_eq.symm.trans found)
        simpa [same, other] using ih

theorem exists_readMembers_iff
    (matched : List.Forall₂ Entry.StandsFor entries fields)
    {members : List (String × Value)}
    (orderly : ∀ member ∈ members, member.2.Orderly) {current : Section} :
    (∃ next, readMembers entries members current = .ok next) ↔
      ∀ member ∈ members, ∀ field,
        (fields.find? fun field => field.key = member.1) = some field →
          field.Fits member.2 := by
  induction members generalizing current with
  | nil => simp [readMembers]
  | cons member rest ih =>
      obtain ⟨key, value⟩ := member
      have ⟨value_orderly, orderly⟩ := List.forall_mem_cons.mp orderly
      have related := find?_standsFor matched key
      rw [List.forall_mem_cons]
      cases found : entries.find? fun entry => entry.key = key with
      | none =>
          rw [found] at related
          cases there : fields.find? fun field => field.key = key with
          | some field =>
              rw [there] at related
              cases related
          | none => simpa [readMembers, found] using ih orderly
      | some entry =>
          rw [found] at related
          cases there : fields.find? fun field => field.key = key with
          | none =>
              rw [there] at related
              cases related
          | some field =>
              rw [there] at related
              cases related with
              | some own =>
                  simp only [readMembers, found, bind_eq_ok_iff,
                    Option.some.injEq, forall_eq']
                  constructor
                  · intro ⟨next, middle, first, rest_read⟩
                    have fits :=
                      (own.exists_read_iff value_orderly _).mp ⟨middle, first⟩
                    exact ⟨fits, (ih orderly).mp ⟨next, rest_read⟩⟩
                  · intro ⟨fits, later⟩
                    obtain ⟨middle, first⟩ :=
                      (own.exists_read_iff value_orderly current).mpr fits
                    have rest_fits :
                        ∃ next, readMembers entries rest middle = .ok next :=
                      (ih orderly).mpr later
                    obtain ⟨next, rest_read⟩ := rest_fits
                    exact ⟨next, middle, first, rest_read⟩

/-- With different keys, the field that is found for a key is the one that has
it. -/
theorem find?_field_eq_some_iff
    (distinct : (fields.map Field.key).Nodup) {key : String} {field : Field} :
    (fields.find? fun field => field.key = key) = some field ↔
      field ∈ fields ∧ field.key = key := by
  induction fields with
  | nil => simp
  | cons first rest ih =>
      have ⟨new, later⟩ := List.nodup_cons.mp distinct
      by_cases same : first.key = key
      · simp only [same, decide_true, List.find?_cons_of_pos, Option.some.injEq,
          List.mem_cons]
        constructor
        · intro eq
          exact ⟨.inl eq.symm, eq ▸ same⟩
        · intro ⟨listed, key_same⟩
          cases listed with
          | inl eq => exact eq.symm
          | inr other =>
              have twice : first.key ∈ rest.map Field.key :=
                List.mem_map.mpr ⟨field, other, key_same.trans same.symm⟩
              exact False.elim (new twice)
      · simp only [same, decide_false, Bool.false_eq_true, not_false_eq_true,
          List.find?_cons_of_neg, ih later, List.mem_cons]
        constructor
        · intro ⟨listed, key_same⟩
          exact ⟨.inr listed, key_same⟩
        · intro ⟨listed, key_same⟩
          cases listed with
          | inl eq => exact False.elim (same (eq ▸ key_same))
          | inr other => exact ⟨other, key_same⟩

/-- A section can be read from exactly the values that fit it. -/
theorem exists_readSection_iff
    (matched : List.Forall₂ Entry.StandsFor entries fields)
    (distinct : (fields.map Field.key).Nodup) {shape : Shape}
    {standard : Section} {value : Value} (orderly : value.Orderly) :
    (∃ result, readSection shape entries standard value = .ok result) ↔
      FitsSection fields value := by
  cases orderly with
  | @object members ascending members_orderly =>
      have read_iff :
          (∃ result, readMembers entries members standard = .ok result) ↔ _ :=
        exists_readMembers_iff matched members_orderly
      refine read_iff.trans ?_
      constructor
      · intro each
        refine .object fun field listed value found => ?_
        have own := (find?_field_eq_some_iff distinct).mpr ⟨listed, rfl⟩
        exact each _ (Members.mem_of_get? found) field own
      · intro fits member there field found
        have ⟨listed, key_same⟩ := (find?_field_eq_some_iff distinct).mp found
        cases fits with
        | object each =>
            exact each field listed member.2
              (key_same ▸ ascending.get?_of_mem there)
  | @array elements elements_orderly =>
      constructor
      · intro ⟨result, read⟩
        obtain ⟨middle, inside, rest_read⟩ := bind_eq_ok_iff.mp read
        split at rest_read
        · cases rest_read
        · rename_i short
          refine .array ?_
            ((exists_readElements_iff matched elements_orderly).mp
              ⟨middle, inside⟩)
          rw [← matched.length_eq]
          omega
      · intro fits
        cases fits with
        | array short each =>
            have inside :
                ∃ middle, readElements entries elements standard = .ok middle :=
              (exists_readElements_iff matched elements_orderly).mpr each
            obtain ⟨middle, inside⟩ := inside
            refine ⟨middle, bind_eq_ok_iff.mpr ⟨middle, inside, ?_⟩⟩
            rw [← matched.length_eq] at short
            exact if_neg (Nat.not_lt.mpr short)
  | _ =>
      constructor
      · intro ⟨result, read⟩
        cases read
      · intro fits
        cases fits

end Fitting

end BroadcastHub.Settings
