import BroadcastHub.Proofs.Settings.Parts
import BroadcastHub.Proofs.Settings.Variables
import BroadcastHub.Settings.Load

/-!
# Entries of the settings

The eleven settings as parts of the five sections.  What a settings file gives
for one of them is a member that is not `null`, or an array's element, of the
section that the file gives in one of these forms.  That becomes the setting
when the file is laid over the standard settings and read.
-/

namespace BroadcastHub.Settings

open Json (Value Members)

/-- The value that is given at a place; a `null` member gives nothing. -/
def Place.given? (place : Place) : Value → Option Value
  | .object members =>
      (Members.get? place.key members).filter fun value => !value.isNull
  | .array elements => elements[place.index]?
  | _ => none

/-- The value that a file gives for a field of a section. -/
def given? (file : Option Value) (area field : Place) : Option Value :=
  (file.bind area.given?).bind field.given?

/-! ### What the file gives, through the merge -/

theorem eq_null_of_isNull {value : Value} (blank : value.isNull = true) :
    value = .null := by
  cases value <;> first | rfl | cases blank

/-- A `null` member is all that stands at a place and gives nothing. -/
theorem find?_eq_given? (place : Place) (value : Value) :
    place.find? value = place.given? value ∨
      place.given? value = none ∧ place.find? value = some .null := by
  cases value with
  | object members =>
      simp only [Place.find?, Place.given?]
      cases found : Members.get? place.key members with
      | none => exact .inl rfl
      | some value =>
          cases blank : value.isNull with
          | false => exact .inl (by simp [Option.filter_some, blank])
          | true =>
              exact .inr ⟨by simp [Option.filter_some, blank], by
                rw [eq_null_of_isNull blank]⟩
  | _ => exact .inl rfl

section Merged

variable {area field : Place} {outer inner : Members} {entry upper : Value}

theorem find?_merge_field
    (orderly : upper.Orderly) (standing : inner.get? field.key = some entry)
    (scalar : ∀ members, entry ≠ .object members) :
    field.find? ((Value.object inner).merge upper) = field.given? upper ∨
      field.given? upper = none ∧
        field.find? ((Value.object inner).merge upper) = some entry := by
  cases orderly with
  | @object members ascending =>
      rw [Value.merge_object]
      simp only [Place.find?, Place.given?, Members.get?_merge ascending,
        Members.overlaid]
      cases (Members.get? field.key members).filter fun value =>
        !value.isNull with
      | none => exact .inr ⟨rfl, standing⟩
      | some value =>
          exact .inl (by simp [standing, Value.merge_over_other scalar])
  | _ =>
      rw [Value.merge_of_not_object (by simp)]
      exact .inl rfl

/-- What stands at a field of the merged value is what the upper value gives;
where that is nothing, the lower value's entry stands there, or a `null` that
cannot be read. -/
theorem find?_merge (orderly : upper.Orderly)
    (area_standing : outer.get? area.key = some (.object inner))
    (standing : inner.get? field.key = some entry)
    (scalar : ∀ members, entry ≠ .object members) :
    let found :=
  (area.find? ((Value.object outer).merge upper)).bind field.find?
    let given := (area.given? upper).bind field.given?
    found = given ∨ given = none ∧
      (found = some entry ∨ found = some .null) := by
  cases orderly with
  | @object members ascending each =>
      rw [Value.merge_object]
      simp only [Place.find?, Place.given?, Members.get?_merge ascending,
        Members.overlaid]
      cases kept :
        (Members.get? area.key members).filter fun value => !value.isNull with
      | none =>
          right
          exact ⟨rfl, .inl (by simp [area_standing, Place.find?, standing])⟩
      | some value =>
          have found : Members.get? area.key members = some value :=
            (Option.filter_eq_some_iff.mp kept).1
          have value_orderly : value.Orderly :=
            each _ (Members.mem_of_get? found)
          simp only [area_standing, Option.map_some, Option.getD_some,
            Option.bind_some]
          cases find?_merge_field value_orderly standing scalar with
          | inl same => exact .inl same
          | inr lower => exact .inr ⟨lower.1, .inl lower.2⟩
  | @array elements =>
      rw [Value.merge_of_not_object (by simp)]
      simp only [Place.find?, Place.given?]
      cases elements[area.index]? with
      | none => exact .inl rfl
      | some value =>
          cases find?_eq_given? field value with
          | inl same => exact .inl same
          | inr blank => exact .inr ⟨blank.1, .inr blank.2⟩
  | _ =>
      rw [Value.merge_of_not_object (by simp)]
      exact .inl rfl

end Merged

/-! ### Parts that are read from scalars -/

/-- A part that is read from exactly the values it is written as, none of which
is an object. -/
structure Leaf (Section Content : Type) extends Part Section Content where
  write : Content → Value
  read_eq_ok_iff : ∀ value content, read value = .ok content ↔
    value = write content
  write_scalar : ∀ content members, write content ≠ .object members

theorem readText_eq_ok_iff (value : Value) (text : String) :
    readText value = .ok text ↔ value = .string text := by
  cases value <;> simp [readText]

theorem readBool_eq_ok_iff (value : Value) (truth : Bool) :
    readBool value = .ok truth ↔ value = .bool truth := by
  cases value <;> simp [readBool]

theorem readBelow_eq_ok_iff
    {bound : Nat} {shape : Shape} (value : Value) (number : Nat) :
    readBelow bound shape value = .ok number ↔ number < bound ∧
      value = .ofNat number := by
  unfold readBelow
  split
  · rename_i written
    split
    · rename_i inside
      simp only [Except.ok.injEq, Value.ofNat, Value.ofInt, Value.number.injEq,
        Json.Number.integer.injEq]
      omega
    · rename_i outside
      simp only [reduceCtorEq, Value.ofNat, Value.ofInt, Value.number.injEq,
        Json.Number.integer.injEq, false_iff]
      omega
  · rename_i other
    refine iff_of_false (by simp) ?_
    intro ⟨_, same⟩
    exact other number same

/-- An integer of 64 bits, whatever it is called in messages. -/
def readWide (shape : Shape) (value : Value) : Except Misfit UInt64 := do
  return UInt64.ofNat (← readBelow (Numeral.twoTo 64) shape value)

theorem readWide_eq_ok_iff {shape : Shape} (value : Value) (number : UInt64) :
    readWide shape value = .ok number ↔ value = .ofNat number.toNat := by
  unfold readWide
  rw [bind_eq_ok_iff]
  simp only [readBelow_eq_ok_iff, pure, Except.pure, Except.ok.injEq]
  constructor
  · intro ⟨written, ⟨fits, same⟩, converted⟩
    rw [same, ← converted, toNat_ofNat fits]
  · intro same
    exact ⟨number.toNat, ⟨number.toNat_lt, same⟩, UInt64.ofNat_toNat⟩

theorem readPort_eq_ok_iff (value : Value) (number : UInt16) :
    readPort value = .ok number ↔ value = .ofNat number.toNat := by
  unfold readPort
  rw [bind_eq_ok_iff]
  simp only [readBelow_eq_ok_iff, pure, Except.pure, Except.ok.injEq]
  constructor
  · intro ⟨written, ⟨fits, same⟩, converted⟩
    have back : (UInt16.ofNat written).toNat = written :=
      UInt16.toNat_ofNat_of_lt' (by simpa using fits)
    rw [same, ← converted, back]
  · intro same
    exact ⟨number.toNat, ⟨number.toNat_lt, same⟩, UInt16.ofNat_toNat⟩

namespace Leaf

variable {Section : Type}

def text
    (get : Section → String) (put : String → Section → Section)
    (get_put : ∀ content current, get (put content current) = content) :
    Leaf Section String where
  read := readText
  get := get
  put := put
  get_put := get_put
  read_null := by simp [readText]
  write := .string
  read_eq_ok_iff := readText_eq_ok_iff
  write_scalar := by simp

/-- A leaf that holds a truth value. -/
def truth
    (get : Section → Bool) (put : Bool → Section → Section)
    (get_put : ∀ content current, get (put content current) = content) :
    Leaf Section Bool where
  read := readBool
  get := get
  put := put
  get_put := get_put
  read_null := by simp [readBool]
  write := .bool
  read_eq_ok_iff := readBool_eq_ok_iff
  write_scalar := by simp

/-- A leaf that holds an integer of 64 bits. -/
def wide
    (shape : Shape) (get : Section → UInt64) (put : UInt64 → Section → Section)
    (get_put : ∀ content current, get (put content current) = content) :
    Leaf Section UInt64 where
  read := readWide shape
  get := get
  put := put
  get_put := get_put
  read_null content := by simp [readWide_eq_ok_iff, Value.ofNat, Value.ofInt]
  write number := .ofNat number.toNat
  read_eq_ok_iff := readWide_eq_ok_iff
  write_scalar := by simp [Value.ofNat, Value.ofInt]

def port
    (get : Section → UInt16) (put : UInt16 → Section → Section)
    (get_put : ∀ content current, get (put content current) = content) :
    Leaf Section UInt16 where
  read := readPort
  get := get
  put := put
  get_put := get_put
  read_null content := by simp [readPort_eq_ok_iff, Value.ofNat, Value.ofInt]
  write number := .ofNat number.toNat
  read_eq_ok_iff := readPort_eq_ok_iff
  write_scalar := by simp [Value.ofNat, Value.ofInt]

end Leaf

/-! ### The sections and their fields -/

/-- A section of the settings: where it stands, and what stands there in the
standard settings. -/
structure Area (Section : Type) where
  place : Place
  part : Part Settings Section
  shape : Shape
  entries : List (Entry Section)
  standard : Section
  members : Members
  stands : part.Stands Settings.entries place
  read_eq : part.read = readSection shape entries standard
  get_standard : part.get Settings.standard = standard
  standing : ∃ outer : Members, Settings.standard.toValue = .object outer ∧
    outer.get? place.key = some (.object members)

/-- A field of a section, whose standard value stands in the standard
settings. -/
structure Slot {Section : Type} (area : Area Section) (Content : Type) where
  place : Place
  leaf : Leaf Section Content
  stands : leaf.toPart.Stands area.entries place
  standing :
    area.members.get? place.key = some (leaf.write (leaf.get area.standard))

theorem orderly_toValue (settings : Settings) : settings.toValue.Orderly := by
  have number (number : Nat) : (Value.ofNat number).Orderly := .number _
  have area {members : Members} (keys : List String)
      (same : members.map Prod.fst = keys)
      (ascending : keys.Pairwise (· < ·)) (each : ∀ member ∈ members,
        member.2.Orderly) :
      (Value.object members).Orderly :=
    .object (Members.ascending_of_keys keys same ascending) each
  refine area ["broadcast", "liveness", "logging", "server", "shutdown"] rfl
    (by decide) ?_
  simp only [List.mem_cons, List.not_mem_nil, or_false, forall_eq_or_imp,
    forall_eq]
  refine ⟨area ["writeTimeoutMs"] rfl (by decide) ?_,
    area ["heartbeatTimeoutMs", "pongJitterMs", "pongWriteTimeoutMs"] rfl
    (by decide) ?_, area ["json", "level"] rfl (by decide) ?_,
    area ["host", "maxConnections", "maxMessageSize", "port"] rfl
    (by decide) ?_, area ["drainTimeoutMs"] rfl (by decide) ?_⟩
  all_goals simp [number, Value.Orderly.bool, Value.Orderly.string]

theorem orderly_layered
    {file : Option Value}
    (orderly : ∀ value, file = some value → value.Orderly) :
    (layered file).Orderly := by
  cases file with
  | none => exact orderly_toValue standard
  | some value => exact (orderly_toValue standard).merge (orderly value rfl)

namespace Slot

variable {Section Content : Type} {area : Area Section}

/-- The field of some settings. -/
def get (slot : Slot area Content) (settings : Settings) : Content :=
  slot.leaf.get (area.part.get settings)

/-- What stands at the field becomes the field. -/
theorem follows
    (slot : Slot area Content) {value : Value} {settings : Settings}
    (orderly : value.Orderly) (read : ofValue value = .ok settings) :
    slot.leaf.toPart.Follows ((area.place.find? value).bind slot.place.find?)
      area.standard (area.part.get settings) := by
  have outside := area.stands.follows_readSection orderly read
  cases found : area.place.find? value with
  | none =>
      rw [found] at outside
      have unchanged : area.part.get settings = area.standard :=
        outside.trans area.get_standard
      exact congrArg slot.leaf.get unchanged
  | some inside =>
      rw [found] at outside
      have inside_orderly : inside.Orderly := orderly_of_find? orderly found
      have inside_read :
          readSection area.shape area.entries area.standard inside =
          .ok (area.part.get settings) := area.read_eq ▸ outside
      exact slot.stands.follows_readSection inside_orderly inside_read
where
  orderly_of_find? {place : Place} {value inside : Value}
      (orderly : value.Orderly)
      (found : place.find? value = some inside) : inside.Orderly := by
    cases orderly with
    | object ascending each => exact each _ (Members.mem_of_get? found)
    | array each => exact each _ (List.mem_of_getElem? found)
    | _ => cases found

/-- The field is what the file gives for it, and its standard value where the
file gives nothing. -/
theorem entered
    (slot : Slot area Content) {file : Option Value} {settings : Settings}
    (orderly : ∀ value, file = some value → value.Orderly)
    (read : ofValue (layered file) = .ok settings) :
    match given? file area.place slot.place with
    | some value => value = slot.leaf.write (slot.get settings)
    | none => slot.get settings = slot.leaf.get area.standard := by
  have follows := slot.follows (orderly_layered orderly) read
  obtain ⟨outer, standard_eq, area_standing⟩ := area.standing
  have unchanged
      (same : (area.place.find? (layered file)).bind slot.place.find? =
      some (slot.leaf.write (slot.leaf.get area.standard))) :
      slot.get settings = slot.leaf.get area.standard := by
    rw [same] at follows
    have written :=
        (slot.leaf.read_eq_ok_iff _ (slot.leaf.get area.standard)).mpr rfl
    exact Except.ok.inj (follows.symm.trans written)
  cases file with
  | none =>
      apply unchanged
      simp [layered, standard_eq, Place.find?, area_standing, slot.standing]
  | some value =>
      have merged := find?_merge (orderly value rfl) area_standing slot.standing
        (slot.leaf.write_scalar _)
      rw [← standard_eq] at merged
      simp only [given?, Option.bind_some]
      cases merged with
      | inl same =>
          rw [layered, same] at follows
          cases found : (area.place.given? value).bind slot.place.given? with
          | none =>
              rw [found] at follows
              exact follows
          | some given =>
              rw [found] at follows
              exact (slot.leaf.read_eq_ok_iff _ _).mp follows
      | inr lower =>
          rw [lower.1]
          cases lower.2 with
          | inl entry => exact unchanged entry
          | inr blank =>
              rw [layered, blank] at follows
              exact False.elim (slot.leaf.read_null _ follows)

end Slot

/-! ### The five sections and the eleven settings -/

def Area.server : Area ServerSection where
  place := ⟨"server", 0⟩
  part :=
    { read := readSection .server ServerSection.entries {}
      get := fun settings => settings.server
      put := fun server settings => { settings with server }
      get_put := fun _ _ => rfl
      read_null := nofun }
  shape := .server
  entries := ServerSection.entries
  standard := {}
  members := _
  stands := ⟨rfl, .cons (by decide) (fun _ _ => rfl) <|
    .cons (by decide) (fun _ _ => rfl) <|
    .cons (by decide) (fun _ _ => rfl) <|
      .cons (by decide) (fun _ _ => rfl) <| .nil⟩
  read_eq := rfl
  get_standard := rfl
  standing := ⟨_, rfl, rfl⟩

def Area.liveness : Area LivenessSection where
  place := ⟨"liveness", 1⟩
  part :=
    { read := readSection .liveness LivenessSection.entries {}
      get := fun settings => settings.liveness
      put := fun liveness settings => { settings with liveness }
      get_put := fun _ _ => rfl
      read_null := nofun }
  shape := .liveness
  entries := LivenessSection.entries
  standard := {}
  members := _
  stands := ⟨rfl, .cons (by decide) (fun _ _ => rfl) <|
    .cons (by decide) (fun _ _ => rfl) <|
    .cons (by decide) (fun _ _ => rfl) <|
      .cons (by decide) (fun _ _ => rfl) <| .nil⟩
  read_eq := rfl
  get_standard := rfl
  standing := ⟨_, rfl, rfl⟩

def Area.broadcast : Area BroadcastSection where
  place := ⟨"broadcast", 2⟩
  part :=
    { read := readSection .broadcast BroadcastSection.entries {}
      get := fun settings => settings.broadcast
      put := fun broadcast settings => { settings with broadcast }
      get_put := fun _ _ => rfl
      read_null := nofun }
  shape := .broadcast
  entries := BroadcastSection.entries
  standard := {}
  members := _
  stands := ⟨rfl, .cons (by decide) (fun _ _ => rfl) <|
    .cons (by decide) (fun _ _ => rfl) <|
    .cons (by decide) (fun _ _ => rfl) <|
      .cons (by decide) (fun _ _ => rfl) <| .nil⟩
  read_eq := rfl
  get_standard := rfl
  standing := ⟨_, rfl, rfl⟩

def Area.shutdown : Area ShutdownSection where
  place := ⟨"shutdown", 3⟩
  part :=
    { read := readSection .shutdown ShutdownSection.entries {}
      get := fun settings => settings.shutdown
      put := fun shutdown settings => { settings with shutdown }
      get_put := fun _ _ => rfl
      read_null := nofun }
  shape := .shutdown
  entries := ShutdownSection.entries
  standard := {}
  members := _
  stands := ⟨rfl, .cons (by decide) (fun _ _ => rfl) <|
    .cons (by decide) (fun _ _ => rfl) <|
    .cons (by decide) (fun _ _ => rfl) <|
      .cons (by decide) (fun _ _ => rfl) <| .nil⟩
  read_eq := rfl
  get_standard := rfl
  standing := ⟨_, rfl, rfl⟩

def Area.logging : Area LoggingSection where
  place := ⟨"logging", 4⟩
  part :=
    { read := readSection .logging LoggingSection.entries {}
      get := fun settings => settings.logging
      put := fun logging settings => { settings with logging }
      get_put := fun _ _ => rfl
      read_null := nofun }
  shape := .logging
  entries := LoggingSection.entries
  standard := {}
  members := _
  stands := ⟨rfl, .cons (by decide) (fun _ _ => rfl) <|
    .cons (by decide) (fun _ _ => rfl) <|
    .cons (by decide) (fun _ _ => rfl) <|
      .cons (by decide) (fun _ _ => rfl) <| .nil⟩
  read_eq := rfl
  get_standard := rfl
  standing := ⟨_, rfl, rfl⟩

def Slot.host : Slot .server String where
  place := ⟨"host", 0⟩
  leaf := .text (fun server => server.host)
    (fun host server => { server with host }) fun _ _ => rfl
  stands := ⟨rfl, .cons (by decide) (fun _ _ => rfl) <|
    .cons (by decide) (fun _ _ => rfl) <|
    .cons (by decide) (fun _ _ => rfl) <| .nil⟩
  standing := rfl

def Slot.port : Slot .server UInt16 where
  place := ⟨"port", 1⟩
  leaf := .port (fun server => server.port)
    (fun port server => { server with port }) fun _ _ => rfl
  stands := ⟨rfl, .cons (by decide) (fun _ _ => rfl) <|
    .cons (by decide) (fun _ _ => rfl) <|
    .cons (by decide) (fun _ _ => rfl) <| .nil⟩
  standing := rfl

def Slot.maxConnections : Slot .server UInt64 where
  place := ⟨"maxConnections", 2⟩
  leaf := .wide .size (fun server => server.maxConnections)
    (fun maxConnections server => { server with maxConnections }) fun _ _ => rfl
  stands := ⟨rfl, .cons (by decide) (fun _ _ => rfl) <|
    .cons (by decide) (fun _ _ => rfl) <|
    .cons (by decide) (fun _ _ => rfl) <| .nil⟩
  standing := rfl

def Slot.maxMessageSize : Slot .server UInt64 where
  place := ⟨"maxMessageSize", 3⟩
  leaf := .wide .size (fun server => server.maxMessageSize)
    (fun maxMessageSize server => { server with maxMessageSize }) fun _ _ => rfl
  stands := ⟨rfl, .cons (by decide) (fun _ _ => rfl) <|
    .cons (by decide) (fun _ _ => rfl) <|
    .cons (by decide) (fun _ _ => rfl) <| .nil⟩
  standing := rfl

def Slot.heartbeatTimeout : Slot .liveness UInt64 where
  place := ⟨"heartbeatTimeoutMs", 0⟩
  leaf := .wide .count (fun liveness => liveness.heartbeatTimeout)
    (fun heartbeatTimeout liveness => { liveness with heartbeatTimeout })
    fun _ _ => rfl
  stands := ⟨rfl, .cons (by decide) (fun _ _ => rfl) <|
    .cons (by decide) (fun _ _ => rfl) <| .nil⟩
  standing := rfl

def Slot.pongWriteTimeout : Slot .liveness UInt64 where
  place := ⟨"pongWriteTimeoutMs", 1⟩
  leaf := .wide .count (fun liveness => liveness.pongWriteTimeout)
    (fun pongWriteTimeout liveness => { liveness with pongWriteTimeout })
    fun _ _ => rfl
  stands := ⟨rfl, .cons (by decide) (fun _ _ => rfl) <|
    .cons (by decide) (fun _ _ => rfl) <| .nil⟩
  standing := rfl

def Slot.pongJitter : Slot .liveness UInt64 where
  place := ⟨"pongJitterMs", 2⟩
  leaf := .wide .count (fun liveness => liveness.pongJitter)
    (fun pongJitter liveness => { liveness with pongJitter }) fun _ _ => rfl
  stands := ⟨rfl, .cons (by decide) (fun _ _ => rfl) <|
    .cons (by decide) (fun _ _ => rfl) <| .nil⟩
  standing := rfl

def Slot.writeTimeout : Slot .broadcast UInt64 where
  place := ⟨"writeTimeoutMs", 0⟩
  leaf := .wide .count (fun broadcast => broadcast.writeTimeout)
    (fun writeTimeout broadcast => { broadcast with writeTimeout }) fun _ _ =>
      rfl
  stands := ⟨rfl, .nil⟩
  standing := rfl

def Slot.drainTimeout : Slot .shutdown UInt64 where
  place := ⟨"drainTimeoutMs", 0⟩
  leaf := .wide .count (fun shutdown => shutdown.drainTimeout)
    (fun drainTimeout shutdown => { shutdown with drainTimeout }) fun _ _ => rfl
  stands := ⟨rfl, .nil⟩
  standing := rfl

def Slot.level : Slot .logging String where
  place := ⟨"level", 0⟩
  leaf := .text (fun logging => logging.level)
    (fun level logging => { logging with level }) fun _ _ => rfl
  stands := ⟨rfl, .cons (by decide) (fun _ _ => rfl) <| .nil⟩
  standing := rfl

def Slot.json : Slot .logging Bool where
  place := ⟨"json", 1⟩
  leaf := .truth (fun logging => logging.json)
    (fun json logging => { logging with json }) fun _ _ => rfl
  stands := ⟨rfl, .cons (by decide) (fun _ _ => rfl) <| .nil⟩
  standing := rfl

/-! ### Values that fit -/

def FitsText (value : Value) : Prop := ∃ text, value = .string text

/-- The value is a truth value. -/
def FitsBool (value : Value) : Prop := ∃ truth, value = .bool truth

/-- The value is an integer of so many bits. -/
def FitsBits (bits : Nat) (value : Value) : Prop :=
  ∃ number < 2 ^ bits, value = .ofNat number

def serverFields : List Field :=
  [⟨"host", FitsText⟩, ⟨"port", FitsBits 16⟩, ⟨"maxConnections", FitsBits 64⟩,
    ⟨"maxMessageSize", FitsBits 64⟩]

def livenessFields : List Field :=
  [⟨"heartbeatTimeoutMs", FitsBits 64⟩, ⟨"pongWriteTimeoutMs", FitsBits 64⟩,
    ⟨"pongJitterMs", FitsBits 64⟩]

def fields : List Field :=
  [⟨"server", FitsSection serverFields⟩,
    ⟨"liveness", FitsSection livenessFields⟩,
    ⟨"broadcast", FitsSection [⟨"writeTimeoutMs", FitsBits 64⟩]⟩,
    ⟨"shutdown", FitsSection [⟨"drainTimeoutMs", FitsBits 64⟩]⟩,
    ⟨"logging", FitsSection [⟨"level", FitsText⟩, ⟨"json", FitsBool⟩]⟩]

def Fits (value : Value) : Prop := FitsSection fields value

theorem Part.exists_entry_read_iff
    {Section Content : Type} (part : Part Section Content) (key : String)
    (value : Value) (current : Section) :
    (∃ next, (part.entry key).read value current = .ok next) ↔
      ∃ content, part.read value = .ok content := by
  constructor
  · intro ⟨next, read⟩
    obtain ⟨content, content_read, _⟩ := entry_read_eq_ok_iff.mp read
    exact ⟨content, content_read⟩
  · intro ⟨content, content_read⟩
    exact ⟨part.put content current,
      entry_read_eq_ok_iff.mpr ⟨content, content_read, rfl⟩⟩

theorem Leaf.standsFor
    {Section Content : Type} (leaf : Leaf Section Content) {key : String}
    {Fits : Value → Prop}
    (fits : ∀ value, (∃ content, value = leaf.write content) ↔ Fits value) :
    (leaf.toPart.entry key).StandsFor ⟨key, Fits⟩ where
  key_eq := rfl
  exists_read_iff _ current := by
    rw [leaf.toPart.exists_entry_read_iff]
    simp only [leaf.read_eq_ok_iff]
    exact fits _

theorem fitsBits_iff_wide (value : Value) :
    (∃ number : UInt64, value = .ofNat number.toNat) ↔ FitsBits 64 value := by
  constructor
  · intro ⟨number, same⟩
    exact ⟨number.toNat, number.toNat_lt, same⟩
  · intro ⟨number, fits, same⟩
    exact ⟨.ofNat number, same.trans
      (congrArg Value.ofNat (toNat_ofNat fits).symm)⟩

theorem fitsBits_iff_port (value : Value) :
    (∃ number : UInt16, value = .ofNat number.toNat) ↔ FitsBits 16 value := by
  constructor
  · intro ⟨number, same⟩
    exact ⟨number.toNat, number.toNat_lt, same⟩
  · intro ⟨number, fits, same⟩
    have back : (UInt16.ofNat number).toNat = number :=
      UInt16.toNat_ofNat_of_lt' fits
    exact ⟨.ofNat number, same.trans (congrArg Value.ofNat back.symm)⟩

theorem Area.standsFor
    {Section : Type} (area : Area Section) {areaFields : List Field}
    (matched : List.Forall₂ Entry.StandsFor area.entries areaFields)
    (distinct : (areaFields.map Field.key).Nodup) :
    (area.part.entry area.place.key).StandsFor
      ⟨area.place.key, FitsSection areaFields⟩ where
  key_eq := rfl
  exists_read_iff orderly current := by
    rw [area.part.exists_entry_read_iff, area.read_eq]
    exact exists_readSection_iff matched distinct orderly

/-- Settings can be read from exactly the values that fit. -/
theorem exists_ofValue_iff {value : Value} (orderly : value.Orderly) :
    (∃ settings, ofValue value = .ok settings) ↔ Fits value := by
  have server :=
    Area.server.standsFor (.cons (Slot.host.leaf.standsFor fun _ => Iff.rfl) <|
      .cons (Slot.port.leaf.standsFor fitsBits_iff_port) <|
      .cons (Slot.maxConnections.leaf.standsFor fitsBits_iff_wide) <|
      .cons (Slot.maxMessageSize.leaf.standsFor fitsBits_iff_wide) <| .nil)
      (show (serverFields.map Field.key).Nodup by decide)
  have liveness := Area.liveness.standsFor
    (.cons (Slot.heartbeatTimeout.leaf.standsFor fitsBits_iff_wide) <|
    .cons (Slot.pongWriteTimeout.leaf.standsFor fitsBits_iff_wide) <|
    .cons (Slot.pongJitter.leaf.standsFor fitsBits_iff_wide) <| .nil)
    (show (livenessFields.map Field.key).Nodup by decide)
  have broadcast := Area.broadcast.standsFor
    (.cons (Slot.writeTimeout.leaf.standsFor fitsBits_iff_wide) .nil)
    (List.pairwise_singleton _ _)
  have shutdown := Area.shutdown.standsFor
    (.cons (Slot.drainTimeout.leaf.standsFor fitsBits_iff_wide) .nil)
    (List.pairwise_singleton _ _)
  have logging := Area.logging.standsFor
    (.cons (Slot.level.leaf.standsFor fun _ => Iff.rfl) <|
    .cons (Slot.json.leaf.standsFor fun _ => Iff.rfl) .nil) (by decide)
  have matched : List.Forall₂ Entry.StandsFor Settings.entries fields :=
    .cons server
      (.cons liveness (.cons broadcast (.cons shutdown (.cons logging .nil))))
  exact exists_readSection_iff matched (by decide) orderly

end BroadcastHub.Settings
