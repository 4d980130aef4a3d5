import BroadcastHub.Proofs.Settings.Entries

/-!
# Settings layer by layer

Each setting is what its variable gives if that is usable, else what the file
gives by an entry that is not `null`, else its standard value.  Settings are had
exactly if the file, laid over the standard settings, fits and what comes out
lies in the bounds.  So a variable can only help: one with a usable text
replaces what the file has out of bounds, and no text of it does harm.
-/

namespace BroadcastHub.Settings

open Json (Value Members)

/-! ### What the settings must be -/

/-- What a file that can be read as JSON, if there is one, lays over the
standard settings. -/
inductive File.Opens : File → Option Value → Prop
  | missing : Opens .missing none
  | content
      {octets : Octets} {text : String} {value : Value}
      (decoded : Text.ofUtf8? octets = some text)
      (read : Json.parse text = .ok value) :
      Opens (.content octets) (some value)

/-- A value is what its variable gives; else what the file gives; else the
standard value. -/
inductive Decided
    {Content : Type} (set entered : Content → Prop) (standard : Content) :
    Content → Prop
  | byVariable {content : Content} (usable : set content) :
      Decided set entered standard content
  | byEntry
      {content : Content} (unusable : ∀ other, ¬ set other)
      (given : entered content) : Decided set entered standard content
  | byStandard
      (unusable : ∀ other, ¬ set other) (missing : ∀ other, ¬ entered other) :
      Decided set entered standard standard

/-- Each setting is decided by its variable, the file and its standard value. -/
structure Composed
    (file : Option Value) (environment : Environment) (settings : Settings) :
    Prop where
  host : Decided (environment.GivesText "BLOP_HOST")
    (fun text => given? file ⟨"server", 0⟩ ⟨"host", 0⟩ = some (.string text))
    "127.0.0.1" settings.server.host
  port : Decided (environment.GivesNumber "BLOP_PORT" 0 65535)
    (fun number => given? file ⟨"server", 0⟩ ⟨"port", 1⟩ = some (.ofNat number))
    8080 settings.server.port.toNat
  maxConnections :
    Decided (environment.GivesNumber "BLOP_MAX_CONNECTIONS" 0 1000000)
    (fun number => given? file ⟨"server", 0⟩ ⟨"maxConnections", 2⟩ =
      some (.ofNat number))
    0 settings.server.maxConnections.toNat
  maxMessageSize : Decided (fun _ => False)
    (fun number => given? file ⟨"server", 0⟩ ⟨"maxMessageSize", 3⟩ =
      some (.ofNat number))
    1048576 settings.server.maxMessageSize.toNat
  heartbeatTimeout :
    Decided (environment.GivesNumber "BLOP_HEARTBEAT_TIMEOUT_MS" 100 3600000)
    (fun number => given? file ⟨"liveness", 1⟩ ⟨"heartbeatTimeoutMs", 0⟩ =
      some (.ofNat number))
    60000 settings.liveness.heartbeatTimeout.toNat
  pongWriteTimeout :
    Decided (environment.GivesNumber "BLOP_PONG_WRITE_TIMEOUT_MS" 10 60000)
    (fun number => given? file ⟨"liveness", 1⟩ ⟨"pongWriteTimeoutMs", 1⟩ =
      some (.ofNat number))
    500 settings.liveness.pongWriteTimeout.toNat
  pongJitter : Decided (environment.GivesNumber "BLOP_PONG_JITTER_MS" 0 10000)
    (fun number => given? file ⟨"liveness", 1⟩ ⟨"pongJitterMs", 2⟩ =
      some (.ofNat number))
    0 settings.liveness.pongJitter.toNat
  writeTimeout :
    Decided (environment.GivesNumber "BLOP_BROADCAST_WRITE_TIMEOUT_MS" 10 60000)
    (fun number => given? file ⟨"broadcast", 2⟩ ⟨"writeTimeoutMs", 0⟩ =
      some (.ofNat number))
    2000 settings.broadcast.writeTimeout.toNat
  drainTimeout : Decided (fun _ => False)
    (fun number => given? file ⟨"shutdown", 3⟩ ⟨"drainTimeoutMs", 0⟩ =
      some (.ofNat number))
    5000 settings.shutdown.drainTimeout.toNat
  level : Decided (environment.GivesText "BLOP_LOG_LEVEL")
    (fun text => given? file ⟨"logging", 4⟩ ⟨"level", 0⟩ = some (.string text))
    "info" settings.logging.level
  json : Decided (environment.GivesWord "BLOP_LOG_JSON")
    (fun truth => given? file ⟨"logging", 4⟩ ⟨"json", 1⟩ = some (.bool truth))
    false settings.logging.json

/-- A waiting time, its range and its variable if it has one. -/
structure Timeout where
  value : Settings → Nat
  least : Nat
  greatest : Nat
  name? : Option String

def timeouts : List Timeout :=
  [⟨fun settings => settings.liveness.heartbeatTimeout.toNat, 100, 3600000,
      some "BLOP_HEARTBEAT_TIMEOUT_MS"⟩,
    ⟨fun settings => settings.liveness.pongWriteTimeout.toNat, 10, 60000,
      some "BLOP_PONG_WRITE_TIMEOUT_MS"⟩,
    ⟨fun settings => settings.liveness.pongJitter.toNat, 0, 10000,
      some "BLOP_PONG_JITTER_MS"⟩,
    ⟨fun settings => settings.broadcast.writeTimeout.toNat, 10, 60000,
      some "BLOP_BROADCAST_WRITE_TIMEOUT_MS"⟩,
    ⟨fun settings => settings.shutdown.drainTimeout.toNat, 0, 600000, none⟩]

/-- A waiting time lies in its range. -/
def Timeout.Within (timeout : Timeout) (settings : Settings) : Prop :=
  timeout.least ≤ timeout.value settings ∧
    timeout.value settings ≤ timeout.greatest

def Timeout.ReplacedBy (timeout : Timeout) (environment : Environment) : Prop :=
  ∃ name, timeout.name? = some name ∧
    ∃ number, environment.GivesNumber name timeout.least timeout.greatest number

def InBounds (settings : Settings) : Prop :=
  (∀ timeout ∈ timeouts, timeout.Within settings) ∧
    0 < settings.server.maxMessageSize.toNat

/-! ### One setting -/

namespace Decided

variable {Content : Type} {set entered : Content → Prop}
  {standard left right : Content}

theorem unique
    (set_unique : ∀ one other, set one → set other → one = other)
    (entered_unique : ∀ one other, entered one → entered other → one = other)
    (first : Decided set entered standard left)
    (second : Decided set entered standard right) : left = right := by
  cases first with
  | byVariable usable =>
      cases second with
      | byVariable other => exact set_unique _ _ usable other
      | byEntry unusable _ => exact False.elim (unusable _ usable)
      | byStandard unusable _ => exact False.elim (unusable _ usable)
  | byEntry unusable given =>
      cases second with
      | byVariable usable => exact False.elim (unusable _ usable)
      | byEntry _ other => exact entered_unique _ _ given other
      | byStandard _ missing => exact False.elim (missing _ given)
  | byStandard unusable missing =>
      cases second with
      | byVariable usable => exact False.elim (unusable _ usable)
      | byEntry _ given => exact False.elim (missing _ given)
      | byStandard _ _ => rfl

/-- A variable is laid over what was decided without it. -/
theorem under
    {read? : Option Content}
    (read : ∀ content, read? = some content ↔ set content)
    (below : Decided (fun _ => False) entered standard left) :
    Decided set entered standard (read?.getD left) := by
  cases found : read? with
  | some content => exact .byVariable ((read content).mp found)
  | none =>
      have unusable (other : Content) : ¬ set other := fun usable => by
        have read_other := (read other).mpr usable
        rw [found] at read_other
        cases read_other
      cases below with
      | byVariable usable => exact False.elim usable
      | byEntry _ given => exact .byEntry unusable given
      | byStandard _ missing => exact .byStandard unusable missing

end Decided

/-- As long as no variable does, the file decides, in whatever terms its entry
is written. -/
theorem Slot.decided
    {Section Word Content : Type} {area : Area Section} (slot : Slot area Word)
    {file : Option Value} {settings : Settings}
    (orderly : ∀ value, file = some value → value.Orderly)
    (read : ofValue (layered file) = .ok settings) (view : Word → Content)
    (write : Content → Value)
    (agree : ∀ word, slot.leaf.write word = write (view word)) :
    Decided (fun _ => False) (fun content => given? file area.place slot.place =
      some (write content))
      (view (slot.leaf.get area.standard)) (view (slot.get settings)) := by
  have entered := slot.entered orderly read
  cases found : given? file area.place slot.place with
  | some value =>
      rw [found] at entered
      exact .byEntry (fun _ => id) (congrArg some (entered.trans (agree _)))
  | none =>
      rw [found] at entered
      rw [show slot.get settings = slot.leaf.get area.standard from entered]
      exact .byStandard (fun _ => id) (fun _ => nofun)

section Numbers

variable {entered : Nat → Prop} {standard : Nat} {environment : Environment}
  {name : String}

theorem Decided.number
    (bounds : Bounds) (small : bounds.greatest < Numeral.twoTo 64)
    {word : UInt64}
    (below : Decided (fun _ => False) entered standard word.toNat) :
    Decided (environment.GivesNumber name bounds.least bounds.greatest)
      entered standard ((environment.number? name bounds).getD word).toNat := by
  rw [← Option.getD_map UInt64.toNat]
  exact below.under fun _ => Environment.number?_eq_some_iff small

theorem Decided.port
    {port : UInt16}
    (below : Decided (fun _ => False) entered standard port.toNat) :
    Decided (environment.GivesNumber name 0 65535) entered standard
      (((environment.number? name ⟨0, 65535⟩).map fun port =>
        port.toUInt16).getD port).toNat := by
  have word_read (number : Nat) :
      (environment.number? name ⟨0, 65535⟩).map UInt64.toNat = some number ↔
        environment.GivesNumber name 0 65535 number :=
    Environment.number?_eq_some_iff (by decide)
  have port_read :
      ((environment.number? name ⟨0, 65535⟩).map fun port => port.toUInt16).map
      UInt16.toNat =
        (environment.number? name ⟨0, 65535⟩).map UInt64.toNat := by
    cases found : environment.number? name ⟨0, 65535⟩ with
    | none => rfl
    | some word =>
        obtain ⟨_, _, _, _, small⟩ :=
          (word_read word.toNat).mp (by rw [found]; rfl)
        have same : word.toUInt16.toNat = word.toNat := by
          rw [UInt64.toNat_toUInt16]
          omega
        simp [same]
  rw [← Option.getD_map UInt16.toNat, port_read]
  exact below.under word_read

end Numbers

theorem composed_override {file : Option Value} {settings : Settings}
    (orderly : ∀ value, file = some value → value.Orderly)
    (read : ofValue (layered file) = .ok settings) (environment : Environment) :
    Composed file environment (environment.override settings) := by
  have wide {Section : Type} {area : Area Section} (slot : Slot area UInt64) :=
    slot.decided orderly read UInt64.toNat Value.ofNat
  exact
    { host := (Slot.host.decided orderly read id .string fun _ => rfl).under
        fun _ => Environment.text?_eq_some_iff
      port :=
    (Slot.port.decided orderly read UInt16.toNat .ofNat fun _ => rfl).port
      maxConnections :=
    (wide .maxConnections fun _ => rfl).number ⟨0, 1000000⟩ (by decide)
      maxMessageSize := wide .maxMessageSize fun _ => rfl
      heartbeatTimeout :=
    (wide .heartbeatTimeout fun _ => rfl).number .heartbeatTimeout (by decide)
      pongWriteTimeout :=
    (wide .pongWriteTimeout fun _ => rfl).number .pongWriteTimeout (by decide)
      pongJitter :=
    (wide .pongJitter fun _ => rfl).number .pongJitter (by decide)
      writeTimeout :=
    (wide .writeTimeout fun _ => rfl).number .writeTimeout (by decide)
      drainTimeout := wide .drainTimeout fun _ => rfl
      level := (Slot.level.decided orderly read id .string fun _ => rfl).under
        fun _ => Environment.text?_eq_some_iff
      json := (Slot.json.decided orderly read id .bool fun _ => rfl).under
        fun _ => Environment.word?_eq_some_iff }

/-! ### All settings -/

theorem Environment.GivesText.unique
    {environment : Environment} {name one other : String}
    (first : environment.GivesText name one)
    (second : environment.GivesText name other) : one = other :=
  Option.some.inj (first.1.symm.trans second.1)

theorem Environment.GivesNumber.unique
    {environment : Environment} {name : String} {least greatest one other : Nat}
    (first : environment.GivesNumber name least greatest one)
    (second : environment.GivesNumber name least greatest other) :
    one = other := by
  obtain ⟨text, set, numeral, _⟩ := first
  obtain ⟨written, set_again, numeral_again, _⟩ := second
  have same : text = written := Option.some.inj (set.symm.trans set_again)
  have one_read := ofText?_eq_some_iff.mpr numeral
  have other_read := ofText?_eq_some_iff.mpr (same ▸ numeral_again)
  exact Option.some.inj (one_read.symm.trans other_read)

theorem Environment.GivesWord.unique {environment : Environment} {name : String}
    {one other : Bool} (first : environment.GivesWord name one)
    (second : environment.GivesWord name other) : one = other :=
  Option.some.inj ((word?_eq_some_iff.mpr first).symm.trans
    (word?_eq_some_iff.mpr second))

section Unique

variable {file : Option Value} {area field : Place}

theorem given?_unique
    {Content : Type} {write : Content → Value}
    (injective : ∀ one other, write one = write other → one = other)
    (one other : Content) (given : given? file area field = some (write one))
    (again : given? file area field = some (write other)) : one = other :=
  injective _ _ (Option.some.inj (given.symm.trans again))

theorem ofNat_injective
    (one other : Nat) (same : Value.ofNat one = Value.ofNat other) :
    one = other := by
  simp only [Value.ofNat, Value.ofInt, Value.number.injEq,
    Json.Number.integer.injEq] at same
  omega

theorem Decided.unique_word
    {set : Nat → Prop} {standard : Nat} {one other : UInt64}
    (set_unique : ∀ one other, set one → set other → one = other)
    (first : Decided set (fun number => given? file area field =
      some (.ofNat number)) standard one.toNat)
    (second : Decided set (fun number => given? file area field =
      some (.ofNat number)) standard other.toNat) : one = other :=
  UInt64.toNat_inj.mp
    (first.unique set_unique (given?_unique ofNat_injective) second)

end Unique

/-- The three layers leave no choice. -/
theorem Composed.unique
    {file : Option Value} {environment : Environment} {left right : Settings}
    (first : Composed file environment left)
    (second : Composed file environment right) : left = right := by
  have number_unique (name : String) (least greatest one other : Nat)
      (given : environment.GivesNumber name least greatest one)
      (again : environment.GivesNumber name least greatest other) :
      one = other :=
    given.unique again
  have text_injective (one other : String)
      (same : Value.string one = .string other) :
      one = other := Value.string.inj same
  have host := first.host.unique (fun _ _ given => given.unique)
    (given?_unique text_injective) second.host
  have port := UInt16.toNat_inj.mp
    (first.port.unique (number_unique _ _ _) (given?_unique ofNat_injective)
      second.port)
  have connections :=
    first.maxConnections.unique_word (number_unique _ _ _) second.maxConnections
  have size := first.maxMessageSize.unique_word (fun _ _ => False.elim)
    second.maxMessageSize
  have heartbeat :=
    first.heartbeatTimeout.unique_word (number_unique _ _ _)
      second.heartbeatTimeout
  have pong := first.pongWriteTimeout.unique_word (number_unique _ _ _)
    second.pongWriteTimeout
  have jitter :=
    first.pongJitter.unique_word (number_unique _ _ _) second.pongJitter
  have write :=
    first.writeTimeout.unique_word (number_unique _ _ _) second.writeTimeout
  have drain :=
    first.drainTimeout.unique_word (fun _ _ => False.elim) second.drainTimeout
  have level := first.level.unique (fun _ _ given => given.unique)
    (given?_unique text_injective) second.level
  have json := first.json.unique (fun _ _ given => given.unique)
    (given?_unique fun _ _ => Value.bool.inj) second.json
  rcases left with ⟨⟨_, _, _, _⟩, ⟨_, _, _⟩, ⟨_⟩, ⟨_⟩, ⟨_, _⟩⟩
  rcases right with ⟨⟨_, _, _, _⟩, ⟨_, _, _⟩, ⟨_⟩, ⟨_⟩, ⟨_, _⟩⟩
  simp only [Settings.mk.injEq, ServerSection.mk.injEq,
    LivenessSection.mk.injEq,
    BroadcastSection.mk.injEq, ShutdownSection.mk.injEq,
    LoggingSection.mk.injEq]
  exact ⟨⟨host, port, connections, size⟩, ⟨heartbeat, pong, jitter⟩, write,
    drain, level, json⟩

/-! ### Bounds -/

theorem find?_bounded_eq_none_iff {settings : Settings} :
    (settings.bounded.find? fun (_, bounds, value) => !bounds.contain value) =
      none ↔
      ∀ timeout ∈ timeouts, timeout.Within settings := by
  simp [bounded, timeouts, Timeout.Within, Bounds.contain,
    Bounds.heartbeatTimeout, Bounds.pongWriteTimeout, Bounds.pongJitter,
    Bounds.writeTimeout, Bounds.drainTimeout]

theorem rejection?_eq_none_iff {settings : Settings} :
    settings.rejection? = none ↔ InBounds settings := by
  have size : settings.server.maxMessageSize = 0 ↔
      settings.server.maxMessageSize.toNat = 0 :=
    UInt64.toNat_inj.symm
  unfold rejection? InBounds
  rw [← find?_bounded_eq_none_iff]
  split
  · rename_i found
    simp [found]
  · rename_i within
    simp [within, size, Nat.pos_iff_ne_zero]

theorem accept_eq_ok_iff {settings accepted : Settings} :
    accept settings = .ok accepted ↔ settings = accepted ∧
      InBounds settings := by
  rw [← rejection?_eq_none_iff]
  unfold accept
  cases settings.rejection? <;> simp

theorem exists_rejected_iff {settings : Settings} :
    (∃ cause, accept settings = .error (.rejected cause)) ↔
      ¬ InBounds settings := by
  rw [← rejection?_eq_none_iff]
  unfold accept
  cases settings.rejection? <;> simp

/-- A number below its variable lies in the variable's range if it did before or
is replaced. -/
theorem within_getD_iff
    {environment : Environment} {name : String} {word : UInt64}
    (bounds : Bounds) (small : bounds.greatest < Numeral.twoTo 64) :
    (bounds.least ≤ ((environment.number? name bounds).getD word).toNat ∧
        ((environment.number? name bounds).getD word).toNat ≤ bounds.greatest) ↔
      (bounds.least ≤ word.toNat ∧ word.toNat ≤ bounds.greatest) ∨
        ∃ number,
          environment.GivesNumber name bounds.least bounds.greatest number := by
  cases found : environment.number? name bounds with
  | none =>
      have missing (number : Nat) :
          ¬ environment.GivesNumber name bounds.least bounds.greatest number :=
        fun given => by
          have read := (Environment.number?_eq_some_iff small).mpr given
          rw [found] at read
          cases read
      simp [missing]
  | some read =>
      have given : environment.GivesNumber name bounds.least bounds.greatest
          read.toNat :=
        (Environment.number?_eq_some_iff small).mp (by rw [found]; rfl)
      obtain ⟨text, set, numeral, within⟩ := given
      exact iff_of_true within (.inr ⟨read.toNat, text, set, numeral, within⟩)

/-- Below the variables the settings lie in the bounds if the variables replace
what did not. -/
theorem inBounds_override_iff
    {environment : Environment} {settings : Settings} :
    InBounds (environment.override settings) ↔
      (∀ timeout ∈ timeouts, timeout.Within settings ∨
        timeout.ReplacedBy environment) ∧
        0 < settings.server.maxMessageSize.toNat := by
  simp only [InBounds, timeouts, List.mem_cons, List.not_mem_nil, or_false,
    forall_eq_or_imp, forall_eq, Timeout.Within, Timeout.ReplacedBy,
    Option.some.injEq, exists_eq_left', reduceCtorEq, false_and, exists_false]
  refine and_congr
    (and_congr ?_ (and_congr ?_ (and_congr ?_ (and_congr ?_ Iff.rfl)))) Iff.rfl
  · exact within_getD_iff .heartbeatTimeout (by decide)
  · exact within_getD_iff .pongWriteTimeout (by decide)
  · exact within_getD_iff .pongJitter (by decide)
  · exact within_getD_iff .writeTimeout (by decide)

/-! ### Loading -/

/-- The settings of a file are read from what it lays over the standard
settings. -/
theorem file_settings_eq_ok_iff {file : File} {settings : Settings} :
    file.settings = .ok settings ↔
      ∃ given, file.Opens given ∧ ofValue (layered given) = .ok settings := by
  have opens_iff {given : Option Value} : file.value? = .ok given ↔
      file.Opens given := by
    constructor
    · intro read
      cases file with
      | missing =>
          cases read
          exact .missing
      | directory => cases read
      | content octets =>
          simp only [File.value?] at read
          split at read
          · cases read
          · rename_i text decoded
            split at read
            · cases read
            · rename_i value parsed
              cases read
              exact .content decoded parsed
    · intro opens
      cases opens with
      | missing => rfl
      | content decoded read => simp only [File.value?, decoded, read]
  have mapped {given : Option Value} :
      (ofValue (layered given)).mapError Failure.misfit = .ok settings ↔
        ofValue (layered given) = .ok settings := by
    cases ofValue (layered given) <;> simp [Except.mapError]
  unfold File.settings
  rw [bind_eq_ok_iff]
  simp only [opens_iff, mapped]

theorem File.Opens.orderly
    {file : File} {given : Option Value} (opens : file.Opens given) :
    ∀ value, given = some value → value.Orderly := by
  intro value same
  cases opens with
  | missing => cases same
  | content decoded read =>
      cases same
      exact Json.orderly_of_parse read

theorem File.Opens.unique
    {file : File} {one other : Option Value} (first : file.Opens one)
    (second : file.Opens other) : one = other := by
  cases first with
  | missing =>
      cases second
      rfl
  | content decoded read =>
      cases second with
      | content decoded_again read_again =>
          rw [decoded] at decoded_again
          cases decoded_again
          rw [read] at read_again
          cases read_again
          rfl

theorem load_eq_ok_iff
    {file : File} {environment : Environment} {settings : Settings} :
    load file environment = .ok settings ↔
      ∃ given, file.Opens given ∧ Fits (layered given) ∧
        Composed given environment settings ∧
        InBounds settings := by
  unfold load
  rw [bind_eq_ok_iff]
  simp only [file_settings_eq_ok_iff, accept_eq_ok_iff]
  constructor
  · intro ⟨below, ⟨given, opens, read⟩, same, within⟩
    have fits :=
      (exists_ofValue_iff (orderly_layered opens.orderly)).mp ⟨below, read⟩
    have composed := composed_override opens.orderly read environment
    exact ⟨given, opens, fits, same ▸ composed, same ▸ within⟩
  · intro ⟨given, opens, fits, composed, within⟩
    obtain ⟨below, read⟩ :=
      (exists_ofValue_iff (orderly_layered opens.orderly)).mpr fits
    have same :=
      (composed_override opens.orderly read environment).unique composed
    exact ⟨below, ⟨given, opens, read⟩, same, same ▸ within⟩

theorem load_eq_accept
    {file : File} {given : Option Value} {settings : Settings}
    (opens : file.Opens given) (fits : Fits (layered given))
    (composed : Composed given (fun _ => none) settings)
    (environment : Environment) :
    load file environment = accept (environment.override settings) := by
  obtain ⟨below, read⟩ :=
    (exists_ofValue_iff (orderly_layered opens.orderly)).mpr fits
  have same : below = settings :=
    (composed_override opens.orderly read fun _ => none).unique composed
  subst same
  have file_read := file_settings_eq_ok_iff.mpr ⟨given, opens, read⟩
  unfold load
  rw [file_read]
  rfl

/-- Loading a settings file below an environment.  It succeeds exactly with the
settings that the three layers decide, if the file fits and these settings lie
in the bounds.  A variable that is not usable changes nothing, and laying the
variables over twice is the same as once.  What can be loaded without variables
can be loaded with any.  Of a file that fits, the settings are rejected exactly
if one of its waiting times is out of its range and no usable variable replaces
it, or if no message would be short enough. -/
theorem load_by_layers (file : File) (environment : Environment) :
    (∀ settings, load file environment = .ok settings ↔
      ∃ given, file.Opens given ∧ Fits (layered given) ∧
        Composed given environment settings ∧
        InBounds settings) ∧
    (∀ name, environment.Unusable name →
      load file (environment.without name) = load file environment) ∧
    (∀ settings,
      environment.override (environment.override settings) =
        environment.override settings) ∧
    ((∃ settings, load file (fun _ => none) = .ok settings) →
      ∃ settings, load file environment = .ok settings) ∧
    (∀ given settings, file.Opens given → Fits (layered given) →
      Composed given (fun _ => none) settings →
        ((∃ cause, load file environment = .error (.rejected cause)) ↔
          (∃ timeout ∈ timeouts,
            ¬ timeout.Within settings ∧ ¬ timeout.ReplacedBy environment) ∨
          settings.server.maxMessageSize.toNat = 0)) := by
  refine ⟨fun settings => load_eq_ok_iff, ?_, environment.override_override, ?_,
    ?_⟩
  · intro name unusable
    simp only [load, Environment.override_without unusable]
  · intro ⟨settings, loaded⟩
    obtain ⟨given, opens, fits, composed, within⟩ := load_eq_ok_iff.mp loaded
    have below := load_eq_accept opens fits composed environment
    refine ⟨environment.override settings,
      below.trans (accept_eq_ok_iff.mpr ⟨rfl, ?_⟩)⟩
    exact inBounds_override_iff.mpr
      ⟨fun timeout listed => .inl (within.1 timeout listed), within.2⟩
  · intro given settings opens fits composed
    rw [load_eq_accept opens fits composed, exists_rejected_iff,
      inBounds_override_iff]
    simp only [not_and_or, not_forall, not_or, Nat.pos_iff_ne_zero, not_not,
      exists_prop]

/-- A file with a waiting time out of its range, an entry that gives nothing,
and a port. -/
def File.hasty : File :=
  .content (Text.utf8
    ("\x7b\"liveness\":\x7b\"heartbeatTimeoutMs\":50," ++
      "\"pongJitterMs\":null\x7d,\"server\":[\"host\",9000]\x7d"))

/-- An environment with a usable waiting time and a port that is none. -/
def Environment.patient : Environment
  | "BLOP_HEARTBEAT_TIMEOUT_MS" => some "+250"
  | "BLOP_PORT" => some "70000"
  | _ => none

theorem eq_ok_of_toOption
    {Cause Result : Type} {outcome : Except Cause Result} {result : Result}
    (same : outcome.toOption = some result) : outcome = .ok result := by
  cases outcome with
  | error cause => cases same
  | ok other => exact congrArg Except.ok (Option.some.inj same)

theorem load_by_layers_hasty :
    (∃ given, File.hasty.Opens given ∧ Fits (layered given) ∧
      Composed given .patient
        { server := { host := "host", port := 9000 }
          liveness := { heartbeatTimeout := 250 } } ∧
      InBounds
        { server := { host := "host", port := 9000 }
          liveness := { heartbeatTimeout := 250 } }) ∧
    Environment.patient.Unusable "BLOP_PORT" ∧
    load .hasty (Environment.patient.without "BLOP_PORT") =
      load .hasty .patient ∧
    (∃ settings, load .missing .patient = .ok settings) ∧
    ∃ cause, load .hasty (fun _ => none) = .error (.rejected cause) := by
  have layers := load_by_layers .hasty .patient
  have unusable : Environment.patient.Unusable "BLOP_PORT" := by
    intro usage listed text set usable
    have number : usage = .number 0 65535 := by simpa [usages] using listed
    cases set
    subst number
    obtain ⟨value, numeral, _, small⟩ := usable
    have read : some 70000 = some value := ofText?_eq_some_iff.mpr numeral
    cases read
    exact absurd small (by decide)
  have read : File.hasty.settings = .ok
      { server := { host := "host", port := 9000 }
        liveness := { heartbeatTimeout := 50 } } :=
    eq_ok_of_toOption (by decide +kernel)
  obtain ⟨given, opens, value_read⟩ := file_settings_eq_ok_iff.mp read
  have fits :=
    (exists_ofValue_iff (orderly_layered opens.orderly)).mp ⟨_, value_read⟩
  have composed := composed_override opens.orderly value_read fun _ => none
  refine ⟨(layers.1 _).mp (eq_ok_of_toOption (by decide +kernel)), unusable,
    layers.2.1 _ unusable, ?_, ?_⟩
  · exact (load_by_layers .missing .patient).2.2.2.1 ⟨standard, rfl⟩
  · refine ((load_by_layers .hasty fun _ => none).2.2.2.2 given _ opens fits
      composed).mpr (.inl ?_)
    refine ⟨_, List.mem_cons_self, ?_, ?_⟩
    · exact fun within => absurd within.1 (by decide)
    · intro ⟨name, _, number, text, set, _⟩
      cases set

end BroadcastHub.Settings
