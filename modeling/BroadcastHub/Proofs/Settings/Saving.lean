import BroadcastHub.Proofs.Json.ReadBack
import BroadcastHub.Proofs.Settings.Layering

/-!
# Saving settings

Settings that are written to the settings file are loaded from it again.  Every
setting is written, so nothing of the standard settings below the file is left;
what is written for a setting reads back as the setting; and the text determines
what was written.
-/

namespace BroadcastHub.Settings

open Json (Value)

/-- Settings as they are written: an object of five objects, all in the order in
which the settings are declared. -/
def written (settings : Settings) : Value :=
  .object
    [("server", .object
        [("host", .string settings.server.host),
          ("port", .ofNat settings.server.port.toNat),
          ("maxConnections", .ofNat settings.server.maxConnections.toNat),
          ("maxMessageSize", .ofNat settings.server.maxMessageSize.toNat)]),
      ("liveness", .object
        [("heartbeatTimeoutMs",
          .ofNat settings.liveness.heartbeatTimeout.toNat),
          ("pongWriteTimeoutMs",
            .ofNat settings.liveness.pongWriteTimeout.toNat),
          ("pongJitterMs", .ofNat settings.liveness.pongJitter.toNat)]),
      ("broadcast", .object
        [("writeTimeoutMs", .ofNat settings.broadcast.writeTimeout.toNat)]),
      ("shutdown", .object
        [("drainTimeoutMs", .ofNat settings.shutdown.drainTimeout.toNat)]),
      ("logging", .object
        [("level", .string settings.logging.level),
          ("json", .bool settings.logging.json)])]

/-! ### The text -/

theorem exact_ofNat {depth number : Nat} (fits : number < Numeral.twoTo 64) :
    (Value.ofNat number).Exact depth := by
  have least : -(Numeral.twoTo 63 : Int) ≤ number := by omega
  exact .integer least (Int.ofNat_lt.mpr fits)

theorem exact_word {depth : Nat} (number : UInt64) :
    (Value.ofNat number.toNat).Exact depth :=
  exact_ofNat number.toNat_lt

theorem exact_port {depth : Nat} (number : UInt16) :
    (Value.ofNat number.toNat).Exact depth :=
  exact_ofNat (Nat.lt_trans number.toNat_lt (by decide))

theorem exact_written (settings : Settings) :
    settings.written.Exact (Json.Expectation.depthLimit - 1) := by
  refine .object ?_
  simp only [List.mem_cons, List.not_mem_nil, or_false, forall_eq_or_imp,
    forall_eq]
  refine ⟨.object ?_, .object ?_, .object ?_, .object ?_, .object ?_⟩
  all_goals simp [exact_word, exact_port, Value.Exact.bool, Value.Exact.string]

theorem exact_toValue (settings : Settings) :
    settings.toValue.Exact (Json.Expectation.depthLimit - 1) := by
  refine .object ?_
  simp only [List.mem_cons, List.not_mem_nil, or_false, forall_eq_or_imp,
    forall_eq]
  refine ⟨.object ?_, .object ?_, .object ?_, .object ?_, .object ?_⟩
  all_goals simp [exact_word, exact_port, Value.Exact.bool, Value.Exact.string]

theorem parse_text_written (settings : Settings) :
    Json.parse settings.written.text = .ok settings.toValue :=
  Json.parse_text (exact_written settings)

theorem parse_text_toValue (settings : Settings) :
    Json.parse settings.toValue.text = .ok settings.toValue :=
  Json.parse_text_of_orderly (exact_toValue settings) (orderly_toValue settings)

/-! ### The value -/

theorem toValue_merge_toValue (below settings : Settings) :
    below.toValue.merge settings.toValue = settings.toValue := rfl

theorem Part.Stands.readMembers_cons
    {Section Content : Type} {part : Part Section Content}
    {entries : List (Entry Section)} {place : Place}
    (stands : part.Stands entries place) {value : Value} {content : Content}
    (read : part.read value = .ok content) (rest : List (String × Value))
    (current : Section) :
    readMembers entries ((place.key, value) :: rest) current =
      readMembers entries rest (part.put content current) := by
  have own : (part.entry place.key).read value current =
      .ok (part.put content current) :=
    entry_read_eq_ok_iff.mpr ⟨content, read, rfl⟩
  simp only [readMembers, stands.find?_key, own]
  rfl

theorem Slot.readMembers_cons
    {Section Content : Type} {area : Area Section} (slot : Slot area Content)
    (content : Content) (rest : List (String × Value)) (current : Section) :
    readMembers area.entries ((slot.place.key, slot.leaf.write content) :: rest)
      current =
      readMembers area.entries rest (slot.leaf.put content current) :=
  slot.stands.readMembers_cons ((slot.leaf.read_eq_ok_iff _ content).mpr rfl)
    rest current

theorem Area.readMembers_cons
    {Section : Type} (area : Area Section) {value : Value} {content : Section}
    (read : readSection area.shape area.entries area.standard value =
      .ok content)
    (rest : List (String × Value)) (current : Settings) :
    readMembers Settings.entries ((area.place.key, value) :: rest) current =
      readMembers Settings.entries rest (area.part.put content current) :=
  area.stands.readMembers_cons (area.read_eq ▸ read) rest current

theorem readSection_server (server : ServerSection) :
    readSection .server ServerSection.entries {}
      (.object
        [("host", .string server.host),
          ("maxConnections", .ofNat server.maxConnections.toNat),
          ("maxMessageSize", .ofNat server.maxMessageSize.toNat),
          ("port", .ofNat server.port.toNat)]) = .ok server :=
  (Slot.host.readMembers_cons server.host _ _).trans <|
    (Slot.maxConnections.readMembers_cons server.maxConnections _ _).trans <|
    (Slot.maxMessageSize.readMembers_cons server.maxMessageSize _ _).trans <|
    Slot.port.readMembers_cons server.port _ _

theorem readSection_liveness (liveness : LivenessSection) :
    readSection .liveness LivenessSection.entries {}
      (.object
        [("heartbeatTimeoutMs", .ofNat liveness.heartbeatTimeout.toNat),
          ("pongJitterMs", .ofNat liveness.pongJitter.toNat),
          ("pongWriteTimeoutMs", .ofNat liveness.pongWriteTimeout.toNat)]) =
            .ok liveness :=
  (Slot.heartbeatTimeout.readMembers_cons liveness.heartbeatTimeout _
    _).trans <|
    (Slot.pongJitter.readMembers_cons liveness.pongJitter _ _).trans <|
    Slot.pongWriteTimeout.readMembers_cons liveness.pongWriteTimeout _ _

theorem readSection_broadcast (broadcast : BroadcastSection) :
    readSection .broadcast BroadcastSection.entries {}
      (.object [("writeTimeoutMs", .ofNat broadcast.writeTimeout.toNat)]) =
        .ok broadcast :=
  Slot.writeTimeout.readMembers_cons broadcast.writeTimeout _ _

theorem readSection_shutdown (shutdown : ShutdownSection) :
    readSection .shutdown ShutdownSection.entries {}
      (.object [("drainTimeoutMs", .ofNat shutdown.drainTimeout.toNat)]) =
        .ok shutdown :=
  Slot.drainTimeout.readMembers_cons shutdown.drainTimeout _ _

theorem readSection_logging (logging : LoggingSection) :
    readSection .logging LoggingSection.entries {}
      (.object [("json", .bool logging.json),
        ("level", .string logging.level)]) = .ok logging :=
  (Slot.json.readMembers_cons logging.json _ _).trans <|
    Slot.level.readMembers_cons logging.level _ _

theorem ofValue_toValue (settings : Settings) :
    ofValue settings.toValue = .ok settings :=
  (Area.broadcast.readMembers_cons (readSection_broadcast settings.broadcast) _
    _).trans <|
    (Area.liveness.readMembers_cons (readSection_liveness settings.liveness) _
      _).trans <|
    (Area.logging.readMembers_cons (readSection_logging settings.logging) _
      _).trans <|
    (Area.server.readMembers_cons (readSection_server settings.server) _
      _).trans <|
    Area.shutdown.readMembers_cons (readSection_shutdown settings.shutdown) _ _

/-! ### The file -/

/-- Variables other than the settings' own change nothing. -/
theorem Environment.override_of_unset {environment : Environment}
    (unset : ∀ name ∈ names, environment name = none) (settings : Settings) :
    environment.override settings = settings := by
  have text (name : String) (listed : name ∈ names) :
      environment.text? name = none := by
    rw [text?, unset name listed]
    rfl
  have number (name : String) (listed : name ∈ names) (bounds : Bounds) :
      environment.number? name bounds = none := by
    rw [number?, unset name listed]
    rfl
  have word (name : String) (listed : name ∈ names) :
      environment.word? name = none := by
    rw [word?, unset name listed]
    rfl
  simp (disch := decide) only [override, overServer, overLiveness,
    overBroadcast, overLogging, text,
    number, word, Option.map_none, Option.getD_none]

theorem File.settings_of_parse {settings : Settings} {text : String}
    (meaning : Json.parse text = .ok settings.toValue) :
    (File.content (Text.utf8 text)).settings = .ok settings := by
  refine file_settings_eq_ok_iff.mpr
    ⟨_, .content (Text.ofUtf8?_utf8 text) meaning, ?_⟩
  rw [layered, toValue_merge_toValue, ofValue_toValue]

theorem load_of_parse
    {settings : Settings} {environment : Environment} {text : String}
    (meaning : Json.parse text = .ok settings.toValue)
    (unset : ∀ name ∈ Environment.names, environment name = none) :
    load (.content (Text.utf8 text)) environment = accept settings := by
  rw [load, File.settings_of_parse meaning]
  exact congrArg accept (Environment.override_of_unset unset settings)

/-- Saved settings are loaded again.  Where settings are accepted and none of
the variables is set, loading a file gives exactly these settings if it holds
them as they are written, or any other text that means their value; and reading
their value, laid over the standard settings, gives them. -/
theorem load_saved
    {settings : Settings} {environment : Environment}
    (accepted : accept settings = .ok settings)
    (unset : ∀ name ∈ Environment.names, environment name = none) :
    load (.content (Text.utf8 settings.written.text)) environment =
      .ok settings ∧
    (∀ text, Json.parse text = .ok settings.toValue →
      load (.content (Text.utf8 text)) environment = .ok settings) ∧
    ofValue (standard.toValue.merge settings.toValue) = .ok settings := by
  have loaded {text : String}
      (meaning : Json.parse text = .ok settings.toValue) :
      load (.content (Text.utf8 text)) environment = .ok settings :=
    (load_of_parse meaning unset).trans accepted
  refine ⟨loaded (parse_text_written settings), fun _ => loaded, ?_⟩
  rw [toValue_merge_toValue, ofValue_toValue]

/-- Settings with characters that are escaped, with the least and the greatest
numbers, and with an empty text. -/
def outermost : Settings where
  server :=
    { host := "\"\\\x07\n\x7fé😀"
      port := 65535
      maxConnections := 18446744073709551615
      maxMessageSize := 18446744073709551615 }
  liveness :=
    { heartbeatTimeout := 100, pongWriteTimeout := 60000, pongJitter := 0 }
  broadcast := { writeTimeout := 10 }
  shutdown := { drainTimeout := 0 }
  logging := { level := "", json := true }

theorem load_saved_outermost :
    accept outermost = .ok outermost ∧
    load (.content (Text.utf8 outermost.written.text)) (fun _ => none) =
      .ok outermost ∧
    load (.content (Text.utf8 outermost.toValue.text)) (fun _ => none) =
      .ok outermost ∧
    ofValue (standard.toValue.merge outermost.toValue) = .ok outermost := by
  have accepted : accept outermost = .ok outermost := rfl
  have unset :
      ∀ name ∈ Environment.names, (fun _ => none : Environment) name = none :=
    fun _ _ => rfl
  obtain ⟨written, meant, merged⟩ := load_saved accepted unset
  exact ⟨accepted, written, meant _ (parse_text_toValue outermost), merged⟩

end BroadcastHub.Settings
