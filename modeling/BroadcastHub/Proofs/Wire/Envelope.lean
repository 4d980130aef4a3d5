import BroadcastHub.Frame
import BroadcastHub.Proofs.Numeral.Decimal
import BroadcastHub.Proofs.Text.Letters

/-!
# Opening an envelope

An envelope tells the length of the message inside, so a reader needs no other
mark to find where the message ends.  `openEnvelope?` is that reader.  Nothing
of a message is lost in its envelope, and what the message contains does not
matter: it may look like an envelope itself.
-/

namespace BroadcastHub

namespace Frame

/-- Takes the message out of an envelope that stands at the front of octets;
answers what follows the message too.  The digits go up to the first closing
bracket. -/
def openEnvelope? (octets : Octets) : Option (Octets × Octets) := do
  let counted ← octets.dropPrefix? (Text.utf8 "MESSAGE[")
  let digits ← Text.ofUtf8? (counted.takeWhile fun octet => octet ≠ 93)
  let length ← Numeral.ofDigits? digits.toList
  let message ← (counted.dropWhile fun octet => octet ≠ 93).dropPrefix?
    (Text.utf8 "]: ")
  Octets.splitExactly length message

theorem kind?_envelope
    {message enclosed : Frame} (same : message.envelope? = some enclosed) :
    enclosed.kind? = message.kind? := by
  cases message <;> simp [envelope?] at same <;> subst same <;> rfl

theorem payload_envelope
    {message enclosed : Frame} (same : message.envelope? = some enclosed) :
    enclosed.payload =
      Text.utf8 (envelopeHead message.payload.length) ++ message.payload := by
  cases message with
  | text content =>
      cases same
      exact Text.utf8_append _ _
  | binary content =>
      cases same
      rfl
  | _ => cases same

theorem exists_envelope_iff {frame : Frame} :
    (∃ enclosed, frame.envelope? = some enclosed) ↔
      ∃ kind, frame.kind? = some kind := by
  cases frame <;> simp [envelope?, kind?]

theorem eq_of_payload_eq {message other : Frame} {kind : MessageKind}
    (data : message.kind? = some kind) (other_data : other.kind? = some kind)
    (same : message.payload = other.payload) : message = other := by
  cases kind with
  | text =>
      cases message <;> cases data
      cases other <;> cases other_data
      exact congrArg Frame.text (Text.utf8_injective same)
  | binary =>
      cases message <;> cases data
      cases other <;> cases other_data
      exact congrArg Frame.binary same

/-! ### The reader -/

theorem not_bracket_of_digits {digits : String}
    (all_digits : ∀ char ∈ digits.toList, char.isDigit) :
    ∀ octet ∈ Text.utf8 digits, octet ≠ 93 := by
  have within : ∀ char ∈ digits.toList, 48 ≤ char.toNat ∧ char.toNat ≤ 57 :=
    fun char there => Char.isDigit_iff_toNat.mp (all_digits char there)
  have ascii : ∀ char ∈ digits.toList, char.toNat < 128 :=
    fun char there => Nat.lt_of_le_of_lt (within char there).2 (by decide)
  rw [← String.ofList_toList (s := digits), Text.utf8_ofList_of_ascii ascii]
  intro octet there bracket
  obtain ⟨char, listed, rfl⟩ := List.mem_map.mp there
  have code : char.toNat = 93 := by
    rw [← Text.toNat_octetOf (ascii char listed), bracket]
    rfl
  have digit := (within char listed).2
  omega

/-- The reader finds the message behind its length, whatever the message
contains. -/
theorem openEnvelope?_of_decimal
    {digits : String} {content : Octets}
    (decimal : Numeral.IsDecimal digits content.length) (behind : Octets) :
    openEnvelope? (Text.utf8 ("MESSAGE[" ++ digits ++ "]: ") ++
      content ++ behind) =
      some (content, behind) := by
  have inside : ∀ octet ∈ Text.utf8 digits, decide (octet ≠ 93) = true :=
    fun octet there => decide_eq_true
      (not_bracket_of_digits decimal.all_digits octet there)
  have bracket : Text.utf8 "]: " = 93 :: Text.utf8 ": " := by decide
  have whole : Text.utf8 ("MESSAGE[" ++ digits ++ "]: ") ++ content ++ behind =
      Text.utf8 "MESSAGE[" ++
        (Text.utf8 digits ++ (Text.utf8 "]: " ++ (content ++ behind))) := by
    simp only [Text.utf8_append, List.append_assoc]
  have number :
      (Text.utf8 digits ++ (Text.utf8 "]: " ++ (content ++ behind))).takeWhile
      (fun octet => octet ≠ 93) = Text.utf8 digits := by
    rw [List.takeWhile_append_of_pos inside, bracket]
    simp
  have message :
      (Text.utf8 digits ++ (Text.utf8 "]: " ++ (content ++ behind))).dropWhile
      (fun octet => octet ≠ 93) = Text.utf8 "]: " ++ (content ++ behind) := by
    rw [List.dropWhile_append_of_pos inside, bracket]
    simp
  have cut : Octets.splitExactly content.length (content ++ behind) =
      some (content, behind) :=
    Octets.splitExactly_eq_some_iff.mpr ⟨rfl, rfl⟩
  rw [whole, openEnvelope?,
    List.dropPrefix?_append_of_beq _ (beq_self_eq_true _)]
  simp only [Option.bind_eq_bind, Option.bind_some, number, message,
    Text.ofUtf8?_utf8, decimal.ofDigits?_eq,
    List.dropPrefix?_append_of_beq _ (beq_self_eq_true (Text.utf8 "]: ")), cut]

theorem openEnvelope?_payload
    {message enclosed : Frame} (same : message.envelope? = some enclosed)
    (behind : Octets) :
    openEnvelope? (enclosed.payload ++ behind) =
      some (message.payload, behind) := by
  rw [payload_envelope same]
  exact openEnvelope?_of_decimal (Numeral.isDecimal_repr _) behind

theorem envelope_injective
    {message other enclosed : Frame} (first : message.envelope? = some enclosed)
    (second : other.envelope? = some enclosed) : message = other := by
  have opened := openEnvelope?_payload first []
  rw [openEnvelope?_payload second []] at opened
  have payload_same : other.payload = message.payload :=
    congrArg Prod.fst (Option.some.inj opened)
  have kind_same : other.kind? = message.kind? :=
    (kind?_envelope second).symm.trans (kind?_envelope first)
  obtain ⟨kind, data⟩ := exists_envelope_iff.mp ⟨enclosed, first⟩
  exact eq_of_payload_eq data (kind_same.trans data) payload_same.symm

/-- A message loses nothing in its envelope.  The envelope has the message's
kind, and its octets are the head, with the decimal length of the message
between brackets, and then those of the message; the reader gets the message
back from them, and all that follows.  So no two messages have the same
envelope, and a text is enclosed in the same octets as the binary message that
has its octets. -/
theorem envelope_lossless :
    (∀ (message : Frame) (kind : MessageKind), message.kind? = some kind →
      ∃ enclosed digits, message.envelope? = some enclosed ∧
        enclosed.kind? = some kind ∧
        Numeral.IsDecimal digits message.payload.length ∧
        enclosed.payload =
          Text.utf8 ("MESSAGE[" ++ digits ++ "]: ") ++ message.payload ∧
        ∀ behind, openEnvelope? (enclosed.payload ++ behind) =
          some (message.payload, behind)) ∧
    (∀ message other enclosed : Frame,
      message.envelope? = some enclosed → other.envelope? = some enclosed →
        message = other) ∧
    (∀ text : String, (Frame.text text).envelope?.map payload =
      (Frame.binary (Text.utf8 text)).envelope?.map payload) := by
  refine ⟨?_, fun message other enclosed => envelope_injective, ?_⟩
  · intro message kind data
    obtain ⟨enclosed, same⟩ := exists_envelope_iff.mpr ⟨kind, data⟩
    exact ⟨enclosed, _, same, (kind?_envelope same).trans data,
      Numeral.isDecimal_repr _,
      payload_envelope same, openEnvelope?_payload same⟩
  · intro text
    exact congrArg some (Text.utf8_append (envelopeHead (Text.utf8 text).length)
      text)

/-- A message that looks like an envelope with a wrong length, and goes on with
no text. -/
def nested : Frame := .binary (Text.utf8 "MESSAGE[7]: 3]: " ++ [255, 93])

theorem envelope_lossless_of_nested :
    nested.kind? = some .binary ∧
    (∃ enclosed, nested.envelope? = some enclosed ∧
      enclosed.kind? = some .binary ∧
      enclosed.payload = Text.utf8 "MESSAGE[18]: " ++ nested.payload ∧
      openEnvelope? (enclosed.payload ++ enclosed.payload) =
        some (nested.payload, enclosed.payload)) ∧
    ∀ other, other.envelope? = nested.envelope? → other = nested := by
  obtain ⟨lossless, injective, -⟩ := envelope_lossless
  obtain ⟨enclosed, digits, same, kind, -, -, opened⟩ :=
    lossless nested .binary rfl
  refine ⟨rfl, ⟨enclosed, same, kind, ?_, opened _⟩, ?_⟩
  · cases same
    rfl
  · intro other other_same
    exact injective other nested enclosed (other_same.trans same) same

end Frame

end BroadcastHub
