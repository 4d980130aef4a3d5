import BroadcastHub.Octets

/-!
# Text as octets

The UTF-8 form of a text, and the text an octet string is the form of, if there
is one.  The two are inverse to each other: an octet string is valid exactly
when it is the form of some text.
-/

namespace BroadcastHub.Text

def utf8 (text : String) : Octets := text.toByteArray.data.toList

/-- The text whose UTF-8 form is given, if the octets are one. -/
def ofUtf8? (octets : Octets) : Option String :=
  String.fromUTF8? ⟨octets.toArray⟩

@[simp] theorem ofUtf8?_utf8 (text : String) :
    ofUtf8? (utf8 text) = some text := by
  have valid : (⟨text.toByteArray.data⟩ : ByteArray).IsValidUTF8 :=
    text.isValidUTF8
  simp [ofUtf8?, utf8, String.fromUTF8?, valid]
  rfl

theorem utf8_of_ofUtf8? {octets : Octets} {text : String}
    (read : ofUtf8? octets = some text) : utf8 text = octets := by
  unfold ofUtf8? String.fromUTF8? at read
  split at read
  · simp only [Option.some.injEq] at read
    subst read
    simp [utf8, String.fromUTF8]
  · cases read

/-- An octet string reads as a text exactly when it is that text's form. -/
theorem ofUtf8?_eq_some_iff {octets : Octets} {text : String} :
    ofUtf8? octets = some text ↔ octets = utf8 text :=
  ⟨fun read => (utf8_of_ofUtf8? read).symm,
    fun form => form ▸ ofUtf8?_utf8 text⟩

theorem utf8_injective
    {first second : String} (same : utf8 first = utf8 second) :
    first = second := by
  have read := ofUtf8?_utf8 first
  rw [same, ofUtf8?_utf8] at read
  exact (Option.some.inj read).symm

@[simp] theorem utf8_append (first second : String) :
    utf8 (first ++ second) = utf8 first ++ utf8 second := by
  simp [utf8]

end BroadcastHub.Text
