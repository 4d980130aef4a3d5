import Mathlib.Data.List.DropRight
import Mathlib.Logic.Relation
import BroadcastHub.Http.Routes
import BroadcastHub.Proofs.Text.Letters

/-!
# Which requests ask for a session

A request asks for a session if its header fields say so in four places, each of
which is looked up in another way: one part of any `Connection` value, the whole
of the first `Upgrade` value, the octets of the first version, the octets of the
first key.  `Asks` says this without the functions that look.  `Edit` lists
changes of the fields that make no difference.
-/

namespace BroadcastHub.Http

/-! ### What a request has to say -/

/-- A value is a text of visible characters, spaces and tabs. -/
def IsText (value : Octets) (text : List Char) : Prop :=
  (∀ char ∈ text, char = '\t' ∨ ' ' ≤ char ∧ char ≤ '~') ∧
    value = Text.utf8 (String.ofList text)

/-- Characters spell a word, each of them in either case. -/
def Spells (chars : List Char) (word : String) : Prop :=
  List.Forall₂ (fun char letter => char = letter ∨ char = letter.toUpper) chars
    word.toList

/-- Characters are a word with spaces and tabs around it. -/
def Surrounds (chars word : List Char) : Prop :=
  ∃ before after, chars = before ++ word ++ after ∧
    ∀ char ∈ before ++ after, char = ' ' ∨ char = '\t'

/-- A text is divided by commas, and this is one of its parts. -/
def HasPart (text part : List Char) : Prop :=
  ∃ parts : List (List Char), text = [','].intercalate parts ∧
    (∀ each ∈ parts, ',' ∉ each) ∧
    part ∈ parts

/-- One part of a value that is text is the word `upgrade`. -/
def AsksForUpgrade (value : Octets) : Prop :=
  ∃ text part word, IsText value text ∧ HasPart text part ∧
    Surrounds part word ∧
    Spells word "upgrade"

/-- The first field with a name has this value. -/
def IsFirst (name : String) (fields : List Field) (value : Octets) : Prop :=
  ∃ before field after, fields = before ++ field :: after ∧
    (∀ other ∈ before, other.isNamed name = false) ∧ field.isNamed name ∧
    field.value = value

/-- Fields ask for a session and give a key. -/
structure Asks (fields : List Field) (key : Octets) : Prop where
  connection : ∃ field ∈ fields, field.isNamed "connection" ∧
    AsksForUpgrade field.value
  upgrade : ∃ word, Spells word "websocket" ∧
    IsFirst "upgrade" fields (Text.utf8 (String.ofList word))
  version : IsFirst "sec-websocket-version" fields (Text.utf8 "13")
  key : IsFirst "sec-websocket-key" fields key

/-! ### Text values -/

theorem toNat_of_textChar
    {char : Char} (plain : char = '\t' ∨ ' ' ≤ char ∧ char ≤ '~') :
    char.toNat = 9 ∨ 32 ≤ char.toNat ∧ char.toNat < 127 := by
  cases plain with
  | inl tab => exact .inl (congrArg Char.toNat tab)
  | inr visible => exact .inr ⟨visible.1, Nat.lt_succ_of_le visible.2⟩

theorem textChar_of_toNat {char : Char}
    (code : char.toNat = 9 ∨ 32 ≤ char.toNat ∧ char.toNat < 127) :
    char = '\t' ∨ ' ' ≤ char ∧ char ≤ '~' := by
  cases code with
  | inl tab => exact .inl (Char.toNat_inj.mp tab)
  | inr visible => exact .inr ⟨visible.1, Nat.le_of_lt_succ visible.2⟩

theorem isTextOctet_iff {octet : UInt8} :
    isTextOctet octet ↔ octet.toNat = 9 ∨ 32 ≤ octet.toNat ∧
      octet.toNat < 127 := by
  have tab : octet = 9 ↔ octet.toNat = 9 := UInt8.toNat_inj.symm
  simp [isTextOctet, tab]

def charOf (octet : UInt8) : Char := Char.ofNat octet.toNat

theorem toNat_charOf (octet : UInt8) : (charOf octet).toNat = octet.toNat := by
  have small := octet.toNat_lt
  have valid : octet.toNat.isValidChar := .inl (by omega)
  rw [charOf, Char.ofNat, dif_pos valid]
  rfl

theorem octetOf_charOf (octet : UInt8) :
    Text.octetOf (charOf octet) = octet := by
  rw [Text.octetOf, toNat_charOf, UInt8.ofNat_toNat]

/-- A value's characters are those of the text that it is. -/
theorem valueText?_eq_some_iff {value : Octets} {text : List Char} :
    valueText? value = some text ↔ IsText value text := by
  have form {text : List Char}
      (plain : ∀ char ∈ text, char = '\t' ∨ ' ' ≤ char ∧ char ≤ '~') :
      Text.utf8 (String.ofList text) = text.map Text.octetOf := by
    refine Text.utf8_ofList_of_ascii fun char there => ?_
    have code := toNat_of_textChar (plain char there)
    omega
  unfold valueText? IsText
  constructor
  · intro read
    split at read
    · rename_i all
      have same : value.map charOf = text := Option.some.inj read
      subst same
      have plain : ∀ char ∈ value.map charOf, char = '\t' ∨ ' ' ≤ char ∧
          char ≤ '~' := by
        intro char there
        obtain ⟨octet, listed, rfl⟩ := List.mem_map.mp there
        have code := isTextOctet_iff.mp (List.all_eq_true.mp all octet listed)
        exact textChar_of_toNat (toNat_charOf octet ▸ code)
      refine ⟨plain, ?_⟩
      rw [form plain, List.map_map]
      exact (List.map_id'' octetOf_charOf value).symm
    · cases read
  · intro ⟨plain, same⟩
    rw [form plain] at same
    subst same
    have code {char : Char} (there : char ∈ text) :
        (Text.octetOf char).toNat = char.toNat := by
      have code := toNat_of_textChar (plain char there)
      exact Text.toNat_octetOf (by omega)
    have all : (text.map Text.octetOf).all isTextOctet = true := by
      refine List.all_eq_true.mpr fun octet there => ?_
      obtain ⟨char, listed, rfl⟩ := List.mem_map.mp there
      exact isTextOctet_iff.mpr
        (code listed ▸ toNat_of_textChar (plain char listed))
    rw [if_pos all, List.map_map]
    refine congrArg some ((List.map_congr_left fun char there => ?_).trans
      (List.map_id' text))
    have back : Char.ofNat (Text.octetOf char).toNat = char := by
      rw [code there, Char.ofNat_toNat]
    exact back

/-! ### Parts and words -/

theorem not_mem_of_mem_splitOn {separator : Char} {text part : List Char}
    (listed : part ∈ text.splitOn separator) : separator ∉ part := by
  induction text generalizing part with
  | nil =>
      rw [List.splitOn_nil, List.mem_singleton] at listed
      rw [listed]
      exact List.not_mem_nil
  | cons char text ih =>
      obtain ⟨first, rest, split⟩ :=
        List.exists_cons_of_ne_nil (List.splitOn_ne_nil separator text)
      rw [split] at ih
      rw [List.splitOn_cons_eq_if_modifyHead, split] at listed
      by_cases same : char = separator
      · simp only [same, beq_self_eq_true, if_true, List.mem_cons] at listed
        cases listed with
        | inl empty =>
            rw [empty]
            exact List.not_mem_nil
        | inr later => exact ih (List.mem_cons.mpr later)
      · simp only [beq_eq_false_iff_ne.mpr same, Bool.false_eq_true, if_false,
          List.modifyHead_cons, List.mem_cons] at listed
        cases listed with
        | inl longer =>
            rw [longer]
            exact List.not_mem_cons_of_ne_of_not_mem (Ne.symm same)
              (ih List.mem_cons_self)
        | inr later => exact ih (List.mem_cons_of_mem first later)

theorem mem_splitCommas_iff {text part : List Char} :
    part ∈ splitCommas text ↔ HasPart text part := by
  unfold splitCommas
  constructor
  · intro listed
    exact ⟨text.splitOn ',', (List.intercalate_splitOn ',').symm,
      fun each => not_mem_of_mem_splitOn, listed⟩
  · intro ⟨parts, same, plain, listed⟩
    rw [same, List.splitOn_intercalate ',' plain (List.ne_nil_of_mem listed)]
    exact listed

theorem Spells.isAlpha
    {chars : List Char} {word : String} (spelled : Spells chars word)
    (letters : ∀ letter ∈ word.toList, letter.isAlpha ∧
      letter.toUpper.isAlpha) :
    ∀ char ∈ chars, char.isAlpha := by
  intro char there
  unfold Spells at spelled
  generalize word.toList = expected at spelled letters
  induction spelled with
  | nil => cases there
  | cons own rest ih =>
      have ⟨first, later⟩ := List.forall_mem_cons.mp letters
      cases there with
      | head =>
          cases own with
          | inl same => exact same ▸ first.1
          | inr upper => exact upper ▸ first.2
      | tail _ there => exact ih there later

theorem toNat_of_isAlpha {char : Char} (letter : char.isAlpha) :
    65 ≤ char.toNat ∧ char.toNat ≤ 122 := by
  change (decide ('A'.val ≤ char.val ∧ char.val ≤ 'Z'.val) ||
    decide ('a'.val ≤ char.val) && decide (char.val ≤ 'z'.val)) = true at letter
  simp only [Bool.or_eq_true, Bool.and_eq_true, decide_eq_true_eq,
    UInt32.le_iff_toNat_le, UInt32.reduceToNat, Char.reduceVal] at letter
  unfold Char.toNat
  omega

theorem sameLetters_iff {chars : List Char} {word : String}
    (lower : ∀ letter ∈ word.toList, letter.isLower ∨ letter.isDigit) :
    sameLetters chars word ↔ Spells chars word := by
  unfold sameLetters Spells
  rw [decide_eq_true_iff]
  exact Text.map_toLower_eq_iff lower

def isSpacing (char : Char) : Bool := char = ' ' || char = '\t'

theorem isSpacing_iff {char : Char} :
    isSpacing char ↔ char = ' ' ∨ char = '\t' := by
  simp [isSpacing]

theorem surrounds_trimBlanks (chars : List Char) :
    Surrounds chars (trimBlanks isSpacing chars) := by
  have trimmed :
      trimBlanks isSpacing chars =
        (chars.dropWhile isSpacing).rdropWhile isSpacing := rfl
  refine ⟨chars.takeWhile isSpacing,
    (chars.dropWhile isSpacing).rtakeWhile isSpacing, ?_, ?_⟩
  · rw [trimmed, List.append_assoc, List.rdropWhile_append_rtakeWhile,
      List.takeWhile_append_dropWhile]
  · intro char there
    cases List.mem_append.mp there with
    | inl front => exact isSpacing_iff.mp (List.mem_takeWhile_imp front)
    | inr back => exact isSpacing_iff.mp (List.mem_rtakeWhile_imp back)

theorem dropWhile_of_solid
    {front word back : List Char} (spacing : ∀ char ∈ front, isSpacing char)
    (some_char : word ≠ []) (solid : ∀ char ∈ word, isSpacing char = false) :
    (front ++ (word ++ back)).dropWhile isSpacing = word ++ back := by
  rw [List.dropWhile_append_of_pos spacing]
  obtain ⟨first, rest, rfl⟩ := List.exists_cons_of_ne_nil some_char
  exact List.dropWhile_cons_of_neg
    (Bool.eq_false_iff.mp (solid first List.mem_cons_self))

/-- A word without spaces and tabs is what is left when those around it are
taken away. -/
theorem trimBlanks_of_surrounds
    {chars word : List Char} (surrounded : Surrounds chars word)
    (some_char : word ≠ []) (solid : ∀ char ∈ word, isSpacing char = false) :
    trimBlanks isSpacing chars = word := by
  obtain ⟨before, after, rfl, spacing⟩ := surrounded
  have ⟨front, back⟩ := List.forall_mem_append.mp spacing
  have from_front :
      (before ++ word ++ after).dropWhile isSpacing = word ++ after := by
    rw [List.append_assoc]
    exact dropWhile_of_solid (fun char there =>
      isSpacing_iff.mpr (front char there)) some_char
        solid
  have from_back :
      (word ++ after).reverse.dropWhile isSpacing = word.reverse := by
    have turned : (after.reverse ++ (word.reverse ++ [])).dropWhile isSpacing =
        word.reverse ++ [] := dropWhile_of_solid
      (fun char there => isSpacing_iff.mpr
        (back char (List.mem_reverse.mp there)))
      (fun empty => some_char (List.reverse_eq_nil_iff.mp empty))
      (fun char there => solid char (List.mem_reverse.mp there))
    rw [List.append_nil] at turned
    rw [List.reverse_append, turned]
  rw [trimBlanks, from_front, from_back, List.reverse_reverse]

/-! ### The four places -/

theorem lower_upgrade :
    ∀ letter ∈ "upgrade".toList, letter.isLower ∨ letter.isDigit := by simp

theorem lower_websocket :
    ∀ letter ∈ "websocket".toList, letter.isLower ∨ letter.isDigit := by simp

theorem any_tokensOf_iff {value : Octets} :
    (tokensOf value).any (fun token => sameLetters token "upgrade") ↔
      AsksForUpgrade value := by
  have tokens {text : List Char} (read : valueText? value = some text) :
      tokensOf value = (splitCommas text).map (trimBlanks isSpacing) := by
    rw [tokensOf, read]
    rfl
  rw [List.any_eq_true]
  constructor
  · intro ⟨token, listed, same⟩
    cases read : valueText? value with
    | none =>
        rw [tokensOf, read] at listed
        cases listed
    | some text =>
        rw [tokens read] at listed
        obtain ⟨part, there, rfl⟩ := List.mem_map.mp listed
        exact ⟨text, part, _, valueText?_eq_some_iff.mp read,
          mem_splitCommas_iff.mp there,
          surrounds_trimBlanks part, (sameLetters_iff lower_upgrade).mp same⟩
  · intro ⟨text, part, word, form, there, surrounded, spelled⟩
    have letters := spelled.isAlpha (by simp)
    have solid : ∀ char ∈ word, isSpacing char = false := by
      intro char listed
      have code := toNat_of_isAlpha (letters char listed)
      rw [Bool.eq_false_iff]
      intro spacing
      cases isSpacing_iff.mp spacing with
      | inl space => exact absurd (space ▸ code) (by decide)
      | inr tab => exact absurd (tab ▸ code) (by decide)
    have some_char : word ≠ [] := by
      intro empty
      have length := spelled.length_eq
      rw [empty] at length
      cases length
    rw [tokens (valueText?_eq_some_iff.mpr form)]
    refine ⟨word, List.mem_map.mpr ⟨part, mem_splitCommas_iff.mpr there, ?_⟩,
      ?_⟩
    · exact trimBlanks_of_surrounds surrounded some_char solid
    · exact (sameLetters_iff lower_upgrade).mpr spelled

theorem connectionUpgrades_iff {fields : List Field} :
    connectionUpgrades fields ↔
      ∃ field ∈ fields, field.isNamed "connection" ∧
        AsksForUpgrade field.value := by
  rw [connectionUpgrades, List.any_eq_true]
  constructor
  · intro ⟨value, listed, asks⟩
    obtain ⟨field, there, rfl⟩ := List.mem_map.mp listed
    have ⟨given, named⟩ := List.mem_filter.mp there
    exact ⟨field, given, named, any_tokensOf_iff.mp asks⟩
  · intro ⟨field, given, named, asks⟩
    have listed := List.mem_map_of_mem (f := Field.value)
      (List.mem_filter.mpr ⟨given, named⟩)
    exact ⟨field.value, listed, any_tokensOf_iff.mpr asks⟩

theorem firstValue?_eq_some_iff
    {name : String} {fields : List Field} {value : Octets} :
    firstValue? name fields = some value ↔ IsFirst name fields value := by
  rw [firstValue?, Option.map_eq_some_iff]
  constructor
  · intro ⟨field, found, same⟩
    obtain ⟨named, before, after, cut, others⟩ :=
      List.find?_eq_some_iff_append.mp found
    refine ⟨before, field, after, cut, fun other there => ?_, named, same⟩
    exact Bool.not_eq_true' _ ▸ others other there
  · intro ⟨before, field, after, cut, others, named, same⟩
    refine ⟨field, List.find?_eq_some_iff_append.mpr
      ⟨named, before, after, cut, ?_⟩, same⟩
    exact fun other there => Bool.not_eq_true' _ ▸ others other there

theorem upgradesToWebSocket_iff {fields : List Field} :
    upgradesToWebSocket fields ↔ ∃ word, Spells word "websocket" ∧
      IsFirst "upgrade" fields (Text.utf8 (String.ofList word)) := by
  unfold upgradesToWebSocket
  constructor
  · intro asks
    split at asks
    · rename_i text read
      obtain ⟨value, first, value_read⟩ := Option.bind_eq_some_iff.mp read
      have form := valueText?_eq_some_iff.mp value_read
      refine ⟨text, (sameLetters_iff lower_websocket).mp asks, ?_⟩
      exact firstValue?_eq_some_iff.mp (form.2 ▸ first)
    · cases asks
  · intro ⟨word, spelled, first⟩
    have letters := spelled.isAlpha (by simp)
    have form : IsText (Text.utf8 (String.ofList word)) word := by
      refine ⟨fun char there => textChar_of_toNat (.inr ?_), rfl⟩
      have code := toNat_of_isAlpha (letters char there)
      omega
    rw [firstValue?_eq_some_iff.mpr first, Option.bind_some,
      valueText?_eq_some_iff.mpr form]
    exact (sameLetters_iff lower_websocket).mpr spelled

theorem asksForVersion13_iff {fields : List Field} :
    asksForVersion13 fields ↔
      IsFirst "sec-websocket-version" fields (Text.utf8 "13") := by
  rw [asksForVersion13, decide_eq_true_iff, firstValue?_eq_some_iff]

/-- A request is answered with the digested form of its key, exactly if it asks
for a session. -/
theorem answerKey?_eq_some_iff {fields : List Field} {answer : String} :
    answerKey? fields = some answer ↔ ∃ key, Asks fields key ∧
      answer = acceptValue key := by
  unfold answerKey?
  constructor
  · intro answered
    split at answered
    · rename_i asks
      simp only [Bool.and_eq_true] at asks
      obtain ⟨⟨connection, upgrade⟩, version⟩ := asks
      obtain ⟨key, first, same⟩ := Option.map_eq_some_iff.mp answered
      exact ⟨key, ⟨connectionUpgrades_iff.mp connection,
        upgradesToWebSocket_iff.mp upgrade,
        asksForVersion13_iff.mp version, firstValue?_eq_some_iff.mp first⟩,
        same.symm⟩
    · cases answered
  · intro ⟨key, asks, same⟩
    rw [connectionUpgrades_iff.mpr asks.connection,
      upgradesToWebSocket_iff.mpr asks.upgrade,
      asksForVersion13_iff.mpr asks.version,
      firstValue?_eq_some_iff.mpr asks.key, same]
    rfl

/-! ### Changes that make no difference -/

/-- The names of the fields that are looked up. -/
def sessionNames : List String :=
  ["connection", "upgrade", "sec-websocket-version", "sec-websocket-key"]

/-- A change at one place of the fields. -/
inductive Edit : List Field → List Field → Prop
  /-- Neighbours with different names change places. -/
  | swap
      (before after : List Field) (first second : Field)
      (different : lowerCase first.name ≠ lowerCase second.name) :
      Edit (before ++ first :: second :: after)
        (before ++ second :: first :: after)
  /-- A name is written in another case. -/
  | recase (before after : List Field) (field : Field) (name : String)
      (same : lowerCase name = lowerCase field.name) :
      Edit (before ++ field :: after) (before ++ { field with name } :: after)
  /-- A field comes in whose name is not looked up. -/
  | unrelated (before after : List Field) (field : Field)
      (other : lowerCase field.name ∉ sessionNames) :
      Edit (before ++ after) (before ++ field :: after)
  /-- A `Connection` field comes in whose value does not ask for an upgrade. -/
  | idle
      (before after : List Field) (field : Field)
      (named : field.isNamed "connection")
      (silent : ¬ AsksForUpgrade field.value) :
      Edit (before ++ after) (before ++ field :: after)

theorem firstValue?_eq_head? (name : String) (fields : List Field) :
    firstValue? name fields = (valuesOf name fields).head? := by
  rw [firstValue?, valuesOf, List.head?_map, List.head?_filter]

/-- Only the values of the four names matter, and of the first one only whether
some value asks for an upgrade. -/
theorem answerKey?_congr {fields changed : List Field}
    (connection : connectionUpgrades changed = connectionUpgrades fields)
    (others : ∀ name ∈ sessionNames, name ≠ "connection" →
      valuesOf name changed = valuesOf name fields) :
    answerKey? changed = answerKey? fields := by
  have first (name : String) (listed : name ∈ sessionNames)
      (other : name ≠ "connection") :
      firstValue? name changed = firstValue? name fields := by
    rw [firstValue?_eq_head?, firstValue?_eq_head?, others name listed other]
  unfold answerKey? upgradesToWebSocket asksForVersion13
  rw [connection, first "upgrade" (by decide) (by decide),
    first "sec-websocket-version" (by decide) (by decide),
    first "sec-websocket-key" (by decide) (by decide)]

theorem valuesOf_insert
    {name : String} {field : Field} (before after : List Field)
    (unnamed : field.isNamed name = false) :
    valuesOf name (before ++ field :: after) =
      valuesOf name (before ++ after) := by
  simp [valuesOf, unnamed]

theorem valuesOf_swap
    {name : String} (before after : List Field) {first second : Field}
    (different : lowerCase first.name ≠ lowerCase second.name) :
    valuesOf name (before ++ second :: first :: after) =
      valuesOf name (before ++ first :: second :: after) := by
  cases named : first.isNamed name with
  | false => simp [valuesOf, List.filter_cons, named]
  | true =>
      have first_name : lowerCase first.name = name :=
        decide_eq_true_iff.mp named
      have unnamed : second.isNamed name = false :=
        decide_eq_false fun second_name =>
          different (first_name.trans second_name.symm)
      simp [valuesOf, named, unnamed]

theorem valuesOf_recase
    {name other : String} (before after : List Field) {field : Field}
    (same : lowerCase other = lowerCase field.name) :
    valuesOf name (before ++ { field with name := other } :: after) =
      valuesOf name (before ++ field :: after) := by
  have named :
      Field.isNamed name { field with name := other } = field.isNamed name := by
    rw [Field.isNamed, Field.isNamed, same]
  cases there : field.isNamed name with
  | false => simp [valuesOf, there, named.trans there]
  | true => simp [valuesOf, there, named.trans there]

/-- A value that does not ask for an upgrade keeps no other one from asking. -/
theorem connectionUpgrades_insert
    (before after : List Field) {field : Field}
    (silent : ¬ AsksForUpgrade field.value) :
    connectionUpgrades (before ++ field :: after) =
      connectionUpgrades (before ++ after) := by
  rw [Bool.eq_iff_iff, connectionUpgrades_iff, connectionUpgrades_iff]
  constructor
  · intro ⟨other, given, named, asks⟩
    have elsewhere : other ≠ field := fun same => silent (same ▸ asks)
    refine ⟨other, ?_, named, asks⟩
    simpa [elsewhere] using given
  · intro ⟨other, given, named, asks⟩
    refine ⟨other, ?_, named, asks⟩
    cases List.mem_append.mp given with
    | inl front => exact List.mem_append_left _ front
    | inr back => exact List.mem_append_right _ (List.mem_cons_of_mem _ back)

theorem Edit.answerKey?_eq
    {fields changed : List Field} (edit : Edit fields changed) :
    answerKey? changed = answerKey? fields := by
  have by_values (same : ∀ name ∈ sessionNames,
    valuesOf name changed = valuesOf name fields) :
      answerKey? changed = answerKey? fields := by
    refine answerKey?_congr ?_ fun name listed _ => same name listed
    rw [connectionUpgrades, connectionUpgrades, same "connection" (by decide)]
  cases edit with
  | swap before after first second different =>
      exact by_values fun name _ => valuesOf_swap before after different
  | recase before after field name same =>
      exact by_values fun name _ => valuesOf_recase before after same
  | unrelated before after field other =>
      refine by_values fun name listed => valuesOf_insert before after ?_
      exact decide_eq_false fun named => other (named ▸ listed)
  | idle before after field named silent =>
      refine answerKey?_congr (connectionUpgrades_insert before after silent)
        fun name _ other => ?_
      refine valuesOf_insert before after (decide_eq_false fun same => other ?_)
      exact same.symm.trans (decide_eq_true_iff.mp named)

/-- A request for a session is answered with the base64 form of the digest of
its key and a fixed text, exactly if its fields ask for a session, and refused
as malformed otherwise.  The answer stays the same when the fields are edited,
any number of times and forth and back. -/
theorem session_answer :
    (∀ (fields : List Field) (answer : String),
      answerKey? fields = some answer ↔ ∃ key, Asks fields key ∧
        answer = Text.base64
          (Digest.sha1
            (key ++ Text.utf8 "258EAFA5-E914-47DA-95CA-C5AB0DC85B11"))) ∧
    (∀ (fields : List Field) (upgradable : Bool), (¬ ∃ key, Asks fields key) →
      answerKey? fields = none ∧ (decideWithSlot fields upgradable).response =
        .bare 400) ∧
    (∀ fields changed : List Field, Relation.EqvGen Edit fields changed →
      answerKey? changed = answerKey? fields) := by
  refine ⟨fun fields answer => answerKey?_eq_some_iff, ?_, ?_⟩
  · intro fields upgradable silent
    have unanswered : answerKey? fields = none := by
      refine Option.eq_none_iff_forall_ne_some.mpr fun answer answered => ?_
      obtain ⟨key, asks, _⟩ := answerKey?_eq_some_iff.mp answered
      exact silent ⟨key, asks⟩
    refine ⟨unanswered, ?_⟩
    rw [decideWithSlot, unanswered]
    rfl
  · intro fields changed edited
    induction edited with
    | rel fields changed edit => exact edit.answerKey?_eq
    | refl fields => rfl
    | symm fields changed edited ih => exact ih.symm
    | trans fields middle changed first second ih_first ih_second =>
        exact ih_second.trans ih_first

/-- A request for a session with a `Connection` value that is no text, a list of
words in another one, and two keys. -/
def crowdedRequest : List Field :=
  [⟨"Connection", [255]⟩, .ofText "upgrade" "WebSocket",
    .ofText "connection" "keep-alive,\tUpgrade ",
    .ofText "sec-websocket-version" "13",
    .ofText "sec-websocket-key" "dGhlIHNhbXBsZSBub25jZQ==",
    .ofText "Sec-WebSocket-Key" "another"]

/-- The same request without the value that is no text, and with one name in
another case. -/
def plainRequest : List Field :=
  [.ofText "UPGRADE" "WebSocket", .ofText "connection" "keep-alive,\tUpgrade ",
    .ofText "sec-websocket-version" "13",
    .ofText "sec-websocket-key" "dGhlIHNhbXBsZSBub25jZQ==",
    .ofText "Sec-WebSocket-Key" "another"]

theorem session_answer_of_crowdedRequest :
    (∃ key, Asks crowdedRequest key ∧
      "s3pPLMBiTxaQ9kYGzzhZRbK+xOo=" = Text.base64
      (Digest.sha1 (key ++ Text.utf8 "258EAFA5-E914-47DA-95CA-C5AB0DC85B11"))) ∧
    ((¬ ∃ key, Asks (crowdedRequest.take 4) key) ∧
      (decideWithSlot (crowdedRequest.take 4) true).response = .bare 400) ∧
    Relation.EqvGen Edit crowdedRequest plainRequest ∧
    answerKey? plainRequest = answerKey? crowdedRequest := by
  obtain ⟨answer_iff, refused, edited⟩ := session_answer
  have answered :
      answerKey? crowdedRequest = some "s3pPLMBiTxaQ9kYGzzhZRbK+xOo=" := by
    decide +kernel
  have unanswered : answerKey? (crowdedRequest.take 4) = none := by
    decide +kernel
  have silent : ¬ ∃ key, Asks (crowdedRequest.take 4) key := by
    intro ⟨key, asks⟩
    have other := (answer_iff (crowdedRequest.take 4) _).mpr ⟨key, asks, rfl⟩
    cases unanswered.symm.trans other
  have no_text : ¬ AsksForUpgrade [255] := by
    intro ⟨text, _, _, form, _⟩
    have unread : valueText? [255] = none := by decide
    cases unread.symm.trans (valueText?_eq_some_iff.mpr form)
  have without : Edit crowdedRequest.tail crowdedRequest :=
    Edit.idle [] crowdedRequest.tail ⟨"Connection", [255]⟩
      (by decide +kernel) no_text
  have same_name : lowerCase "UPGRADE" = lowerCase "upgrade" := by
    rw [lowerCase, lowerCase, ← String.toList_inj, String.toList_map,
      String.toList_map]
    decide
  have renamed : Edit crowdedRequest.tail plainRequest :=
    Edit.recase [] plainRequest.tail (.ofText "upgrade" "WebSocket")
      "UPGRADE" same_name
  have edits : Relation.EqvGen Edit crowdedRequest plainRequest :=
    .trans _ _ _ (.symm _ _ (.rel _ _ without)) (.rel _ _ renamed)
  exact ⟨(answer_iff _ _).mp answered, ⟨silent, (refused _ true silent).2⟩,
    edits, edited _ _ edits⟩

end BroadcastHub.Http
