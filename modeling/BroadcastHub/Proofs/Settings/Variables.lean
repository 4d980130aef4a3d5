import BroadcastHub.Proofs.Numeral.Decimal
import BroadcastHub.Proofs.Text.Letters
import BroadcastHub.Settings.Environment

/-!
# Usable variables

Which texts of the environment's variables count, said without the functions
that read them: any text that is not empty, ASCII digits with an optional plus
sign for a number in a range, and eight words in any case.  A variable with any
other text is as good as none.
-/

namespace BroadcastHub.Settings

/-- A text stands for a number: ASCII digits that may follow a plus sign. -/
def IsNumeral (text : String) (value : Nat) : Prop :=
  ∃ digits : List Char, (text.toList = digits ∨ text.toList = '+' :: digits) ∧
    digits ≠ [] ∧
    (∀ digit ∈ digits, digit.isDigit) ∧ Nat.ofDigitChars 10 digits 0 = value

def wordsFor : Bool → List String
  | true => ["true", "1", "yes", "on"]
  | false => ["false", "0", "no", "off"]

/-- A text is one of the words for a truth value, in any case. -/
def IsWord (text : String) (value : Bool) : Prop :=
  ∃ word ∈ wordsFor value,
    List.Forall₂ (fun char letter => char = letter ∨ char = letter.toUpper)
      text.toList word.toList

/-- What a variable's text has to be. -/
inductive Usage
  | text
  | number (least greatest : Nat)
  | word
deriving DecidableEq, Repr

/-- Whether a variable's text counts. -/
def Usage.Usable : Usage → String → Prop
  | text, written => written ≠ ""
  | number least greatest, written => ∃ value, IsNumeral written value ∧
      least ≤ value ∧ value ≤ greatest
  | word, written => ∃ value, IsWord written value

def usages : List (String × Usage) :=
  [("BLOP_HOST", .text), ("BLOP_PORT", .number 0 65535),
    ("BLOP_MAX_CONNECTIONS", .number 0 1000000),
    ("BLOP_HEARTBEAT_TIMEOUT_MS", .number 100 3600000),
    ("BLOP_PONG_WRITE_TIMEOUT_MS", .number 10 60000),
    ("BLOP_PONG_JITTER_MS", .number 0 10000),
    ("BLOP_BROADCAST_WRITE_TIMEOUT_MS", .number 10 60000),
    ("BLOP_LOG_LEVEL", .text), ("BLOP_LOG_JSON", .word)]

/-! ### Numbers -/

theorem ofText?_eq_some_iff {text : String} {value : Nat} :
    Numeral.ofText? text = some value ↔ IsNumeral text value := by
  unfold Numeral.ofText? IsNumeral
  split
  · rename_i digits signed
    rw [Numeral.ofDigits?_eq_some_iff, signed]
    constructor
    · exact fun numeral => ⟨digits, .inr rfl, numeral⟩
    · intro ⟨written, form, numeral⟩
      cases form with
      | inl same =>
          -- a plus sign is no digit
          have sign : '+'.isDigit = true :=
            numeral.2.1 '+' (same ▸ List.mem_cons_self)
          exact absurd sign (by decide)
      | inr same =>
          cases same
          exact numeral
  · rename_i digits unsigned
    rw [Numeral.ofDigits?_eq_some_iff]
    constructor
    · exact fun numeral => ⟨text.toList, .inl rfl, numeral⟩
    · intro ⟨written, form, numeral⟩
      cases form with
      | inl same =>
          rw [same]
          exact numeral
      | inr same => exact False.elim (unsigned written same)

theorem readNumber?_eq_some_iff
    {bounds : Bounds} {text : String} {value : Nat} :
    readNumber? bounds text = some value ↔
      IsNumeral text value ∧ value < Numeral.twoTo 64 ∧ bounds.least ≤ value ∧
        value ≤ bounds.greatest := by
  rw [readNumber?, Option.filter_eq_some_iff, ofText?_eq_some_iff]
  simp only [Bounds.contain, Bool.and_eq_true, decide_eq_true_eq]

theorem toNat_ofNat {value : Nat} (fits : value < Numeral.twoTo 64) :
    (UInt64.ofNat value).toNat = value :=
  UInt64.toNat_ofNat_of_lt' (by simpa using fits)

/-! ### Words -/

theorem isLower_or_isDigit_of_word
    {value : Bool} {word : String} (listed : word ∈ wordsFor value) :
    ∀ letter ∈ word.toList, letter.isLower ∨ letter.isDigit := by
  have all : ∀ word ∈ wordsFor value,
      word.toList.all fun letter => letter.isLower || letter.isDigit := by
    cases value with
    | true => decide
    | false => decide
  intro letter member
  simpa using List.all_eq_true.mp (all word listed) letter member

theorem isWord_iff {text : String} {value : Bool} :
    IsWord text value ↔ text.map Char.toLower ∈ wordsFor value := by
  constructor
  · intro ⟨word, listed, form⟩
    have same :=
      (Text.map_toLower_eq_iff (isLower_or_isDigit_of_word listed)).mpr form
    have word_same : text.map Char.toLower = word := by
      rw [← String.toList_inj, String.toList_map]
      exact same
    exact word_same ▸ listed
  · intro listed
    refine ⟨text.map Char.toLower, listed, ?_⟩
    rw [← Text.map_toLower_eq_iff (isLower_or_isDigit_of_word listed),
      String.toList_map]

theorem not_word_for_both {word : String} (listed : word ∈ wordsFor false) :
    word ∉ wordsFor true := by
  revert word
  decide

theorem readWord?_eq_some_iff {text : String} {value : Bool} :
    readWord? text = some value ↔ IsWord text value := by
  rw [isWord_iff]
  have contains_iff (value : Bool) (word : String) :
      (wordsFor value).contains word = true ↔ word ∈ wordsFor value :=
    List.contains_iff_mem
  simp only [readWord?]
  split
  · rename_i agreeing
    have listed := (contains_iff true _).mp agreeing
    cases value with
    | true => exact iff_of_true rfl listed
    | false =>
        exact iff_of_false (by simp) fun other => not_word_for_both other listed
  · rename_i not_agreeing
    have unlisted :=
      fun listed => not_agreeing ((contains_iff true _).mpr listed)
    split
    · rename_i denying
      have listed := (contains_iff false _).mp denying
      cases value with
      | true => exact iff_of_false (by simp) unlisted
      | false => exact iff_of_true rfl listed
    · rename_i not_denying
      refine iff_of_false (by simp) ?_
      cases value with
      | true => exact unlisted
      | false =>
          exact fun listed => not_denying ((contains_iff false _).mpr listed)

/-! ### Variables that are set -/

namespace Environment

variable {environment : Environment} {name : String}

def GivesText (environment : Environment) (name text : String) : Prop :=
  environment name = some text ∧ text ≠ ""

def GivesNumber
    (environment : Environment) (name : String) (least greatest value : Nat) :
    Prop :=
  ∃ text, environment name = some text ∧ IsNumeral text value ∧ least ≤ value ∧
    value ≤ greatest

def GivesWord
    (environment : Environment) (name : String) (value : Bool) : Prop :=
  ∃ text, environment name = some text ∧ IsWord text value

theorem text?_eq_some_iff {text : String} :
    environment.text? name = some text ↔ environment.GivesText name text := by
  simp [text?, GivesText, Option.filter_eq_some_iff]

/-- With a range of numbers that 64 bits hold, the range is all that a number
has to keep to. -/
theorem number?_eq_some_iff
    {bounds : Bounds} (small : bounds.greatest < Numeral.twoTo 64)
    {value : Nat} :
    (environment.number? name bounds).map UInt64.toNat = some value ↔
      environment.GivesNumber name bounds.least bounds.greatest value := by
  simp only [number?, Option.map_eq_some_iff, Option.bind_eq_some_iff,
    readNumber?_eq_some_iff, GivesNumber]
  constructor
  · intro ⟨word, ⟨number, ⟨text, set, numeral, fits, within⟩, converted⟩, read⟩
    have same : number = value := by rw [← read, ← converted, toNat_ofNat fits]
    exact ⟨text, set, same ▸ numeral, same ▸ within⟩
  · intro ⟨text, set, numeral, within⟩
    have fits : value < Numeral.twoTo 64 := Nat.lt_of_le_of_lt within.2 small
    exact ⟨.ofNat value, ⟨value, ⟨text, set, numeral, fits, within⟩, rfl⟩,
      toNat_ofNat fits⟩

theorem word?_eq_some_iff {value : Bool} :
    environment.word? name = some value ↔ environment.GivesWord name value := by
  simp [word?, GivesWord, Option.bind_eq_some_iff, readWord?_eq_some_iff]

/-! ### Variables that are not usable -/

/-- The environment with one variable less. -/
def without (environment : Environment) (name : String) : Environment :=
  fun other => if other = name then none else environment other

/-- A variable's text is of no use. -/
def Unusable (environment : Environment) (name : String) : Prop :=
  ∀ usage, (name, usage) ∈ usages → ∀ text, environment name = some text →
    ¬ usage.Usable text

theorem text?_without (unusable : environment.Unusable name) {other : String}
    (listed : (other, Usage.text) ∈ usages) :
    (environment.without name).text? other = environment.text? other := by
  by_cases same : other = name
  · subst same
    have none_read : environment.text? other = none := by
      rw [Option.eq_none_iff_forall_not_mem]
      intro text read
      have ⟨set, filled⟩ := text?_eq_some_iff.mp read
      exact unusable .text listed text set filled
    rw [none_read]
    simp [text?, without]
  · simp [text?, without, same]

theorem number?_without
    (unusable : environment.Unusable name) {other : String} {bounds : Bounds}
    (listed : (other, Usage.number bounds.least bounds.greatest) ∈ usages) :
    (environment.without name).number? other bounds =
      environment.number? other bounds := by
  by_cases same : other = name
  · subst same
    have none_read : (environment other).bind (readNumber? bounds) = none := by
      rw [Option.bind_eq_none_iff]
      intro text set
      rw [Option.eq_none_iff_forall_not_mem]
      intro value read
      have ⟨numeral, _, within⟩ := readNumber?_eq_some_iff.mp read
      exact unusable _ listed text set ⟨value, numeral, within⟩
    simp [number?, none_read, without]
  · simp [number?, without, same]

theorem word?_without (unusable : environment.Unusable name) {other : String}
    (listed : (other, Usage.word) ∈ usages) :
    (environment.without name).word? other = environment.word? other := by
  by_cases same : other = name
  · subst same
    have none_read : environment.word? other = none := by
      rw [Option.eq_none_iff_forall_not_mem]
      intro value read
      obtain ⟨text, set, form⟩ := word?_eq_some_iff.mp read
      exact unusable .word listed text set ⟨value, form⟩
    rw [none_read]
    simp [word?, without]
  · simp [word?, without, same]

/-- A variable that is not usable changes nothing. -/
theorem override_without
    (unusable : environment.Unusable name) (settings : Settings) :
    (environment.without name).override settings =
      environment.override settings := by
  have host := text?_without unusable (show ("BLOP_HOST", _) ∈ usages by decide)
  have level :=
    text?_without unusable (show ("BLOP_LOG_LEVEL", _) ∈ usages by decide)
  have json :=
    word?_without unusable (show ("BLOP_LOG_JSON", _) ∈ usages by decide)
  have number {other : String} (bounds : Bounds)
      (listed : (other, Usage.number bounds.least bounds.greatest) ∈ usages) :=
    number?_without unusable listed
  have port := number ⟨0, 65535⟩ (show ("BLOP_PORT", _) ∈ usages by decide)
  have connections :=
    number ⟨0, 1000000⟩ (show ("BLOP_MAX_CONNECTIONS", _) ∈ usages by decide)
  have heartbeat := number .heartbeatTimeout
    (show ("BLOP_HEARTBEAT_TIMEOUT_MS", _) ∈ usages by decide)
  have pong := number .pongWriteTimeout
    (show ("BLOP_PONG_WRITE_TIMEOUT_MS", _) ∈ usages by decide)
  have jitter :=
    number .pongJitter (show ("BLOP_PONG_JITTER_MS", _) ∈ usages by decide)
  have write := number .writeTimeout
    (show ("BLOP_BROADCAST_WRITE_TIMEOUT_MS", _) ∈ usages by decide)
  simp only [override, overServer, overLiveness, overBroadcast, overLogging,
    host, level, json, port, connections, heartbeat, pong, jitter, write]

theorem override_override (environment : Environment) (settings : Settings) :
    environment.override (environment.override settings) =
      environment.override settings := by
  have again {α : Type} (set : Option α) (value : α) :
      set.getD (set.getD value) = set.getD value := by
    cases set <;> rfl
  simp only [override, overServer, overLiveness, overBroadcast,
    overLogging, again]

end Environment

end BroadcastHub.Settings
