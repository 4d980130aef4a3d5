import BroadcastHub.Json.Printer
import BroadcastHub.Proofs.Json.Objects
import BroadcastHub.Proofs.Numeral.Decimal

/-!
# Reading back what was written

A value without floating-point numbers is read back from its text, if its
integers fit into 64 bits and it is not too deep; only the members of its
objects come back in ascending order of their keys. `Reads` says how a reader
gets from one place of a text to a later one.  A value's text takes it from
where a value may start to where the value has ended, whatever stands around.
-/

namespace BroadcastHub.Json

open Numeral

/-- A value that its text determines: no number in it is a floating-point one,
its integers fit into 64 bits, and at most `depth` containers are inside each
other. -/
inductive Value.Exact : (depth : Nat) → Value → Prop
  | null {depth : Nat} : Exact depth .null
  | bool {depth : Nat} (value : Bool) : Exact depth (.bool value)
  | integer {depth : Nat} {value : Int} (least : -(twoTo 63 : Int) ≤ value)
      (greatest : value < twoTo 64) : Exact depth (.ofInt value)
  | string {depth : Nat} (value : String) : Exact depth (.string value)
  | array
      {depth : Nat} {elements : List Value}
      (each : ∀ element ∈ elements, element.Exact depth) :
      Exact (depth + 1) (.array elements)
  | object
      {depth : Nat} {members : List (String × Value)}
      (each : ∀ member ∈ members, member.2.Exact depth) :
      Exact (depth + 1) (.object members)

/-! ### Members in ascending order -/

mutual

/-- The value with the members of each object in ascending order of their keys;
of several with one key the last stays. -/
def Value.sorted : Value → Value
  | .null => .null
  | .bool value => .bool value
  | .number value => .number value
  | .string value => .string value
  | .array elements => .array (sortedElements elements)
  | .object members => .ofMembers (sortedMembers members)

def sortedElements : List Value → List Value
  | [] => []
  | value :: rest => value.sorted :: sortedElements rest

/-- An object's members in the same order, each value sorted. -/
def sortedMembers : List (String × Value) → List (String × Value)
  | [] => []
  | (key, value) :: rest => (key, value.sorted) :: sortedMembers rest

end

theorem Members.insert_of_greater
    {key : String} {value : Value} {members : Members}
    (greater : ∀ member ∈ members, member.1 < key) :
    insert key value members = members ++ [(key, value)] := by
  induction members with
  | nil => rfl
  | cons first rest ih =>
      obtain ⟨name, old⟩ := first
      have ⟨less, later⟩ := List.forall_mem_cons.mp greater
      have different : name ≠ key := ne_of_lt less
      rw [insert, if_neg different, if_neg (not_lt_of_gt less), ih later]
      rfl

/-- Members with ascending keys are those of their object, in their order. -/
theorem Members.Ascending.ofList_eq
    {members : Members} (ascending : members.Ascending) :
    ofList members = members := by
  suffices each : ∀ front rest : Members, Ascending (front ++ rest) →
      rest.foldl (fun sorted member => Members.insert member.1 member.2 sorted)
        front =
        front ++ rest from
    each [] members ascending
  intro front rest
  induction rest generalizing front with
  | nil => simp
  | cons member rest ih =>
      intro ascending
      have ⟨_, _, apart⟩ := List.pairwise_append.mp ascending
      have greater : ∀ other ∈ front, other.1 < member.1 :=
        fun other there => apart other there member List.mem_cons_self
      have onward := ih (front ++ [member]) (by simpa using ascending)
      rw [List.foldl_cons, insert_of_greater greater, onward, List.append_assoc,
        List.singleton_append]

theorem sortedElements_eq {elements : List Value}
    (each : ∀ element ∈ elements, element.sorted = element) :
    sortedElements elements = elements := by
  induction elements with
  | nil => rfl
  | cons element rest ih =>
      have ⟨first, later⟩ := List.forall_mem_cons.mp each
      rw [sortedElements, first, ih later]

theorem sortedMembers_eq {members : List (String × Value)}
    (each : ∀ member ∈ members, member.2.sorted = member.2) :
    sortedMembers members = members := by
  induction members with
  | nil => rfl
  | cons member rest ih =>
      have ⟨first, later⟩ := List.forall_mem_cons.mp each
      rw [sortedMembers, first, ih later]

theorem Value.Orderly.sorted_eq {value : Value} (orderly : value.Orderly) :
    value.sorted = value := by
  induction orderly with
  | array each ih => rw [Value.sorted, sortedElements_eq ih]
  | object ascending each ih =>
      rw [Value.sorted, sortedMembers_eq ih, Value.ofMembers,
        ascending.ofList_eq]
  | _ => rw [Value.sorted]

namespace Token

/-! ### Strings -/

theorem hexUnit?_hexDigit :
    ∀ code < 0x20, hexUnit? '0' '0' (hexDigit (code / 16)) (hexDigit code) =
      some code := by
  decide

theorem stringTail_backslash {read text rest : List Char} {char : Char}
    (escaped : escape text = .complete char rest) :
    stringTail read ('\\' :: text) = stringTail (char :: read) rest := by
  rw [stringTail, if_neg (by decide), if_pos rfl]
  split
  · rename_i cut
    cases escaped.symm.trans cut
  · rename_i broken
    cases escaped.symm.trans broken
  · rename_i other after complete
    cases escaped.symm.trans complete
    rfl

theorem escape_named
    {name char : Char} (rest : List Char) (other : name ≠ 'u')
    (plain : plainEscape? name = some char) :
    escape (name :: rest) = .complete char rest := by
  rw [escape, if_neg other, plain]

theorem escape_code
    {char : Char} (rest : List Char) (control : char.toNat < 0x20) :
    escape ('u' :: '0' :: '0' :: hexDigit (char.toNat / 16) ::
      hexDigit char.toNat :: rest) =
      .complete char rest := by
  have code :
      escapedUnit ('0' :: '0' :: hexDigit (char.toNat / 16) ::
        hexDigit char.toNat :: rest) =
        .complete (Char.ofNat char.toNat) rest := by
    rw [escapedUnit, unit, hexUnit?_hexDigit _ control]
    simp only
    rw [if_neg (by omega), if_pos (.inl (by omega))]
  rw [escape, if_pos rfl, code, Char.ofNat_toNat]

/-- What is written for a character: a short escape, its code, or the character
itself. -/
theorem escaped_eq (char : Char) :
    (∃ name, name ≠ 'u' ∧ plainEscape? name = some char ∧
      escaped char = ['\\', name]) ∨
    (char.toNat < 0x20 ∧ escaped char =
      ['\\', 'u', '0', '0', hexDigit (char.toNat / 16), hexDigit char.toNat]) ∨
    (char ≠ '"' ∧ char ≠ '\\' ∧ ¬ char.toNat < 0x20 ∧
      escaped char = [char]) := by
  by_cases quote : char = '"'
  · exact .inl ⟨'"', by decide, quote.symm ▸ rfl, quote.symm ▸ rfl⟩
  by_cases backslash : char = '\\'
  · exact .inl ⟨'\\', by decide, backslash.symm ▸ rfl, backslash.symm ▸ rfl⟩
  by_cases backspace : char = '\x08'
  · exact .inl ⟨'b', by decide, backspace.symm ▸ rfl, backspace.symm ▸ rfl⟩
  by_cases feed : char = '\x0c'
  · exact .inl ⟨'f', by decide, feed.symm ▸ rfl, feed.symm ▸ rfl⟩
  by_cases line : char = '\n'
  · exact .inl ⟨'n', by decide, line.symm ▸ rfl, line.symm ▸ rfl⟩
  by_cases back : char = '\r'
  · exact .inl ⟨'r', by decide, back.symm ▸ rfl, back.symm ▸ rfl⟩
  by_cases tab : char = '\t'
  · exact .inl ⟨'t', by decide, tab.symm ▸ rfl, tab.symm ▸ rfl⟩
  rw [escaped, if_neg quote, if_neg backslash, if_neg backspace, if_neg feed,
    if_neg line, if_neg back, if_neg tab]
  by_cases control : char.toNat < 0x20
  · exact .inr (.inl ⟨control, if_pos control⟩)
  · exact .inr (.inr ⟨quote, backslash, control, if_neg control⟩)

theorem stringTail_escaped (read : List Char) (char : Char) (rest : List Char) :
    stringTail read (escaped char ++ rest) =
      stringTail (char :: read) rest := by
  rcases escaped_eq char with
    ⟨name, other, plain, written⟩ | ⟨control, written⟩ |
    ⟨quote, backslash, control, written⟩
  · rw [written]
    exact stringTail_backslash (escape_named rest other plain)
  · rw [written]
    exact stringTail_backslash (escape_code rest control)
  · rw [written, List.singleton_append, stringTail, if_neg quote,
      if_neg backslash, if_neg control]

theorem stringTail_quoted (read chars rest : List Char) :
    stringTail read (chars.flatMap escaped ++ '"' :: rest) =
      .complete (String.ofList (read.reverse ++ chars)) rest := by
  induction chars generalizing read with
  | nil =>
      rw [List.flatMap_nil, List.nil_append, stringTail, if_pos rfl,
        List.append_nil]
  | cons char chars ih =>
      rw [List.flatMap_cons, List.append_assoc, stringTail_escaped, ih,
        List.reverse_cons, List.append_assoc, List.singleton_append]

theorem toList_quoted (text : String) :
    (quoted text).toList = '"' :: (text.toList.flatMap escaped ++ ['"']) := by
  simp [quoted]

theorem next_quoted (text : String) (rest : List Char) :
    next ((quoted text).toList ++ rest) =
      some (scalar (.string text), rest) := by
  have read := stringTail_quoted [] text.toList rest
  rw [List.reverse_nil, List.nil_append, String.ofList_toList] at read
  rw [toList_quoted, List.cons_append, List.append_assoc, List.singleton_append,
    next, if_neg (by decide), starting, read]
  rfl

/-! ### Numbers -/

/-- What may stand behind a value inside a container. -/
def Closes (rest : List Char) : Prop :=
  ∀ char, rest.head? = some char → char = ',' ∨ char = ']' ∨ char = '}'

theorem le_ofDigitChars (digits : List Char) (value : Nat) :
    value ≤ Nat.ofDigitChars 10 digits value := by
  rw [Nat.ofDigitChars_eq_ofDigitChars_zero]
  exact Nat.le_trans (Nat.le_mul_of_pos_left value (Nat.pow_pos (by decide)))
    (Nat.le_add_right _ _)

theorem takeFitting_of_lt {value : Nat} {digits : List Char}
    (fits : Nat.ofDigitChars 10 digits value < twoTo 64) :
    takeFitting value digits = (Nat.ofDigitChars 10 digits value, []) := by
  induction digits generalizing value with
  | nil => rfl
  | cons digit digits ih =>
      have longer : 10 * value + (digit.toNat - '0'.toNat) =
          value * 10 + (digit.toNat - 48) := by
        rw [Nat.mul_comm]
        rfl
      rw [Nat.ofDigitChars_cons, longer] at fits ⊢
      rw [takeFitting]
      rw [if_pos (Nat.lt_of_le_of_lt (le_ofDigitChars digits _) fits), ih fits]

theorem splitDigits_append
    {digits rest : List Char} (all_digits : ∀ char ∈ digits, char.isDigit)
    (closes : Closes rest) : splitDigits (digits ++ rest) = (digits, rest) := by
  have stop : rest.takeWhile Char.isDigit = [] ∧
      rest.dropWhile Char.isDigit = rest := by
    cases rest with
    | nil => exact ⟨rfl, rfl⟩
    | cons char rest =>
        have other : char.isDigit = false := by
          rcases closes char rfl with rfl | rfl | rfl <;> rfl
        exact ⟨List.takeWhile_cons_of_neg (Bool.eq_false_iff.mp other),
          List.dropWhile_cons_of_neg (Bool.eq_false_iff.mp other)⟩
  rw [splitDigits, List.takeWhile_append_of_pos all_digits,
    List.dropWhile_append_of_pos all_digits, stop.1, stop.2, List.append_nil]

/-- The digits of a number of 64 bits are read as that number. -/
theorem unsignedNumber_toDigits
    (negative : Bool) {number : Nat} {rest : List Char}
    (fits : number < twoTo 64) (closes : Closes rest) :
    unsignedNumber negative (Nat.toDigits 10 number ++ rest) =
      .complete (wholeNumber negative number) rest := by
  have value : Nat.ofDigitChars 10 (Nat.toDigits 10 number) 0 = number :=
    Nat.ofDigitChars_ten_toDigits
  have taken : takeFitting 0 (Nat.toDigits 10 number) = (number, []) := by
    rw [takeFitting_of_lt (value.symm ▸ fits), value]
  unfold unsignedNumber
  rw [splitDigits_append isDigit_of_mem_toDigits closes]
  split
  · rename_i none
    exact False.elim (Nat.toDigits_ne_nil (congrArg Prod.fst none))
  · rename_i none
    exact False.elim (Nat.toDigits_ne_nil (congrArg Prod.fst none))
  · rename_i second more after padded
    have digits : Nat.toDigits 10 number = '0' :: second :: more :=
      congrArg Prod.fst padded
    have zero : number = 0 :=
      Nat.eq_zero_of_not_pos fun positive => head?_toDigits_ne_zero positive
        (digits ▸ rfl)
    rw [zero] at digits
    cases digits
  · rename_i written after _ _ _ same
    cases same
    rw [taken]
    cases rest with
    | nil => rfl
    | cons char rest => rcases closes char rfl with rfl | rfl | rfl <;> rfl

theorem starting_of_isDigit
    {char : Char} (digit : char.isDigit) (rest : List Char) :
    starting char rest =
      ofLexeme .other .number (unsignedNumber false (char :: rest)) := by
  unfold starting
  split
  case h_12 => exact if_pos digit
  all_goals cases digit

theorem next_of_not_isBlank
    {char : Char} (other : isBlank char = false) (rest : List Char) :
    next (char :: rest) = some (starting char rest) := by
  rw [next, if_neg (Bool.eq_false_iff.mp other)]

theorem isBlank_of_isDigit {char : Char} (digit : char.isDigit) :
    isBlank char = false := by
  refine Bool.eq_false_iff.mpr fun blank => ?_
  simp only [isBlank, Bool.or_eq_true, decide_eq_true_eq] at blank
  rcases blank with ((rfl | rfl) | rfl) | rfl <;> cases digit

/-- The text of a number of 64 bits is read as that number. -/
theorem next_integer
    {value : Int} {rest : List Char} (least : -(twoTo 63 : Int) ≤ value)
    (greatest : value < twoTo 64) (closes : Closes rest) :
    next ((Value.ofInt value).text.toList ++ rest) =
      some (scalar (.ofInt value), rest) := by
  rw [Value.ofInt, Value.text, Number.text]
  split
  · rename_i negative
    have positive : 0 < value.natAbs :=
      Int.natAbs_pos.mpr (Int.ne_of_lt negative)
    have bounded : value.natAbs ≤ twoTo 63 := by omega
    have small : value.natAbs < twoTo 64 :=
      Nat.lt_of_le_of_lt bounded (by decide)
    have whole : wholeNumber true value.natAbs = .integer value := by
      rw [wholeNumber, if_pos rfl, if_pos ⟨positive, bounded⟩,
        Int.ofNat_natAbs_of_nonpos (by omega), Int.neg_neg]
    rw [String.toList_append, Nat.toList_repr, List.append_assoc]
    show next ('-' :: (Nat.toDigits 10 value.natAbs ++ rest)) = _
    rw [next_of_not_isBlank rfl, starting,
      unsignedNumber_toDigits true small closes, whole]
    rfl
  · rename_i positive
    have same : (value.natAbs : Int) = value :=
      Int.natAbs_of_nonneg (Int.not_lt.mp positive)
    have small : value.natAbs < twoTo 64 :=
      Int.ofNat_lt.mp (same.symm ▸ greatest)
    have whole : wholeNumber false value.natAbs = .integer value := by
      rw [wholeNumber, if_neg (by decide), same]
    rw [Nat.toList_repr]
    have read := unsignedNumber_toDigits false small closes
    cases digits : Nat.toDigits 10 value.natAbs with
    | nil => exact False.elim (Nat.toDigits_ne_nil digits)
    | cons char more =>
        have digit : char.isDigit :=
          isDigit_of_mem_toDigits char (digits ▸ List.mem_cons_self)
        rw [digits, List.cons_append, whole] at read
        rw [List.cons_append, next_of_not_isBlank (isBlank_of_isDigit digit),
          starting_of_isDigit digit, read]
        rfl

end Token

/-! ### From one place of a text to a later one -/

open Expectation

/-- From the first expectation and text a reader gets to the second ones. -/
inductive Reads : Expectation → List Char → Expectation → List Char → Prop
  | refl (expectation : Expectation) (text : List Char) :
      Reads expectation text expectation text
  | token
      {start middle finish : Expectation} {char : Char}
      {written rest last : List Char} {token : Token}
      (taken : Token.next (char :: (written ++ rest)) = some (token, rest))
      (stepped : start.step token = .ok middle)
      (later : Reads middle rest finish last) :
      Reads start (char :: (written ++ rest)) finish last

namespace Reads

variable {start middle finish : Expectation} {text rest last : List Char}

theorem trans
    (first : Reads start text middle rest)
    (second : Reads middle rest finish last) :
    Reads start text finish last := by
  induction first with
  | refl => exact second
  | token taken stepped _ ih => exact token taken stepped (ih second)

theorem mark
    {char : Char} {token : Token}
    (taken : Token.next (char :: rest) = some (token, rest))
    (stepped : start.step token = .ok finish) :
    Reads start (char :: rest) finish rest :=
  @Reads.token start finish finish char [] rest rest token taken stepped
    (refl finish rest)

/-- The reader goes on from the later place, and has tokens left for what
follows there. -/
theorem readTokens_eq
    (reads : Reads start text finish rest) {count : Nat}
    (enough : text.length < count) :
    ∃ left, rest.length < left ∧
      readTokens count start text = readTokens left finish rest := by
  induction reads generalizing count with
  | refl => exact ⟨count, enough, rfl⟩
  | @token start middle finish char written rest last token taken stepped
    later ih =>
      cases count with
      | zero => cases enough
      | succ count =>
          have shorter : rest.length < count := by
            simp only [List.length_cons, List.length_append] at enough
            omega
          obtain ⟨left, room, same⟩ := ih shorter
          refine ⟨left, room, ?_⟩
          rw [readTokens, taken]
          simp only [stepped]
          exact same

end Reads

/-! ### Values -/

namespace Token

theorem closes_comma (rest : List Char) : Closes (',' :: rest) :=
  fun _ same => .inl (Option.some.inj same).symm

theorem closes_bracket (rest : List Char) : Closes (']' :: rest) :=
  fun _ same => .inr (.inl (Option.some.inj same).symm)

theorem closes_brace (rest : List Char) : Closes ('\x7d' :: rest) :=
  fun _ same => .inr (.inr (Option.some.inj same).symm)

theorem closes_nil : Closes [] := fun _ same => nomatch same

end Token

/-- A value may start where the reader is, inside the given containers. -/
def Expectation.Open (start : Expectation) (around : List Container) : Prop :=
  ∀ token, token ≠ Token.closeArray → start.step token = startValue around token

theorem Expectation.open_value (around : List Container) :
    (value around).Open around :=
  fun _ _ => rfl

theorem Expectation.open_elementOrEnd (around : List Container) :
    (elementOrEnd around).Open (.array [] :: around) := by
  intro token other
  cases token <;> first | rfl | exact False.elim (other rfl)

/-- A reader takes the text of a value as the value, sorted, wherever a value
may start and at most `depth` more containers may be opened. -/
structure Value.ReadBack (depth : Nat) (value : Value) : Prop where
  reads : ∀ {start : Expectation} {around : List Container} {rest : List Char},
    start.Open around → around.length + depth < depthLimit → Token.Closes rest →
      Reads start (value.text.toList ++ rest) (after value.sorted around) rest

theorem scalar_readBack
    {depth : Nat} {value : Value} (some_text : value.text.toList ≠ [])
    (same : value.sorted = value)
    (taken : ∀ {rest}, Token.Closes rest →
      Token.next (value.text.toList ++ rest) = some (.scalar value, rest)) :
    value.ReadBack depth := by
  refine ⟨fun {start around rest} opens _ closes => ?_⟩
  have read := taken closes
  obtain ⟨char, written, text⟩ := List.exists_cons_of_ne_nil some_text
  rw [text, List.cons_append] at read ⊢
  refine .token read ?_ (.refl _ _)
  rw [opens (.scalar value) (by simp), same]
  rfl

/-! ### Containers -/

/-- Texts behind commas: the elements or members after the first one. -/
def behindCommas (texts : List String) : List Char :=
  texts.flatMap fun text => ',' :: text.toList

theorem toList_intercalate (first : String) (more : List String) :
    (",".intercalate (first :: more)).toList =
      first.toList ++ behindCommas more := by
  rw [String.toList_intercalate, List.map_cons]
  induction more generalizing first with
  | nil => simp [behindCommas]
  | cons second more ih =>
      rw [List.map_cons, List.intercalate_cons_cons, ih, behindCommas,
        behindCommas, List.flatMap_cons]
      simp

theorem toList_text_array (first : Value) (more : List Value) :
    (Value.array (first :: more)).text.toList =
      '[' :: (first.text.toList ++ behindCommas (elementTexts more) ++
        [']']) := by
  have left : "[".toList = ['['] := rfl
  have right : "]".toList = [']'] := rfl
  rw [Value.text, elementTexts, String.toList_append, String.toList_append,
    toList_intercalate, left, right, List.singleton_append, List.cons_append]

theorem toList_text_object
    (key : String) (value : Value) (more : List (String × Value)) :
    (Value.object ((key, value) :: more)).text.toList =
      '\x7b' :: ((quoted key ++ ":" ++ value.text).toList ++
        behindCommas (memberTexts more) ++ ['\x7d']) := by
  have left : "\x7b".toList = ['\x7b'] := rfl
  have right : "\x7d".toList = ['\x7d'] := rfl
  rw [Value.text, memberTexts, String.toList_append, String.toList_append,
    toList_intercalate, left, right, List.singleton_append, List.cons_append]

theorem reads_elements
    {depth : Nat} {around : List Container} {elements : List Value}
    (each : ∀ element ∈ elements, element.ReadBack depth)
    (room : around.length + (depth + 1) < depthLimit) (before : List Value)
    (rest : List Char) :
    Reads (commaInArray before around)
      (behindCommas (elementTexts elements) ++ ']' :: rest)
      (after (.array (before.reverse ++ sortedElements elements)) around)
      rest := by
  induction elements generalizing before with
  | nil =>
      refine .mark rfl ?_
      rw [sortedElements, List.append_nil]
      rfl
  | cons element elements ih =>
      have ⟨first, later⟩ := List.forall_mem_cons.mp each
      have closes :
          Token.Closes (behindCommas (elementTexts elements) ++ ']' ::
            rest) := by
        cases elements with
        | nil => exact Token.closes_bracket rest
        | cons => exact Token.closes_comma _
      rw [elementTexts, behindCommas, List.flatMap_cons, List.append_assoc,
        List.cons_append, ← behindCommas]
      refine .trans (.mark rfl rfl)
        (.trans (first.reads (open_value _) ?_ closes) ?_)
      · rw [List.length_cons]
        omega
      · have read := ih later (element.sorted :: before)
        rwa [List.reverse_cons, List.append_assoc,
          List.singleton_append] at read

theorem array_readBack {depth : Nat} {elements : List Value}
    (each : ∀ element ∈ elements, element.ReadBack depth) :
    (Value.array elements).ReadBack (depth + 1) := by
  refine ⟨fun {start around rest} opens room _ => ?_⟩
  have opened : start.step .openArray = .ok (elementOrEnd around) := by
    rw [opens .openArray (by simp)]
    exact if_pos (by omega)
  cases elements with
  | nil =>
      have text : (Value.array []).text.toList = ['[', ']'] := rfl
      rw [text]
      exact .trans (.mark rfl opened) (.mark rfl rfl)
  | cons first more =>
      have ⟨head, tail⟩ := List.forall_mem_cons.mp each
      have behind :
          Token.Closes (behindCommas (elementTexts more) ++ ']' :: rest) := by
        cases more with
        | nil => exact Token.closes_bracket rest
        | cons => exact Token.closes_comma _
      have deeper :
          (Container.array [] :: around).length + depth < depthLimit := by
        rw [List.length_cons]
        omega
      rw [toList_text_array, List.cons_append, List.append_assoc,
        List.append_assoc, List.singleton_append]
      refine .trans (.mark rfl opened) ?_
      refine .trans (head.reads (open_elementOrEnd around) deeper behind) ?_
      exact reads_elements tail room [first.sorted] rest

/-- A member where a key may start. -/
theorem reads_member
    {depth : Nat} {start : Expectation} {around : List Container}
    {before : List (String × Value)} {key : String} {value : Value}
    {rest : List Char}
    (opens : start.step (.scalar (.string key)) = .ok (colon before key around))
    (read_back : value.ReadBack depth)
    (room : around.length + (depth + 1) < depthLimit)
    (closes : Token.Closes rest) :
    Reads start ((quoted key ++ ":" ++ value.text).toList ++ rest)
      (commaInObject ((key, value.sorted) :: before) around) rest := by
  have deeper :
      (Container.object before key :: around).length + depth < depthLimit := by
    rw [List.length_cons]
    omega
  have name := Token.next_quoted key (':' :: (value.text.toList ++ rest))
  have text : (quoted key ++ ":" ++ value.text).toList ++ rest =
      (quoted key).toList ++ ':' :: (value.text.toList ++ rest) := by
    simp
  rw [Token.toList_quoted, List.cons_append] at name
  rw [text, Token.toList_quoted, List.cons_append]
  refine .token name opens (.trans (.mark rfl rfl) ?_)
  exact read_back.reads (open_value (.object before key :: around))
    deeper closes

theorem reads_members
    {depth : Nat} {around : List Container} {members : List (String × Value)}
    (each : ∀ member ∈ members, member.2.ReadBack depth)
    (room : around.length + (depth + 1) < depthLimit)
    (before : List (String × Value)) (rest : List Char) :
    Reads (commaInObject before around)
      (behindCommas (memberTexts members) ++ '\x7d' :: rest)
      (after (.ofMembers (before.reverse ++ sortedMembers members)) around)
      rest := by
  induction members generalizing before with
  | nil =>
      refine .mark rfl ?_
      rw [sortedMembers, List.append_nil]
      rfl
  | cons member members ih =>
      obtain ⟨key, value⟩ := member
      have ⟨first, later⟩ := List.forall_mem_cons.mp each
      have closes : Token.Closes
          (behindCommas (memberTexts members) ++ '\x7d' :: rest) := by
        cases members with
        | nil => exact Token.closes_brace rest
        | cons => exact Token.closes_comma _
      rw [memberTexts, behindCommas, List.flatMap_cons, List.append_assoc,
        List.cons_append, ← behindCommas]
      refine .trans (.mark rfl rfl)
        (.trans (reads_member rfl first room closes) ?_)
      have read := ih later ((key, value.sorted) :: before)
      rwa [List.reverse_cons, List.append_assoc, List.singleton_append] at read

theorem object_readBack {depth : Nat} {members : List (String × Value)}
    (each : ∀ member ∈ members, member.2.ReadBack depth) :
    (Value.object members).ReadBack (depth + 1) := by
  refine ⟨fun {start around rest} opens room _ => ?_⟩
  have opened : start.step .openObject = .ok (keyOrEnd around) := by
    rw [opens .openObject (by simp)]
    exact if_pos (by omega)
  cases members with
  | nil =>
      have text : (Value.object []).text.toList = ['\x7b', '\x7d'] := rfl
      rw [text]
      exact .trans (.mark rfl opened) (.mark rfl rfl)
  | cons member more =>
      obtain ⟨key, value⟩ := member
      have ⟨head, tail⟩ := List.forall_mem_cons.mp each
      have behind :
          Token.Closes (behindCommas (memberTexts more) ++ '\x7d' :: rest) := by
        cases more with
        | nil => exact Token.closes_brace rest
        | cons => exact Token.closes_comma _
      rw [toList_text_object, List.cons_append, List.append_assoc,
        List.append_assoc, List.singleton_append]
      refine .trans (.mark rfl opened)
        (.trans (reads_member rfl head room behind) ?_)
      exact reads_members tail room [(key, value.sorted)] rest

/-! ### Whole texts -/

theorem toList_text_integer_ne_nil (value : Int) :
    (Value.ofInt value).text.toList ≠ [] := by
  rw [Value.ofInt, Value.text, Number.text]
  split
  · rw [String.toList_append]
    exact List.cons_ne_nil _ _
  · rw [Nat.toList_repr]
    exact Nat.toDigits_ne_nil

theorem Value.Exact.readBack
    {depth : Nat} {value : Value} (exact_value : value.Exact depth) :
    value.ReadBack depth := by
  induction exact_value with
  | null => exact scalar_readBack (by decide) rfl fun _ => rfl
  | bool value =>
      cases value <;> exact scalar_readBack (by decide) rfl fun _ => rfl
  | integer least greatest =>
      exact scalar_readBack (toList_text_integer_ne_nil _) rfl
        (Token.next_integer least greatest)
  | string value =>
      have text : (Value.string value).text = quoted value := by rw [Value.text]
      refine scalar_readBack ?_ (by rw [Value.sorted]) fun _ => ?_
      · rw [text, Token.toList_quoted]
        exact List.cons_ne_nil _ _
      · rw [text]
        exact Token.next_quoted value _
  | array _ ih => exact array_readBack ih
  | object _ ih => exact object_readBack ih

/-- A value's text means the value, with each object's members in ascending
order. -/
theorem parse_text
    {value : Value} (exact_value : value.Exact (depthLimit - 1)) :
    parse value.text = .ok value.sorted := by
  have reads :
      Reads (.value []) value.text.toList (.nothing value.sorted) [] := by
    have read :=
      exact_value.readBack.reads (open_value []) (by decide) Token.closes_nil
    rwa [List.append_nil] at read
  obtain ⟨left, _, same⟩ := reads.readTokens_eq (Nat.lt_succ_self _)
  rw [parse, same]
  cases left <;> rfl

theorem parse_text_of_orderly
    {value : Value} (exact_value : value.Exact (depthLimit - 1))
    (orderly : value.Orderly) : parse value.text = .ok value := by
  rw [parse_text exact_value, orderly.sorted_eq]

end BroadcastHub.Json
