import BroadcastHub.Json.Value

/-!
# JSON lexemes

A JSON text is a sequence of punctuation marks and scalars between blanks.
`Token.next` takes the first of them off a text.  A scalar that is not well
formed is a token as well, because a reader must first know whether a scalar may
stand there at all: a `broken` one breaks a rule, a `cut` one could still be
continued where the text ends.

A number with a fraction or an exponent is computed from at most 64 bits of
digits and a table of powers of ten, each rounded once, so in rare cases it is
not the nearest one to the written decimal.
-/

namespace BroadcastHub.Json

open Numeral

inductive ScalarKind
  | string
  | other
deriving DecidableEq, Repr

/-- The smallest units of a JSON text. -/
inductive Token
  | openArray
  | closeArray
  | openObject
  | closeObject
  | comma
  | colon
  /-- A well-formed scalar. -/
  | scalar (value : Value)
  /-- A scalar that ends too early with the text. -/
  | cut (kind : ScalarKind)
  /-- A scalar that breaks a rule, or a character that starts nothing. -/
  | broken
deriving Repr

namespace Token

def isBlank (char : Char) : Bool :=
  char = ' ' || char = '\t' || char = '\n' || char = '\r'

/-! ### Strings -/

/-- The number that four hexadecimal digits stand for. -/
def hexUnit? (first second third fourth : Char) : Option Nat := do
  let digit? (char : Char) : Option Nat :=
    if '0' ≤ char ∧ char ≤ '9' then some (char.toNat - 48)
    else if 'a' ≤ char ∧ char ≤ 'f' then some (char.toNat - 87)
    else if 'A' ≤ char ∧ char ≤ 'F' then some (char.toNat - 55)
    else none
  return (((← digit? first) * 16 + (← digit? second)) * 16 + (← digit? third)) *
    16 + (← digit? fourth)

/-- The character that a two-character escape stands for. -/
def plainEscape? : Char → Option Char
  | '"' => some '"'
  | '\\' => some '\\'
  | '/' => some '/'
  | 'b' => some '\x08'
  | 'f' => some '\x0c'
  | 'n' => some '\n'
  | 'r' => some '\r'
  | 't' => some '\t'
  | _ => none

/-- Outcome of an attempt to read a part of a scalar. -/
inductive Lexeme (α : Type)
  | complete (value : α) (rest : List Char)
  | cut
  | broken

/-- A 16-bit unit in hexadecimal.  Four octets must be there before any of them
is looked at. -/
def unit (text : List Char) : Lexeme Nat :=
  match text with
  | first :: second :: third :: fourth :: rest =>
      match hexUnit? first second third fourth with
      | some value => .complete value rest
      | none => .broken
  | short => if (String.ofList short).utf8ByteSize < 4 then .cut else .broken

/-- The character that follows `\u`: one unit, or a leading and a trailing
surrogate. -/
def escapedUnit (text : List Char) : Lexeme Char :=
  match unit text with
  | .cut => .cut
  | .broken => .broken
  | .complete value rest =>
      if 0xDC00 ≤ value ∧ value ≤ 0xDFFF then .broken
      else if value < 0xD800 ∨
        0xDBFF < value then .complete (Char.ofNat value) rest
      else
        match rest with
        | [] => .cut
        | '\\' :: [] => .cut
        | '\\' :: 'u' :: rest =>
            match unit rest with
            | .cut => .cut
            | .broken => .broken
            | .complete second rest =>
                if 0xDC00 ≤ second ∧ second ≤ 0xDFFF then
                  .complete (Char.ofNat ((value - 0xD800) * 0x400 +
                    (second - 0xDC00) + 0x10000)) rest
                else .broken
        | _ => .broken

theorem length_of_unit {text rest : List Char} {value : Nat}
    (read : unit text = .complete value rest) : rest.length < text.length := by
  unfold unit at read
  split at read
  · split at read
    · cases read
      simp
      omega
    · cases read
  · split at read <;> cases read

theorem length_of_escapedUnit
    {text rest : List Char} {char : Char}
    (read : escapedUnit text = .complete char rest) :
    rest.length < text.length := by
  unfold escapedUnit at read
  split at read
  · cases read
  · cases read
  · rename_i value after first
    have shorter := length_of_unit first
    split at read
    · cases read
    · split at read
      · simp only [Lexeme.complete.injEq] at read
        exact read.2 ▸ shorter
      · split at read
        · cases read
        · cases read
        · rename_i behind
          split at read
          · cases read
          · cases read
          · rename_i second last second_read
            have := length_of_unit second_read
            split at read
            · simp only [Lexeme.complete.injEq] at read
              obtain ⟨_, rfl⟩ := read
              simp at shorter
              omega
            · cases read
        · cases read

/-- The character that follows a backslash as its escape. -/
def escape (text : List Char) : Lexeme Char :=
  match text with
  | [] => .cut
  | name :: rest =>
      if name = 'u' then escapedUnit rest
      else
        match plainEscape? name with
        | some char => .complete char rest
        | none => .broken

theorem length_of_escape {text rest : List Char} {char : Char}
    (read : escape text = .complete char rest) : rest.length < text.length := by
  unfold escape at read
  split at read
  · cases read
  · split at read
    · have := length_of_escapedUnit read
      simp
      omega
    · split at read
      · cases read
        simp
      · cases read

/-- The characters of a string up to its closing quote, behind those of `read`
in reverse. -/
def stringTail (read : List Char) (text : List Char) : Lexeme String :=
  match text with
  | [] => .cut
  | char :: rest =>
      if char = '"' then .complete (String.ofList read.reverse) rest
      else if char = '\\' then
        match _escaped : escape rest with
        | .cut => .cut
        | .broken => .broken
        | .complete char after => stringTail (char :: read) after
      else if char.toNat < 0x20 then .broken
      else stringTail (char :: read) rest
termination_by text.length
decreasing_by
  · have := length_of_escape _escaped
    simp
    omega
  · simp

/-! ### Numbers -/

/-- The digits at the front of a text, the first of which is not read yet. -/
def splitDigits (text : List Char) : List Char × List Char :=
  (text.takeWhile Char.isDigit, text.dropWhile Char.isDigit)

/-- Takes digits as long as the number fits into 64 bits; answers those left
over too. -/
def takeFitting (value : Nat) : List Char → Nat × List Char
  | [] => (value, [])
  | char :: rest =>
      let longer := value * 10 + (char.toNat - 48)
      if longer < twoTo 64 then takeFitting longer rest
        else (value, char :: rest)

/-- The table of powers of ten ends here. -/
def greatestPower : Nat := 308

/-- The floating-point number nearest to a power of ten. -/
def powerOfTen (power : Nat) : Magnitude :=
  (Magnitude.nearest? (tenTo power) 1).getD .zero

/-- Multiplies by a power of ten of either sign.  Nothing if the result is too
great.  At most `steps` divisions by the last power of the table bring a smaller
power into it. -/
def scaleByPower (magnitude : Magnitude) :
    (steps : Nat) → (power : Int) → Option Magnitude
  | 0, _ => some .zero
  | steps + 1, power =>
      if power.natAbs ≤ greatestPower then
        if 0 ≤ power then magnitude.mul? (powerOfTen power.natAbs)
        else magnitude.div? (powerOfTen power.natAbs)
      else if magnitude.significand = 0 then some magnitude
      else if 0 ≤ power then none
      else
        match magnitude.div? (powerOfTen greatestPower) with
        | some smaller => scaleByPower smaller steps (power + greatestPower)
        | none => none

/-- A number with a fraction or an exponent. -/
def real? (negative : Bool) (digits : Nat) (power : Int) : Option Binary64 := do
  let magnitude ← Magnitude.nearest? digits 1
  return ⟨negative, ← scaleByPower magnitude 4 power⟩

/-- A number without fraction and exponent whose digits fit into 64 bits. -/
def wholeNumber (negative : Bool) (digits : Nat) : Number :=
  if negative then
    if 0 < digits ∧ digits ≤ twoTo 63 then .integer (-(digits : Int))
    else .real ⟨true, (Magnitude.nearest? digits 1).getD .zero⟩
  else .integer digits

def greatestExponent : Nat := twoTo 31 - 1

/-- Ends a number whose exponent is given; its digits are too great for an
exponent only where the result is certainly zero or too great. -/
def endExponent
    (negative negativePower : Bool) (digits : Nat) (power : Int) (written : Nat)
    (rest : List Char) : Lexeme Number :=
  let result : Option Binary64 :=
    if written ≤ greatestExponent then
      real? negative digits (if negativePower then power - written
        else power + written)
    else if digits = 0 ∨ negativePower then some ⟨negative, .zero⟩
    else none
  match result with
  | some value => .complete (.real value) rest
  | none => .broken

def exponentPart
    (negative : Bool) (digits : Nat) (power : Int) (text : List Char) :
    Lexeme Number :=
  let (negativePower, text) :=
    match text with
    | '+' :: rest => (false, rest)
    | '-' :: rest => (true, rest)
    | rest => (false, rest)
  match splitDigits text with
  | ([], []) => .cut
  | ([], _) => .broken
  | (written, rest) =>
      endExponent negative negativePower digits power
        (written.foldl (fun value char => value * 10 + (char.toNat - 48)) 0)
        rest

/-- What follows the digits of a number that has a fraction or too many
digits. -/
def realPart (negative : Bool) (digits : Nat) (power : Int) (text : List Char) :
    Lexeme Number :=
  let finished : Lexeme Number :=
    match real? negative digits power with
    | some value => .complete (.real value) text
    | none => .broken
  match text with
  | 'e' :: rest => exponentPart negative digits power rest
  | 'E' :: rest => exponentPart negative digits power rest
  | _ => finished

def fractionPart
    (negative : Bool) (digits : Nat) (power : Int) (text : List Char) :
    Lexeme Number :=
  match splitDigits text with
  | ([], []) => .cut
  | ([], _) => .broken
  | (written, rest) =>
      let (value, dropped) := takeFitting digits written
      realPart negative value (power - (written.length - dropped.length : Nat))
        rest

def unsignedNumber (negative : Bool) (text : List Char) : Lexeme Number :=
  match splitDigits text with
  | ([], []) => .cut
  | ([], _) => .broken
  | ('0' :: _ :: _, _) => .broken
  | (written, rest) =>
      let (digits, dropped) := takeFitting 0 written
      match rest with
      | '.' :: rest => fractionPart negative digits dropped.length rest
      | rest =>
          if dropped.isEmpty ∧ rest.head? ≠ some 'e' ∧
            rest.head? ≠ some 'E' then
            .complete (wholeNumber negative digits) rest
          else realPart negative digits dropped.length rest

/-! ### Words -/

/-- The rest of a word whose first character has been read. -/
def word (value : Value) :
    (expected : List Char) → (text : List Char) → Lexeme Value
  | [], text => .complete value text
  | _ :: _, [] => .cut
  | expected :: more, char :: rest =>
      if char = expected then word value more rest else .broken

/-- A scalar as a token, together with what follows it. -/
def ofLexeme {α : Type} (kind : ScalarKind) (value : α → Value) :
    Lexeme α → Token × List Char
  | .complete content rest => (scalar (value content), rest)
  | .cut => (cut kind, [])
  | .broken => (broken, [])

/-- The token that starts with the given character. -/
def starting (char : Char) (rest : List Char) : Token × List Char :=
  match char with
  | '[' => (openArray, rest)
  | ']' => (closeArray, rest)
  | '{' => (openObject, rest)
  | '}' => (closeObject, rest)
  | ',' => (comma, rest)
  | ':' => (colon, rest)
  | '"' => ofLexeme .string .string (stringTail [] rest)
  | '-' => ofLexeme .other .number (unsignedNumber true rest)
  | 'n' => ofLexeme .other id (word .null "ull".toList rest)
  | 't' => ofLexeme .other id (word (.bool true) "rue".toList rest)
  | 'f' => ofLexeme .other id (word (.bool false) "alse".toList rest)
  | char =>
      if char.isDigit then ofLexeme .other .number
        (unsignedNumber false (char :: rest))
      else (broken, [])

/-- The first token of a text and what follows it; nothing if only blanks are
left. -/
def next (text : List Char) : Option (Token × List Char) :=
  match text with
  | [] => none
  | char :: rest =>
      if isBlank char then next rest else some (starting char rest)

end Token

end BroadcastHub.Json
