import BroadcastHub.Json.Token

/-!
# Reading JSON texts

A reader takes one token after the other and remembers the containers that are
still open and what may come next.  It stops at the first token that may not
come.  A text is `incomplete` if nothing in it is wrong and more of it could
follow, and `malformed` otherwise.
-/

namespace BroadcastHub.Json

/-- Why a text is not JSON. -/
inductive Malformation
  /-- Everything so far could be continued, but the text ends. -/
  | incomplete
  /-- Something in the text is wrong. -/
  | malformed
deriving DecidableEq, Repr

/-- A container in which a value is being read. -/
inductive Container
  /-- The elements before it, last one first. -/
  | array (before : List Value)
  /-- The members before it, last one first, and the key of the value. -/
  | object (before : List (String × Value)) (key : String)

/-- What a text read so far may be followed by.  The containers around that
point are listed from the inside. -/
inductive Expectation
  | value (around : List Container)
  | elementOrEnd (around : List Container)
  | commaInArray (before : List Value) (around : List Container)
  | keyOrEnd (around : List Container)
  | key (before : List (String × Value)) (around : List Container)
  | colon
      (before : List (String × Value)) (key : String) (around : List Container)
  | commaInObject (before : List (String × Value)) (around : List Container)
  | nothing (result : Value)

namespace Expectation

/-- One container more than may be open at a time. -/
def depthLimit : Nat := 128

def after (result : Value) : List Container → Expectation
  | [] => nothing result
  | .array before :: around => commaInArray (result :: before) around
  | .object before name :: around =>
      commaInObject ((name, result) :: before) around

/-- After an opening bracket, unless too many are open. -/
def opened (around : List Container) (inside : Expectation) :
    Except Malformation Expectation :=
  if around.length + 1 < depthLimit then .ok inside else .error .malformed

def startValue (around : List Container) :
    Token → Except Malformation Expectation
  | .scalar result => .ok (after result around)
  | .openArray => opened around (elementOrEnd around)
  | .openObject => opened around (keyOrEnd around)
  | .cut _ => .error .incomplete
  | _ => .error .malformed

def startKey (before : List (String × Value)) (around : List Container) :
    Token → Except Malformation Expectation
  | .scalar (.string name) => .ok (colon before name around)
  | .cut .string => .error .incomplete
  | _ => .error .malformed

/-- Takes the next token. -/
def step : Expectation → Token → Except Malformation Expectation
  | value around, token => startValue around token
  | elementOrEnd around, .closeArray => .ok (after (.array []) around)
  | elementOrEnd around, token => startValue (.array [] :: around) token
  | commaInArray before around, .comma => .ok (value (.array before :: around))
  | commaInArray before around, .closeArray =>
      .ok (after (.array before.reverse) around)
  | commaInArray _ _, _ => .error .malformed
  | keyOrEnd around, .closeObject => .ok (after (.object []) around)
  | keyOrEnd around, token => startKey [] around token
  | key before around, token => startKey before around token
  | colon before name around, .colon =>
      .ok (value (.object before name :: around))
  | colon _ _ _, _ => .error .malformed
  | commaInObject before around, .comma => .ok (key before around)
  | commaInObject before around, .closeObject =>
      .ok (after (.ofMembers before.reverse) around)
  | commaInObject _ _, _ => .error .malformed
  | nothing _, _ => .error .malformed

def finish : Expectation → Except Malformation Value
  | nothing result => .ok result
  | _ => .error .incomplete

end Expectation

/-- Reads at most `count` tokens; a text has no more of them than characters. -/
def readTokens :
    (count : Nat) → Expectation → (text : List Char) → Except Malformation Value
  | 0, expectation, _ => expectation.finish
  | count + 1, expectation, text =>
      match Token.next text with
      | none => expectation.finish
      | some (token, rest) =>
          match expectation.step token with
          | .ok expectation => readTokens count expectation rest
          | .error malformation => .error malformation

/-- The value that a text means. -/
def parse (text : String) : Except Malformation Value :=
  let characters := text.toList
  readTokens (characters.length + 1) (.value []) characters

end BroadcastHub.Json
