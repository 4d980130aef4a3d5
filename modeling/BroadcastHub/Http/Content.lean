import BroadcastHub.Http.Request
import BroadcastHub.Numeral.Decimal
import BroadcastHub.Numeral.Power

/-!
# What follows a request's head

A request may carry octets of its own, which no path of this server looks at.
Two fields say how many there are; `contentOf?` reads them, and
`Content.behind?` tells what stands behind the octets if they are all there.
-/

namespace BroadcastHub.Http

/-- How a request says where its own octets end. -/
inductive Content
  /-- The octets are counted. -/
  | counted (length : Nat)
  /-- They come in pieces, the last of which is empty. -/
  | pieces
deriving DecidableEq, Repr

/-- The fields that tell about content, as far as they have been read. -/
structure ContentFields where
  length : Option Nat := none
  /-- Whether the last of the codings named so far is the one in pieces. -/
  inPieces : Option Bool := none
deriving DecidableEq, Repr

/-- The number that a length field gives. -/
def readLength? (value : Octets) : Option Nat :=
  (valueText? value).bind fun digits =>
    (Numeral.ofDigits? digits).filter fun length => length <
      Numeral.twoTo 64 - 2

/-- Whether the last coding of a field is the one in pieces. -/
def endsInPieces (value : Octets) : Bool :=
  match (tokensOf value).getLast? with
  | some token => sameLetters token "chunked"
  | none => false

namespace ContentFields

/-- Takes a length; only an equal one may have come before, and codings take
precedence. -/
def takeLength (read : ContentFields) (value : Octets) : Option ContentFields :=
  if read.inPieces.isSome then some read
  else
    match readLength? value, read.length with
    | none, _ => none
    | some length, none => some { read with length := some length }
    | some length, some before => if length = before then some read else none

/-- Takes codings, which the older version does not have. -/
def takeCoding (read : ContentFields) (version : Version) (value : Octets) :
    Option ContentFields :=
  match version with
  | .oneZero => none
  | .oneOne => some { read with inPieces := some (endsInPieces value) }

def take (read : ContentFields) (version : Version) (field : Field) :
    Option ContentFields :=
  if field.isNamed "transfer-encoding" then read.takeCoding version field.value
  else if field.isNamed "content-length" then read.takeLength field.value
  else some read

/-- What the fields say together; codings have to end with the one in pieces. -/
def content? (read : ContentFields) : Option Content :=
  match read.inPieces with
  | some true => some .pieces
  | some false => none
  | none => some (.counted (read.length.getD 0))

end ContentFields

/-- The content that a request says to have; nothing if its fields contradict
each other. -/
def contentOf? (request : Request) : Option Content :=
  (request.fields.foldl
    (fun read field => read.bind fun read => read.take request.version field)
    (some {})).bind ContentFields.content?

namespace Content

/-- The octets behind the content, if it is there as a whole.  Pieces are not
joined, so only content without any octet counts as whole. -/
def behind? (content : Content) (octets : Octets) : Option Octets :=
  match content with
  | counted length => (Octets.splitExactly length octets).map Prod.snd
  | pieces =>
      match octets with
      | 48 :: 13 :: 10 :: 13 :: 10 :: rest => some rest
      | _ => none

end Content

end BroadcastHub.Http
