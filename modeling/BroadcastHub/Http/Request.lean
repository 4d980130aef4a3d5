import BroadcastHub.Http.Field

/-!
# Requests

The head of a request is a line with method, target and version, and lines of
header fields up to an empty line.  `Request.read?` takes a head off the front
of what has arrived.  It reports an offence as soon as the octet that commits it
is there, and says nothing while the head is incomplete.
-/

namespace BroadcastHub.Http

/-- The versions of the protocol that are understood. -/
inductive Version
  | oneZero
  | oneOne
deriving DecidableEq, Repr

/-- A request without what follows its head. -/
structure Request where
  method : String
  target : String
  version : Version := .oneOne
  fields : List Field := []
deriving DecidableEq, Repr

/-- Why a head is refused. -/
inductive Offence
  | malformed
  /-- The head has more fields than are taken. -/
  | tooManyFields
deriving DecidableEq, Repr

def Offence.status : Offence → Nat
  | malformed => 400
  | tooManyFields => 431

/-- What reading a part of a head comes to. -/
inductive Reading (α : Type)
  | complete (value : α) (rest : Octets)
  | incomplete
  | refused (offence : Offence)

/-- Octets of which methods and names of fields are made. -/
def isTokenOctet (octet : UInt8) : Bool :=
  let char := Char.ofNat octet.toNat
  char.isAlphanum || "!#$%&'*+-.^_`|~".toList.contains char

def isTargetOctet (octet : UInt8) : Bool :=
  0x21 ≤ octet.toNat && octet.toNat ≠ 0x7F

def isValueOctet (octet : UInt8) : Bool :=
  octet = 9 || (0x20 ≤ octet.toNat && octet.toNat ≠ 0x7F)

def characters (octets : Octets) : String :=
  String.ofList (octets.map fun octet => Char.ofNat octet.toNat)

/-- One or more octets of a class up to a delimiter. -/
def readUntil (isInside : UInt8 → Bool) (delimiter : UInt8) (octets : Octets) :
    Reading Octets :=
  let inside :=
    octets.takeWhile fun octet => isInside octet && octet ≠ delimiter
  match octets.drop inside.length with
  | [] => .incomplete
  | next :: rest =>
      if next = delimiter ∧ inside ≠ [] then .complete inside rest
        else .refused .malformed

def readLineEnd : Octets → Reading Unit
  | [] => .incomplete
  | 10 :: rest => .complete () rest
  | 13 :: [] => .incomplete
  | 13 :: 10 :: rest => .complete () rest
  | _ => .refused .malformed

/-- The version at the end of a request's first line. -/
def readVersion (octets : Octets) : Reading Version :=
  let name := "HTTP/1.".toList.map fun char => UInt8.ofNat char.toNat
  if octets.take name.length ≠ name.take octets.length then .refused .malformed
  else
    match octets.drop name.length with
    | [] => .incomplete
    | 48 :: rest => .complete .oneZero rest
    | 49 :: rest => .complete .oneOne rest
    | _ => .refused .malformed

namespace Reading

/-- Goes on with what follows. -/
def andThen {α β : Type} (reading : Reading α) (next : α → Octets → Reading β) :
    Reading β :=
  match reading with
  | complete value rest => next value rest
  | incomplete => .incomplete
  | refused offence => .refused offence

end Reading

def readFirstLine (octets : Octets) : Reading (String × String × Version) :=
  (readUntil isTokenOctet 32 octets).andThen fun method rest =>
  (readUntil isTargetOctet 32 rest).andThen fun target rest =>
  (readVersion rest).andThen fun version rest =>
  (readLineEnd rest).andThen fun _ rest =>
    .complete (characters method, characters target, version) rest

/-- Whether an octet is a space or a tab. -/
def isBlankOctet (octet : UInt8) : Bool := octet = 32 || octet = 9

/-- One field, without the blanks around its value. -/
def readField (octets : Octets) : Reading Field :=
  (readUntil isTokenOctet 58 octets).andThen fun name rest =>
    let value := rest.takeWhile isValueOctet
    (readLineEnd (rest.drop value.length)).andThen fun _ rest =>
      .complete ⟨characters name, trimBlanks isBlankOctet value⟩ rest

/-- The greatest number of fields in a head. -/
def maxFields : Nat := 100

/-- At most `count` fields up to an empty line; `fields` were read before, last
one first. -/
def readFields :
    (count : Nat) → (fields : List Field) → Octets → Reading (List Field)
  | count, fields, octets =>
      match octets with
      | [] => .incomplete
      | 10 :: rest => .complete fields.reverse rest
      | 13 :: rest =>
          match rest with
          | [] => .incomplete
          | 10 :: rest => .complete fields.reverse rest
          | _ => .refused .malformed
      | octets =>
          match count with
          | 0 => .refused .tooManyFields
          | count + 1 =>
              (readField octets).andThen fun field rest =>
                readFields count (field :: fields) rest

def dropEmptyLines : Octets → Octets
  | 13 :: 10 :: rest => dropEmptyLines rest
  | 10 :: rest => dropEmptyLines rest
  | octets => octets

namespace Request

/-- The request at the front of what has arrived. -/
def read? (octets : Octets) : Reading Request :=
  (readFirstLine (dropEmptyLines octets)).andThen
    fun (method, target, version) rest =>
  (readFields maxFields [] rest).andThen fun fields rest =>
    .complete { method, target, version, fields } rest

/-- Whether a character ends the part of a target before its query. -/
def endsPath (char : Char) : Bool := char = '?' || char = '#'

/-- What follows the host in a target that names one; nothing if the target does
not. -/
def behindHost? : (target : List Char) → Option (List Char)
  | ':' :: '/' :: '/' :: rest =>
      some (rest.dropWhile fun char => char ≠ '/' && !endsPath char)
  | char :: rest =>
      if char = '/' || endsPath char then none else behindHost? rest
  | [] => none

/-- The target without its host and its query. -/
def path (request : Request) : String :=
  let target := request.target.toList
  match behindHost? target with
  | some rest =>
      String.ofList ('/' :: (rest.drop 1).takeWhile fun char => !endsPath char)
  | none => String.ofList (target.takeWhile fun char => !endsPath char)

/-- Whether a value has a given word among its parts. -/
def hasWord (word : String) (value : Octets) : Bool :=
  (tokensOf value).any fun token => sameLetters token word

/-- Whether the client wants to send further requests over the same
connection. -/
def keepsAlive (request : Request) : Bool :=
  (valuesOf "connection" request.fields).foldl
    (fun keeps value => if keeps then !hasWord "close" value
      else hasWord "keep-alive" value)
    (request.version = .oneOne)

/-- Whether the connection can be turned into another kind. -/
def isUpgradable (request : Request) : Bool :=
  request.version = .oneOne && (firstValue? "upgrade" request.fields).isSome

end Request

end BroadcastHub.Http
