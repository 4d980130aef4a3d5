import BroadcastHub.Octets
import BroadcastHub.Text.Utf8

/-!
# Header fields

The fields of a request's or response's head, in their order.  Names are
compared without regard to case; several fields may have one name, and a value
may hold any octets.
-/

namespace BroadcastHub.Http

structure Field where
  name : String
  value : Octets
deriving DecidableEq, Repr

def lowerCase (name : String) : String := name.map Char.toLower

namespace Field

/-- A field with a text as its value. -/
def ofText (name value : String) : Field := ⟨name, Text.utf8 value⟩

/-- Whether a field has a name, which is given in lower case. -/
def isNamed (name : String) (field : Field) : Bool :=
  lowerCase field.name = name

end Field

/-- Octets that may stand in a value that is read as text: the visible ones of
ASCII, space, tab. -/
def isTextOctet (octet : UInt8) : Bool :=
  octet = 9 || (32 ≤ octet.toNat && octet.toNat < 127)

/-- The characters of a value, if all its octets may stand in text. -/
def valueText? (value : Octets) : Option (List Char) :=
  if value.all isTextOctet then
    some (value.map fun octet => Char.ofNat octet.toNat) else none

/-- The values of all fields with a name. -/
def valuesOf (name : String) (fields : List Field) : List Octets :=
  (fields.filter (Field.isNamed name)).map Field.value

def firstValue? (name : String) (fields : List Field) : Option Octets :=
  (fields.find? (Field.isNamed name)).map Field.value

/-- Removes spaces and tabs at both ends. -/
def trimBlanks {α : Type} (isBlank : α → Bool) (text : List α) : List α :=
  ((text.dropWhile isBlank).reverse.dropWhile isBlank).reverse

/-- The parts of a text between commas. -/
def splitCommas (text : List Char) : List (List Char) :=
  text.splitOn ','

/-- Whether two characters are equal without regard to case. -/
def sameLetters (text : List Char) (word : String) : Bool :=
  text.map Char.toLower = word.toList

/-- The comma-separated parts of a value, without the blanks around them; a
value that is not text has none. -/
def tokensOf (value : Octets) : List (List Char) :=
  match valueText? value with
  | none => []
  | some text =>
      (splitCommas text).map (trimBlanks fun char => char = ' ' || char = '\t')

end BroadcastHub.Http
