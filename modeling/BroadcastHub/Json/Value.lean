import BroadcastHub.Numeral.Binary64

/-!
# JSON values

A value is what a JSON text means.  An object is a list of members in ascending
order of their keys; `insert` keeps that order, and of two members with one key
the later one stays.
-/

namespace BroadcastHub.Json

/-- A number: one that was written without fraction and exponent and fits into
64 bits is exact. -/
inductive Number
  | integer (value : Int)
  | real (value : Numeral.Binary64)
deriving DecidableEq, Repr

/-- The meaning of a JSON text. -/
inductive Value
  | null
  | bool (value : Bool)
  | number (value : Number)
  | string (value : String)
  | array (elements : List Value)
  | object (members : List (String × Value))
deriving Repr, Inhabited

abbrev Members := List (String × Value)

namespace Members

/-- The value of the first member with a key. -/
def get? (key : String) : Members → Option Value
  | [] => none
  | (name, value) :: rest => if name = key then some value else get? key rest

/-- Gives a key a value, at the key's place in ascending order if it is new. -/
def insert (key : String) (value : Value) : Members → Members
  | [] => [(key, value)]
  | (name, old) :: rest =>
      if name = key then (key, value) :: rest
      else if key < name then (key, value) :: (name, old) :: rest
      else (name, old) :: insert key value rest

/-- The object's members when several may share a key. -/
def ofList (members : List (String × Value)) : Members :=
  members.foldl (fun sorted (key, value) => insert key value sorted) []

@[simp] theorem get?_nil (key : String) : get? key [] = none := rfl

@[simp] theorem get?_insert_self
    (key : String) (value : Value) (members : Members) :
    get? key (insert key value members) = some value := by
  induction members with
  | nil => simp [insert, get?]
  | cons member rest ih =>
      obtain ⟨name, old⟩ := member
      by_cases same : name = key
      · simp [insert, get?, same]
      · by_cases before : key < name <;> simp [insert, get?, same, before, ih]

theorem get?_insert_of_ne
    {key other : String} (different : other ≠ key) (value : Value)
    (members : Members) :
    get? other (insert key value members) = get? other members := by
  induction members with
  | nil => simp [insert, get?, Ne.symm different]
  | cons member rest ih =>
      obtain ⟨name, old⟩ := member
      by_cases same : name = key
      · subst same
        simp [insert, get?, Ne.symm different]
      · by_cases before : key < name
        · simp [insert, get?, same, before, Ne.symm different]
        · simp [insert, get?, same, before, ih]

end Members

namespace Value

def isNull : Value → Bool
  | null => true
  | _ => false

/-- The value of an object's member. -/
def get? (key : String) : Value → Option Value
  | object members => Members.get? key members
  | _ => none

def ofInt (value : Int) : Value := number (.integer value)

def ofNat (value : Nat) : Value := ofInt value

/-- An object with the given members in any order. -/
def ofMembers (members : List (String × Value)) : Value :=
  object (Members.ofList members)

end Value

end BroadcastHub.Json
