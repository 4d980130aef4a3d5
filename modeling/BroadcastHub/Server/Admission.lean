import BroadcastHub.Numeral.Power

/-!
# Admission

A server with a bound on its sessions hands out one slot for each of them and
refuses a client when none is left.  A slot comes back when its session has
ended.
-/

namespace BroadcastHub.Server

/-- The slots of a server. -/
structure Admission where
  /-- The number of slots; nothing if there is no bound. -/
  capacity : Option Nat
  /-- The number of slots handed out. -/
  held : Nat := 0
deriving DecidableEq, Repr, Inhabited

namespace Admission

/-- No server has more slots. -/
def greatestCapacity : Nat := Numeral.twoTo 61 - 1

/-- The slots for a number of sessions, where 0 sets no bound. -/
def ofMaximum (maximum : Nat) : Admission where
  capacity := if maximum = 0 then none else some (min maximum greatestCapacity)

/-- The slots that are left. -/
def available (admission : Admission) : Option Nat :=
  admission.capacity.map fun capacity => capacity - admission.held

/-- Hands out a slot if one is left. -/
def grant? (admission : Admission) : Option Admission :=
  if admission.available = some 0 then none
    else some { admission with held := admission.held + 1 }

def release (admission : Admission) : Admission :=
  { admission with held := admission.held - 1 }

end Admission

/-- Slots that are handed out by number. -/
structure SlotBook where
  admission : Admission
  /-- The number of slots handed out so far. -/
  issued : Nat := 0
  /-- The numbers of those that have not come back. -/
  outstanding : List Nat := []
deriving DecidableEq, Repr, Inhabited

namespace SlotBook

/-- Hands out the next number if a slot is left. -/
def issue (book : SlotBook) : Option Nat × SlotBook :=
  match book.admission.grant? with
  | none => (none, book)
  | some admission =>
      (some book.issued,
        ⟨admission, book.issued + 1, book.issued :: book.outstanding⟩)

/-- Takes a number back; answers whether it was out. -/
def free (book : SlotBook) (number : Nat) : Bool × SlotBook :=
  if book.outstanding.contains number then
    (true,
      { book with
        admission := book.admission.release
        outstanding := book.outstanding.erase number })
  else (false, book)

end SlotBook

end BroadcastHub.Server
