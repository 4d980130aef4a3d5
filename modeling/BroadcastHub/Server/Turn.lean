/-!
# Taking turns

Writers to one socket take turns.  A writer that cannot have the turn at once
waits in line, and a turn that ends passes to the first in line before anybody
else can have it.
-/

namespace BroadcastHub.Server

abbrev TaskId := Nat

/-- Who has the turn and who waits for it. -/
structure Turn where
  holder : Option TaskId := none
  /-- Those who wait, first in line first. -/
  waiting : List TaskId := []
deriving DecidableEq, Repr, Inhabited

namespace Turn

/-- Whether nobody has the turn. -/
def isFree (turn : Turn) : Bool := turn.holder.isNone

/-- Whether a task has the turn. -/
def isHeldBy (turn : Turn) (task : TaskId) : Bool := turn.holder = some task

/-- Takes the turn if it is free, or stands in line. -/
def request (turn : Turn) (task : TaskId) : Turn :=
  if turn.isFree then { turn with holder := some task }
  else { turn with waiting := turn.waiting ++ [task] }

/-- Ends the turn, which passes to the first in line. -/
def release (turn : Turn) : Turn :=
  match turn.waiting with
  | [] => { turn with holder := none }
  | next :: rest => ⟨some next, rest⟩

def leave (turn : Turn) (task : TaskId) : Turn :=
  { turn with waiting := turn.waiting.filter fun other => other ≠ task }

end Turn

end BroadcastHub.Server
