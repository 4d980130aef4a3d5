import BroadcastHub.Json.Value

/-!
# Laying one JSON value over another

Two objects merge member by member; a `null` member of the upper one leaves the
lower one's member as it is.  In every other case the upper value takes the
place of the lower one.
-/

namespace BroadcastHub.Json

mutual

def Value.merge : (lower upper : Value) → Value
  | .object lower, .object upper => .object (Members.merge lower upper)
  | _, upper => upper

/-- Lays the members of one object over those of another, one after the
other. -/
def Members.merge (lower : List (String × Value)) :
    (upper : List (String × Value)) → Members
  | [] => lower
  | (key, value) :: rest =>
      if value.isNull then Members.merge lower rest
      else
        let merged :=
          match Members.get? key lower with
          | some old => Value.merge old value
          | none => value
        Members.merge (Members.insert key merged lower) rest

end

end BroadcastHub.Json
