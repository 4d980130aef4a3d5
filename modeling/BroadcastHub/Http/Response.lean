/-!
# Responses
-/

namespace BroadcastHub.Http

/-- What a response carries. -/
inductive Body
  | empty
  /-- The state of the server: the whole seconds of its life and its number of
  sessions. -/
  | health (uptime connections : Nat)
  /-- Lines of text. -/
  | lines (content : List String)
deriving DecidableEq, Repr, Inhabited

structure Response where
  status : Nat
  /-- Names in lower case and values. -/
  fields : List (String × String) := []
  body : Body := .empty
deriving DecidableEq, Repr, Inhabited

def Response.bare (status : Nat) : Response := ⟨status, [], .empty⟩

end BroadcastHub.Http
