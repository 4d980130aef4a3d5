import BroadcastHub.Http.Routes

/-!
# What a request does to the slots

A request for a session takes a slot for a moment, if one is left, and keeps it
only if the session may begin.  `Admits` and `Responds` list what requests can
come to; whatever else is said about requests follows from them.
-/

namespace BroadcastHub.Server

open Http

namespace Admission

variable {admission : Admission}

/-- The admission with one slot more handed out. -/
def take (admission : Admission) : Admission :=
  { admission with held := admission.held + 1 }

@[simp] theorem release_take : admission.take.release = admission := rfl

theorem grant?_of_full (full : admission.available = some 0) :
    admission.grant? = none :=
  if_pos full

theorem grant?_of_free (free : admission.available ≠ some 0) :
    admission.grant? = some admission.take :=
  if_neg free

theorem available_eq_none (unbounded : admission.capacity = none) :
    admission.available = none := by
  rw [available, unbounded]
  rfl

theorem available_eq_some
    {capacity : Nat} (bounded : admission.capacity = some capacity) :
    admission.available = some (capacity - admission.held) := by
  rw [available, bounded]
  rfl

theorem held_lt_of_free
    {capacity : Nat} (bounded : admission.capacity = some capacity)
    (free : admission.available ≠ some 0) : admission.held < capacity := by
  rw [available_eq_some bounded] at free
  refine Nat.lt_of_not_le fun full => free ?_
  rw [Nat.sub_eq_zero_of_le full]

end Admission

/-- What a request for a session comes to, and what becomes of the slots. -/
inductive Admits (hub : Hub) (fields : List Field) (upgradable : Bool) :
    Hub → Decision → Prop
  | stopping (isStopping : hub.stopping = true) :
      Admits hub fields upgradable hub .stopping
  | full
      (goesOn : hub.stopping = false)
      (full : hub.admission.available = some 0) :
      Admits hub fields upgradable
        (hub.count fun counters =>
          { counters with refused := counters.refused + 1 }) .noSlot
  | badHandshake
      (goesOn : hub.stopping = false) (free : hub.admission.available ≠ some 0)
      (noKey : answerKey? fields = none) :
      Admits hub fields upgradable hub .badHandshake
  | notUpgradable
      {key : String} (goesOn : hub.stopping = false)
      (free : hub.admission.available ≠ some 0)
      (hasKey : answerKey? fields = some key) (fixed : upgradable = false) :
      Admits hub fields upgradable hub .notUpgradable
  | accepted
      {key : String} (goesOn : hub.stopping = false)
      (free : hub.admission.available ≠ some 0)
      (hasKey : answerKey? fields = some key) (turns : upgradable = true) :
      Admits hub fields upgradable { hub with admission := hub.admission.take }
        (.accepted key)

theorem openSession_admits
    (hub : Hub) (fields : List Field) (upgradable : Bool) :
    Admits hub fields upgradable (openSession hub fields upgradable).1
      (openSession hub fields upgradable).2 := by
  unfold openSession
  by_cases stopping : hub.stopping = true
  · rw [if_pos stopping]
    exact .stopping stopping
  · have goesOn := Bool.eq_false_iff.mpr stopping
    rw [if_neg stopping]
    by_cases full : hub.admission.available = some 0
    · rw [Admission.grant?_of_full full]
      exact .full goesOn full
    · rw [Admission.grant?_of_free full]
      cases hasKey : answerKey? fields with
      | none =>
          simp only [decideWithSlot, hasKey]
          exact .badHandshake goesOn full hasKey
      | some key =>
          cases upgradable with
          | false =>
              simp only [decideWithSlot, hasKey]
              exact .notUpgradable goesOn full hasKey rfl
          | true =>
              simp only [decideWithSlot, hasKey]
              exact .accepted goesOn full hasKey rfl

def AsksForSession (request : Request) : Prop :=
  Route.ofPath? request.path = some .session ∧
    (request.method = "GET" ∨ request.method = "HEAD")

/-- What a request comes to: if it is for a session what `Admits` says, and
otherwise something that has nothing to do with the slots. -/
inductive Responds (hub : Hub) (request : Request) (upgradable : Bool) :
    Hub → Response → Bool → Prop
  | aside
      {response : Response} (other : ¬ AsksForSession request)
      (plain : response.status ≠ 101) :
      Responds hub request upgradable hub response false
  | session
      {after : Hub} {decision : Decision} {response : Response}
      (asks : AsksForSession request)
      (admits : Admits hub request.fields upgradable after decision)
      (status : response.status = decision.response.status) :
      Responds hub request upgradable after response decision.isAccepted

theorem respond_responds (hub : Hub) (request : Request) (upgradable : Bool) :
    Responds hub request upgradable (respond hub request upgradable).1
      (respond hub request upgradable).2.1
      (respond hub request upgradable).2.2 := by
  have admits := openSession_admits hub request.fields upgradable
  have elsewhere : Route.ofPath? request.path ≠ some .session →
      ¬ AsksForSession request :=
    fun other asks => other asks.1
  unfold respond
  cases isRoute : Route.ofPath? request.path with
  | none =>
      refine .aside (elsewhere ?_) (by decide : (404 : Nat) ≠ 101)
      rw [isRoute]
      rintro ⟨⟩
  | some route =>
      have other : route ≠ .session → ¬ AsksForSession request := by
        intro different
        refine elsewhere fun same => different ?_
        rw [isRoute] at same
        exact Option.some.inj same
      simp only
      split
      · rename_i isGet
        cases route with
        | session => exact .session ⟨isRoute, .inl isGet⟩ admits rfl
        | _ =>
            exact .aside (other (by rintro ⟨⟩)) (by decide : (200 : Nat) ≠ 101)
      · rename_i notGet
        split
        · rename_i isHead
          cases route with
          | session => exact .session ⟨isRoute, .inr isHead⟩ admits rfl
          | _ =>
              exact .aside (other (by rintro ⟨⟩))
                (by decide : (200 : Nat) ≠ 101)
        · rename_i notHead
          refine .aside (fun asks => ?_) (by decide : (405 : Nat) ≠ 101)
          exact asks.2.elim notGet notHead

namespace Responds

variable {hub after : Hub} {request : Request} {upgradable begins : Bool}
  {response : Response}

/-- A session begins exactly when the response says so. -/
theorem begins_iff
    (responds : Responds hub request upgradable after response begins) :
    begins = true ↔ response.status = 101 := by
  cases responds with
  | aside other plain => exact ⟨by rintro ⟨⟩, fun same => absurd same plain⟩
  | session asks admits status =>
      rw [status]
      cases admits <;> simp [Decision.isAccepted, Decision.response,
        Response.bare]

/-- A session that begins keeps a slot that was left; otherwise the slots are as
before. -/
theorem admission
    (responds : Responds hub request upgradable after response begins) :
    after.admission = (if begins then hub.admission.take else hub.admission) ∧
      (begins = true → hub.admission.available ≠ some 0) := by
  cases responds with
  | aside other plain => exact ⟨rfl, by rintro ⟨⟩⟩
  | session asks admits status =>
      cases admits with
      | accepted goesOn free => exact ⟨rfl, fun _ => free⟩
      | _ => exact ⟨rfl, by rintro ⟨⟩⟩

theorem eq_with
    (responds : Responds hub request upgradable after response begins) :
    ∃ admission counters, after = { hub with admission, counters } := by
  cases responds with
  | aside other plain => exact ⟨hub.admission, hub.counters, rfl⟩
  | session asks admits status => cases admits <;> exact ⟨_, _, rfl⟩

/-- Refusals are counted: one for a request for a session that finds the server
at work and no slot left, and none else. -/
theorem refused
    (responds : Responds hub request upgradable after response begins) :
    (AsksForSession request ∧ hub.stopping = false ∧
      hub.admission.available = some 0 ∧
      response.status = 503 ∧
      after.counters.refused = hub.counters.refused + 1) ∨
    (¬ (AsksForSession request ∧ hub.stopping = false ∧
      hub.admission.available = some 0) ∧
      after.counters.refused = hub.counters.refused) := by
  cases responds with
  | aside other plain => exact .inr ⟨fun refused => other refused.1, rfl⟩
  | session asks admits status =>
      cases admits with
      | stopping isStopping =>
          refine .inr ⟨fun refused => ?_, rfl⟩
          cases isStopping.symm.trans refused.2.1
      | full goesOn full => exact .inl ⟨asks, goesOn, full, status, rfl⟩
      | badHandshake goesOn free =>
          exact .inr ⟨fun refused => free refused.2.2, rfl⟩
      | notUpgradable goesOn free =>
          exact .inr ⟨fun refused => free refused.2.2, rfl⟩
      | accepted goesOn free =>
          exact .inr ⟨fun refused => free refused.2.2, rfl⟩

theorem status
    (responds : Responds hub request upgradable after response begins)
    (asks : AsksForSession request) :
    response.status = 101 ∨ response.status = 503 ∨ response.status = 400 ∨
      response.status = 426 := by
  cases responds with
  | aside other => exact absurd asks other
  | session asks admits status =>
      rw [status]
      cases admits <;> simp [Decision.response, Response.bare]

end Responds

end BroadcastHub.Server
