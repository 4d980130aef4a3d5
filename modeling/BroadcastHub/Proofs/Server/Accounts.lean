import BroadcastHub.Server.Hub

/-!
# What the chronicle tells about single things

The chronicle holds what happened latest first; accounts are given in the
order in which things happened.
-/

namespace BroadcastHub.Server

/-- What the happenings of a chronicle tell, oldest first. -/
def account
    {α : Type} (tells : Happening → List α) (chronicle : List Entry) : List α :=
  chronicle.reverse.flatMap fun entry => tells entry.happening

section

variable {α : Type} (tells : Happening → List α)

@[simp] theorem account_nil : account tells [] = [] := rfl

@[simp] theorem account_cons (entry : Entry) (older : List Entry) :
    account tells (entry :: older) =
      account tells older ++ tells entry.happening := by
  simp [account]

@[simp] theorem account_append (newer older : List Entry) :
    account tells (newer ++ older) =
      account tells older ++ account tells newer := by
  simp [account]

theorem account_of_silent
    {news : List Entry} (silent : ∀ entry ∈ news, tells entry.happening = []) :
    account tells news = [] := by
  simp only [account, List.flatMap_eq_nil_iff, List.mem_reverse]
  exact silent

theorem mem_account {chronicle : List Entry} {item : α} :
    item ∈ account tells chronicle ↔
      ∃ entry ∈ chronicle, item ∈ tells entry.happening := by
  simp [account]

end

/-- What a happening tells about the octets that a client has written. -/
def Happening.fedBy (id : PeerId) : Happening → Octets
  | .fed peer octets => if peer = id then octets else []
  | _ => []

/-- The octets that a client has written. -/
def fed (id : PeerId) (chronicle : List Entry) : Octets :=
  account (Happening.fedBy id) chronicle

/-- What a happening tells about what has arrived at a scripted socket. -/
def Happening.arrivedAt (id : PeerId) : Happening → List (Except Fault Frame)
  | .arrived peer item => if peer = id then [item] else []
  | _ => []

/-- The items that have arrived at a scripted socket. -/
def arrived (id : PeerId) (chronicle : List Entry) :
    List (Except Fault Frame) :=
  account (Happening.arrivedAt id) chronicle

/-- Whether something that happened lets something arrive for a peer's
session. -/
def Happening.Reaches (id : PeerId) : Happening → Prop
  | .fed peer _ => peer = id
  | .arrived peer _ => peer = id
  | _ => False

/-- Whether something has arrived for a peer's session. -/
def Reached (id : PeerId) (chronicle : List Entry) : Prop :=
  ∃ entry ∈ chronicle, entry.happening.Reaches id

/-- What a happening tells about frames that a session has taken. -/
def Happening.takenBy (id : PeerId) : Happening → List Frame
  | .took peer (.ok frame) => if peer = id then [frame] else []
  | _ => []

def taken (id : PeerId) (chronicle : List Entry) : List Frame :=
  account (Happening.takenBy id) chronicle

/-- What a happening tells about what a session has taken, frames or not. -/
def Happening.tookBy (id : PeerId) : Happening → List (Except Fault Frame)
  | .took peer item => if peer = id then [item] else []
  | _ => []

/-- The items that a session has taken. -/
def took (id : PeerId) (chronicle : List Entry) : List (Except Fault Frame) :=
  account (Happening.tookBy id) chronicle

/-- A task that asks a socket, and what it asks for. -/
abbrev Call := TaskId × SinkRequest

def Call.octets (call : Call) : Octets := Wire.encode (Link.frameOf call.2)

/-- What a happening tells about what a peer's socket has been asked. -/
def Happening.callsTo (id : PeerId) : Happening → List Call
  | .asked task peer request => if peer = id then [(task, request)] else []
  | _ => []

/-- What a happening tells about writes to a peer that have succeeded. -/
def Happening.successesAt (id : PeerId) : Happening → List Call
  | .wrote task peer frame (.ok ()) =>
      if peer = id then [(task, .frame frame)] else []
  | _ => []

/-- What a peer's socket has been asked, in that order. -/
def calls (id : PeerId) (chronicle : List Entry) : List Call :=
  account (Happening.callsTo id) chronicle

/-- The calls for writes to a peer that have succeeded. -/
def successes (id : PeerId) (chronicle : List Entry) : List Call :=
  account (Happening.successesAt id) chronicle

/-- A broadcast that was called for: its first delivery, those to whom it goes,
by one delivery each, and what it brings. -/
structure FanOut where
  first : TaskId
  recipients : List PeerId
  frame : Frame

namespace FanOut

/-- The first task after its deliveries. -/
def stop (fanOut : FanOut) : TaskId := fanOut.first + fanOut.recipients.length

/-- Whether a task is one of its deliveries. -/
def launches (fanOut : FanOut) (task : TaskId) : Bool :=
  fanOut.first ≤ task && task < fanOut.stop

/-- To whom a task brings it. -/
def recipient? (fanOut : FanOut) (task : TaskId) : Option PeerId :=
  fanOut.recipients[task - fanOut.first]?

/-- Its deliveries have been started before those of another broadcast. -/
def Precedes (fanOut other : FanOut) : Prop := fanOut.stop ≤ other.first

theorem launches_iff {fanOut : FanOut} {task : TaskId} :
    fanOut.launches task = true ↔ fanOut.first ≤ task ∧ task < fanOut.stop := by
  rw [launches, Bool.and_eq_true, decide_eq_true_eq, decide_eq_true_eq]

end FanOut

def Happening.fanOuts : Happening → List FanOut
  | .broadcast first recipients frame _ => [⟨first, recipients, frame⟩]
  | _ => []

/-- The broadcasts, in the order in which they were called for. -/
def fanOuts (chronicle : List Entry) : List FanOut :=
  account Happening.fanOuts chronicle

theorem mem_fanOuts {fanOut : FanOut} {chronicle : List Entry} :
    fanOut ∈ fanOuts chronicle ↔ ∃ entry ∈ chronicle, ∃ limit,
      entry.happening =
        .broadcast fanOut.first fanOut.recipients fanOut.frame limit := by
  refine (mem_account Happening.fanOuts).trans
    (exists_congr fun entry => and_congr_right fun _ => ?_)
  cases entry.happening with
  | broadcast first recipients frame limit =>
      refine List.mem_singleton.trans ⟨?_, ?_⟩
      · rintro rfl
        exact ⟨limit, rfl⟩
      · rintro ⟨other, ⟨⟩⟩
        rfl
  | _ => exact ⟨by rintro ⟨⟩, by rintro ⟨_, ⟨⟩⟩⟩

theorem inTurn_singleton (time : Instant) (happening : Happening) :
    (fanOuts [⟨time, happening⟩]).Pairwise FanOut.Precedes := by
  cases happening with
  | broadcast => exact List.pairwise_singleton _ _
  | _ => exact .nil

theorem fed_of_not_reached {id : PeerId} {chronicle : List Entry}
    (quiet : ¬ Reached id chronicle) : fed id chronicle = [] := by
  apply account_of_silent
  intro entry member
  cases same : entry.happening with
  | fed peer octets =>
      apply if_neg
      intro isPeer
      exact quiet ⟨entry, member, by rw [same]; exact isPeer⟩
  | _ => rfl

theorem arrived_of_not_reached {id : PeerId} {chronicle : List Entry}
    (quiet : ¬ Reached id chronicle) : arrived id chronicle = [] := by
  apply account_of_silent
  intro entry member
  cases same : entry.happening with
  | arrived peer item =>
      apply if_neg
      intro isPeer
      exact quiet ⟨entry, member, by rw [same]; exact isPeer⟩
  | _ => rfl

theorem not_reached_nil (id : PeerId) : ¬ Reached id [] := by
  rintro ⟨entry, member, -⟩
  cases member

theorem reached_append {id : PeerId} {newer older : List Entry} :
    Reached id (newer ++ older) ↔ Reached id newer ∨ Reached id older := by
  simp only [Reached, List.mem_append, or_and_right, exists_or]

section

variable (id : PeerId) (entry : Entry) (newer older : List Entry)

@[simp] theorem fed_append :
    fed id (newer ++ older) = fed id older ++ fed id newer :=
  account_append _ newer older

@[simp] theorem fed_cons :
    fed id (entry :: older) = fed id older ++ entry.happening.fedBy id :=
  account_cons _ entry older

@[simp] theorem arrived_append :
    arrived id (newer ++ older) = arrived id older ++ arrived id newer :=
  account_append _ newer older

@[simp] theorem arrived_cons :
    arrived id (entry :: older) =
      arrived id older ++ entry.happening.arrivedAt id :=
  account_cons _ entry older

@[simp] theorem took_append :
    took id (newer ++ older) = took id older ++ took id newer :=
  account_append _ newer older

@[simp] theorem took_cons :
    took id (entry :: older) = took id older ++ entry.happening.tookBy id :=
  account_cons _ entry older

@[simp] theorem taken_append :
    taken id (newer ++ older) = taken id older ++ taken id newer :=
  account_append _ newer older

@[simp] theorem calls_append :
    calls id (newer ++ older) = calls id older ++ calls id newer :=
  account_append _ newer older

@[simp] theorem calls_cons :
    calls id (entry :: older) = calls id older ++ entry.happening.callsTo id :=
  account_cons _ entry older

@[simp] theorem fanOuts_append :
    fanOuts (newer ++ older) = fanOuts older ++ fanOuts newer :=
  account_append _ newer older

@[simp] theorem successes_append :
    successes id (newer ++ older) = successes id older ++ successes id newer :=
  account_append _ newer older

@[simp] theorem successes_cons :
    successes id (entry :: older) =
      successes id older ++ entry.happening.successesAt id :=
  account_cons _ entry older

end

end BroadcastHub.Server
