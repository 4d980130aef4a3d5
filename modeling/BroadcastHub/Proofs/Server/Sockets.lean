import BroadcastHub.Proofs.Server.Course

/-!
# The two directions of a socket

Writing to a socket leaves alone what has arrived, and taking what has
arrived leaves alone what is on its way out.
-/

namespace BroadcastHub.Server

namespace Link

variable (link : Link)

@[simp] theorem intake_flush : link.flush.1.intake = link.intake := by
  unfold flush
  split
  · rfl
  · split <;> rfl

@[simp] theorem intake_encodeAccepted :
    link.encodeAccepted.1.intake = link.intake := by
  unfold encodeAccepted
  split
  · rfl
  · by_cases full : enough ≤ link.encoded.length
    · simp only [if_pos full]
      split <;> exact intake_flush link
    · simp only [if_neg full]
      rfl

@[simp] theorem intake_place (frame : Frame) :
    (link.place frame).1.intake = link.intake := by
  unfold place
  simp only
  split <;> exact intake_encodeAccepted link

@[simp] theorem intake_push : link.push.1.intake = link.intake := by
  unfold push
  simp only
  split
  · rw [intake_flush, intake_encodeAccepted]
  · exact intake_encodeAccepted link

@[simp] theorem intake_conclude (request : SinkRequest) :
    (link.conclude request).intake = link.intake := by
  cases request <;> rfl

@[simp] theorem intake_proceedFlushing (request : SinkRequest) :
    (link.proceedFlushing request).1.intake = link.intake := by
  have pushed := intake_push link
  unfold proceedFlushing
  split <;> rename_i same <;> rw [same] at pushed
  · rw [intake_conclude]
    exact pushed
  · exact pushed
  · exact pushed

@[simp] theorem intake_proceedPlacing (request : SinkRequest) :
    (link.proceedPlacing request).1.intake = link.intake := by
  have placed := intake_place link (frameOf request)
  unfold proceedPlacing
  split <;> rename_i same <;> rw [same] at placed
  · rw [intake_proceedFlushing]
    exact placed
  · exact placed
  · exact placed

@[simp] theorem desk_decodeNext : link.decodeNext.1.desk = link.desk := rfl

@[simp] theorem desk_readPipe : link.readPipe.desk = link.desk := rfl

@[simp] theorem desk_take : link.take.1.desk = link.desk := by
  have first := desk_decodeNext link
  have second := desk_decodeNext link.decodeNext.1.readPipe
  unfold take
  split <;> rename_i same <;> rw [same] at first second
  · exact first
  · exact first
  · split
    · split <;> exact first
    · split <;> rename_i later <;> rw [later] at second
      · exact second.trans first
      · exact second.trans first
      · split <;> exact second.trans first

end Link

namespace ScriptedSocket

variable (socket : ScriptedSocket)

@[simp] theorem inbox_conclude (request : SinkRequest) (fails : Bool) :
    (socket.conclude request fails).1.inbox = socket.inbox := by
  cases request <;> cases fails <;> rfl

@[simp] theorem inbox_noteRequest (request : SinkRequest) :
    (socket.noteRequest request).inbox = socket.inbox := by
  cases request <;> rfl

end ScriptedSocket

namespace Socket

variable (socket : Socket)

@[simp] theorem intake?_start
    (now : Instant) (order : Nat) (request : SinkRequest) :
    (socket.start now order request).1.intake? = socket.intake? := by
  cases socket with
  | scripted socket => rfl
  | link connection =>
      exact congrArg some (Link.intake_proceedPlacing connection request)

@[simp] theorem inbox?_start
    (now : Instant) (order : Nat) (request : SinkRequest) :
    (socket.start now order request).1.inbox? = socket.inbox? := by
  cases socket with
  | link connection => rfl
  | scripted socket =>
      simp only [start, inbox?, ScriptedSocket.start]
      split
      · exact congrArg some ((ScriptedSocket.inbox_conclude _ _ _).trans
          (ScriptedSocket.inbox_noteRequest _ _))
      · exact congrArg some (ScriptedSocket.inbox_noteRequest _ _)

@[simp] theorem isSome_desk?_start
    (now : Instant) (order : Nat) (request : SinkRequest) :
    (socket.start now order request).1.desk?.isSome = socket.desk?.isSome := by
  cases socket <;> rfl

/-- Going on with a request either writes to the socket or does nothing. -/
theorem proceed_keeps
    (now : Instant) (request : SinkRequest) (operation : Operation) :
    (socket.proceed now request operation).1.intake? = socket.intake? ∧
      (socket.proceed now request operation).1.inbox? = socket.inbox? ∧
      (socket.proceed now request operation).1.desk?.isSome =
        socket.desk?.isSome := by
  cases socket with
  | scripted socket =>
      cases operation with
      | pausing alarm fails =>
          simp only [proceed]
          split
          · exact ⟨rfl, congrArg some (ScriptedSocket.inbox_conclude _ _ _),
              rfl⟩
          · exact ⟨rfl, rfl, rfl⟩
      | placing => exact ⟨rfl, rfl, rfl⟩
      | flushing => exact ⟨rfl, rfl, rfl⟩
  | link connection =>
      cases operation with
      | pausing alarm fails => exact ⟨rfl, rfl, rfl⟩
      | placing =>
          exact ⟨congrArg some (Link.intake_proceedPlacing connection request),
            rfl, rfl⟩
      | flushing =>
          exact ⟨congrArg some (Link.intake_proceedFlushing connection request),
            rfl, rfl⟩

theorem abandon_keeps (request : SinkRequest) :
    (socket.abandon request).intake? = socket.intake? ∧
      (socket.abandon request).inbox? = socket.inbox? ∧
      (socket.abandon request).desk?.isSome = socket.desk?.isSome := by
  cases socket with
  | link connection => exact ⟨rfl, rfl, rfl⟩
  | scripted socket => cases request <;> exact ⟨rfl, rfl, rfl⟩

@[simp] theorem desk?_take : socket.take.1.desk? = socket.desk? := by
  cases socket with
  | scripted socket =>
      simp only [take]
      split <;> rfl
  | link connection => exact congrArg some (Link.desk_take connection)

@[simp] theorem sent?_take : socket.take.1.sent? = socket.sent? := by
  cases socket with
  | scripted socket =>
      simp only [take]
      split <;> rfl
  | link connection => rfl

end Socket

/-! ### What a socket answers -/

/-- Whether an answer is one that sockets give: nothing fails but the
connection. -/
def Answers (result : Except Fault Unit) : Prop :=
  result = .ok () ∨ result = .error Fault.brokenPipe

namespace Link

variable (link : Link)

theorem fault_flush {fault : Fault} (failed : link.flush.2 = .failed fault) :
    fault = Fault.brokenPipe := by
  unfold flush at failed
  split at failed
  · cases failed
  · split at failed
    · cases failed
      rfl
    · simp only at failed
      split at failed <;> cases failed

theorem fault_encodeAccepted
    {fault : Fault} (failed : link.encodeAccepted.2 = .failed fault) :
    fault = Fault.brokenPipe := by
  unfold encodeAccepted at failed
  split at failed
  · cases failed
  · by_cases full : enough ≤ link.encoded.length
    · simp only [if_pos full] at failed
      split at failed
      · cases failed
      · exact fault_flush link failed
    · simp only [if_neg full] at failed
      cases failed

theorem fault_place
    {frame : Frame} {fault : Fault}
    (failed : (link.place frame).2 = .failed fault) :
    fault = Fault.brokenPipe := by
  unfold place at failed
  simp only at failed
  split at failed
  · cases failed
  · exact fault_encodeAccepted link failed

theorem fault_push {fault : Fault} (failed : link.push.2 = .failed fault) :
    fault = Fault.brokenPipe := by
  unfold push at failed
  simp only at failed
  split at failed
  · exact fault_flush _ failed
  · exact fault_encodeAccepted link failed

theorem answers_proceedFlushing
    {request : SinkRequest} {result : Except Fault Unit}
    (done : (link.proceedFlushing request).2 = .done result) :
    Answers result := by
  have faults :
      ∀ fault, link.push.2 = .failed fault → fault = Fault.brokenPipe :=
    fun _ => fault_push link
  unfold proceedFlushing at done
  split at done <;> rename_i same <;> rw [same] at faults <;> cases done
  · exact .inl rfl
  · exact .inr (congrArg Except.error (faults _ rfl))

theorem answers_proceedPlacing
    {request : SinkRequest} {result : Except Fault Unit}
    (done : (link.proceedPlacing request).2 = .done result) :
    Answers result := by
  have faults : ∀ fault, (link.place (frameOf request)).2 = .failed fault →
      fault = Fault.brokenPipe :=
    fun _ => fault_place link
  unfold proceedPlacing at done
  split at done <;> rename_i same <;> rw [same] at faults
  · exact answers_proceedFlushing _ done
  · cases done
  · cases done
    exact .inr (congrArg Except.error (faults _ rfl))

end Link

theorem ScriptedSocket.answers_conclude
    (socket : ScriptedSocket) (request : SinkRequest) (fails : Bool) :
    Answers (socket.conclude request fails).2 := by
  cases request <;> cases fails
  · exact .inl rfl
  · exact .inr rfl
  · exact .inl rfl
  · exact .inr rfl

namespace Socket

variable {socket after : Socket} {now : Instant} {request : SinkRequest}
  {result : Except Fault Unit}

theorem answers_start
    {order : Nat}
    (started : socket.start now order request = (after, .done result)) :
    Answers result := by
  cases socket with
  | scripted scripted =>
      have done : (scripted.start now order request).2 = .done result :=
        congrArg Prod.snd started
      unfold ScriptedSocket.start at done
      simp only at done
      split at done
      · cases done
        exact ScriptedSocket.answers_conclude _ _ _
      · cases done
  | link link => exact link.answers_proceedPlacing (congrArg Prod.snd started)

theorem answers_proceed {operation : Operation}
    (proceeded : socket.proceed now request operation = (after, .done result)) :
    Answers result := by
  cases socket with
  | scripted scripted =>
      cases operation with
      | pausing alarm fails =>
          unfold proceed at proceeded
          simp only at proceeded
          split at proceeded
          · cases proceeded
            exact ScriptedSocket.answers_conclude _ _ _
          · cases proceeded
      | placing => cases proceeded
      | flushing => cases proceeded
  | link link =>
      cases operation with
      | pausing alarm fails => cases proceeded
      | placing =>
          exact link.answers_proceedPlacing (congrArg Prod.snd proceeded)
      | flushing =>
          exact link.answers_proceedFlushing (congrArg Prod.snd proceeded)

end Socket

end BroadcastHub.Server
