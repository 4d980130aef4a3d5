import BroadcastHub.Proofs.Scenario.BroadcastOutcome
import BroadcastHub.Proofs.Scenario.Farewell
import BroadcastHub.Proofs.Scenario.WriteDiscipline
import BroadcastHub.Proofs.Server.Sequence

/-!
# The order of broadcasts

When tasks go on in the order in which they were started or woken, the socket of
every recipient is asked to take the frames of broadcasts in the order in which
these were called for, whatever becomes of the writes before them.  So all
recipients get the broadcasts that they share in the same order.
-/

namespace BroadcastHub.Server

/-- Which of the broadcasts so far a task brings to its recipient, counted from
the first one. -/
def broadcastOf? (chronicle : List Entry) (task : TaskId) : Option Nat :=
  (fanOuts chronicle).findIdx? fun fanOut => fanOut.launches task

/-- The broadcasts that a peer's socket has been asked to take, in the order in
which it was. -/
def heard (id : PeerId) (chronicle : List Entry) : List Nat :=
  (calls id chronicle).filterMap fun call => broadcastOf? chronicle call.1

/-- A task of a broadcast brings its frame to one of its recipients. -/
def Brings
    (chronicle : List Entry) (number : Nat) (task : TaskId) (id : PeerId)
    (frame : Frame) : Prop :=
  ∃ fanOut, (fanOuts chronicle)[number]? = some fanOut ∧
    fanOut.recipient? task = some id ∧
    fanOut.frame = frame

section

variable {chronicle newer older : List Entry} {task other : TaskId}
  {number later : Nat} {fanOut : FanOut}

theorem exists_of_broadcastOf?
    (isBroadcast : broadcastOf? chronicle task = some number) :
    ∃ fanOut, (fanOuts chronicle)[number]? = some fanOut ∧
      fanOut.launches task = true := by
  obtain ⟨below, launches, -⟩ :=
    List.findIdx?_eq_some_iff_getElem.mp isBroadcast
  exact ⟨_, List.getElem?_eq_getElem below, launches⟩

theorem broadcastOf?_append
    (isBroadcast : broadcastOf? older task = some number) :
    broadcastOf? (newer ++ older) task = some number := by
  have isFirst : (fanOuts older).findIdx? (fun fanOut => fanOut.launches task) =
      some number :=
    isBroadcast
  rw [broadcastOf?, fanOuts_append, List.findIdx?_append, isFirst]
  rfl

end

namespace LaunchOrder

variable {hub : Hub} {task other : TaskId} {number later : Nat}
  {fanOut : FanOut}

theorem broadcastOf?_eq
    (order : LaunchOrder hub)
    (listed : (fanOuts hub.chronicle)[number]? = some fanOut)
    (launches : fanOut.launches task = true) :
    broadcastOf? hub.chronicle task = some number := by
  obtain ⟨below, rfl⟩ := List.getElem?_eq_some_iff.mp listed
  refine List.findIdx?_eq_some_iff_getElem.mpr ⟨below, launches,
    fun early isEarly launchesToo => ?_⟩
  have precedes := List.pairwise_iff_getElem.mp order.inTurn early number
    (Nat.lt_trans isEarly below) below isEarly
  exact Nat.not_lt.mpr
    (Nat.le_trans precedes (FanOut.launches_iff.mp launches).1)
    (FanOut.launches_iff.mp launchesToo).2

theorem broadcastOf?_mono
    (order : LaunchOrder hub) (less : task < other)
    (first : broadcastOf? hub.chronicle task = some number)
    (second : broadcastOf? hub.chronicle other = some later) :
    number ≤ later := by
  obtain ⟨early, isEarly, launches⟩ := exists_of_broadcastOf? first
  obtain ⟨late, isLate, launchesToo⟩ := exists_of_broadcastOf? second
  obtain ⟨below, rfl⟩ := List.getElem?_eq_some_iff.mp isEarly
  obtain ⟨belowToo, rfl⟩ := List.getElem?_eq_some_iff.mp isLate
  refine Nat.le_of_not_lt fun isBefore => ?_
  have precedes := List.pairwise_iff_getElem.mp order.inTurn later number
    belowToo below isBefore
  have reversed : other < task :=
    Nat.lt_of_lt_of_le (FanOut.launches_iff.mp launchesToo).2
      (Nat.le_trans precedes (FanOut.launches_iff.mp launches).1)
  exact Nat.lt_asymm less reversed

end LaunchOrder

namespace Broadcasts

variable {hub : Hub} {task other : TaskId} {number : Nat} {id : PeerId}
  {call : Call}

/-- Whatever a delivery asks is to take its broadcast's frame, of its
recipient. -/
theorem brings_of_call
    (broadcasts : Broadcasts hub) (isCall : call ∈ calls id hub.chronicle)
    (isBroadcast : broadcastOf? hub.chronicle call.1 = some number) :
    ∃ frame, call.2 = .frame frame ∧
      Brings hub.chronicle number call.1 id frame := by
  obtain ⟨fanOut, listed, launches⟩ := exists_of_broadcastOf? isBroadcast
  obtain ⟨_, recipient, limit, isRecipient, delivery⟩ :=
    broadcasts.exists_delivery (List.mem_of_getElem? listed) launches
  obtain ⟨entry, member, tells⟩ :=
    (mem_account (Happening.callsTo id)).mp isCall
  obtain ⟨time, happening⟩ := entry
  cases happening with
  | asked caller peer request =>
      change call ∈ if peer = id then [(caller, request)] else [] at tells
      split at tells
      · rename_i isPeer
        cases List.mem_singleton.mp tells
        obtain ⟨rfl, rfl⟩ :=
          delivery.outcome.asksForFrame time peer request member
        exact ⟨fanOut.frame, rfl, fanOut, listed, isPeer ▸ isRecipient, rfl⟩
      · cases tells
  | _ => cases tells

/-- A broadcast has one delivery for each recipient. -/
theorem eq_of_brings
    (broadcasts : Broadcasts hub) {content frame : Frame}
    (first : broadcastOf? hub.chronicle task = some number)
    (second : broadcastOf? hub.chronicle other = some number)
    (brings : Brings hub.chronicle number task id content)
    (bringsToo : Brings hub.chronicle number other id frame) :
    task = other := by
  obtain ⟨fanOut, listed, launches⟩ := exists_of_broadcastOf? first
  obtain ⟨_, listedToo, launchesToo⟩ := exists_of_broadcastOf? second
  obtain ⟨_, isListed, isRecipient, -⟩ := brings
  obtain ⟨_, isListedToo, isRecipientToo, -⟩ := bringsToo
  cases listed.symm.trans listedToo
  cases listed.symm.trans isListed
  cases listed.symm.trans isListedToo
  obtain ⟨entry, member, limit, same⟩ :=
    mem_fanOuts.mp (List.mem_of_getElem? listed)
  have distinct := broadcasts.distinct entry member _ _ _ _ same
  obtain ⟨below, isId⟩ := List.getElem?_eq_some_iff.mp isRecipient
  obtain ⟨belowToo, isIdToo⟩ := List.getElem?_eq_some_iff.mp isRecipientToo
  have samePlace : task - fanOut.first = other - fanOut.first :=
    (List.Nodup.getElem_inj_iff distinct).mp (isId.trans isIdToo.symm)
  have first_le := (FanOut.launches_iff.mp launches).1
  have first_leToo := (FanOut.launches_iff.mp launchesToo).1
  calc
    task = fanOut.first + (task - fanOut.first) :=
      (Nat.add_sub_of_le first_le).symm
    _ = fanOut.first + (other - fanOut.first) := by rw [samePlace]
    _ = other := Nat.add_sub_of_le first_leToo

end Broadcasts

/-- The socket of every peer is asked to take broadcasts in the order of their
calls, each at most once. -/
theorem InSequence.heard
    {hub : Hub} (inSequence : InSequence hub) (broadcasts : Broadcasts hub)
    (order : LaunchOrder hub) (id : PeerId) :
    (heard id hub.chronicle).Pairwise (· < ·) := by
  have handed : (hub.handed id).Pairwise (· < ·) :=
    (inSequence.sequence id).sublist (List.sublist_append_left _ _)
  have rises : (calls id hub.chronicle).Pairwise fun call other =>
      hub.isDelivery call.1 = true → hub.isDelivery other.1 = true →
        call.1 < other.1 := by
    have among := List.pairwise_filter.mp handed
    exact List.pairwise_map.mp among
  have counted :
      ∀ {task number}, broadcastOf? hub.chronicle task = some number →
      hub.isDelivery task = true := by
    intro task number isBroadcast
    obtain ⟨fanOut, listed, launches⟩ := exists_of_broadcastOf? isBroadcast
    exact List.any_eq_true.mpr ⟨fanOut, List.mem_of_getElem? listed, launches⟩
  refine List.pairwise_filterMap.mpr (rises.imp_of_mem ?_)
  intro call other isCall isOther rises number isBroadcast later isBroadcastToo
  have less := rises (counted isBroadcast) (counted isBroadcastToo)
  refine Nat.lt_of_le_of_ne
    (order.broadcastOf?_mono less isBroadcast isBroadcastToo) ?_
  rintro rfl
  obtain ⟨_, -, brings⟩ := broadcasts.brings_of_call isCall isBroadcast
  obtain ⟨_, -, bringsToo⟩ := broadcasts.brings_of_call isOther isBroadcastToo
  exact Nat.ne_of_lt less (broadcasts.eq_of_brings isBroadcast isBroadcastToo
    brings bringsToo)

/-- What two rising lists share stands in the same order in both of them. -/
theorem filter_mem_comm_of_pairwise
    {one other : List Nat} (rises : one.Pairwise (· < ·))
    (risesToo : other.Pairwise (· < ·)) :
    one.filter (fun number => number ∈ other) = other.filter fun number =>
      number ∈ one := by
  have left := rises.filter fun number => number ∈ other
  have right := risesToo.filter fun number => number ∈ one
  refine List.Perm.eq_of_pairwise
    (fun _ _ _ _ less more => absurd less (Nat.lt_asymm more)) left right ?_
  refine (List.perm_ext_iff_of_nodup (left.imp Nat.ne_of_lt)
    (right.imp Nat.ne_of_lt)).mpr ?_
  intro number
  simp only [List.mem_filter, decide_eq_true_eq]
  exact and_comm

end BroadcastHub.Server

namespace BroadcastHub.Scenario

open Server

variable {manner : Manner} {holds : Play → Prop} {configuration : Configuration}
  {play : Play}

theorem Run.broadcasts (run : Run manner holds configuration play) :
    Broadcasts play.hub :=
  run.invariant (Broadcasts.start configuration) fun _ _ _ turnover =>
    Broadcasts.turn turnover

theorem Run.launchOrder (run : Run manner holds configuration play) :
    LaunchOrder play.hub :=
  run.invariant (LaunchOrder.start configuration) fun _ _ _ turnover =>
    LaunchOrder.turn turnover

theorem Run.inSequence
    (run : Run manner holds configuration play) (inOrder : manner.inOrder) :
    InSequence play.hub :=
  run.invariant (InSequence.start configuration)
    fun _ _ before turnover inSequence =>
    inSequence.turn inOrder before.housed before.broadcasts before.lines
    before.prompt turnover

/-- The sockets of all recipients are asked to take the frames of broadcasts in
the order in which the broadcasts were called for, each at most once, and two
recipients get those that they share in one order. -/
theorem broadcast_order
    (run : Run manner holds configuration play) (inOrder : manner.inOrder) :
    (∀ task peer frame limit stage,
      play.hub.task task = .deliver peer frame limit stage →
      ∃ number, broadcastOf? play.hub.chronicle task = some number ∧
        Brings play.hub.chronicle number task peer frame ∧
        ∀ later, Moves manner play later →
          broadcastOf? later.hub.chronicle task = some number) ∧
    (∀ id, ∀ call ∈ calls id play.hub.chronicle, ∀ number,
      broadcastOf? play.hub.chronicle call.1 = some number →
        ∃ frame, call.2 = .frame frame ∧
          Brings play.hub.chronicle number call.1 id frame) ∧
    (∀ id, (heard id play.hub.chronicle).Pairwise (· < ·)) ∧
    ∀ one other,
      (heard one play.hub.chronicle).filter
        (fun number => number ∈ heard other play.hub.chronicle) =
        (heard other play.hub.chronicle).filter fun number =>
          number ∈ heard one play.hub.chronicle := by
  have rises : ∀ id, (heard id play.hub.chronicle).Pairwise (· < ·) :=
    (run.inSequence inOrder).heard run.broadcasts run.launchOrder
  refine ⟨fun task peer frame limit stage isDelivery => ?_,
    fun id call isCall number isBroadcast =>
    run.broadcasts.brings_of_call isCall isBroadcast, rises, fun one other =>
    filter_mem_comm_of_pairwise (rises one) (rises other)⟩
  obtain ⟨fanOut, member, launches, isRecipient, isFrame⟩ :=
    run.launchOrder.announced task peer frame limit stage isDelivery
  obtain ⟨number, listed⟩ := List.mem_iff_getElem?.mp member
  have isBroadcast := run.launchOrder.broadcastOf?_eq listed launches
  refine ⟨number, isBroadcast, ⟨fanOut, listed, isRecipient, isFrame⟩,
    fun later moves => ?_⟩
  induction moves with
  | refl => exact isBroadcast
  | tail moves move numbered =>
      obtain ⟨news, grows⟩ := (Turnover.ofMove move).exists_news
      rw [grows]
      exact broadcastOf?_append numbered

/-! ### Two recipients -/

/-- Two broadcasts have been called for when there are two clients.  The socket
of the first one takes a second for a frame. -/
def Play.paired : Play :=
  let slow :=
    (((Play.start {}).perform (.serve { delay := 1000 })).2.goOn 0).goOn 0
  let both := ((slow.perform (.serve {})).2.goOn 1).goOn 1
  let first := (both.perform (.broadcast (.binary [1]) (.ofMillis 5000))).2
  (first.perform (.broadcast (.binary [2]) (.ofMillis 5000))).2

/-- The second client has both of them, and the first one waits for the first of
them. -/
def Play.halfway : Play := [2, 3, 4, 5, 6, 7].foldl Play.goOn Play.paired

/-- The first client has the first of them, and its socket has been asked to
take the second. -/
def Play.caughtUp : Play :=
  ((Play.halfway.withHub fun hub => { hub with now := 1000000000 }.wake 2).goOn
    2).goOn 5

theorem Run.paired : Run .crowds (fun _ => True) {} .paired := by
  have started : Run .crowds (fun _ => True) {} (Play.start {}) :=
    .start _ trivial
  have slow :=
    started.move (.act (.inl ⟨{ delay := 1000 }, rfl⟩) rfl (by rintro _ ⟨⟩))
      trivial
  have opened := slow.move (.goOn 0 (by decide) fun _ => rfl) trivial
  have waiting := opened.move (.goOn 0 (by decide) fun _ => rfl) trivial
  have quick :=
    waiting.move (.act (.inl ⟨{}, rfl⟩) rfl (by rintro _ ⟨⟩)) trivial
  have openedToo := quick.move (.goOn 1 (by decide) fun _ => rfl) trivial
  have both := openedToo.move (.goOn 1 (by decide) fun _ => rfl) trivial
  have first := both.move
    (.act (.inr ⟨[1], .ofMillis 5000, rfl⟩) rfl (by rintro _ ⟨⟩)) trivial
  exact first.move (.act (.inr ⟨[2], .ofMillis 5000, rfl⟩) rfl (by rintro _ ⟨⟩))
    trivial

theorem Run.halfway : Run .crowds (fun _ => True) {} .halfway := by
  have begun := Run.paired.move (.goOn 2 (by decide) fun _ => rfl) trivial
  have reached := begun.move (.goOn 3 (by decide) fun _ => rfl) trivial
  have counted := reached.move (.goOn 4 (by decide) fun _ => rfl) trivial
  have inLine := counted.move (.goOn 5 (by decide) fun _ => rfl) trivial
  have reachedToo := inLine.move (.goOn 6 (by decide) fun _ => rfl) trivial
  exact reachedToo.move (.goOn 7 (by decide) fun _ => rfl) trivial

theorem Run.caughtUp : Run .crowds (fun _ => True) {} .caughtUp := by
  have early : ∀ entry ∈ Play.halfway.hub.alarms,
      1000000000 ≤ max Play.halfway.hub.now entry.1.due.tick := by
    decide
  have rung : { Play.halfway.hub with now := 1000000000 }.alarms.filter
      (fun (alarm, _) => Alarm.hasRung alarm 1000000000) =
        [(⟨1000000000, 2⟩, 2)] := by
    decide
  have late :=
    Run.halfway.move (.tickWaking rfl (Nat.zero_le _) (by decide) early rung)
      trivial
  have reached := late.move (.goOn 2 (by decide) fun _ => rfl) trivial
  exact reached.move (.goOn 5 (by decide) fun _ => rfl) trivial

/-- Both recipients get both broadcasts in the order of their calls. -/
theorem broadcast_order_of_pair :
    heard 0 Play.caughtUp.hub.chronicle = [0, 1] ∧
      heard 1 Play.caughtUp.hub.chronicle = [0, 1] ∧
      (heard 0 Play.caughtUp.hub.chronicle).Pairwise (· < ·) :=
  ⟨rfl, rfl, (broadcast_order Run.caughtUp trivial).2.2.1 0⟩

end BroadcastHub.Scenario
