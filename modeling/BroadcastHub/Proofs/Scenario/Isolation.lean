import BroadcastHub.Proofs.Scenario.Turnover
import BroadcastHub.Proofs.Scenario.Twins
import BroadcastHub.Proofs.Server.Deliveries

/-!
# Sessions are isolated from each other

Broadcasts and heartbeat requests are made at given times at a server with some
sessions.  Of one of them the socket and the client may do what they like, and
its loop may do anything but broadcast.  All other sessions fare the same
whatever it is: two runs in which the same is done to the others, and in which
the same delays are drawn for them, tell the same of them.

A run is cut into flurries, in which all tasks go on that can, and pauses.
Within a flurry the tasks that concern the session are steps aside, and the
others go on in both runs in the same order.  At a pause both runs make the same
calls, or let the same time pass; one of them may stop on its way, for an alarm
that only concerns the session.
-/

namespace BroadcastHub.Server

/-- The delay that a task draws for a reply to any session but one when it goes
on. -/
def Hub.drawBeside (hub : Hub) (id : PeerId) (task : TaskId) : Option Nat :=
  match hub.draws? task with
  | some peer => if peer = id then none else some (hub.chance hub.drawn)
  | none => none

/-- What became of a heartbeat request to a session, and when. -/
abbrev PongOutcome := Instant × PeerId × HeartbeatResult

/-- What becomes of a heartbeat request to any session but one when a task goes
on. -/
def Hub.pongBeside (hub : Hub) (id : PeerId) (task : TaskId) :
    Option PongOutcome :=
  match hub.task task, (hub.goOn task).task task with
  | .pong (some peer) _ _, .finished (.heartbeat result) =>
      if peer = id then none else some (hub.now, peer, result)
  | _, _ => none

section Beside

variable {id : PeerId} {hub : Hub} {task : TaskId}

theorem Hub.drawBeside_of_isWithin
    (within : (hub.task task).isWithin id = true) :
    hub.drawBeside id task = none := by
  unfold drawBeside draws?
  generalize hub.task task = running at within
  cases running
  case pong peer payload stage =>
    cases peer with
    | none => rfl
    | some peer =>
        have own : peer = id := of_decide_eq_true within
        cases stage <;> simp only
        split <;> simp_all
  all_goals rfl

theorem Hub.pongBeside_of_isWithin
    (within : (hub.task task).isWithin id = true) :
    hub.pongBeside id task = none := by
  unfold pongBeside
  generalize hub.task task = running at within
  split
  · exact if_pos (of_decide_eq_true within)
  · rfl

end Beside

theorem Hub.queue_of_next {hub : Hub} {others : List TaskId} {task : TaskId}
    (next : hub.ready.head? = some task) (kept : task ∈ others) :
    ∃ rest, hub.queue others = task :: rest := by
  obtain ⟨rest, same⟩ := List.head?_eq_some_iff.mp next
  refine ⟨rest.filter fun task => task ∈ others, ?_⟩
  rw [queue, same, List.filter_cons, if_pos (decide_eq_true kept)]

theorem Hub.queue_of_still
    {hub : Hub} {others : List TaskId} (still : hub.ready = []) :
    hub.queue others = [] := by
  rw [queue, still]
  rfl

namespace Alike

variable {id : PeerId} {pairs more : TaskPairs} {orders later : AlarmPairs}
  {first second : Hub} {one two : TaskId}

/-- The task that is next in one hub is next among the others' in the other
hub. -/
theorem pair_of_next
    (alike : Alike id pairs orders first second)
    (next : first.ready.head? = some one)
    (nextToo : second.ready.head? = some two) (kept : one ∈ pairs.map Prod.fst)
    (keptToo : two ∈ pairs.map Prod.snd) : (one, two) ∈ pairs := by
  have stands := alike.queue
  obtain ⟨rest, same⟩ := Hub.queue_of_next next kept
  obtain ⟨others, sameToo⟩ := Hub.queue_of_next nextToo keptToo
  rw [same, sameToo] at stands
  obtain ⟨_, _, isTwo, pair, -⟩ := stands.cons_iff
  cases isTwo
  exact pair

theorem luck_of_draws
    (alike : Alike id pairs orders first second) (pair : (one, two) ∈ pairs)
    (agree : ∀ draw other, first.drawBeside id one = some draw →
      second.drawBeside id two = some other → draw = other) :
    ∀ peer, first.draws? one = some peer →
      first.chance first.drawn = second.chance second.drawn := by
  intro peer draws
  have drawsToo := (alike.draws?_eq pair).symm.trans draws
  have different : peer ≠ id := by
    have like := alike.task _ pair
    unfold Hub.draws? at draws
    generalize first.task one = task at like draws
    generalize second.task two = other at like
    cases like with
    | pong different payload stages =>
        cases stages with
        | unstarted =>
            simp only at draws
            split at draws
            · cases draws
              exact different
            · cases draws
        | _ => cases draws
    | _ => cases draws
  refine agree _ _ ?_ ?_
  · simp only [Hub.drawBeside, draws, different, if_false]
  · simp only [Hub.drawBeside, drawsToo, different, if_false]

theorem drawBeside_eq
    (alike : Alike id pairs orders first second) (pair : (one, two) ∈ pairs)
    (luck : ∀ peer, first.draws? one = some peer →
      first.chance first.drawn = second.chance second.drawn) :
    first.drawBeside id one = second.drawBeside id two := by
  have same := alike.draws?_eq pair
  unfold Hub.drawBeside
  rw [← same]
  cases draws : first.draws? one with
  | none => rfl
  | some peer => simp only [luck peer draws]

theorem pongBeside_eq
    (alike : Alike id pairs orders first second) (pair : (one, two) ∈ pairs)
    (next : Alike id (pairs ++ more) later (first.goOn one) (second.goOn two)) :
    first.pongBeside id one = second.pongBeside id two := by
  have like := alike.task _ pair
  have likeToo := next.task _ (List.mem_append_left more pair)
  unfold Hub.pongBeside
  simp only at like likeToo
  rw [alike.now]
  generalize first.task one = task at like
  generalize second.task two = other at like
  generalize (first.goOn one).task one = after at likeToo
  generalize (second.goOn two).task two = afterToo at likeToo
  cases like with
  | pong different payload stages =>
      cases likeToo with
      | finished outcome => cases outcome <;> rfl
      | _ => rfl
  | _ => rfl

end Alike

/-- No alarm rings before the next one does. -/
theorem Hub.ring_of_early
    {hub : Hub} {instant later : Instant}
    (whole : Span.perMillisecond ∣ instant) (early : instant < later)
    (passes : ∀ alarm task, (alarm, task) ∈ hub.alarms →
      later ≤ max hub.now alarm.due.tick)
    (forward : hub.now < instant) :
    { hub with now := instant }.ring = { hub with now := instant } := by
  have none :
      hub.alarms.filter (fun entry => entry.1.hasRung instant) = [] := by
    refine List.filter_eq_nil_iff.mpr fun entry listed => ?_
    intro rung
    have past := Instant.tick_le_of_dvd whole (of_decide_eq_true rung)
    exact absurd (Nat.lt_of_lt_of_le early (passes entry.1 entry.2 listed))
      (Nat.not_lt.mpr (Nat.max_le.mpr ⟨Nat.le_of_lt forward, past⟩))
  show Hub.wakeAll { hub with now := instant } (((hub.alarms.filter fun entry =>
    entry.1.hasRung instant).mergeSort fun first second =>
      first.1.ringsBefore second.1).map
        Prod.snd) = _
  rw [none, List.mergeSort_nil]
  rfl

end BroadcastHub.Server

namespace BroadcastHub.Scenario

open Server

/-! ### Runs -/

/-- Whether something can be done to a session. -/
def Touch.Fits (peer : PeerId) (play : Play) : Touch → Prop
  | write octets =>
      ∃ link, play.link? peer = some link ∧ link.inbound.closed = false ∧
        octets.length ≤ link.inbound.room
  | _ => peer < play.hub.peers.size

def Deed.Fits (play : Play) : Deed → Prop
  | ping (some peer) _ => peer < play.hub.peers.size
  | touch peer kind => kind.Fits peer play
  | _ => True

/-- Whether deeds can be done one after the other. -/
def Deed.FitAll (play : Play) : List Deed → Prop
  | [] => True
  | deed :: rest => deed.Fits play ∧ FitAll (deed.apply play) rest

/-- What happens at an instant: something is done to the session, and the tasks
that are ready go on in their order; the session's loop does not broadcast.
Listed are the delays that are drawn for other sessions, and what becomes of
their heartbeat requests. -/
inductive Flurry (id : PeerId) :
    Play → List Nat → List PongOutcome → Play → Prop
  | nil (play : Play) : Flurry id play [] [] play
  | touch
      {play last : Play} {draws : List Nat} {pongs : List PongOutcome}
      (touch : Touch) (fits : touch.Fits id play)
      (rest : Flurry id (touch.apply id play) draws pongs last) :
      Flurry id play draws pongs last
  | go
      {play last : Play} {draws : List Nat} {pongs : List PongOutcome}
      {task : TaskId} (next : play.hub.ready.head? = some task)
      (quiet : play.hub.KeepsQuiet id task)
      (rest : Flurry id (play.withHub fun hub => hub.goOn task) draws
        pongs last) :
      Flurry id play ((play.hub.drawBeside id task).toList ++ draws)
        ((play.hub.pongBeside id task).toList ++ pongs) last

/-- What a run tells of all sessions but one: what was done to them and when,
the delays that were drawn for them, and what became of their heartbeat
requests. -/
structure Tale where
  deeds : List (Instant × List Deed) := []
  draws : List Nat := []
  pongs : List PongOutcome := []

/-- A run with so many pauses.  When no task is ready, deeds are done or the
clock moves, but not past an alarm. -/
inductive Path (id : PeerId) : Nat → Play → Tale → Play → Prop
  | done {play last : Play} {draws : List Nat} {pongs : List PongOutcome}
      (flurry : Flurry id play draws pongs last) (still : last.hub.ready = []) :
      Path id 0 play { draws, pongs } last
  | deeds
      {play middle last : Play} {draws : List Nat} {pongs : List PongOutcome}
      {deeds : List Deed} {pauses : Nat} {tale : Tale}
      (flurry : Flurry id play draws pongs middle)
      (still : middle.hub.ready = []) (spares : ∀ deed ∈ deeds, deed.Spares id)
      (fit : Deed.FitAll middle deeds)
      (path : Path id pauses (deeds.foldl Deed.apply middle) tale last) :
      Path id (pauses + 1) play
        ⟨(middle.hub.now, deeds) :: tale.deeds, draws ++ tale.draws,
          pongs ++ tale.pongs⟩ last
  | tick
      {play middle last : Play} {draws : List Nat} {pongs : List PongOutcome}
      {later : Instant} {pauses : Nat} {tale : Tale}
      (flurry : Flurry id play draws pongs middle)
      (still : middle.hub.ready = []) (forward : middle.hub.now < later)
      (whole : Span.perMillisecond ∣ later)
      (passes : ∀ alarm task, (alarm, task) ∈ middle.hub.alarms →
        later ≤ max middle.hub.now alarm.due.tick)
      (path : Path id pauses (middle.withHub fun hub =>
        { hub with now := later }.ring) tale last) :
      Path id (pauses + 1) play ⟨tale.deeds, draws ++ tale.draws,
        pongs ++ tale.pongs⟩ last

/-! ### Moves -/

/-- Whether an action brings a session, calls for a broadcast or a reply, or is
done by a client. -/
def Action.IsCall : Action → Prop
  | register _ => True
  | serve _ => True
  | wire _ _ => True
  | arrive _ _ => True
  | endInbox _ => True
  | setScript _ _ => True
  | shut _ => True
  | hangUp _ => True
  | pause _ _ => True
  | ping _ _ => True
  | broadcast _ _ => True
  | _ => False

/-- Runs that consist of such actions, in which tasks go on in their order. -/
def Manner.calls : Manner where
  allows := Action.IsCall
  inOrder := True

theorem Moves.now_le
    {manner : Manner} {before after : Play}
    (moves : Moves manner before after) : before.hub.now ≤ after.hub.now := by
  induction moves with
  | refl => exact Nat.le_refl _
  | tail _ move induction =>
      exact Nat.le_trans induction (Turnover.ofMove move).now_le

theorem Touch.move
    {peer : PeerId} {play : Play} {touch : Touch}
    (fits : touch.Fits peer play) :
    Move .calls play (touch.apply peer play) := by
  have acts : ∀ {action : Action}, action.IsCall → action.isImmediate = true →
      action.about? = some peer → peer < play.hub.peers.size →
      Move .calls play (play.perform action).2 :=
    fun allowed immediate about inside =>
      .act allowed immediate fun other isOther => by
        cases about.symm.trans isOther
        exact inside
  cases touch with
  | arrive items => exact acts trivial rfl rfl fits
  | endInbox => exact acts trivial rfl rfl fits
  | setScript change => exact acts trivial rfl rfl fits
  | write octets =>
      obtain ⟨link, connected, isOpen, room⟩ := fits
      exact .write connected isOpen room
  | shut => exact acts trivial rfl rfl fits
  | hangUp => exact acts trivial rfl rfl fits
  | pause on => exact acts trivial rfl rfl fits
  | read => exact .read peer
  | sip count => exact .sip peer count
  | tidy => exact .tidy peer

theorem Run.gathered
    (configuration : Configuration) (chance : Nat → Nat)
    {sessions : List Action}
    (gather : ∀ action ∈ sessions, action.BringsSession) :
    Run .calls (fun _ => True) configuration
      (.gathered configuration chance sessions) := by
  have performed : ∀ {play : Play} {action : Action}, action.BringsSession →
      Move .calls play (play.perform action).2 := by
    intro play action brings
    cases action with
    | register script => exact .act trivial rfl (by rintro _ ⟨⟩)
    | serve script => exact .act trivial rfl (by rintro _ ⟨⟩)
    | wire room limit => exact .act trivial rfl (by rintro _ ⟨⟩)
    | _ => cases brings
  have all : ∀ {play : Play}, Run .calls (fun _ => True) configuration play →
      Run .calls (fun _ => True) configuration
        (sessions.foldl (fun play action => (play.perform action).2) play) := by
    induction sessions with
    | nil => exact fun run => run
    | cons action rest induction =>
        intro play run
        exact induction (fun other member =>
          gather other (List.mem_cons_of_mem action member))
            (run.move (performed (gather action (List.mem_cons_self ..)))
              trivial)
  exact all (.start chance trivial)

theorem Deed.moves {play : Play} {deed : Deed} (fits : deed.Fits play) :
    Moves .calls play (deed.apply play) := by
  refine .single ?_
  cases deed with
  | broadcast frame limit => exact .act trivial rfl (by rintro _ ⟨⟩)
  | ping peer payload =>
      have allowed : Manner.calls.allows (.ping peer payload) := trivial
      refine .act allowed rfl ?_
      rintro id ⟨⟩
      exact fits
  | look peers =>
      obtain ⟨known, same⟩ := play.exists_known_look peers
      show Move .calls play (play.look peers)
      rw [same]
      exact .notice known play.jobs
  | touch peer kind => exact Touch.move fits

theorem Deed.moves_foldl
    {play : Play} {deeds : List Deed} (fit : Deed.FitAll play deeds) :
    Moves .calls play (deeds.foldl Deed.apply play) := by
  induction deeds generalizing play with
  | nil => exact .refl
  | cons deed rest induction => exact (Deed.moves fit.1).trans (induction fit.2)

theorem Flurry.moves
    {id : PeerId} {play last : Play} {draws : List Nat}
    {pongs : List PongOutcome} (flurry : Flurry id play draws pongs last) :
    Moves .calls play last := by
  induction flurry with
  | nil play => exact .refl
  | touch touch fits rest induction => exact .head (Touch.move fits) induction
  | @go play last draws pongs task next quiet rest induction =>
      exact .head (.goOn task (List.mem_of_mem_head? next) fun _ => next)
        induction

namespace Path

variable {id : PeerId} {pauses : Nat} {play last : Play} {tale : Tale}

theorem moves (path : Path id pauses play tale last) :
    Moves .calls play last := by
  induction path with
  | done flurry still => exact flurry.moves
  | deeds flurry still spares fit path induction =>
      exact (flurry.moves.trans (Deed.moves_foldl fit)).trans induction
  | tick flurry still forward whole passes path induction =>
      exact (flurry.moves.tail
        (.tick still (Nat.le_of_lt forward) whole passes)).trans induction

theorem run
    {configuration : Configuration} {chance : Nat → Nat}
    {sessions : List Action}
    (path : Path id pauses (.gathered configuration chance sessions) tale last)
    (gather : ∀ action ∈ sessions, action.BringsSession) :
    Run .calls (fun _ => True) configuration last :=
  (Run.gathered configuration chance gather).moves path.moves

/-- What is done in a path is not done before it begins. -/
theorem now_le_deeds (path : Path id pauses play tale last) :
    ∀ entry ∈ tale.deeds, play.hub.now ≤ entry.1 := by
  induction path with
  | done flurry still => exact fun _ member => absurd member List.not_mem_nil
  | deeds flurry still spares fit path induction =>
      intro entry member
      have begun := flurry.moves.now_le
      rcases List.mem_cons.mp member with rfl | later
      · exact begun
      · exact Nat.le_trans begun
          (Nat.le_trans (Deed.moves_foldl fit).now_le (induction entry later))
  | tick flurry still forward whole passes path induction =>
      intro entry member
      have moved : Move .calls _ _ :=
        .tick still (Nat.le_of_lt forward) whole passes
      exact Nat.le_trans flurry.moves.now_le
        (Nat.le_trans (Turnover.ofMove moved).now_le (induction entry member))

end Path

/-! ### Twins -/

/-- Two lists that are the same as far as both go. -/
def Agreeing (draws others : List Nat) : Prop :=
  ∀ (position draw other : Nat), draws[position]? = some draw →
    others[position]? = some other →
    draw = other

namespace Agreeing

variable {one two three four : List Nat}

theorem left (agreeing : Agreeing (one ++ two) (three ++ four)) :
    Agreeing one three := by
  intro position draw other isDraw isOther
  have below := (List.getElem?_eq_some_iff.mp isDraw).1
  have belowToo := (List.getElem?_eq_some_iff.mp isOther).1
  refine agreeing position draw other ?_ ?_
  · rw [List.getElem?_append_left below]
    exact isDraw
  · rw [List.getElem?_append_left belowToo]
    exact isOther

theorem right (agreeing : Agreeing (one ++ two) (one ++ four)) :
    Agreeing two four := by
  intro position draw other isDraw isOther
  refine agreeing (one.length + position) draw other ?_ ?_
  · rw [List.getElem?_append_right (Nat.le_add_right _ _),
      Nat.add_sub_cancel_left]
    exact isDraw
  · rw [List.getElem?_append_right (Nat.le_add_right _ _),
      Nat.add_sub_cancel_left]
    exact isOther

theorem ofLeft (agreeing : Agreeing one (three ++ four)) :
    Agreeing one three := by
  rw [← List.append_nil one] at agreeing
  exact agreeing.left

theorem ofRight (agreeing : Agreeing (one ++ two) three) :
    Agreeing one three := by
  rw [← List.append_nil three] at agreeing
  exact agreeing.left

end Agreeing

section Twins

variable {id : PeerId} {first second firstLast secondLast : Play}
  {draws drawsToo : List Nat} {pongs pongsToo : List PongOutcome}

/-- While no task of the others is ready, a flurry only concerns the session. -/
theorem Flurry.beside (flurry : Flurry id second draws pongs secondLast)
    (twins : Twins id first second) (still : first.hub.ready = []) :
    Twins id first secondLast ∧ draws = [] ∧ pongs = [] := by
  induction flurry with
  | nil second => exact ⟨twins, rfl, rfl⟩
  | touch touch fits rest induction =>
      exact induction (twins.aside (.refl id _) (.touch _ id touch))
  | @go second last draws pongs task next quiet rest induction =>
      obtain ⟨pairs, orders, alike⟩ := twins.hubs
      have elsewhere : task ∉ pairs.map Prod.snd := by
        intro kept
        obtain ⟨others, isNext⟩ := Hub.queue_of_next next kept
        cases isNext.symm.trans
          (alike.queue.nil_iff.mp (Hub.queue_of_still still))
      have within := alike.secondFenced.within task elsewhere
      rw [Hub.drawBeside_of_isWithin within, Hub.pongBeside_of_isWithin within]
      have apart := Apart.goOn alike.secondFenced elsewhere quiet
      exact induction ⟨⟨pairs, orders,
        alike.apart (.refl alike.firstFenced) apart⟩, twins.size, twins.known⟩

/-- A flurry comes to the task that stands for the one that is next in its
twin. -/
theorem Flurry.reach
    (flurry : Flurry id second draws pongs secondLast)
    (still : secondLast.hub.ready = []) (twins : Twins id first second)
    {pairs : TaskPairs} {orders : AlarmPairs}
    (alike : Alike id pairs orders first.hub second.hub) {one : TaskId}
    (next : first.hub.ready.head? = some one)
    (kept : one ∈ pairs.map Prod.fst) :
    ∃ middle two rest replies, Twins id first middle ∧
      Alike id pairs orders first.hub middle.hub ∧
      middle.hub.ready.head? = some two ∧ (one, two) ∈ pairs ∧
      Flurry id (middle.withHub fun hub => hub.goOn two) rest replies
      secondLast ∧
      draws = (middle.hub.drawBeside id two).toList ++ rest ∧
      pongs = (middle.hub.pongBeside id two).toList ++ replies := by
  induction flurry with
  | nil second =>
      obtain ⟨others, isNext⟩ := Hub.queue_of_next next kept
      cases isNext.symm.trans
        (alike.queue.nil_iff.mpr (Hub.queue_of_still still))
  | @touch second last draws pongs touch fits rest induction =>
      have aside := Aside.touch second id touch
      exact induction still (twins.aside (.refl id _) aside)
        (alike.apart (.refl alike.firstFenced) (aside.hub _ alike.secondFenced))
  | @go second last draws pongs two nextToo quiet rest induction =>
      by_cases keptToo : two ∈ pairs.map Prod.snd
      · exact ⟨second, two, draws, pongs, twins, alike, nextToo,
          alike.pair_of_next next nextToo kept keptToo, rest, rfl, rfl⟩
      · have within := alike.secondFenced.within two keptToo
        have led := alike.apart (.refl alike.firstFenced)
          (Apart.goOn alike.secondFenced keptToo quiet)
        rw [Hub.drawBeside_of_isWithin within,
          Hub.pongBeside_of_isWithin within]
        exact induction still ⟨⟨pairs, orders, led⟩, twins.size, twins.known⟩
          led

/-- What twins do at an instant leaves them twins. -/
theorem Twins.flurry
    (twins : Twins id first second)
    (one : Flurry id first draws pongs firstLast)
    (two : Flurry id second drawsToo pongsToo secondLast)
    (still : firstLast.hub.ready = []) (stillToo : secondLast.hub.ready = [])
    (luck : Agreeing draws drawsToo) :
    Twins id firstLast secondLast ∧ draws = drawsToo ∧ pongs = pongsToo := by
  induction one generalizing second drawsToo pongsToo with
  | nil first =>
      obtain ⟨twins, none, noneToo⟩ := two.beside twins still
      exact ⟨twins, none.symm, noneToo.symm⟩
  | touch touch fits rest induction =>
      exact induction (twins.aside (.touch _ id touch) (.refl id _)) two
        still luck
  | @go first last draws pongs one next quiet rest induction =>
      obtain ⟨pairs, orders, alike⟩ := twins.hubs
      by_cases kept : one ∈ pairs.map Prod.fst
      · obtain ⟨middle, other, drawsRest, pongsRest, twins, alike, nextToo,
          pair, restToo, rfl, rfl⟩ :=
          two.reach stillToo twins alike next kept
        obtain ⟨ready, isNext⟩ := List.head?_eq_some_iff.mp next
        obtain ⟨readyToo, isNextToo⟩ := List.head?_eq_some_iff.mp nextToo
        have lucky := alike.luck_of_draws pair fun draw other isDraw isOther =>
          luck 0 draw other
            (by rw [isDraw]; rfl) (by rw [isOther]; rfl)
        obtain ⟨more, later, led⟩ := alike.goOn pair isNext isNextToo lucky
        rw [alike.drawBeside_eq pair lucky] at luck ⊢
        rw [alike.pongBeside_eq pair led]
        have stillTwins : Twins id (first.withHub fun hub => hub.goOn one)
            (middle.withHub fun hub => hub.goOn other) :=
          ⟨⟨pairs ++ more, later, led⟩, twins.size, twins.known⟩
        obtain ⟨last, sameDraws, samePongs⟩ :=
          induction stillTwins restToo still luck.right
        exact ⟨last, congrArg _ sameDraws, congrArg _ samePongs⟩
      · have within := alike.firstFenced.within one kept
        rw [Hub.drawBeside_of_isWithin within] at luck ⊢
        rw [Hub.pongBeside_of_isWithin within]
        have led := alike.apart (Apart.goOn alike.firstFenced kept quiet)
          (.refl alike.secondFenced)
        exact induction ⟨⟨pairs, orders, led⟩, twins.size, twins.known⟩ two
          still luck

theorem Twins.tick (twins : Twins id first second) (later : Instant) :
    Twins id (first.withHub fun hub => { hub with now := later }.ring)
      (second.withHub fun hub => { hub with now := later }.ring) :=
  twins.next rfl rfl fun _ _ alike => .now (alike.tick later)

theorem Twins.deeds
    (twins : Twins id first second) {deeds : List Deed}
    (spares : ∀ deed ∈ deeds, deed.Spares id) :
    Twins id (deeds.foldl Deed.apply first)
      (deeds.foldl Deed.apply second) := by
  induction deeds generalizing first second with
  | nil => exact twins
  | cons deed rest induction =>
      exact induction (twins.deed (spares deed (List.mem_cons_self ..)))
        fun other member => spares other (List.mem_cons_of_mem deed member)

theorem Twins.now_eq (twins : Twins id first second) :
    first.hub.now = second.hub.now := by
  obtain ⟨pairs, orders, alike⟩ := twins.hubs
  exact alike.now

theorem Path.later_le
    {pauses : Nat} {play last : Play} {tale : Tale} {later : Instant}
    (path : Path id pauses (play.withHub fun hub =>
      { hub with now := later }.ring) tale last) :
    later ≤ last.hub.now ∧ ∀ entry ∈ tale.deeds, later ≤ entry.1 := by
  have now : (play.withHub fun hub => { hub with now := later }.ring).hub.now =
      later := by
    obtain ⟨ready, same, -⟩ := Hub.ring_eq { play.hub with now := later }
    show ({ play.hub with now := later } : Hub).ring.now = later
    rw [same]
  have begun := path.moves.now_le
  have deeds := path.now_le_deeds
  rw [now] at begun deeds
  exact ⟨begun, deeds⟩

/-- A pause may be taken in two parts. -/
theorem Path.split
    {pauses : Nat} {play last : Play} {tale : Tale} {middle later : Instant}
    (still : play.hub.ready = []) (begun : play.hub.now < middle)
    (early : middle < later) (whole : Span.perMillisecond ∣ middle)
    (wholeToo : Span.perMillisecond ∣ later)
    (passes : ∀ alarm task, (alarm, task) ∈ play.hub.alarms →
      later ≤ max play.hub.now alarm.due.tick)
    (path : Path id pauses (play.withHub fun hub =>
      { hub with now := later }.ring) tale last) :
    Path id (pauses + 1) (play.withHub fun hub =>
      { hub with now := middle }.ring) tale last := by
  have waited : (play.withHub fun hub => { hub with now := middle }.ring) =
      play.withHub fun hub => { hub with now := middle } :=
    congrArg (fun hub => { play with hub })
      (Hub.ring_of_early whole early passes begun)
  rw [waited]
  refine .tick (.nil _) still early wholeToo (fun alarm task listed => ?_) path
  exact Nat.le_trans (passes alarm task listed)
    (Nat.max_le.mpr ⟨Nat.le_trans (Nat.le_of_lt begun) (Nat.le_max_left _ _),
      Nat.le_max_right _ _⟩)

end Twins

/-- Twins on paths that tell the same deeds are twins at the end, and the
heartbeat requests to the others have come to the same. -/
theorem Twins.path
    {id : PeerId} {first second firstLast secondLast : Play}
    {pauses others : Nat} {tale other : Tale} (twins : Twins id first second)
    (one : Path id pauses first tale firstLast)
    (two : Path id others second other secondLast)
    (deeds : tale.deeds = other.deeds) (luck : Agreeing tale.draws other.draws)
    (now : firstLast.hub.now = secondLast.hub.now) :
    Twins id firstLast secondLast ∧ tale.pongs = other.pongs := by
  cases one with
  | done flurry still =>
      cases two with
      | done flurryToo stillToo =>
          obtain ⟨last, -, pongs⟩ :=
            twins.flurry flurry flurryToo still stillToo luck
          exact ⟨last, pongs⟩
      | deeds flurryToo stillToo sparesToo fitToo pathToo => cases deeds
      | tick flurryToo stillToo forwardToo wholeToo passesToo pathToo =>
          obtain ⟨resting, -⟩ :=
            twins.flurry flurry flurryToo still stillToo luck.ofLeft
          have late := Nat.lt_of_lt_of_le forwardToo pathToo.later_le.1
          exact absurd (resting.now_eq.symm.trans now) (Nat.ne_of_lt late)
  | @deeds _ middle _ _ _ calls _ _ flurry still spares fit path =>
      cases two with
      | done flurryToo stillToo => cases deeds
      | deeds flurryToo stillToo sparesToo fitToo pathToo =>
          obtain ⟨resting, rfl, rfl⟩ :=
            twins.flurry flurry flurryToo still stillToo luck.left
          obtain ⟨same, later⟩ := List.cons.inj deeds
          obtain ⟨-, rfl⟩ := Prod.mk.inj same
          obtain ⟨last, pongs⟩ :=
            (resting.deeds spares).path path pathToo later luck.right now
          exact ⟨last, congrArg (_ ++ ·) pongs⟩
      | tick flurryToo stillToo forwardToo wholeToo passesToo pathToo =>
          obtain ⟨resting, -⟩ :=
            twins.flurry flurry flurryToo still stillToo luck.left
          have late := pathToo.later_le.2 (middle.hub.now, calls) (by
            rw [← deeds]
            exact List.mem_cons_self ..)
          exact absurd resting.now_eq
            (Nat.ne_of_gt (Nat.lt_of_lt_of_le forwardToo late))
  | tick flurry still forward whole passes path =>
      cases two with
      | done flurryToo stillToo =>
          obtain ⟨resting, -⟩ :=
            twins.flurry flurry flurryToo still stillToo luck.ofRight
          have late := Nat.lt_of_lt_of_le forward path.later_le.1
          exact absurd (resting.now_eq.trans now.symm) (Nat.ne_of_lt late)
      | @deeds _ middle _ _ _ calls _ _ flurryToo stillToo sparesToo fitToo
        pathToo =>
          obtain ⟨resting, -⟩ :=
            twins.flurry flurry flurryToo still stillToo luck.left
          have late := path.later_le.2 (middle.hub.now, calls) (by
            rw [deeds]
            exact List.mem_cons_self ..)
          exact absurd resting.now_eq
            (Nat.ne_of_lt (Nat.lt_of_lt_of_le forward late))
      | tick flurryToo stillToo forwardToo wholeToo passesToo pathToo =>
          obtain ⟨resting, rfl, rfl⟩ :=
            twins.flurry flurry flurryToo still stillToo luck.left
          rename_i middle draws pongs later pauses tale middleToo laterToo
            others other
          have same := resting.now_eq
          rcases Nat.lt_trichotomy later laterToo with early | together | late
          · have rest := Path.split stillToo (same ▸ forward) early whole
              wholeToo passesToo pathToo
            obtain ⟨last, pongs⟩ :=
              (resting.tick later).path path rest deeds luck.right now
            exact ⟨last, congrArg (_ ++ ·) pongs⟩
          · subst together
            obtain ⟨last, pongs⟩ :=
              (resting.tick later).path path pathToo deeds luck.right now
            exact ⟨last, congrArg (_ ++ ·) pongs⟩
          · have rest := Path.split still (same.symm ▸ forwardToo) late wholeToo
              whole passes path
            obtain ⟨last, pongs⟩ :=
              (resting.tick laterToo).path rest pathToo deeds luck.right now
            exact ⟨last, congrArg (_ ++ ·) pongs⟩
termination_by pauses + others

/-! ### Isolation -/

/-- Some sessions gather, and of one of them the socket may do anything.  What
all others have had to do with their sockets, and when, what became of heartbeat
requests to them, whether they are closed or registered, and when their read
deadlines are, depends only on what is done to them, and on the delays that are
drawn for them. -/
theorem recipients_isolated
    {configuration : Configuration} {chance chanceToo : Nat → Nat}
    {sessions : List Action}
    (gather : ∀ action ∈ sessions, action.BringsSession) {id : PeerId}
    {pauses pausesToo : Nat} {tale taleToo : Tale} {first second : Play}
    (one : Path id pauses (.gathered configuration chance sessions) tale first)
    (two : Path id pausesToo (.gathered configuration chanceToo sessions)
      taleToo second)
    (deeds : tale.deeds = taleToo.deeds)
    (luck : Agreeing tale.draws taleToo.draws)
    (now : first.hub.now = second.hub.now) :
    tale.pongs = taleToo.pongs ∧
      ∀ other, other ≠ id →
        first.hub.dealings other = second.hub.dealings other ∧
        (first.hub.peer other).closed = (second.hub.peer other).closed ∧
        (first.hub.peer other).readDeadline =
          (second.hub.peer other).readDeadline ∧
        (first.hub.peer other).registered =
          (second.hub.peer other).registered := by
  have gathered := Twins.gathered id configuration chance chanceToo gather
  obtain ⟨last, pongs⟩ := gathered.path one two deeds luck now
  obtain ⟨pairs, orders, alike⟩ := last.hubs
  refine ⟨pongs, fun other different => ?_⟩
  have like := alike.peer other different
  exact ⟨alike.dealings other different, like.closed, like.readDeadline,
    like.registered⟩

/-! ### A socket that fails -/

/-- An octet is broadcast to two sessions, and a heartbeat request comes from
the second. -/
def Deed.greetings : List Deed :=
  [.look [0, 1], .broadcast (.binary [7]) (.ofMillis 1000), .ping (some 1) [5]]

/-- Two sessions have gathered at a server that delays its heartbeat replies. -/
def Play.couple : Play :=
  .gathered { timing := { pongJitter := .ofMillis 250 } } (fun _ => 0)
    [.register {}, .register {}]

/-- The socket of the first one fails or not. -/
def Play.afflicted (fails : Bool) : Play :=
  (Touch.setScript { fails := some fails }).apply 0 .couple

/-- Then those deeds have been done, and so many of the four tasks have gone
on. -/
def Play.proceeded (fails : Bool) (count : Nat) : Play :=
  (List.range count).foldl (fun play task => play.withHub fun hub =>
    hub.goOn task)
      (Deed.greetings.foldl Deed.apply (.afflicted fails))

theorem Play.proceeded_zero (fails : Bool) :
    Play.proceeded fails 0 =
      Deed.greetings.foldl Deed.apply (.afflicted fails) := by
  rw [proceeded, List.range_zero, List.foldl_nil]

theorem Play.proceeded_succ (fails : Bool) (count : Nat) :
    Play.proceeded fails (count + 1) =
      (Play.proceeded fails count).withHub fun hub => hub.goOn count := by
  simp only [proceeded, List.range_succ, List.foldl_append, List.foldl_cons,
    List.foldl_nil]

theorem Play.proceeded_step :
    ∀ fails : Bool, ∀ count < 4,
      (proceeded fails count).hub.ready.head? = some count ∧
      ((proceeded fails count).hub.task count).serves? = none ∧
      (proceeded fails count).hub.drawBeside 0 count =
        (if count = 3 then some 0 else none) ∧
      (proceeded fails count).hub.pongBeside 0 count =
        (if count = 3 then some (0, 1, .answered) else none) := by
  decide +kernel

theorem Flurry.step
    {id : PeerId} {play last : Play} {task : TaskId} {draw : Option Nat}
    {pong : Option PongOutcome} {draws : List Nat} {pongs : List PongOutcome}
    (next : play.hub.ready.head? = some task)
    (plain : (play.hub.task task).serves? = none)
    (drawn : play.hub.drawBeside id task = draw)
    (answered : play.hub.pongBeside id task = pong)
    (rest : Flurry id (play.withHub fun hub => hub.goOn task) draws
      pongs last) :
    Flurry id play (draw.toList ++ draws) (pong.toList ++ pongs) last := by
  subst drawn answered
  refine .go next ?_ rest
  rintro ⟨stage, serves⟩
  rw [serves] at plain
  cases plain

theorem Flurry.proceeded
    (fails : Bool) (rest : Nat) {count : Nat} (total : count + rest = 3) :
    Flurry 0 (.proceeded fails count) [0] [(0, 1, .answered)]
      (.proceeded fails 4) := by
  obtain ⟨next, plain, drawn, answered⟩ :=
    Play.proceeded_step fails count (by omega)
  induction rest generalizing count with
  | zero =>
      cases total
      have last :
          Flurry 0 ((Play.proceeded fails 3).withHub fun hub => hub.goOn 3) []
          [] (.proceeded fails 4) := by
        rw [← Play.proceeded_succ]
        exact .nil _
      exact last.step next plain drawn answered
  | succ rest induction =>
      have early : count ≠ 3 := by omega
      rw [if_neg early] at drawn answered
      obtain ⟨nextToo, plainToo, drawnToo, answeredToo⟩ :=
        Play.proceeded_step fails (count + 1) (by omega)
      have later := induction (by omega) nextToo plainToo drawnToo answeredToo
      rw [Play.proceeded_succ] at later
      exact later.step next plain drawn answered

theorem Play.still_proceeded :
    ∀ fails : Bool, (afflicted fails).hub.ready = [] ∧
      (afflicted fails).hub.now = 0 ∧
      1 < (Deed.apply ((afflicted fails).look [0, 1])
        (.broadcast (.binary [7]) (.ofMillis 1000))).hub.peers.size ∧
      (proceeded fails 4).hub.ready = [] ∧ (proceeded fails 4).hub.now = 0 := by
  decide +kernel

theorem Path.proceeded (fails : Bool) :
    Path 0 1 .couple ⟨[(0, Deed.greetings)], [0], [(0, 1, .answered)]⟩
      (.proceeded fails 4) := by
  obtain ⟨still, now, inside, stillToo, -⟩ := Play.still_proceeded fails
  have couple : 0 < Play.couple.hub.peers.size := by decide +kernel
  have afflicted : Flurry 0 .couple [] [] (.afflicted fails) :=
    .touch (.setScript { fails := some fails }) couple (.nil _)
  have settled := Path.done (Flurry.proceeded fails 3 (Nat.zero_add 3)) stillToo
  rw [Play.proceeded_zero] at settled
  have fit : Deed.FitAll (.afflicted fails) Deed.greetings :=
    ⟨trivial, trivial, inside, trivial⟩
  have greeted := Path.deeds afflicted still
    (by simp [Deed.greetings, Deed.Spares]) fit settled
  rw [now] at greeted
  exact greeted

/-- It makes no difference to the second session that the socket of the first
one fails. -/
theorem recipients_isolated_of_failing :
    (Play.proceeded false 4).hub.dealings 1 =
      (Play.proceeded true 4).hub.dealings 1 ∧
      ((Play.proceeded false 4).hub.dealings 1).length = 6 ∧
      ((Play.proceeded false 4).hub.peer 0).closed = false ∧
      ((Play.proceeded true 4).hub.peer 0).closed = true := by
  obtain ⟨-, -, -, -, now⟩ := Play.still_proceeded false
  obtain ⟨-, -, -, -, nowToo⟩ := Play.still_proceeded true
  have isolated :=
    recipients_isolated (by simp [Action.BringsSession]) (Path.proceeded false)
      (Path.proceeded true) rfl
      (fun _ _ _ one two => Option.some.inj (one.symm.trans two))
      (now.trans nowToo.symm)
  refine ⟨(isolated.2 1 (by decide)).1, ?_, ?_, ?_⟩
  all_goals decide +kernel

end BroadcastHub.Scenario
