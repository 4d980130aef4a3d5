import BroadcastHub.Proofs.Scenario.Touches

/-!
# Two plays that differ in one session

Twins are two plays that are alike but for one session, and whose audiences know
the same of all others.  They stay twins whatever is done to that session in
either of them, and whatever is done in both.
-/

namespace BroadcastHub.Scenario

open Server

/-! ### What is done from outside -/

/-- Something that a client or a scripted socket does. -/
inductive Touch
  | arrive (items : List (Except Fault Frame))
  | endInbox
  | setScript (change : ScriptChange)
  | write (octets : Octets)
  | shut
  | hangUp
  | pause (on : Bool)
  | read
  | sip (count : Nat)
  | tidy

/-- The play after something was done to a session. -/
def Touch.apply (peer : PeerId) (play : Play) : Touch → Play
  | arrive items => (play.perform (.arrive peer items)).2
  | endInbox => (play.perform (.endInbox peer)).2
  | setScript change => (play.perform (.setScript peer change)).2
  | write octets => play.withHub fun hub => Play.clientWrites hub peer octets
  | shut => (play.perform (.shut peer)).2
  | hangUp => (play.perform (.hangUp peer)).2
  | pause on => (play.perform (.pause peer on)).2
  | read => play.withHub fun hub => hub.letRead peer
  | sip count => play.withHub fun hub => hub.letSip peer count
  | tidy => play.withHub fun hub => hub.dropUnused peer

/-- Something that is done to a server: a broadcast, a heartbeat request, a look
at which sessions are registered, or something that a client does. -/
inductive Deed
  | broadcast (frame : Frame) (limit : Span)
  | ping (peer : Option PeerId) (payload : Octets)
  | look (peers : List PeerId)
  | touch (peer : PeerId) (touch : Touch)

def Deed.apply (play : Play) : Deed → Play
  | broadcast frame limit => (play.perform (.broadcast frame limit)).2
  | ping peer payload => (play.perform (.ping peer payload)).2
  | look peers => play.look peers
  | touch peer kind => kind.apply peer play

/-- Whether it is not the client of one session who does a deed. -/
def Deed.Spares (id : PeerId) : Deed → Prop
  | touch peer _ => peer ≠ id
  | _ => True

namespace Play

def see (play : Play) (id : PeerId) : Play :=
  if (play.hub.peer id).registered then
    play.updateKnown id fun known => { known with seen := true }
  else play

theorem look_cons (play : Play) (id : PeerId) (rest : List PeerId) :
    play.look (id :: rest) = (play.see id).look rest := rfl

theorem exists_known_look (play : Play) (ids : List PeerId) :
    ∃ known, play.look ids = { play with known } := by
  induction ids generalizing play with
  | nil => exact ⟨play.known, rfl⟩
  | cons id rest induction =>
      obtain ⟨known, same⟩ := induction (play.see id)
      rw [look_cons, same]
      unfold see
      split <;> exact ⟨known, rfl⟩

variable (play : Play) (id other : PeerId)

theorem hub_see : (play.see id).hub = play.hub := by
  unfold see
  split <;> rfl

theorem size_known_see : (play.see id).known.size = play.known.size := by
  unfold see
  split
  · exact Table.size_update play.known id _
  · rfl

theorem acquaintance_see :
    (play.see id).acquaintance other =
      if id = other ∧ other < play.known.size ∧
      (play.hub.peer id).registered = true then
        { play.acquaintance other with seen := true }
      else play.acquaintance other := by
  unfold see
  split
  · rename_i present
    refine (Table.get_update play.known id other _).trans ?_
    simp only [present, and_true]
    rfl
  · rename_i absent
    rw [if_neg fun all => absent all.2.2]

end Play

/-! ### Twins -/

/-- Two plays that differ at most in one session. -/
structure Twins (id : PeerId) (first second : Play) : Prop where
  hubs : ∃ pairs orders, Alike id pairs orders first.hub second.hub
  size : first.known.size = second.known.size
  known :
    ∀ other, other ≠ id → first.acquaintance other = second.acquaintance other

/-- What is done to a play that concerns one session only. -/
structure Aside (id : PeerId) (before after : Play) : Prop where
  hub : ∀ others, Fenced id others before.hub →
    Apart id others before.hub after.hub
  known : after.known = before.known

namespace Aside

variable {id : PeerId} {before middle after : Play}

theorem refl (id : PeerId) (play : Play) : Aside id play play :=
  ⟨fun _ fenced => .refl fenced, rfl⟩

theorem trans (one : Aside id before middle) (two : Aside id middle after) :
    Aside id before after where
  hub others fenced :=
    have apart := one.hub others fenced
    apart.trans (two.hub others apart.fenced)
  known := two.known.trans one.known

theorem startJob
    (play : Play) {task : Task} (within : task.isWithin id = true) :
    Aside id play (play.startJob task) :=
  ⟨fun _ fenced => .spawn fenced within, rfl⟩

theorem deliverItem (play : Play) (id : PeerId) (item : Except Fault Frame) :
    Aside id play (play.deliverItem id item).2 := by
  unfold Play.deliverItem
  split
  · exact ⟨fun _ fenced => .itemArrives fenced item, rfl⟩
  · exact refl id play

theorem deliverItems
    (play : Play) (id : PeerId) (items : List (Except Fault Frame)) :
    Aside id play (play.deliverItems id items).2 := by
  induction items generalizing play with
  | nil => exact refl id play
  | cons item rest induction =>
      exact (deliverItem play id item).trans (induction _)

theorem touch (play : Play) (id : PeerId) (touch : Touch) :
    Aside id play (touch.apply id play) := by
  cases touch with
  | arrive items => exact deliverItems play id items
  | endInbox =>
      show Aside id play (play.endInbox id).2
      unfold Play.endInbox
      split
      · exact refl id play
      · exact ⟨fun _ fenced =>
          have ended := Apart.updateScripted fenced _
          ended.trans (.wakeReader ended.fenced), rfl⟩
  | setScript change => exact ⟨fun _ fenced => .updateScripted fenced _, rfl⟩
  | write octets => exact ⟨fun _ fenced => .clientWrites fenced octets, rfl⟩
  | shut =>
      show Aside id play (play.shut id).2
      unfold Play.shut
      split
      · exact refl id play
      · split
        · exact refl id play
        · exact ⟨fun _ fenced =>
            have ended := Apart.updateLink fenced _
            ended.trans (.wakeReader ended.fenced), rfl⟩
  | hangUp =>
      show Aside id play (play.hangUp id).2
      unfold Play.hangUp
      split
      · exact refl id play
      · split
        · exact refl id play
        · exact ⟨fun _ fenced =>
            have gone := Apart.updateLink fenced _
            have woken := gone.trans (.wakeReader gone.fenced)
            woken.trans (.wakeWriter woken.fenced), rfl⟩
  | pause on => exact ⟨fun _ fenced => .updateLink fenced _, rfl⟩
  | read => exact ⟨fun _ fenced => .letRead fenced, rfl⟩
  | sip count => exact ⟨fun _ fenced => .letSip fenced count, rfl⟩
  | tidy => exact ⟨fun _ fenced => .dropUnused fenced, rfl⟩

end Aside

namespace Twins

variable {id peer : PeerId} {first second : Play}
  (twins : Twins id first second)

include twins

theorem aside {firstAfter secondAfter : Play} (one : Aside id first firstAfter)
    (two : Aside id second secondAfter) : Twins id firstAfter secondAfter := by
  obtain ⟨pairs, orders, alike⟩ := twins.hubs
  refine ⟨⟨pairs, orders, alike.apart (one.hub _ alike.firstFenced)
    (two.hub _ alike.secondFenced)⟩, ?_, ?_⟩
  · rw [one.known, two.known]
    exact twins.size
  · intro other different
    unfold Play.acquaintance
    rw [one.known, two.known]
    exact twins.known other different

theorem next
    {firstAfter secondAfter : Play} (known : firstAfter.known = first.known)
    (knownToo : secondAfter.known = second.known)
    (leads : ∀ pairs orders, Alike id pairs orders first.hub second.hub →
      Alike.Leads id pairs firstAfter.hub secondAfter.hub) :
    Twins id firstAfter secondAfter := by
  obtain ⟨pairs, orders, alike⟩ := twins.hubs
  obtain ⟨more, later, led⟩ := leads pairs orders alike
  refine ⟨⟨pairs ++ more, later, led⟩, ?_, ?_⟩
  · rw [known, knownToo]
    exact twins.size
  · unfold Play.acquaintance
    rw [known, knownToo]
    exact twins.known

/-! ### What can be seen of others -/

theorem socket_eq (different : peer ≠ id) :
    (first.hub.peer peer).socket = (second.hub.peer peer).socket := by
  obtain ⟨pairs, orders, alike⟩ := twins.hubs
  exact (alike.peer peer different).socket

theorem link?_eq (different : peer ≠ id) :
    first.link? peer = second.link? peer := by
  unfold Play.link?
  rw [twins.socket_eq different]

theorem exit?_eq (different : peer ≠ id) :
    first.exit? peer = second.exit? peer := by
  obtain ⟨pairs, orders, alike⟩ := twins.hubs
  unfold Play.exit?
  rcases (alike.peer peer different).attendant.option_cases with
    ⟨none, noneToo⟩ | ⟨one, two, attends, attendsToo, pair⟩
  · rw [none, noneToo]
  · have like := alike.task _ pair
    simp only [attends, attendsToo]
    generalize first.hub.task one = task at like
    generalize second.hub.task two = other at like
    cases like <;> rfl

theorem attendant_isSome_eq (different : peer ≠ id) :
    (first.hub.peer peer).attendant.isSome =
      (second.hub.peer peer).attendant.isSome := by
  obtain ⟨pairs, orders, alike⟩ := twins.hubs
  rcases (alike.peer peer different).attendant.option_cases with
    ⟨none, noneToo⟩ | ⟨one, two, attends, attendsToo, pair⟩
  · rw [none, noneToo]
  · rw [attends, attendsToo]
    rfl

theorem takesArrivals_eq (different : peer ≠ id) :
    first.takesArrivals peer = second.takesArrivals peer := by
  unfold Play.takesArrivals
  rw [twins.socket_eq different, twins.attendant_isSome_eq different,
    twins.exit?_eq different]

theorem isAlive_eq (different : peer ≠ id) :
    first.isAlive peer = second.isAlive peer := by
  unfold Play.isAlive Play.hasLink
  rw [twins.known peer different, twins.socket_eq different,
    twins.exit?_eq different]

/-! ### Clients of others -/

theorem deliverItem (different : peer ≠ id) (item : Except Fault Frame) :
    Twins id (first.deliverItem peer item).2
      (second.deliverItem peer item).2 := by
  unfold Play.deliverItem
  rw [twins.takesArrivals_eq different]
  split
  · exact twins.next rfl rfl fun _ _ alike =>
      .now (alike.itemArrives different item)
  · exact twins

theorem deliverItems
    (different : peer ≠ id) (items : List (Except Fault Frame)) :
    Twins id (first.deliverItems peer items).2
      (second.deliverItems peer items).2 := by
  induction items generalizing first second with
  | nil => exact twins
  | cons item rest induction =>
      exact induction (twins.deliverItem different item)

theorem touch (different : peer ≠ id) (touch : Touch) :
    Twins id (touch.apply peer first) (touch.apply peer second) := by
  cases touch with
  | arrive items => exact twins.deliverItems different items
  | endInbox =>
      show Twins id (first.endInbox peer).2 (second.endInbox peer).2
      unfold Play.endInbox
      rw [twins.socket_eq different]
      split
      · exact twins
      · exact twins.next rfl rfl fun _ _ alike =>
          .now ((alike.updateScripted different _).wakeReader different)
  | setScript change =>
      exact twins.next rfl rfl fun _ _ alike =>
        .now (alike.updateScripted different _)
  | write octets =>
      exact twins.next rfl rfl fun _ _ alike =>
        .now (alike.clientWrites different octets)
  | shut =>
      show Twins id (first.shut peer).2 (second.shut peer).2
      unfold Play.shut
      rw [twins.link?_eq different]
      split
      · exact twins
      · split
        · exact twins
        · exact twins.next rfl rfl fun _ _ alike =>
            .now ((alike.updateLink different _).wakeReader different)
  | hangUp =>
      show Twins id (first.hangUp peer).2 (second.hangUp peer).2
      unfold Play.hangUp
      rw [twins.link?_eq different]
      split
      · exact twins
      · split
        · exact twins
        · exact twins.next rfl rfl fun _ _ alike =>
            .now (((alike.updateLink different _).wakeReader
              different).wakeWriter different)
  | pause on =>
      exact twins.next rfl rfl fun _ _ alike =>
        .now (alike.updateLink different _)
  | read =>
      exact twins.next rfl rfl fun _ _ alike => .now (alike.letRead different)
  | sip count =>
      exact twins.next rfl rfl fun _ _ alike =>
        .now (alike.letSip different count)
  | tidy =>
      exact twins.next rfl rfl fun _ _ alike =>
        .now (alike.dropUnused different)

/-! ### Calls -/

theorem see (peer : PeerId) : Twins id (first.see peer) (second.see peer) where
  hubs := by
    rw [Play.hub_see, Play.hub_see]
    exact twins.hubs
  size := by
    rw [Play.size_known_see, Play.size_known_see]
    exact twins.size
  known other different := by
    rw [Play.acquaintance_see, Play.acquaintance_see,
      twins.known other different, twins.size]
    by_cases same : peer = other
    · subst same
      obtain ⟨pairs, orders, alike⟩ := twins.hubs
      rw [(alike.peer peer different).registered]
    · rw [if_neg fun both => same both.1, if_neg fun both => same both.1]

theorem look (peers : List PeerId) :
    Twins id (first.look peers) (second.look peers) := by
  induction peers generalizing first second with
  | nil => exact twins
  | cons peer rest induction =>
      rw [Play.look_cons, Play.look_cons]
      exact induction (twins.see peer)

theorem ping (peer : Option PeerId) (payload : Octets) :
    Twins id (first.perform (.ping peer payload)).2
      (second.perform (.ping peer payload)).2 := by
  have within : ∀ keep : PeerId → Bool,
      (Task.pong ((some id).filter keep) payload .unstarted).isWithin id =
        true := by
    intro keep
    cases keeps : keep id <;> simp [Option.filter, keeps, Task.isWithin]
  show Twins id (first.startJob
    (.pong (peer.filter fun id => first.isAlive id) payload .unstarted))
    (second.startJob (.pong (peer.filter fun id => second.isAlive id) payload
      .unstarted))
  cases peer with
  | none => exact twins.aside (.startJob first rfl) (.startJob second rfl)
  | some peer =>
      by_cases own : peer = id
      · subst own
        exact twins.aside (.startJob first (within _))
          (.startJob second (within _))
      · have same : (some peer).filter (fun id => first.isAlive id) =
            (some peer).filter fun id => second.isAlive id := by
          simp only [Option.filter, twins.isAlive_eq own]
        rw [same]
        cases alive : second.isAlive peer with
        | false =>
            simp only [Option.filter, alive]
            exact twins.aside (.startJob first rfl) (.startJob second rfl)
        | true =>
            simp only [Option.filter, alive]
            exact twins.next rfl rfl fun _ orders alike =>
              (Alike.Leads.now alike).spawn fun orders =>
                .pong own payload .unstarted

theorem broadcast (frame : Frame) (limit : Span) :
    Twins id (first.perform (.broadcast frame limit)).2
      (second.perform (.broadcast frame limit)).2 := by
  have delivered :
      Twins id (first.withHub fun hub => hub.startDeliveries frame limit)
      (second.withHub fun hub => hub.startDeliveries frame limit) :=
    twins.next rfl rfl fun _ _ alike => alike.startDeliveries frame limit
  have counted : ∀ play : Play,
      Aside id (play.withHub fun hub => hub.startDeliveries frame limit)
      (play.perform (.broadcast frame limit)).2 := fun play =>
    ⟨fun _ fenced => .tally fenced play.hub.deliveryTasks, rfl⟩
  exact delivered.aside (counted first) (counted second)

theorem deed {deed : Deed} (spares : deed.Spares id) :
    Twins id (deed.apply first) (deed.apply second) := by
  cases deed with
  | broadcast frame limit => exact twins.broadcast frame limit
  | ping peer payload => exact twins.ping peer payload
  | look peers => exact twins.look peers
  | touch peer touch => exact twins.touch spares touch

end Twins

/-! ### Gatherings -/

def Action.BringsSession : Action → Prop
  | register _ => True
  | serve _ => True
  | wire _ _ => True
  | _ => False

/-- A server at which some sessions have been registered or begun to be
served. -/
def Play.gathered
    (configuration : Configuration) (chance : Nat → Nat)
    (actions : List Action) : Play :=
  actions.foldl (fun play action => (play.perform action).2)
    { Play.start configuration with
      hub := { Hub.start configuration with chance } }

namespace Twins

variable {id : PeerId} {first second : Play}

theorem start
    (id : PeerId) (configuration : Configuration) (chance other : Nat → Nat) :
    Twins id { Play.start configuration with
      hub := { Hub.start configuration with chance } }
      { Play.start configuration with
        hub := { Hub.start configuration with chance := other } } := by
  have fenced :
      ∀ chance, Fenced id [] { Hub.start configuration with chance } := by
    intro chance
    have nobody :
        ∀ task, (Hub.task { Hub.start configuration with chance } task).isWithin
          id = true := by
      intro task
      rw [Hub.task_of_size_le _ task (Nat.zero_le _)]
      rfl
    have absent :
        (Hub.peer { Hub.start configuration with chance } id) = default :=
      Hub.peer_of_size_le _ id (Nat.zero_le _)
    refine ⟨fun task _ => nobody task, by rintro _ ⟨⟩, by rintro _ ⟨⟩, by
      rintro _ ⟨⟩, ?_, ?_, ?_,
      by rintro _ ⟨⟩⟩
    all_goals
      rw [absent]
      rintro _ ⟨⟩
  refine ⟨⟨[], fun _ _ => False, ?_⟩, rfl, fun _ _ => rfl⟩
  exact
    { now := rfl
      configuration := rfl
      stopping := rfl
      peers := rfl
      peer :=
    fun other _ => ⟨rfl, rfl, rfl, rfl, rfl, rfl, rfl, ⟨.nil, .nil⟩, .nil⟩
      task := by rintro _ ⟨⟩
      queue := .nil
      sorted := .nil
      alarms := by rintro _ _ ⟨⟩
      order := by rintro _ _ _ _ ⟨⟩
      dealings := fun _ _ => rfl
      firstFenced := fenced chance
      secondFenced := fenced other }

theorem join
    {firstAfter secondAfter : Play} (twins : Twins id first second)
    (acquaintance : Acquaintance)
    (known : firstAfter.known = first.known.push acquaintance)
    (knownToo : secondAfter.known = second.known.push acquaintance)
    (leads : ∀ pairs orders, Alike id pairs orders first.hub second.hub →
      Alike.Leads id pairs firstAfter.hub secondAfter.hub) :
    Twins id firstAfter secondAfter := by
  obtain ⟨pairs, orders, alike⟩ := twins.hubs
  obtain ⟨more, later, led⟩ := leads pairs orders alike
  refine ⟨⟨pairs ++ more, later, led⟩, ?_, fun other different => ?_⟩
  · rw [known, knownToo, Table.size_push, Table.size_push, twins.size]
  · have same := twins.known other different
    unfold Play.acquaintance at same ⊢
    rw [known, knownToo, Table.get_push, Table.get_push, twins.size, same]

theorem bring
    (twins : Twins id first second) {action : Action}
    (brings : action.BringsSession) :
    Twins id (first.perform action).2 (second.perform action).2 := by
  cases action with
  | register script =>
      exact twins.join { origin := .registered } rfl rfl fun _ _ alike =>
        .now (alike.enroll _ _)
  | serve script =>
      exact twins.join { origin := .served } rfl rfl fun _ _ alike =>
        alike.serve _
  | wire room limit =>
      refine twins.join { origin := .wired } rfl rfl fun _ _ alike => ?_
      have limits : second.perform (.wire room limit) = second.perform
          (.wire room
            (some (limit.getD first.hub.configuration.maxMessageSize))) := by
        cases limit with
        | none =>
            rw [alike.configuration]
            rfl
        | some limit => rfl
      rw [limits]
      exact alike.serve _
  | _ => cases brings

theorem bringAll (twins : Twins id first second) {actions : List Action}
    (bring : ∀ action ∈ actions, action.BringsSession) :
    Twins id (actions.foldl (fun play action => (play.perform action).2) first)
      (actions.foldl (fun play action => (play.perform action).2) second) := by
  induction actions generalizing first second with
  | nil => exact twins
  | cons action rest induction =>
      exact induction (twins.bring (bring action (List.mem_cons_self ..)))
        fun other member => bring other (List.mem_cons_of_mem _ member)

theorem gathered
    (id : PeerId) (configuration : Configuration) (chance other : Nat → Nat)
    {actions : List Action} (bring : ∀ action ∈ actions, action.BringsSession) :
    Twins id (.gathered configuration chance actions)
      (.gathered configuration other actions) :=
  (start id configuration chance other).bringAll bring

end Twins

end BroadcastHub.Scenario
