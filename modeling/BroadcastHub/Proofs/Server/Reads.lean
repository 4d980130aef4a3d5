import BroadcastHub.Proofs.Server.Sessions
import BroadcastHub.Proofs.Server.Takes

/-!
# What a session does when its task goes on

A session that reads either ends, or looks at its deadline anew, or finds
nothing and waits, or takes a frame and acts on it.
-/

namespace BroadcastHub.Server

namespace Hub

/-- The hub after the alarm of a session is set, if it was not. -/
def withAlarm (hub : Hub) : Option Alarm → Hub
  | some _ => hub
  | none => hub.noteAlarm

/-- The alarm of a session, which is set for its read deadline. -/
def alarmOf (hub : Hub) (id : PeerId) : Option Alarm → Alarm
  | some alarm => alarm
  | none => ⟨(hub.peer id).readDeadline, hub.alarmsSet⟩

end Hub

/-- The ways in which a session that reads can go on. -/
inductive ReadTurn
    (hub : Hub) (task : TaskId) (id : PeerId) (alarm : Option Alarm) :
    Hub → Prop
  | closed (isClosed : (hub.peer id).closed = true) :
      ReadTurn hub task id alarm (hub.leave task id .socketClosed)
  | moved
      (isOpen : (hub.peer id).closed = false)
      (rung : (hub.alarmOf id alarm).due ≤ hub.now)
      (moved : (hub.alarmOf id alarm).due < (hub.peer id).readDeadline) :
      ReadTurn hub task id alarm ((hub.withAlarm alarm).readOn task id)
  | expired
      (isOpen : (hub.peer id).closed = false)
      (rung : (hub.alarmOf id alarm).due ≤ hub.now)
      (notMoved : (hub.peer id).readDeadline ≤ (hub.alarmOf id alarm).due) :
      ReadTurn hub task id alarm
        ((hub.withAlarm alarm).leave task id .deadlineExpired)
  | waits
      {socket : Socket} (isOpen : (hub.peer id).closed = false)
      (early : hub.now < (hub.alarmOf id alarm).due)
      (taken : (hub.peer id).socket.take = (socket, .nothing)) :
      ReadTurn hub task id alarm
        (((hub.withAlarm alarm).setSocket id socket).setTask task
        (.attend id (.reading (some (hub.alarmOf id alarm)))))
  | ended {socket : Socket} (isOpen : (hub.peer id).closed = false)
      (early : hub.now < (hub.alarmOf id alarm).due)
      (taken : (hub.peer id).socket.take = (socket, .ended)) :
      ReadTurn hub task id alarm
        (((hub.withAlarm alarm).setSocket id socket).leave task id .streamEnded)
  | failed
      {socket : Socket} {fault : Fault} (isOpen : (hub.peer id).closed = false)
      (early : hub.now < (hub.alarmOf id alarm).due)
      (taken : (hub.peer id).socket.take = (socket, .item (.error fault))) :
      ReadTurn hub task id alarm
        ((((hub.withAlarm alarm).setSocket id socket).note
          (.took id (.error fault))).leave task id (.readError fault))
  | takes
      {socket : Socket} {frame : Frame} (isOpen : (hub.peer id).closed = false)
      (early : hub.now < (hub.alarmOf id alarm).due)
      (taken : (hub.peer id).socket.take = (socket, .item (.ok frame))) :
      ReadTurn hub task id alarm
        ((((hub.withAlarm alarm).setSocket id socket).note
          (.took id (.ok frame))).act task id frame)

namespace Hub

variable (hub : Hub) (task : TaskId) (id : PeerId) (alarm : Option Alarm)

theorem read_of_open (isOpen : (hub.peer id).closed = false) :
    hub.read task id alarm =
      (hub.withAlarm alarm).checkDeadline task id (hub.alarmOf id alarm) := by
  unfold read
  rw [isOpen, if_neg Bool.false_ne_true]
  cases alarm <;> rfl

theorem withAlarm_eq :
    ∃ alarmsSet, hub.withAlarm alarm = { hub with alarmsSet } := by
  cases alarm with
  | some alarm => exact ⟨hub.alarmsSet, rfl⟩
  | none => exact ⟨hub.alarmsSet + 1, rfl⟩

theorem peer_withAlarm : (hub.withAlarm alarm).peer id = hub.peer id := by
  cases alarm <;> rfl

theorem now_withAlarm : (hub.withAlarm alarm).now = hub.now := by
  cases alarm <;> rfl

theorem read_turn : ReadTurn hub task id alarm (hub.read task id alarm) := by
  cases closed : (hub.peer id).closed with
  | true =>
      have leaves : hub.read task id alarm = hub.leave task id .socketClosed :=
        if_pos closed
      rw [leaves]
      exact .closed closed
  | false =>
      rw [read_of_open hub task id alarm closed]
      unfold checkDeadline
      rw [now_withAlarm]
      split
      · rename_i rung
        have isLate := of_decide_eq_true rung
        rw [peer_withAlarm]
        split
        · exact .moved closed isLate ‹_›
        · exact .expired closed isLate (Nat.not_lt.mp ‹_›)
      · rename_i notRung
        have early :=
          Nat.not_le.mp fun isLate => notRung (decide_eq_true isLate)
        unfold takeArrival
        rw [peer_withAlarm]
        rcases taken : (hub.peer id).socket.take with ⟨socket, arrival⟩
        cases arrival with
        | nothing => exact .waits closed early taken
        | ended => exact .ended closed early taken
        | item item =>
            cases item with
            | error fault => exact .failed closed early taken
            | ok frame => exact .takes closed early taken

end Hub

end BroadcastHub.Server
