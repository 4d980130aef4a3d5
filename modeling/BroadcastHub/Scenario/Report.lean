import BroadcastHub.Scenario.Play

/-!
# Reports

After each step the audience is told the step's reply, the time, and the state
of every peer; of what peers and tasks produced it is told each thing once.
-/

namespace BroadcastHub.Scenario

open Server

/-- What a peer's socket shows. -/
inductive SocketReport
  /-- A scripted socket: the frames written since the last report, and its
  tallies. -/
  | scripted (sent : List Frame) (attempts inFlight maxInFlight closes : Nat)
  /-- A link: the octets and responses received since the last report, and
  whether the client has seen the end. -/
  | link (received : Octets) (responses : List Http.Response) (sawEnd : Bool)

/-- What a session shows while it can be used: whether it is closed, and the
milliseconds up to its read deadline. -/
structure LifeReport where
  closed : Bool
  deadlineIn : Int

structure PeerReport where
  registered : Bool
  life : Option LifeReport
  exit : Option Exit
  socket : SocketReport

/-- What is told after a step. -/
structure Report where
  reply : Reply
  /-- The time in milliseconds. -/
  time : Nat
  /-- The number of registered sessions. -/
  registry : Nat
  /-- The number of slots that are left. -/
  available : Option Nat
  peers : List PeerReport
  /-- The number of the task that the step started. -/
  task : Option Nat
  /-- The tasks that have ended since the last report. -/
  done : List (Nat × Outcome)

namespace Play

/-- What a socket shows to somebody with an acquaintance. -/
def socketReport (known : Acquaintance) : Socket → SocketReport
  | .scripted socket =>
      .scripted (socket.sent.drop known.sentTold) socket.attempts
        socket.inFlight socket.maxInFlight socket.closes
  | .link link =>
      .link (link.received.take
        (link.received.length - known.receivedTold)).reverse.flatten
        (link.heard.drop known.heardTold) link.sawEnd

/-- What a session shows, unless it is gone. -/
def lifeReport (play : Play) (id : PeerId) : Option LifeReport :=
  if play.isAlive id then
    let peer := play.hub.peer id
    some ⟨peer.closed, play.hub.now.millisUntil peer.readDeadline⟩
  else none

/-- The state of a peer.  The end of a session that followed a conversation is
not told. -/
def peerReport (play : Play) (id : PeerId) : PeerReport where
  registered := (play.acquaintance id).seen && (play.hub.peer id).registered
  life := play.lifeReport id
  exit := if (play.acquaintance id).origin = .http then none else play.exit? id
  socket := socketReport (play.acquaintance id) (play.hub.peer id).socket

/-- The tasks from outside that have ended and were not told. -/
def newlyDone (play : Play) : List (Nat × Outcome) :=
  play.jobs.zipIdx.filterMap fun ((task, told), number) =>
    if told then none else (play.hub.task task).outcome?.map fun outcome =>
      (number, outcome)

def noteTold (hub : Hub) (id : PeerId) (known : Acquaintance) : Acquaintance :=
  match (hub.peer id).socket with
  | .scripted socket => { known with sentTold := socket.sent.length }
  | .link link =>
      { known with
        receivedTold := link.received.length, heardTold := link.heard.length }

/-- Notes that everything so far has been told. -/
def markTold (play : Play) : Play :=
  let play := play.hub.peers.numbers.foldl
    (fun play id => play.updateKnown id (noteTold play.hub id)) play
  { play with
    jobs := play.jobs.map fun (task, told) =>
      (task, told || (play.hub.task task).isFinished) }

/-- The report after a step; `before` is the number of tasks that had been
started from outside. -/
def report (play : Play) (reply : Reply) (before : Nat) : Report where
  reply
  time := play.hub.now / Span.perMillisecond
  registry := play.registry.length
  available := play.hub.admission.available
  peers := play.hub.peers.numbers.map play.peerReport
  task := if before < play.jobs.length then some before else none
  done := play.newlyDone

/-- Plays steps and reports after each of them; also answers the play as it
ended. -/
def reports (play : Play) : List Step → List Report × Play
  | [] => ([], play)
  | step :: rest =>
      let before := play.jobs.length
      let (reply, play) := play.playStep step
      let report := play.report reply before
      let (others, play) := play.markTold.reports rest
      (report :: others, play)

end Play

/-- Plays a whole scenario; answers its reports and the lines of the counters at
its end. -/
def run (configuration : Configuration) (steps : List Step) :
    List Report × List String :=
  let (reports, play) := (Play.start configuration).reports steps
  (reports, play.hub.counters.exposition)

end BroadcastHub.Scenario
