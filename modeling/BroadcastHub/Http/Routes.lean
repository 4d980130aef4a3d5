import BroadcastHub.Http.Handshake
import BroadcastHub.Http.Request
import BroadcastHub.Server.Hub

/-!
# Routes

A server answers three paths: one opens sessions, one tells the state of the
server, one publishes its counters.  A request for a session is refused while
the server is stopping, then if no slot is left, then if its fields do not ask
for a session, then if its connection cannot be turned into one; only otherwise
the slot is kept.
-/

namespace BroadcastHub.Http

open Server (Hub)

/-- What a request for a session comes to. -/
inductive Decision
  | stopping
  | noSlot
  | badHandshake
  | notUpgradable
  /-- The session may begin; the client is told the digested form of its key. -/
  | accepted (key : String)
deriving DecidableEq, Repr

namespace Decision

def response : Decision → Response
  | stopping => .bare 503
  | noSlot => .bare 503
  | badHandshake => .bare 400
  | notUpgradable => .bare 426
  | accepted key =>
      { status := 101
        fields :=
          [("connection", "upgrade"), ("sec-websocket-accept", key),
            ("upgrade", "websocket")] }

/-- Whether a session begins. -/
def isAccepted : Decision → Bool
  | accepted _ => true
  | _ => false

end Decision

/-- Decides about a request once a slot is taken. -/
def decideWithSlot (fields : List Field) (upgradable : Bool) : Decision :=
  match answerKey? fields with
  | none => .badHandshake
  | some key => if upgradable then .accepted key else .notUpgradable

/-- Decides about a request for a session; a slot stays taken only if the
session may begin. -/
def openSession (hub : Hub) (fields : List Field) (upgradable : Bool) :
    Hub × Decision :=
  if hub.stopping then (hub, .stopping)
  else
    match hub.admission.grant? with
    | none =>
        (hub.count fun counters =>
          { counters with refused := counters.refused + 1 }, .noSlot)
    | some admission =>
        let decision := decideWithSlot fields upgradable
        if decision.isAccepted then ({ hub with admission }, decision)
        else ({ hub with admission := admission.release }, decision)

/-- The state of the server. -/
def healthResponse (hub : Hub) : Response where
  status := 200
  fields := [("content-type", "application/json")]
  body := .health (hub.now / Span.perSecond) hub.registry.length

/-- The counters of the server. -/
def metricsResponse (hub : Hub) : Response where
  status := 200
  fields := [("content-type", "text/plain; charset=utf-8")]
  body :=
    match hub.counters.exposition with
    | [] => .empty
    | lines => .lines lines

/-- The response to a method that a path does not have. -/
def wrongMethod : Response :=
  { status := 405, fields := [("allow", "GET,HEAD")] }

/-- The paths that are answered. -/
inductive Route
  | session
  | health
  | metrics
deriving DecidableEq, Repr

def Route.ofPath? : String → Option Route
  | "/ws" => some .session
  | "/health" => some .health
  | "/metrics" => some .metrics
  | _ => none

/-- Answers a request on its route.  Also tells whether a session begins. -/
def Route.answer
    (route : Route) (hub : Hub) (request : Request) (upgradable : Bool) :
    Hub × Response × Bool :=
  match route with
  | .health => (hub, healthResponse hub, false)
  | .metrics => (hub, metricsResponse hub, false)
  | .session =>
      let (hub, decision) := openSession hub request.fields upgradable
      (hub, decision.response, decision.isAccepted)

/-- Answers a request.  Also tells whether a session begins.  To `HEAD` the
response is the one to `GET` without what it carries. -/
def respond (hub : Hub) (request : Request) (upgradable : Bool) :
    Hub × Response × Bool :=
  match Route.ofPath? request.path with
  | none => (hub, .bare 404, false)
  | some route =>
      if request.method = "GET" then route.answer hub request upgradable
      else if request.method = "HEAD" then
        let (hub, response, begins) := route.answer hub request upgradable
        (hub, { response with body := .empty }, begins)
      else (hub, wrongMethod, false)

end BroadcastHub.Http
