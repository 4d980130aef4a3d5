import BroadcastHub.Http.Content
import BroadcastHub.Http.Routes

/-!
# Conversations

Over a link a client sends one request after the other, until it asks for a
session, asks for the end, or sends something that is not a request.  A request
whose content is not there as a whole when it is answered is the last one too.
What follows the request for a session are the first octets of the session.
-/

namespace BroadcastHub.Server.Hub

open Http

def updateLink (hub : Hub) (id : PeerId) (change : Link → Link) : Hub :=
  hub.updatePeer id fun peer =>
    match peer.socket with
    | .link connection => { peer with socket := .link (change connection) }
    | .scripted _ => peer

/-- Gives or replaces the field that tells what becomes of the connection. -/
def withConnection (response : Response) (value : String) : Response :=
  { response with
    fields :=
      ("connection", value) :: response.fields.filter fun (name, _) => name ≠
        "connection" }

/-- A response as it is sent: a client learns that the connection ends, and one
of the older version that it does not. -/
def asSent
    (response : Response) (version : Version) (keeps : Bool) : Response :=
  match version, keeps with
  | .oneOne, false => withConnection response "close"
  | .oneZero, true => withConnection response "keep-alive"
  | _, _ => response

def reply (hub : Hub) (id : PeerId) (response : Response) : Hub :=
  hub.updateLink id fun link =>
    { link with replies := link.replies ++ [response] }

def beginSession (hub : Hub) (task : TaskId) (id : PeerId) : Hub :=
  let attendant := hub.nextTask
  let hub := hub.updatePeer id fun peer =>
    { peer with holdsSlot := true, attendant := some attendant }
  (hub.spawn (.attend id .arriving)).finish task .over

/-- Tells a client that what it sent is not a request. -/
def refuse
    (hub : Hub) (task : TaskId) (id : PeerId) (offence : Offence) : Hub :=
  (hub.reply id (withConnection (.bare offence.status) "close")).finish
    task .over

def converseOn
    (hub : Hub) (task : TaskId) (id : PeerId) (request : Http.Request)
    (content : Content) (rest : Octets) : Hub :=
  let behind := content.behind? rest
  let hub :=
    hub.updateLink id fun link => { link with unread := behind.getD [] }
  let (hub, response, begins) := respond hub request request.isUpgradable
  let keeps := request.keepsAlive
  let hub := hub.reply id (asSent response request.version keeps)
  if begins then hub.beginSession task id
  else if keeps && behind.isSome then hub.again task
  else hub.finish task .over

def pollConversation (hub : Hub) (task : TaskId) (id : PeerId) : Hub :=
  let hub := hub.updateLink id Link.readPipe
  match (hub.peer id).socket with
  | .scripted _ => hub.finish task .over
  | .link link =>
      match Http.Request.read? link.unread with
      | .complete request rest =>
          match contentOf? request with
          | some content => hub.converseOn task id request content rest
          | none => hub.refuse task id .malformed
      | .refused offence => hub.refuse task id offence
      | .incomplete =>
          if link.inbound.closed then hub.finish task .over else hub

end BroadcastHub.Server.Hub
