import BroadcastHub.Digest.Sha1
import BroadcastHub.Http.Field
import BroadcastHub.Text.Base64

/-!
# The opening handshake

A request asks for a WebSocket session if its header fields say so in four
places.  The answer proves that the request was understood by repeating its key
in digested form.
-/

namespace BroadcastHub.Http

/-- The text that is joined to a client's key before it is digested. -/
def acceptSuffix : String := "258EAFA5-E914-47DA-95CA-C5AB0DC85B11"

/-- Whether some part of some `Connection` value asks for an upgrade. -/
def connectionUpgrades (fields : List Field) : Bool :=
  (valuesOf "connection" fields).any fun value =>
    (tokensOf value).any fun token => sameLetters token "upgrade"

/-- Whether the first `Upgrade` value names the WebSocket protocol. -/
def upgradesToWebSocket (fields : List Field) : Bool :=
  match (firstValue? "upgrade" fields).bind valueText? with
  | some text => sameLetters text "websocket"
  | none => false

def asksForVersion13 (fields : List Field) : Bool :=
  firstValue? "sec-websocket-version" fields = some (Text.utf8 "13")

/-- The digested form of a client's key. -/
def acceptValue (key : Octets) : String :=
  Text.base64 (Digest.sha1 (key ++ Text.utf8 acceptSuffix))

/-- The answer to a request's key, if the request asks for a session. -/
def answerKey? (fields : List Field) : Option String :=
  if connectionUpgrades fields && upgradesToWebSocket fields &&
    asksForVersion13 fields then
    (firstValue? "sec-websocket-key" fields).map acceptValue
  else none

end BroadcastHub.Http
