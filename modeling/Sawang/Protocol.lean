import Sawang.Foundation.Json

/-!
# What the proxy shares with its dispatcher

Segment states, service statuses and member names.  The names and numbers are
those both sides of the protocol agree on.
-/

namespace Sawang

inductive ProxyChannelState where
  | init
  | idle
  | request
  | acknowledged
  | fails
  | done
  | stopRequest
  | rest
  | restRespond
  | termination
deriving DecidableEq, Repr

inductive ProxySubscribeState where
  | init
  | idle
  | answer
  | failed
  | done
  | termination
deriving DecidableEq, Repr

inductive RespondTableType where
  | singleshot
  | multirespond
deriving DecidableEq, Repr

inductive ProxyPayloadParseResult where
  | invalid
  | singleshot
  | multirespond
deriving DecidableEq, Repr

inductive ProxyServiceStatus where
  | aliveStart
  | aliveTermination
  | multirespondClearSuccess
  | multirespondClearPayloadMissing
  | multirespondClearPayloadRidMissing
  | multirespondClearPayloadRidInvalid
deriving DecidableEq, Repr

/-- The number the status has on the wire. -/
def ProxyServiceStatus.code : ProxyServiceStatus → Int32
  | .aliveStart => 1
  | .aliveTermination => 2
  | .multirespondClearSuccess => 3
  | .multirespondClearPayloadMissing => 4
  | .multirespondClearPayloadRidMissing => 5
  | .multirespondClearPayloadRidInvalid => 6

def serviceHeadersKey : String := "headers"
def servicePayloadKey : String := "payload"
def serviceServiceKey : String := "service"
def serviceRidKey : String := "rid"
def serviceStatusKey : String := "serviceStatus"
def gonggoserviceRequestDrop : String := "gonggorequestdrop"

/-- A status under its member name, as the headers of a reply. -/
def statusHeaders (status : Int32) : Json :=
  .object [(serviceStatusKey, .ofInt status.toInt)]

end Sawang
