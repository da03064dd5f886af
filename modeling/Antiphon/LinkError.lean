import Antiphon.Duration
import Antiphon.Frame.Length
import Antiphon.IoFault
import Antiphon.Json.Fault
import Antiphon.Json.Value

/-!
# What can go wrong on a link

One type for every failure that a caller can be told of. Failures to write a message
stay with its sender; failures of the connection end it for every caller; the rest
concern one request.
-/

namespace Antiphon

/-- A failure on a link. -/
inductive LinkError
  /-- The stream failed. -/
  | io (fault : IoFault)
  /-- The message has no JSON text. -/
  | encode (fault : Json.Fault)
  /-- The message is longer than a frame may be. -/
  | payloadTooLarge (size limit : Nat)
  /-- A frame whose payload is not the JSON that was asked for. -/
  | decode (payload : Octets) (fault : Json.Fault)
  /-- A response that is JSON but not the shape that was asked for. -/
  | responseShape (value : Json) (fault : Json.Fault)
  /-- As many requests as allowed already wait. -/
  | tooManyInFlight (limit : Nat)
  /-- A frame came when no request waited for one. -/
  | unsolicited
  /-- The peer broke the framing. -/
  | protocol (text : String)
  /-- The connection could not be made, or has failed. -/
  | connection (text : String)
  /-- The connection ended before the response came. -/
  | connectionClosed
  /-- There is no connection to send on. -/
  | notConnected
  /-- No connection came about in time. -/
  | connectTimeout (after : Duration)
  /-- No response came in the time that the caller allowed. -/
  | requestTimeout (after : Duration)
deriving DecidableEq

namespace LinkError

/-- The wording of a failure. -/
def message : LinkError → String
  | .io fault => s!"I/O error: {fault.message}"
  | .encode fault => s!"Encoding error: {fault.message}"
  | .payloadTooLarge size limit => (Oversized.mk size limit).message
  | .decode payload fault => s!"Decode error ({payload.length} bytes): {fault.message}"
  | .responseShape _ fault => s!"Response does not match the requested type: {fault.message}"
  | .tooManyInFlight limit => s!"Too many requests in flight (limit {limit})"
  | .unsolicited => "Correlation error: received a frame with no pending request"
  | .protocol text => s!"Protocol error: {text}"
  | .connection text => s!"Connection error: {text}"
  | .connectionClosed => "Connection closed"
  | .notConnected => "Not connected"
  | .connectTimeout after => s!"Connect timed out after {after.text}"
  | .requestTimeout after => s!"Request timed out after {after.text}"

/-- The wording of the failure behind this one, if there is one. -/
def source? : LinkError → Option String
  | .io fault => some fault.message
  | .encode fault | .decode _ fault | .responseShape _ fault => some fault.message
  | _ => none

/-- Failures to turn a message into octets. -/
def isEncoding : LinkError → Bool
  | .encode _ | .payloadTooLarge _ _ => true
  | _ => false

/-- Failures that end the connection for every caller. -/
def isConnection : LinkError → Bool
  | .io _ | .protocol _ | .connection _ | .connectionClosed | .connectTimeout _ => true
  | _ => false

/-- A payload that is too long to send. -/
def ofOutgoing (oversized : Oversized) : LinkError := .payloadTooLarge oversized.size oversized.limit

/-- A length that is too large to accept. -/
def ofIncoming (oversized : Oversized) : LinkError := .protocol oversized.message

end LinkError

end Antiphon
