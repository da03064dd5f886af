import Antiphon.Session.Event
import Antiphon.Session.Settings

/-!
# Opening a connection

What comes of an attempt to reach an address is the network's to say: the stream opens,
the attempt fails, or nothing happens until the time is up. A host name with a NUL in it
never reaches the network, because the system's resolver cannot be given one.
-/

namespace Antiphon

/-- Where a peer listens. -/
structure Address where
  host : String
  port : UInt16
deriving DecidableEq, Repr

/-- What came of an attempt to connect. -/
inductive Attempt
  | opened
  | refused (fault : IoFault)
  | unanswered
deriving DecidableEq, Repr

/-- What a network answers to attempts. -/
abbrev Network := Address → Attempt

/-- One thing that happened while connecting. -/
inductive ConnectEvent
  | connecting
  | connected
  | failed (error : LinkError)

namespace Address

/-- A host name that the resolver cannot be given. -/
def unresolvable : IoFault :=
  .described .other "file name contained an unexpected NUL byte"

/-- What an attempt at this address comes to. -/
def attempt (address : Address) (network : Network) : Attempt :=
  if address.host.toList.contains '\x00' then .refused unresolvable else network address

/-- Opens a stream within the time allowed. -/
def dial (address : Address) (network : Network) (timeout : Duration) : Except LinkError Unit :=
  match address.attempt network with
  | .opened => .ok ()
  | .unanswered => .error (.connectTimeout timeout)
  | .refused fault =>
    .error (.connection s!"{address.host}:{address.port}: {fault.message}")

/-- Connects with the given settings, and tells what happened. -/
def connect (address : Address) (network : Network) (settings : Settings) :
    Except LinkError Unit × List ConnectEvent :=
  match address.dial network settings.connectTimeout with
  | .ok () => (.ok (), [.connecting, .connected])
  | .error error => (.error error, [.connecting, .failed error])

/-- The address as fields of a log line. -/
def fields (address : Address) : List (String × String) :=
  [("host", address.host), ("port", toString address.port)]

/-- The log line of an event. -/
def logLine (address : Address) : ConnectEvent → LogLine
  | .connecting => ⟨.debug, "Connecting", address.fields⟩
  | .connected => ⟨.debug, "Connected", address.fields⟩
  | .failed error =>
    ⟨.error, "Connect failed", address.fields ++ [("error", error.message)]⟩

end Address

end Antiphon
