import Antiphon.Duration
import Antiphon.Frame.Length

/-!
# Settings of a link

Sizes and counts are words, as in the interface of the operating system; zero is allowed
everywhere and means what it says, except that a read always asks for an octet at least.
-/

namespace Antiphon

/-- What a caller can choose about a link. -/
structure Settings where
  /-- The largest payload, in either direction. -/
  maxPayload : UInt32
  /-- How many octets one read asks for. -/
  readBuffer : UInt64
  /-- How long a connection attempt may take. -/
  connectTimeout : Duration
  /-- How long closing waits for frames to be written. -/
  closeTimeout : Duration
  /-- How many requests may await a response. -/
  maxInFlight : UInt64
deriving DecidableEq, Repr

namespace Settings

/-- A read asks for 64 KiB. -/
def defaultReadBuffer : UInt64 := 65536

/-- A connection attempt may take ten seconds. -/
def defaultConnectTimeout : Duration := .ofSeconds 10

/-- Closing waits for five seconds. -/
def defaultCloseTimeout : Duration := .ofSeconds 5

/-- So many requests may await a response. -/
def defaultMaxInFlight : UInt64 := 1024

/-- The room that a reassembly buffer sets aside at first. -/
def bufferCapacity : Nat := 65536

/-- The settings of a caller that chooses nothing. -/
def default : Settings :=
  ⟨Frame.defaultLimit, defaultReadBuffer, defaultConnectTimeout, defaultCloseTimeout,
    defaultMaxInFlight⟩

/-- The settings with another limit for payloads. -/
def withMaxPayload (settings : Settings) (limit : UInt32) : Settings :=
  { settings with maxPayload := limit }

/-- The settings with another size for reads. -/
def withReadBuffer (settings : Settings) (size : UInt64) : Settings :=
  { settings with readBuffer := size }

/-- The settings with another time for connection attempts. -/
def withConnectTimeout (settings : Settings) (timeout : Duration) : Settings :=
  { settings with connectTimeout := timeout }

/-- The settings with another time for closing. -/
def withCloseTimeout (settings : Settings) (timeout : Duration) : Settings :=
  { settings with closeTimeout := timeout }

/-- The settings with another limit for requests that await a response. -/
def withMaxInFlight (settings : Settings) (limit : UInt64) : Settings :=
  { settings with maxInFlight := limit }

/-- How many octets one read asks for. -/
def readCapacity (settings : Settings) : Nat := max 1 settings.readBuffer.toNat

end Settings

end Antiphon
