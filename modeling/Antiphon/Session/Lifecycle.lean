/-!
# The life of a connection

A session is published as connected from its beginning; it ends closed, by way of closing
if the end was asked for on this side. The two states before belong to the attempt to
connect.
-/

namespace Antiphon

/-- How far a connection has got. -/
inductive Lifecycle
  | disconnected
  | connecting
  | connected
  | closing
  | closed
deriving DecidableEq, Repr

/-- The name shown to people. -/
def Lifecycle.name : Lifecycle → String
  | .disconnected => "disconnected"
  | .connecting => "connecting"
  | .connected => "connected"
  | .closing => "closing"
  | .closed => "closed"

/-- All states, in the order in which a connection can pass through them. -/
def Lifecycle.all : List Lifecycle := [.disconnected, .connecting, .connected, .closing, .closed]

end Antiphon
