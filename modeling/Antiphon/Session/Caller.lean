import Antiphon.Session.State

/-!
# What callers do

Sending does not wait. The checks come in a fixed order: the connection, the message, the
limit on requests in flight, and last whether the task still takes commands. A
reservation that was made by then is given back, so a send that fails leaves the session
as it was.

The reservation, the command and the reservation's return are one step here (`sendFrame`),
and the steps of other handles come before or after it. A handle that sends in between, on
another thread, could be refused for want of the room that is about to be given back; that
is left out. The check of the connection is not part of this step, and the session may have
moved on since.
-/

namespace Antiphon.Session

/-- Accepts a frame as a new request, unless too many are in flight. -/
def sendFrame (session : Session) (frame : Octets) : Except LinkError Ticket × Session :=
  match session.tally.reserve session.settings.maxInFlight with
  | none => (.error (.tooManyInFlight session.settings.maxInFlight.toNat), session)
  | some reserved =>
    if session.takesCommands then
      let (ticket, pending) := session.pending.issue
      let session :=
        { session with
          tally := reserved
          pending := pending
          commands := session.commands ++ [Command.send ticket frame] }
      (.ok ticket, session.record [.accepted ticket frame])
    else (.error .notConnected, { session with tally := reserved.release 1 })

/-- Sends a message, given as the text that writing it produced; answers its ticket. -/
def send (session : Session) (text : Except Json.Fault Octets) :
    Except LinkError Ticket × Session :=
  if session.lifecycle = .connected then
    match frameMessage text session.settings.maxPayload with
    | .error error => (.error error, session)
    | .ok frame => session.sendFrame frame
  else (.error .notConnected, session)

/-- Asks the session to close; without effect once nobody takes commands. -/
def requestClose (session : Session) : Session :=
  if session.takesCommands then { session with commands := session.commands ++ [Command.close] }
  else session

/-- A caller stops waiting for a response. -/
def abandon (session : Session) (ticket : Ticket) : Session :=
  { session with pending := session.pending.abandon ticket }

/-- One more handle. -/
def addHandle (session : Session) : Session := { session with handles := session.handles + 1 }

/-- One handle less. -/
def dropHandle (session : Session) : Session := { session with handles := session.handles - 1 }

/-- Something arrives on the stream. -/
def deliver (session : Session) (arrival : Arrival) : Session :=
  { session with inlet := session.inlet.deliver arrival }

/-- The stream will answer the writer otherwise from now on. -/
def changeOutlet (session : Session) (change : Outlet → Outlet) : Session :=
  { session with outlet := change session.outlet }

/-- Time passes, by whole milliseconds. -/
def advance (session : Session) (milliseconds : Nat) : Session :=
  { session with clock := session.clock + milliseconds }

/-- Starts a session that was held. -/
def start (session : Session) : Session :=
  match session.task with
  | .held => { session with task := .ready }
  | _ => session

/-- Has the task dropped at its next turn. -/
def doom (session : Session) : Session := { session with doomed := true }

end Antiphon.Session
