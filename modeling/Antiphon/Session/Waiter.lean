import Antiphon.Session.Step
import Antiphon.Shape.Asked

/-!
# Calls that wait

A caller can wait for a response, for a response in a shape of its choice, for a response
but not beyond a deadline, or for the end of the connection. Looking at a call either
finds its result or leaves it waiting. A call that gives up at its deadline abandons its
request, and the result of one that was settled by then is its response. A call holds
nothing of the session but its interest in a response.
-/

namespace Antiphon

/-- A call that is waiting. -/
inductive Waiter
  | response (ticket : Ticket)
  | shaped (ticket : Ticket) (asked : Asked)
  | timed (ticket : Ticket) (deadline : Nat) (allowed : Duration)
  | closed

/-- What a call gives in the end: a text of JSON, or the news that the connection is over. -/
inductive Completion
  | text (outcome : Except LinkError Octets)
  | closed

namespace Waiter

/-- The request whose response the call waits for. -/
def ticket? : Waiter → Option Ticket
  | .response ticket | .shaped ticket _ | .timed ticket _ _ => some ticket
  | .closed => none

/-- What a call has to show, if it is done. -/
def poll? (waiter : Waiter) (session : Session) : Option Completion :=
  match waiter with
  | .response ticket =>
    (session.pending.outcome? ticket).map fun outcome => .text (outcome.map Json.render)
  | .shaped ticket asked =>
    (session.pending.outcome? ticket).map fun outcome =>
      .text (outcome.bind asked.fromResponse)
  | .timed ticket deadline allowed =>
    match session.pending.outcome? ticket with
    | some outcome => some (.text (outcome.map Json.render))
    | none =>
      if deadline ≤ session.clock then some (.text (.error (.requestTimeout allowed))) else none
  | .closed => if session.isOver then some .closed else none

/-- Lets go of what the call held, its interest in a response. -/
def release (waiter : Waiter) (session : Session) : Session :=
  match waiter.ticket? with
  | some ticket => session.abandon ticket
  | none => session

end Waiter

/-- A call that gives up at its deadline, made in a state and answered with a ticket. -/
def Session.timedCall (sending : Session) (ticket : Ticket) (allowed : Duration) : Waiter :=
  .timed ticket (sending.clock + milliseconds allowed) allowed

end Antiphon
