import Antiphon.Codec
import Antiphon.Outbound.Writer
import Antiphon.Session.Settings
import Antiphon.Session.Tally
import Antiphon.Stream.Inlet

/-!
# The state of a session

A session is everything that one connection consists of: the task that reads and pairs,
the writer, the two sides of the stream, what the callers share with them, and the clock.
Callers put commands into a queue; the task takes them out in order. `history` keeps
every event, latest first.
-/

namespace Antiphon

/-- What callers ask of the session's task. -/
inductive Command
  /-- Queue the request, then hand its frame to the writer. -/
  | send (ticket : Ticket) (frame : Octets)
  /-- Write what is queued, then close. -/
  | close
deriving DecidableEq

/-- How far the session's task has got. -/
inductive Task
  /-- Nobody has started it. -/
  | held
  /-- Started, but it has not had its first turn. -/
  | ready
  | running
  /-- Waiting for the writer, but no longer than to a point of time. -/
  | closing (deadline : Nat)
  | ended
  /-- Dropped in the middle; nothing was cleaned up. -/
  | dropped
deriving DecidableEq, Repr

/-- One connection. -/
structure Session where
  settings : Settings
  /-- Whole milliseconds since the beginning. Timers are told no finer apart, and a deadline
  that falls between two of them is met at the later one. A clock that stands between two
  of them itself is left out. -/
  clock : Nat
  /-- Handles through which commands can come. -/
  handles : Nat
  /-- The state as callers see it. -/
  lifecycle : Lifecycle
  tally : Tally
  pending : PendingQueue
  commands : List Command
  task : Task
  /-- The task is to be dropped at its next turn. -/
  doomed : Bool
  codec : Codec
  writer : Writer
  inlet : Inlet
  outlet : Outlet
  history : List Event

namespace Session

/-- A connection over an open stream, with one handle. -/
def new (settings : Settings) (outlet : Outlet) (task : Task) : Session where
  settings := settings
  clock := 0
  handles := 1
  lifecycle := .connected
  tally := .zero
  pending := .empty
  commands := []
  task := task
  doomed := false
  codec := .new settings.maxPayload
  writer := .new
  inlet := []
  outlet := outlet
  history := [.published .connected]

/-- Records what happened, in the given order. -/
def record (session : Session) (events : List Event) : Session :=
  { session with history := events.reverse ++ session.history }

/-- Whether commands still reach the task. -/
def takesCommands (session : Session) : Bool :=
  match session.task with
  | .ended | .dropped => false
  | .held | .ready | .running | .closing _ => true

/-- Whether a caller that waits for the end has nothing more to wait for. -/
def isOver (session : Session) : Bool := session.lifecycle = .closed || !session.takesCommands

/-- What has been accepted by the stream, in order. -/
def acceptedOctets (session : Session) : Octets :=
  session.history.reverse.flatMap fun
    | .wrote slices (.accepted count) => slices.flatten.take count
    | _ => []

end Session

end Antiphon
