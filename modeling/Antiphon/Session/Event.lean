import Antiphon.Frame.Basic
import Antiphon.Pending.Queue
import Antiphon.Session.Lifecycle
import Antiphon.Stream.Outlet

/-!
# What happens in a session

Events are recorded in the order in which they happen: calls on the stream, frames and
requests on their way, states as they are published, and the turns of a closing
connection. `Event.log?` gives the line that an event leaves in the log; most of the
traffic leaves none.
-/

namespace Antiphon

/-- The two halves of a stream, which are let go separately. -/
inductive Half
  | reader
  | writer
deriving DecidableEq, Repr

/-- One thing that happened. -/
inductive Event
  /-- A caller's request was accepted, in the given frame. -/
  | accepted (ticket : Ticket) (frame : Octets)
  /-- The session queued a request; its frame was handed to the writer, or the writer was gone. -/
  | queued (ticket : Ticket) (frame : Octets) (handed : Bool)
  /-- A read gave octets. -/
  | read (octets : Octets)
  | received (frame : Frame)
  | undecodable (frame : Frame) (error : LinkError)
  | unsolicited (frame : Frame) (error : LinkError)
  | completed (ticket : Ticket) (outcome : Outcome)
  /-- A response came for a request that nobody awaits. -/
  | discarded (ticket : Ticket)
  /-- A write call, the slices it offered, and the answer. -/
  | wrote (slices : List Octets) (answer : WriteAnswer)
  | flushed (fault : Option IoFault)
  | batchWritten (frames : Nat)
  | shutDown (fault : Option IoFault)
  | published (state : Lifecycle)
  | closing (pending : Nat) (unwritten : UInt64)
  | flushFailed (error : LinkError)
  | flushTimedOut (limit : Duration)
  | peerClosed (pending : Nat)
  | truncated (buffered : Nat)
  | failed (error : LinkError) (pending : Nat)
  | drained (count : Nat)
  | ended
  /-- A half of the stream was let go. -/
  | released (half : Half)

/-- How much attention a log line asks for. -/
inductive LogLevel
  | error
  | warn
  | debug
  | trace
deriving DecidableEq, Repr

/-- A line of the log, with named values. -/
structure LogLine where
  level : LogLevel
  text : String
  fields : List (String × String)
deriving DecidableEq, Repr

/-- The log line of an event, if it leaves one. -/
def Event.log? : Event → Option LogLine
  | .received frame => some ⟨.trace, "Received frame", [("len", toString frame.size)]⟩
  | .undecodable frame error =>
    some ⟨.warn, "Failed to decode frame",
      [("len", toString frame.size), ("error", error.message)]⟩
  | .unsolicited frame error =>
    some ⟨.warn, "Received unsolicited frame",
      [("len", toString frame.size), ("error", error.message)]⟩
  | .discarded _ => some ⟨.trace, "Discarded response for abandoned request", []⟩
  | .batchWritten frames => some ⟨.trace, "Wrote batch", [("frames", toString frames)]⟩
  | .closing pending unwritten =>
    some ⟨.debug, "Closing",
      [("pending", toString pending), ("unwritten", toString unwritten)]⟩
  | .flushFailed error => some ⟨.warn, "Flush on close failed", [("error", error.message)]⟩
  | .flushTimedOut limit =>
    some ⟨.warn, "Flush on close timed out", [("timeout", limit.text)]⟩
  | .peerClosed pending =>
    some ⟨.debug, "Connection closed by peer", [("pending", toString pending)]⟩
  | .truncated buffered =>
    some ⟨.warn, "Peer closed in the middle of a frame", [("buffered", toString buffered)]⟩
  | .failed error pending =>
    some ⟨.error, "Connection failed", [("error", error.message), ("pending", toString pending)]⟩
  | .drained count =>
    some ⟨.debug, "Failed pending requests on shutdown", [("count", toString count)]⟩
  | .ended => some ⟨.debug, "Session closed", []⟩
  | .accepted _ _ | .queued _ _ _ | .read _ | .completed _ _ | .wrote _ _ | .flushed _
  | .shutDown _ | .published _ | .released _ => none

end Antiphon
