import Antiphon.Outbound.Batch
import Antiphon.Session.Event

/-!
# The writer

The writer takes frames from its inbox in batches, writes each batch to the end, flushes
once, and goes on. When the inbox is empty and nobody can fill it any more it shuts the
stream down and ends. The first fault ends it too, and nothing is called after that.

`step` is one move: forming a batch, one write call, the flush that completes a batch, or
the shutdown. It answers `none` when the writer can only wait.
-/

namespace Antiphon

/-- What a writer is doing. -/
inductive WriterPhase
  | idle
  | writing (batch : Batch)
  | shuttingDown
  | ended (failure : Option LinkError)
  /-- Stopped from outside; it never moves again. -/
  | aborted
deriving DecidableEq

/-- The writer of a session. `fed` while somebody can still hand it frames; `unwritten` counts
the frames handed over whose batch is not complete. -/
structure Writer where
  phase : WriterPhase
  inbox : List Octets
  fed : Bool
  unwritten : UInt64

namespace Writer

/-- A writer with nothing to write. -/
def new : Writer := ⟨.idle, [], true, 0⟩

/-- How many frames a batch can hold. -/
def maxBatch : Nat := 64

/-- Whether frames can still reach the writer. -/
def isAlive (writer : Writer) : Bool :=
  match writer.phase with
  | .idle | .writing _ | .shuttingDown => true
  | .ended _ | .aborted => false

/-- Whether the writer is in the middle of what it wants of the stream. -/
def isCalling (writer : Writer) : Bool :=
  match writer.phase with
  | .writing _ | .shuttingDown => true
  | .idle | .ended _ | .aborted => false

/-- Hands a frame over; answers `none` if the writer is gone. -/
def hand (writer : Writer) (frame : Octets) : Option Writer :=
  if writer.isAlive then
    some { writer with inbox := writer.inbox ++ [frame], unwritten := writer.unwritten + 1 }
  else none

/-- Nobody will hand over frames any more. -/
def starve (writer : Writer) : Writer := { writer with fed := false }

/-- Stops a writer that has not ended; its half of the stream is let go. -/
def abort (writer : Writer) : Writer × List Event :=
  if writer.isAlive then ({ writer with phase := .aborted }, [.released .writer])
  else (writer, [])

/-- Ends a writer; its half of the stream is let go. -/
def finish (writer : Writer) (failure : Option LinkError) : Writer × List Event :=
  ({ writer with phase := .ended failure }, [.released .writer])

/-- One write call for a batch that has the given slices left. -/
def writeSome (writer : Writer) (batch : Batch) (slices : List Octets) (outlet : Outlet) :
    Option (Writer × Outlet × List Event) :=
  match outlet.write slices.flatten.length with
  | none => none
  | some (answer, outlet) =>
    match batch.after answer with
    | .ok batch => some ({ writer with phase := .writing batch }, outlet, [.wrote slices answer])
    | .error failure =>
      let (writer, released) := writer.finish (some failure)
      some (writer, outlet, .wrote slices answer :: released)

/-- The flush of a batch whose octets are all accepted. -/
def completeBatch (writer : Writer) (batch : Batch) (outlet : Outlet) :
    Option (Writer × Outlet × List Event) :=
  match outlet.flush with
  | none => none
  | some (none, outlet) =>
    let rested :=
      { writer with phase := .idle, unwritten := writer.unwritten - batch.frames.length.toUInt64 }
    some (rested, outlet, [.flushed none, .batchWritten batch.frames.length])
  | some (some fault, outlet) =>
    let (writer, released) := writer.finish (some (.io fault))
    some (writer, outlet, .flushed (some fault) :: released)

/-- One move of the writer, and what happened in it. -/
def step (writer : Writer) (outlet : Outlet) : Option (Writer × Outlet × List Event) :=
  match writer.phase with
  | .idle =>
    match writer.inbox with
    | [] => if writer.fed then none else some ({ writer with phase := .shuttingDown }, outlet, [])
    | _ :: _ =>
      let batch := Batch.start (writer.inbox.take maxBatch)
      some ({ writer with phase := .writing batch, inbox := writer.inbox.drop maxBatch }, outlet, [])
  | .writing batch =>
    match batch.slices with
    | [] => writer.completeBatch batch outlet
    | slices => writer.writeSome batch slices outlet
  | .shuttingDown =>
    match outlet.shutdown with
    | none => none
    | some (fault, outlet) =>
      let (writer, released) := writer.finish (fault.map LinkError.io)
      some (writer, outlet, .shutDown fault :: released)
  | .ended _ | .aborted => none

/-- A measure of the moves that the writer can still make. -/
def load (writer : Writer) : Nat :=
  let inbox := writer.inbox.foldl (fun total frame => total + frame.length + 3) 0
  inbox + match writer.phase with
    | .idle => 2
    | .writing batch => 4 + batch.unwritten.length
    | .shuttingDown => 1
    | .ended _ | .aborted => 0

end Writer

end Antiphon
