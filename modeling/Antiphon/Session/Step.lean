import Antiphon.Session.Caller

/-!
# The moves of a session

The task takes a command, reads a chunk or learns that the writer has ended, one at a
time; each is a move of its own, and so is every move of the writer. A move answers
`none` when it cannot be made. Nothing here chooses between moves: any order in which
they can be made is a run of the session.

The task leaves its loop in one of three ways. Asked to close, or left by its last
handle, it waits for the writer, but no longer than its settings say. When the peer has
closed it ends at once and lets the writer finish by itself. After a failure it ends at
once and stops the writer. However it ends, every request that still waits is failed,
and commands that were never taken learn that there is no connection.
-/

namespace Antiphon.Session

/-- Answers the oldest waiting request, as a response to a received frame. -/
def answer (session : Session) (frame : Frame) (outcome : Outcome) : Session :=
  match session.pending.completeOldest outcome with
  | .error error =>
    { session with
      tally := { session.tally with unsolicited := session.tally.unsolicited + 1 } }.record
        [.unsolicited frame error]
  | .ok (ticket, pending) =>
    let discarded := if pending.isAwaited ticket then [] else [Event.discarded ticket]
    { session with pending := pending, tally := session.tally.release 1 }.record
      (.completed ticket outcome :: discarded)

/-- Pairs a received frame with the oldest waiting request. -/
def receive (session : Session) (frame : Frame) : Session :=
  let session :=
    { session with
      tally := { session.tally with received := session.tally.received + 1 } }.record
        [.received frame]
  match Codec.decode Json frame with
  | .ok value => session.answer frame (.ok value)
  | .error error =>
    let session :=
      { session with
        tally := { session.tally with undecodable := session.tally.undecodable + 1 } }.record
          [.undecodable frame error]
    session.answer frame (.error error)

/-- Feeds a chunk to the codec and pairs every frame that it completes. A length above the
limit gives up the frames that were completed before it. -/
def onData (session : Session) (chunk : Octets) : Except LinkError Unit × Session :=
  let (frames, codec) := session.codec.feed chunk
  let session := { session with codec := codec }.record [.read chunk]
  match frames with
  | .error error => (.error error, session)
  | .ok frames => (.ok (), frames.foldl receive session)

/-- Fails a request that never got a place in the queue. -/
def turnAway (session : Session) (ticket : Ticket) : Session :=
  { session with
    pending := session.pending.settle ticket (.error .notConnected)
    tally := session.tally.release 1 }.record [.completed ticket (.error .notConnected)]

/-- Queues a request and hands its frame to the writer. The place in the queue is taken
first, so the request waits before its first octet can reach the peer. A session that is not
connected any more turns the request away. -/
def onSend (session : Session) (ticket : Ticket) (frame : Octets) : Session :=
  if session.lifecycle = .connected then
    let session := { session with pending := session.pending.push ticket }
    match session.writer.hand frame with
    | some writer =>
      { session with
        writer := writer
        tally := { session.tally with sent := session.tally.sent + 1 } }.record
          [.queued ticket frame true]
    | none => session.record [.queued ticket frame false]
  else session.turnAway ticket

/-- Fails the commands that were never taken. -/
def refuse (session : Session) : List Command → Session
  | [] => session
  | .close :: rest => refuse session rest
  | .send ticket _ :: rest => refuse (session.turnAway ticket) rest

/-- Fails every request that still waits, for one reason. -/
def failWaiting (session : Session) (reason : LinkError) : Session :=
  let (count, pending) := session.pending.drainWith reason
  let completed := session.pending.waiting.map fun ticket => Event.completed ticket (.error reason)
  let drained := if count = 0 then [] else [Event.drained count]
  { session with pending := pending, tally := session.tally.release count }.record
    (completed ++ drained)

/-- Ends the task: nothing is left waiting, and the end is published. -/
def finish (session : Session) (reason : LinkError) : Session :=
  let session := session.failWaiting reason
  let session := refuse { session with commands := [] } session.commands
  { session with lifecycle := .closed, task := .ended }.record
    [.published .closed, .ended, .released .reader]

/-- Stops the writer. -/
def abortWriter (session : Session) : Session :=
  let (writer, released) := session.writer.abort
  { session with writer := writer }.record released

/-- The session's hold on the writer is given up. -/
def leaveWriter (session : Session) : Session :=
  { session with writer := session.writer.starve }

/-- Milliseconds of a duration, any part of one counting as whole. -/
def milliseconds (duration : Duration) : Nat :=
  duration.seconds * 1000 + (duration.nanoseconds + 999999) / 1000000

/-- Begins to close, as asked. -/
def beginClosing (session : Session) : Session :=
  let deadline := session.clock + milliseconds session.settings.closeTimeout
  { session with lifecycle := .closing, task := .closing deadline }.leaveWriter.record
    [.published .closing, .closing session.pending.size session.writer.unwritten]

/-- Ends because the peer closed its side. -/
def endByPeer (session : Session) : Session :=
  let truncated := if session.codec.isEmpty then [] else [Event.truncated session.codec.buffered]
  let session := session.record (.peerClosed session.pending.size :: truncated)
  session.leaveWriter.finish .connectionClosed

/-- Ends because of a failure, of which every waiting request is told. -/
def endByFailure (session : Session) (error : LinkError) : Session :=
  let session := session.record [.failed error session.pending.size]
  session.leaveWriter.abortWriter.finish (.connection error.message)

/-- The task has its first turn. -/
def begin? (session : Session) : Option Session :=
  match session.task with
  | .ready => some { session with task := .running }
  | _ => none

/-- Takes the first command; the drop of the last handle counts as one, after all others. -/
def takeCommand? (session : Session) : Option Session :=
  match session.task, session.commands with
  | .running, .send ticket frame :: rest =>
    some ({ session with commands := rest }.onSend ticket frame)
  | .running, .close :: rest => some { session with commands := rest }.beginClosing
  | .running, [] => if session.handles = 0 then some session.beginClosing else none
  | _, _ => none

/-- Reads what arrived first. -/
def read? (session : Session) : Option Session :=
  match session.task, session.inlet.read session.settings.readCapacity with
  | .running, some (arrival, inlet) =>
    let session := { session with inlet := inlet }
    match arrival with
    | .finish => some session.endByPeer
    | .fault fault => some (session.endByFailure (.io fault))
    | .chunk octets =>
      match session.onData octets with
      | (.ok (), session) => some session
      | (.error error, session) => some (session.endByFailure error)
  | _, _ => none

/-- Learns that the writer has ended while the session was using it. -/
def noticeWriter? (session : Session) : Option Session :=
  match session.task, session.writer.phase with
  | .running, .ended failure => some (session.endByFailure (failure.getD .connectionClosed))
  | _, _ => none

/-- Learns, while closing, that the writer has ended. -/
def finishClosing? (session : Session) : Option Session :=
  match session.task, session.writer.phase with
  | .closing _, .ended failure =>
    let failed := failure.toList.map Event.flushFailed
    some ((session.record failed).finish .connectionClosed)
  | _, _ => none

/-- Gives up waiting for the writer. -/
def timeOut? (session : Session) : Option Session :=
  match session.task with
  | .closing deadline =>
    if deadline ≤ session.clock then
      let session := session.record [.flushTimedOut session.settings.closeTimeout]
      some (session.abortWriter.finish .connectionClosed)
    else none
  | _ => none

/-- Drops the task where it stands: what it holds is let go, and nothing is published. A task
that never had a turn holds the writer's half as well. -/
def drop (session : Session) : Session :=
  let waiting := session.pending.waiting ++ session.commands.filterMap fun
    | .send ticket _ => some ticket
    | .close => none
  let session :=
    { session with
      task := .dropped
      commands := []
      pending := { session.pending with waiting := waiting }.discard
      writer := session.writer.starve }
  session.record
    (waiting.map (fun ticket => .completed ticket (.error .connectionClosed)) ++
      [.released .reader])

/-- The turn of a task that is to be dropped. -/
def drop? (session : Session) : Option Session :=
  match session.doomed, session.task with
  | true, .held | true, .ready => some session.drop.abortWriter
  | true, .running | true, .closing _ => some session.drop
  | _, _ => none

/-- A move of the writer. It can move once the task has had its first turn. -/
def moveWriter? (session : Session) : Option Session :=
  match session.task with
  | .held | .ready => none
  | .running | .closing _ | .ended | .dropped => do
    let (writer, outlet, events) ← session.writer.step session.outlet
    some ({ session with writer := writer, outlet := outlet }.record events)

end Antiphon.Session
