import Antiphon.Proofs.Pending.Line
import Antiphon.Proofs.Session.Chronicle

/-!
# How a session ends

Ending goes through the waiting requests and then through the commands that were never taken,
completing one after the other. `finish_eq` and `drop_eq` give the state that results in one
piece: which requests were completed with what, how many reservations were returned, and the
events that tell of it. What a received frame does is given the same way by `receive_eq`.
-/

namespace Antiphon

namespace Tally

/-- Releasing no reservation changes nothing. -/
theorem release_zero (tally : Tally) : tally.release 0 = tally := by simp [release]

/-- Returning reservations in two parts is returning them together. -/
theorem release_release (tally : Tally) (first second : Nat) :
    (tally.release first).release second = tally.release (first + second) := by
  have together : (first + second).toUInt64 = first.toUInt64 + second.toUInt64 :=
    UInt64.ofNat_add first second
  simp only [release, together]
  congr 1
  grind

end Tally

namespace Session

/-- What the requests come to that are not settled when a session ends for a reason: those that
wait learn the reason, and those that were never taken learn that there is no connection. -/
def leftovers (waiting : List Ticket) (commands : List Command) (reason : LinkError) :
    List (Ticket × Outcome) :=
  (waiting.map fun ticket => (ticket, .error reason)) ++
    (untaken commands).map fun ticket => (ticket, .error .notConnected)

/-- The leftovers are those that wait, and then those that were not taken. -/
@[simp] theorem map_fst_leftovers (waiting : List Ticket) (commands : List Command)
    (reason : LinkError) :
    (leftovers waiting commands reason).map Prod.fst = waiting ++ untaken commands := by
  simp [leftovers, Function.comp_def]

variable (session : Session)

/-- The events of an ending, in order. -/
def endingEvents (reason : LinkError) : List Event :=
  (session.pending.waiting.map fun ticket => Event.completed ticket (.error reason)) ++
    (if session.pending.waiting.length = 0 then []
      else [Event.drained session.pending.waiting.length]) ++
    ((untaken session.commands).map fun ticket => Event.completed ticket (.error .notConnected)) ++
    [.published .closed, .ended, .released .reader]

/-- Refusing commands settles the requests among them, one reservation each. -/
theorem refuse_eq (commands : List Command) :
    session.refuse commands =
      { session with
        pending := session.pending.settleAll
          ((untaken commands).map fun ticket => (ticket, .error .notConnected))
        tally := session.tally.release (untaken commands).length }.record
          ((untaken commands).map fun ticket => .completed ticket (.error .notConnected)) := by
  induction commands generalizing session with
  | nil => simp [refuse, record, Tally.release_zero]
  | cons command rest inductionHypothesis =>
    cases command with
    | close => exact inductionHypothesis session
    | send ticket frame =>
      rw [refuse, inductionHypothesis]
      simp [turnAway, record, Tally.release_release, Nat.add_comm]

/-- The state in which a session ends. -/
theorem finish_eq (reason : LinkError) :
    session.finish reason =
      { session with
        pending := ({ session.pending with waiting := [] } : PendingQueue).settleAll
          (leftovers session.pending.waiting session.commands reason)
        tally := session.tally.release
          (leftovers session.pending.waiting session.commands reason).length
        commands := []
        lifecycle := .closed
        task := .ended }.record (session.endingEvents reason) := by
  rw [finish, refuse_eq]
  simp [failWaiting, PendingQueue.drainWith_eq, PendingQueue.size, record, leftovers,
    endingEvents, Tally.release_release]

/-- The state in which a session is dropped. -/
theorem drop_eq :
    session.drop =
      { session with
        task := .dropped
        commands := []
        pending := ({ session.pending with waiting := [] } : PendingQueue).settleAll
          ((session.pending.waiting ++ untaken session.commands).map fun ticket =>
            (ticket, .error .connectionClosed))
        writer := session.writer.starve }.record
          ((session.pending.waiting ++ untaken session.commands).map
            (fun ticket => Event.completed ticket (.error .connectionClosed)) ++
              [Event.released .reader]) := by
  simp only [drop, PendingQueue.discard, PendingQueue.drainWith_eq]
  rfl

/-- When the peer closes, the session reports a truncated frame unless its buffer is at a frame
boundary. -/
theorem truncations_endByPeer :
    gather Event.truncation? session.endByPeer.history =
      gather Event.truncation? session.history ++
        if session.codec.isEmpty then [] else [session.codec.buffered] := by
  have silent (tickets : List Ticket) (outcome : Outcome) :
      (tickets.map fun ticket => Event.completed ticket outcome).filterMap Event.truncation? =
        [] := by
    simp [List.filterMap_eq_nil_iff, Event.truncation?]
  have ending (session : Session) :
      (session.endingEvents .connectionClosed).filterMap Event.truncation? = [] := by
    simp only [endingEvents, List.filterMap_append, silent]
    split <;> rfl
  rw [endByPeer, finish_eq, history_record, gather_append, gather_reverse, ending,
    List.append_nil]
  change gather Event.truncation? (session.record _).history = _
  rw [history_record, gather_append, gather_reverse]
  split <;> rfl

/-- A frame is noted whether or not a request waits for it. -/
def note (frame : Frame) : Session :=
  match Codec.decode Json frame with
  | .ok _ =>
    { session with tally := { session.tally with received := session.tally.received + 1 } }.record
      [.received frame]
  | .error error =>
    { session with
      tally :=
        { session.tally with
          received := session.tally.received + 1
          undecodable := session.tally.undecodable + 1 } }.record
      [.received frame, .undecodable frame error]

/-- A received frame answers with what its payload is read as, be it a value or a failure. -/
theorem receive_eq (frame : Frame) :
    session.receive frame = (session.note frame).answer frame (Codec.decode Json frame) := by
  unfold receive note
  cases Codec.decode Json frame <;> rfl

/-- An answer that finds nobody waiting. -/
theorem answer_of_nobody (frame : Frame) (outcome : Outcome)
    (nobody : session.pending.waiting = []) :
    session.answer frame outcome =
      { session with
        tally := { session.tally with unsolicited := session.tally.unsolicited + 1 } }.record
          [.unsolicited frame .unsolicited] := by
  simp [answer, PendingQueue.completeOldest, nobody]

/-- The events of an answer to a request: nobody may be there to take it. -/
def answeredEvents (ticket : Ticket) (outcome : Outcome) : List Event :=
  .completed ticket outcome ::
    if (session.pending.settle ticket outcome).isAwaited ticket then [] else [.discarded ticket]

/-- An answer that goes to the request that has waited longest. -/
theorem answer_of_waiting (frame : Frame) (outcome : Outcome) {ticket : Ticket}
    {rest : List Ticket} (first : session.pending.waiting = ticket :: rest) :
    session.answer frame outcome =
      { session with
        pending := ({ session.pending with waiting := rest } : PendingQueue).settle ticket outcome
        tally := session.tally.release 1 }.record (session.answeredEvents ticket outcome) := by
  simp only [answer, PendingQueue.completeOldest, first]
  rfl

/-- Received frames are a matter of the requests and the counters. -/
theorem exists_receive_eq (frame : Frame) : ∃ tally pending history,
    session.receive frame =
      { session with tally := tally, pending := pending, history := history } := by
  rw [receive_eq, note]
  split <;> (unfold answer; split <;> exact ⟨_, _, _, rfl⟩)

/-- Frames change the counters, the line and the history only. -/
theorem exists_receives_eq (frames : List Frame) : ∃ tally pending history,
    frames.foldl receive session =
      { session with tally := tally, pending := pending, history := history } := by
  induction frames generalizing session with
  | nil => exact ⟨_, _, _, rfl⟩
  | cons frame rest inductionHypothesis =>
    obtain ⟨_, _, _, first⟩ := exists_receive_eq session frame
    obtain ⟨tally, pending, history, others⟩ := inductionHypothesis (session.receive frame)
    exact ⟨tally, pending, history, by rw [List.foldl_cons, others, first]⟩

end Session

end Antiphon
