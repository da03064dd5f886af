import Antiphon.Proofs.Outbound.Stride
import Antiphon.Proofs.Session.Ending
import Antiphon.Proofs.Session.Run
import Mathlib.Data.List.Basic

/-!
# What a session is to its requests

The ledger is the part of a session that requests and responses can tell: the queue, the
commands, the counters, the codec and what has been recorded about them. The clock, the writer
and both sides of the stream are left out.

`Next` is what one move does to a ledger, and `next_of_becomes` says that every move of a
session does one of these things to its ledger. Whatever is proved of all ledgers by cases on
`Next` thereby holds of all sessions, however the writer and the stream behave.
-/

namespace Antiphon

/-- A session without its clock, its writer and its stream. -/
structure Ledger where
  settings : Settings
  lifecycle : Lifecycle
  task : Task
  tally : Tally
  pending : PendingQueue
  commands : List Command
  codec : Codec
  requests : List (Ticket × Octets)
  taken : List (Ticket × Octets)
  chunks : List Octets
  received : List Frame
  completions : List (Ticket × Outcome)
  states : List Lifecycle
  pairing : Session.Pairing

namespace Session

/-- The ledger of a session. -/
def ledger (session : Session) : Ledger where
  settings := session.settings
  lifecycle := session.lifecycle
  task := session.task
  tally := session.tally
  pending := session.pending
  commands := session.commands
  codec := session.codec
  requests := session.requests
  taken := session.taken
  chunks := session.chunks
  received := session.received
  completions := session.completions
  states := session.states
  pairing := session.pairing

end Session

namespace Ledger

open Session (untaken)

variable (ledger : Ledger)

/-- Requests that are not completed, in order: those that wait, then those not taken. -/
def left : List Ticket := ledger.pending.waiting ++ untaken ledger.commands

/-- Completes requests, wherever they stand. -/
def complete (completions : List (Ticket × Outcome)) : Ledger :=
  { ledger with
    pending := ledger.pending.settleAll completions
    completions := ledger.completions ++ completions }

/-- A frame is accepted as a new request. -/
def accept (frame : Octets) : Ledger :=
  { ledger with
    tally := { ledger.tally with pending := ledger.tally.pending + 1 }
    pending := ledger.pending.issue.2
    commands := ledger.commands ++ [.send ledger.pending.issue.1 frame]
    requests := ledger.requests ++ [(ledger.pending.issue.1, frame)] }

/-- The task takes a request; `sent` is what the writer's counter has come to. -/
def take (ticket : Ticket) (frame : Octets) (rest : List Command) (sent : UInt64) : Ledger :=
  { ledger with
    commands := rest
    pending := ledger.pending.push ticket
    tally := { ledger.tally with sent := sent }
    taken := ledger.taken ++ [(ticket, frame)]
    pairing := ledger.pairing.take ticket }

/-- A chunk was read and the codec has looked at it. -/
def read (octets : Octets) (codec : Codec) : Ledger :=
  { ledger with codec := codec, chunks := ledger.chunks ++ [octets] }

/-- Whether a payload is JSON. -/
def legible (frame : Frame) : Bool := (Codec.decode Json frame).isOk

/-- A frame has been cut out of the stream. -/
def note (frame : Frame) : Ledger :=
  { ledger with
    received := ledger.received ++ [frame]
    pairing := ledger.pairing.meet frame
    tally :=
      { ledger.tally with
        received := ledger.tally.received + 1
        undecodable := ledger.tally.undecodable + if legible frame then 0 else 1 } }

/-- A frame answers the request that has waited longest, with what its payload is read as. -/
def receive (frame : Frame) : Ledger :=
  match ledger.pending.waiting with
  | [] =>
    let noted := ledger.note frame
    { noted with tally := { noted.tally with unsolicited := noted.tally.unsolicited + 1 } }
  | ticket :: rest =>
    let noted := ledger.note frame
    { noted with
      pending := { noted.pending with waiting := rest }
      tally := noted.tally.release 1 }.complete [(ticket, Codec.decode Json frame)]

/-- The session ends: whoever waits learns the reason, whoever was not taken that there is no
connection. -/
def finish (reason : LinkError) : Ledger :=
  let completions := Session.leftovers ledger.pending.waiting ledger.commands reason
  { ledger with
    pending := { ledger.pending with waiting := [] }
    tally := ledger.tally.release completions.length
    commands := []
    lifecycle := .closed
    task := .ended
    states := ledger.states ++ [Lifecycle.closed] }.complete completions

/-- The task is dropped: its requests learn it, and nothing is counted or published. -/
def drop : Ledger :=
  { ledger with
    pending := { ledger.pending with waiting := [] }
    commands := []
    task := .dropped }.complete
      (ledger.left.map fun ticket => (ticket, .error .connectionClosed))

/-- What one move does to a ledger. The mark says whether it is a send that was answered with a
ticket. -/
inductive Next : Bool → Ledger → Prop
  | same : Next false ledger
  | accepted (frame text : _) (framed : frameMessage text ledger.settings.maxPayload = .ok frame)
      (room : ledger.tally.pending < ledger.settings.maxInFlight)
      (taking : ledger.task ≠ .ended ∧ ledger.task ≠ .dropped) : Next true (ledger.accept frame)
  | askedToClose (taking : ledger.task ≠ .ended ∧ ledger.task ≠ .dropped) :
      Next false { ledger with commands := ledger.commands ++ [.close] }
  | abandoned (ticket : Ticket) :
      Next false { ledger with pending := ledger.pending.abandon ticket }
  | started (held : ledger.task = .held) : Next false { ledger with task := .ready }
  | begun (ready : ledger.task = .ready) : Next false { ledger with task := .running }
  | taken (ticket : Ticket) (frame : Octets) (rest : List Command) (sent : UInt64)
      (running : ledger.task = .running) (first : ledger.commands = .send ticket frame :: rest) :
      Next false (ledger.take ticket frame rest sent)
  | closing (rest : List Command) (deadline : Nat) (running : ledger.task = .running)
      (first : ledger.commands = .close :: rest ∨ ledger.commands = rest ∧ rest = []) :
      Next false { ledger with
        commands := rest
        lifecycle := .closing
        task := .closing deadline
        states := ledger.states ++ [.closing] }
  | fed (octets : Octets) (frames : List Frame) (codec : Codec) (running : ledger.task = .running)
      (extracted : ledger.codec.feed octets = (.ok frames, codec)) :
      Next false (frames.foldl receive (ledger.read octets codec))
  | overrun (octets : Octets) (error : LinkError) (codec : Codec)
      (running : ledger.task = .running)
      (refused : ledger.codec.feed octets = (.error error, codec)) :
      Next false ((ledger.read octets codec).finish (.connection error.message))
  | finished (reason : LinkError)
      (reasoned : reason = .connectionClosed ∨ ∃ text, reason = .connection text)
      (live : ledger.task = .running ∨ ∃ deadline, ledger.task = .closing deadline) :
      Next false (ledger.finish reason)
  | dropped (live : ledger.task ≠ .ended ∧ ledger.task ≠ .dropped) : Next false ledger.drop

end Ledger

namespace Event

/-- Events that leave no mark in a ledger. -/
def isQuiet : Event → Bool
  | .accepted _ _ | .queued _ _ _ | .read _ | .received _ | .completed _ _ | .published _ => false
  | .undecodable _ _ | .unsolicited _ _ | .discarded _ | .wrote _ _ | .flushed _
  | .batchWritten _ | .shutDown _ | .closing _ _ | .flushFailed _ | .flushTimedOut _
  | .peerClosed _ | .truncated _ | .failed _ _ | .drained _ | .ended | .released _ => true

end Event

namespace Session

variable (session : Session)

/-- The pairing goes on with what is recorded. -/
@[simp] theorem pairing_record (events : List Event) :
    (session.record events).pairing = events.foldl Pairing.after session.pairing := by
  simp [pairing, record, List.foldr_append]

/-- What recorded events add to a ledger. -/
theorem ledger_record (events : List Event) :
    (session.record events).ledger =
      { session.ledger with
        requests := session.requests ++ events.filterMap Event.request?
        taken := session.taken ++ events.filterMap Event.taken?
        chunks := session.chunks ++ events.filterMap Event.chunk?
        received := session.received ++ events.filterMap Event.frame?
        completions := session.completions ++ events.filterMap Event.completion?
        states := session.states ++ events.filterMap Event.published?
        pairing := events.foldl Pairing.after session.pairing } := by
  simp only [ledger, requests, taken, chunks, received, completions, states, pairing_record,
    history_record, gather_append, gather_reverse]
  rfl

/-- Quiet events change no ledger. -/
theorem ledger_record_of_isQuiet {events : List Event}
    (quiet : ∀ event ∈ events, event.isQuiet = true) :
    (session.record events).ledger = session.ledger := by
  have unpaired (pairing : Pairing) : events.foldl Pairing.after pairing = pairing := by
    induction events generalizing pairing with
    | nil => rfl
    | cons event rest inductionHypothesis =>
      simp only [List.forall_mem_cons] at quiet
      rw [List.foldl_cons, inductionHypothesis quiet.2]
      cases event <;> first | rfl | cases quiet.1
  have nothing {α : Type} {pick : Event → Option α}
      (loud : ∀ event : Event, event.isQuiet = true → pick event = none) :
      events.filterMap pick = [] :=
    List.filterMap_eq_nil_iff.mpr fun event member => loud event (quiet event member)
  rw [ledger_record, unpaired]
  rw [nothing, nothing, nothing, nothing, nothing, nothing]
  · simp only [List.append_nil]
    rfl
  all_goals intro event silent; cases event <;> first | rfl | cases silent

/-- The writer's doings are its own. -/
theorem isQuiet_of_writer_step {writer after : Writer} {outlet next : Outlet}
    {events : List Event} (moved : writer.step outlet = some (after, next, events)) :
    ∀ event ∈ events, event.isQuiet = true := by
  cases Writer.stride_of_step moved <;> simp [Event.isQuiet]

/-- Stopping the writer is no matter of the ledger. -/
@[simp] theorem ledger_abortWriter : session.abortWriter.ledger = session.ledger := by
  unfold abortWriter Writer.abort
  split
  · next writer released aborted =>
    have quiet : ∀ event ∈ released, event.isQuiet = true := by
      split at aborted <;> cases aborted <;> simp [Event.isQuiet]
    exact ledger_record_of_isQuiet { session with writer := writer } quiet

/-- Completed requests are no news for the pairing. -/
theorem foldl_after_completed (pairing : Pairing) (tickets : List Ticket) (outcome : Outcome) :
    (tickets.map fun ticket => Event.completed ticket outcome).foldl Pairing.after pairing =
      pairing := by
  induction tickets with
  | nil => rfl
  | cons ticket rest inductionHypothesis => exact inductionHypothesis

/-- A session ends as its ledger does. -/
theorem ledger_finish (reason : LinkError) :
    (session.finish reason).ledger = session.ledger.finish reason := by
  rw [finish_eq, ledger_record]
  by_cases nobody : session.pending.waiting = [] <;>
    simp [nobody, endingEvents, ledger, requests, taken, chunks, received, completions, states,
      pairing, Ledger.finish, Ledger.complete, leftovers, Function.comp_def,
      foldl_after_completed, List.filterMap_cons, Event.request?, Event.taken?, Event.chunk?,
      Event.frame?, Event.completion?, Event.published?, Pairing.after]

/-- A failed flush on close is reported and changes nothing else. -/
theorem ledger_flushed (failure : Option LinkError) (reason : LinkError) :
    ((session.record (failure.toList.map Event.flushFailed)).finish reason).ledger =
      session.ledger.finish reason := by
  have quiet : ∀ event ∈ failure.toList.map Event.flushFailed, event.isQuiet = true := by
    simp [Event.isQuiet]
  rw [ledger_finish, ledger_record_of_isQuiet session quiet]

/-- A session whose time is over ends as its ledger does. -/
theorem ledger_timedOut (limit : Duration) (reason : LinkError) :
    ((session.record [.flushTimedOut limit]).abortWriter.finish reason).ledger =
      session.ledger.finish reason := by
  have quiet : ∀ event ∈ [Event.flushTimedOut limit], event.isQuiet = true := by
    simp [Event.isQuiet]
  rw [ledger_finish, ledger_abortWriter, ledger_record_of_isQuiet session quiet]

/-- A task is dropped as its ledger says. -/
theorem ledger_drop : session.drop.ledger = session.ledger.drop := by
  rw [drop_eq, ledger_record]
  simp [ledger, requests, taken, chunks, received, completions, states, pairing, Ledger.drop,
    Ledger.left, Ledger.complete, Function.comp_def, foldl_after_completed,
    List.filterMap_cons, Event.request?, Event.taken?, Event.chunk?, Event.frame?,
    Event.completion?, Event.published?, Pairing.after]

/-- A request is accepted as in the ledger. -/
theorem ledger_accept (frame : Octets) :
    (session.accept frame).ledger = session.ledger.accept frame := by
  rw [accept, ledger_record]
  simp [ledger, requests, taken, chunks, received, completions, states, pairing, Ledger.accept,
    Event.request?, Event.taken?, Event.chunk?, Event.frame?, Event.completion?,
    Event.published?, Pairing.after]

/-- A chunk is read as in the ledger. -/
theorem ledger_afterRead (inlet : Inlet) (octets : Octets) (codec : Codec) :
    (session.afterRead inlet octets codec).ledger = session.ledger.read octets codec := by
  rw [afterRead, ledger_record]
  simp [ledger, requests, taken, chunks, received, completions, states, pairing, Ledger.read,
    Event.request?, Event.taken?, Event.chunk?, Event.frame?, Event.completion?,
    Event.published?, Pairing.after]

/-- A frame is noted as in the ledger. -/
theorem ledger_note (frame : Frame) : (session.note frame).ledger = session.ledger.note frame := by
  unfold note Ledger.note Ledger.legible
  cases Codec.decode Json frame <;> rw [ledger_record] <;>
    simp [ledger, requests, taken, chunks, received, completions, states, pairing,
      Except.isOk, Except.toBool, List.filterMap_cons, Event.request?, Event.taken?, Event.chunk?,
      Event.frame?, Event.completion?, Event.published?, Pairing.after]

/-- A frame is received as in the ledger. -/
theorem ledger_receive (frame : Frame) :
    (session.receive frame).ledger = session.ledger.receive frame := by
  have noted : (session.note frame).ledger = session.ledger.note frame := ledger_note session frame
  have waits : (session.note frame).pending.waiting = session.pending.waiting := by
    unfold note; split <;> rfl
  rw [receive_eq]
  unfold Ledger.receive
  rw [← noted]
  cases first : session.pending.waiting with
  | nil =>
    have quiet : ∀ event ∈ [Event.unsolicited frame .unsolicited], event.isQuiet = true := by
      simp [Event.isQuiet]
    have nobody : session.ledger.pending.waiting = [] := first
    rw [answer_of_nobody _ _ _ (waits.trans first), ledger_record_of_isQuiet _ quiet, nobody]
    rfl
  | cons ticket rest =>
    have waiting : session.ledger.pending.waiting = ticket :: rest := first
    rw [answer_of_waiting _ _ _ (waits.trans first), ledger_record, waiting, answeredEvents]
    split <;>
      simp only [List.filterMap_cons, List.filterMap_nil, List.foldl_cons, List.foldl_nil,
        List.append_nil, Event.request?, Event.taken?, Event.chunk?, Event.frame?,
        Event.completion?, Event.published?, Pairing.after] <;>
      rfl

/-- Frames are received as in the ledger. -/
theorem ledger_receives (frames : List Frame) :
    (frames.foldl receive session).ledger = frames.foldl Ledger.receive session.ledger := by
  induction frames generalizing session with
  | nil => rfl
  | cons frame rest inductionHypothesis =>
    rw [List.foldl_cons, List.foldl_cons, inductionHypothesis, ledger_receive]

/-- A connected session gives a request its place, whatever has become of the writer. -/
theorem ledger_onSend (connected : session.lifecycle = .connected) (ticket : Ticket)
    (frame : Octets) (rest : List Command) :
    ∃ sent, ({ session with commands := rest }.onSend ticket frame).ledger =
      session.ledger.take ticket frame rest sent := by
  simp only [onSend, connected, if_true]
  split
  · refine ⟨session.tally.sent + 1, ?_⟩
    rw [ledger_record]
    simp [ledger, requests, taken, chunks, received, completions, states, pairing, Ledger.take,
      connected, Event.request?, Event.taken?, Event.chunk?, Event.frame?, Event.completion?,
      Event.published?, Pairing.after]
  · refine ⟨session.tally.sent, ?_⟩
    rw [ledger_record]
    simp [ledger, requests, taken, chunks, received, completions, states, pairing, Ledger.take,
      connected, Event.request?, Event.taken?, Event.chunk?, Event.frame?, Event.completion?,
      Event.published?, Pairing.after]

/-- A task that begins to close publishes this, and has a time until which it waits. -/
theorem ledger_beginClosing (rest : List Command) :
    ∃ deadline, ({ session with commands := rest }.beginClosing).ledger =
      { session.ledger with
        commands := rest
        lifecycle := .closing
        task := .closing deadline
        states := session.states ++ [.closing] } := by
  refine ⟨session.clock + milliseconds session.settings.closeTimeout, ?_⟩
  rw [beginClosing, ledger_record]
  simp [ledger, leaveWriter, requests, taken, chunks, received, completions, states, pairing,
    List.filterMap_cons, Event.request?, Event.taken?, Event.chunk?, Event.frame?,
    Event.completion?, Event.published?, Pairing.after]

/-- A failure ends the ledger with its wording. -/
theorem ledger_endByFailure (error : LinkError) :
    (session.endByFailure error).ledger =
      session.ledger.finish (.connection error.message) := by
  have quiet : ∀ event ∈ [Event.failed error session.pending.size], event.isQuiet = true := by
    simp [Event.isQuiet]
  have untouched : (session.record [.failed error session.pending.size]).leaveWriter.ledger =
      session.ledger := ledger_record_of_isQuiet session quiet
  rw [endByFailure, ledger_finish, ledger_abortWriter, untouched]

/-- The end of the peer ends the ledger, the connection being closed. -/
theorem ledger_endByPeer :
    session.endByPeer.ledger = session.ledger.finish .connectionClosed := by
  unfold endByPeer
  have quiet : ∀ event ∈ Event.peerClosed session.pending.size ::
      (if session.codec.isEmpty then [] else [Event.truncated session.codec.buffered]),
      event.isQuiet = true := by
    split <;> simp [Event.isQuiet]
  rw [ledger_finish]
  exact congrArg (Ledger.finish · .connectionClosed) (ledger_record_of_isQuiet session quiet)

/-- A task that takes commands has not ended and was not dropped. -/
theorem live_of_takesCommands (taking : session.takesCommands = true) :
    session.task ≠ .ended ∧ session.task ≠ .dropped := by
  constructor <;> intro ended <;> simp [takesCommands, ended] at taking

/-- Every move of a session is a move of its ledger. -/
theorem next_of_becomes {before after : Session} {accepting : Bool}
    (connected : before.task = .running → before.lifecycle = .connected)
    (becomes : Becomes before accepting after) : before.ledger.Next accepting after.ledger := by
  cases becomes with
  | same => exact .same
  | accepted frame text framed room taking =>
    rw [ledger_accept]
    exact .accepted frame text framed room (live_of_takesCommands before taking)
  | askedToClose taking => exact .askedToClose (live_of_takesCommands before taking)
  | abandoned ticket => exact .abandoned ticket
  | handled | delivered | outletChanged | advanced | doomed => exact .same
  | started held => exact .started held
  | begun ready => exact .begun ready
  | taken ticket frame rest running first =>
    obtain ⟨sent, result⟩ := ledger_onSend before (connected running) ticket frame rest
    rw [result]
    exact .taken ticket frame rest sent running first
  | closing rest running first =>
    obtain ⟨deadline, result⟩ := ledger_beginClosing before rest
    rw [result]
    exact .closing rest deadline running (first.imp_right fun empty => ⟨empty.1, empty.2.1⟩)
  | fed octets inlet frames codec running available extracted =>
    rw [ledger_receives, ledger_afterRead]
    exact .fed octets frames codec running extracted
  | overrun octets inlet error codec running available refused =>
    rw [ledger_endByFailure, ledger_afterRead]
    exact .overrun octets error codec running refused
  | leftByPeer inlet running available =>
    rw [ledger_endByPeer]
    exact .finished .connectionClosed (.inl rfl) (.inl running)
  | readFailed inlet fault running available =>
    rw [ledger_endByFailure]
    exact .finished _ (.inr ⟨_, rfl⟩) (.inl running)
  | writerLost failure running gone =>
    rw [ledger_endByFailure]
    exact .finished _ (.inr ⟨_, rfl⟩) (.inl running)
  | flushed deadline failure waiting gone =>
    rw [ledger_flushed]
    exact .finished .connectionClosed (.inl rfl) (.inr ⟨deadline, waiting⟩)
  | timedOut deadline waiting due =>
    rw [ledger_timedOut]
    exact .finished .connectionClosed (.inl rfl) (.inr ⟨deadline, waiting⟩)
  | droppedBeforeTurn doomed idle =>
    rw [ledger_abortWriter, ledger_drop]
    apply Ledger.Next.dropped
    change before.task ≠ .ended ∧ before.task ≠ .dropped
    rcases idle with held | ready <;> simp_all
  | dropped doomed busy =>
    rw [ledger_drop]
    apply Ledger.Next.dropped
    change before.task ≠ .ended ∧ before.task ≠ .dropped
    rcases busy with running | ⟨deadline, waiting⟩ <;> simp_all
  | wrote writer outlet events begun moved =>
    rw [ledger_record_of_isQuiet _ (isQuiet_of_writer_step moved)]
    exact .same

/-! ## Nothing is forgotten -/

variable {session} {earlier : List Event}

/-- Recording forgets nothing. -/
theorem suffix_record (kept : earlier <:+ session.history) (events : List Event) :
    earlier <:+ (session.record events).history := kept.trans (List.suffix_append _ _)

/-- An ending forgets nothing. -/
theorem suffix_finish (kept : earlier <:+ session.history) (reason : LinkError) :
    earlier <:+ (session.finish reason).history := by
  rw [finish_eq]
  exact suffix_record kept _

/-- Stopping the writer forgets nothing. -/
theorem suffix_abortWriter (kept : earlier <:+ session.history) :
    earlier <:+ session.abortWriter.history := suffix_record kept _

/-- Dropping the task forgets nothing. -/
theorem suffix_drop (kept : earlier <:+ session.history) : earlier <:+ session.drop.history := by
  rw [drop_eq]
  exact suffix_record kept _

/-- Taking a request forgets nothing. -/
theorem suffix_onSend (kept : earlier <:+ session.history) (ticket : Ticket) (frame : Octets) :
    earlier <:+ (session.onSend ticket frame).history := by
  unfold onSend
  split
  · dsimp only
    split <;> exact suffix_record kept _
  · exact suffix_record kept _

/-- Receiving a frame forgets nothing. -/
theorem suffix_receive (kept : earlier <:+ session.history) (frame : Frame) :
    earlier <:+ (session.receive frame).history := by
  have noted : earlier <:+ (session.note frame).history := by
    unfold note
    split <;> exact suffix_record kept _
  rw [receive_eq, answer]
  split <;> exact suffix_record noted _

/-- Receiving frames forgets nothing. -/
theorem suffix_receives (kept : earlier <:+ session.history) (frames : List Frame) :
    earlier <:+ (frames.foldl receive session).history := by
  induction frames generalizing session with
  | nil => exact kept
  | cons frame rest inductionHypothesis => exact inductionHypothesis (suffix_receive kept frame)

/-- Failing forgets nothing. -/
theorem suffix_endByFailure (kept : earlier <:+ session.history) (error : LinkError) :
    earlier <:+ (session.endByFailure error).history := by
  refine suffix_finish (suffix_abortWriter ?_) _
  exact suffix_record kept [.failed error session.pending.size]

/-- A move adds to the history and takes nothing back. -/
theorem Becomes.suffix {before after : Session} {accepting : Bool}
    (becomes : Becomes before accepting after) : before.history <:+ after.history := by
  have kept : before.history <:+ before.history := List.suffix_refl _
  cases becomes with
  | same | abandoned | handled | delivered | outletChanged | advanced | doomed | started | begun
  | askedToClose => exact kept
  | accepted | closing | wrote => exact suffix_record kept _
  | taken =>
    refine suffix_onSend ?_ _ _
    exact kept
  | fed octets =>
    refine suffix_receives ?_ _
    exact suffix_record kept [.read octets]
  | overrun octets =>
    refine suffix_endByFailure ?_ _
    exact suffix_record kept [.read octets]
  | leftByPeer =>
    refine suffix_finish ?_ _
    exact suffix_record kept _
  | readFailed | writerLost =>
    refine suffix_endByFailure ?_ _
    exact kept
  | flushed => exact suffix_finish (suffix_record kept _) _
  | timedOut => exact suffix_finish (suffix_abortWriter (suffix_record kept _)) _
  | droppedBeforeTurn => exact suffix_abortWriter (suffix_drop kept)
  | dropped => exact suffix_drop kept

/-- What was picked from a history remains the beginning of what can be picked later. -/
theorem Becomes.gather_prefix {before after : Session} {accepting : Bool} {α : Type}
    (becomes : Becomes before accepting after) (pick : Event → Option α) :
    gather pick before.history <+: gather pick after.history := by
  obtain ⟨later, grown⟩ := becomes.suffix
  rw [← grown, gather_append]
  exact List.prefix_append _ _

end Session

end Antiphon
