import Antiphon.Proofs.Session.Accounts

/-!
# What a session is to the stream

The dispatch is the writing half of a session: the frames of the requests that were taken, those
that the writer was handed, what it has left of them, and its calls on the stream with their
answers. The other half, the ledger, never looks at it, and it never looks at the ledger.

Octets are neither lost nor invented. While the writer is there, what the stream has accepted and
what the writer still holds are together what it was handed; once it is gone, what was accepted
is a beginning of that (`Dispatch.Carried`).
-/

namespace Antiphon

/-- A call on the stream and its answer. -/
inductive Call
  | write (slices : List Octets) (answer : WriteAnswer)
  | flush (fault : Option IoFault)
  | shutdown (fault : Option IoFault)
deriving DecidableEq

/-- What a call made the stream accept. -/
def Call.accepted : Call → Octets
  | .write slices (.accepted count) => slices.flatten.take count
  | _ => []

/-- The call on the stream that an event tells of. -/
def Event.call? : Event → Option Call
  | .wrote slices answer => some (.write slices answer)
  | .flushed fault => some (.flush fault)
  | .shutDown fault => some (.shutdown fault)
  | _ => none

/-- The writing half of a session. -/
structure Dispatch where
  writer : Writer
  outlet : Outlet
  taken : List (Ticket × Octets)
  handed : List Octets
  calls : List Call

namespace Session

/-- Calls on the stream, in the order in which they were made. -/
def calls (session : Session) : List Call := gather Event.call? session.history

/-- What the stream has accepted is what the calls made it accept. -/
theorem acceptedOctets_eq (session : Session) :
    session.acceptedOctets = session.calls.flatMap Call.accepted := by
  unfold acceptedOctets calls gather
  induction session.history.reverse with
  | nil => rfl
  | cons event rest inductionHypothesis =>
    rw [List.flatMap_cons, inductionHypothesis]
    cases event with
    | wrote slices answer => cases answer <;> rfl
    | _ => rfl

/-- The dispatch of a session. -/
def dispatch (session : Session) : Dispatch where
  writer := session.writer
  outlet := session.outlet
  taken := session.taken
  handed := session.handed
  calls := session.calls

end Session

/-- The slices of a batch are what it has not written. -/
theorem Batch.flatten_slices (batch : Batch) : batch.slices.flatten = batch.unwritten :=
  Batch.flatten_slicesAfter _ _

namespace Writer

/-- The octets that a writer has still to write: the rest of its batch, then its inbox. -/
def remaining (writer : Writer) : Octets :=
  match writer.phase with
  | .writing batch => batch.unwritten ++ writer.inbox.flatten
  | _ => writer.inbox.flatten

/-- What events made the stream accept. -/
def acceptedBy (events : List Event) : Octets :=
  (events.filterMap Event.call?).flatMap Call.accepted

/-- A frame that is handed over is the last that the writer has still to write. -/
theorem remaining_hand {writer after : Writer} {frame : Octets}
    (given : writer.hand frame = some after) :
    writer.isAlive ∧ after.remaining = writer.remaining ++ frame := by
  obtain ⟨alive, rfl⟩ := hand_eq given
  refine ⟨alive, ?_⟩
  cases held : writer.phase <;> simp [remaining, held]

/-- A write call that breaks a batch has made the stream accept nothing. -/
theorem accepted_of_after {batch : Batch} {answer : WriteAnswer} {failure : LinkError}
    (failed : batch.after answer = .error failure) (slices : List Octets) :
    (Call.write slices answer).accepted = [] := by
  unfold Batch.after at failed
  split at failed
  · rfl
  · rfl
  · cases failed

/-- A move of the writer takes from what it holds whatever it makes the stream accept. -/
theorem remaining_step {writer after : Writer} {outlet next : Outlet} {events : List Event}
    (moved : writer.step outlet = some (after, next, events)) :
    writer.isAlive ∧ acceptedBy events <+: writer.remaining ∧
      (after.isAlive → acceptedBy events ++ after.remaining = writer.remaining) := by
  have stride := stride_of_step moved
  refine ⟨stride.isAlive, ?_⟩
  cases stride with
  | gathered idle filled =>
    refine ⟨List.nil_prefix, fun _ => ?_⟩
    simp only [remaining, idle, acceptedBy, Batch.unwritten, Batch.start, List.drop_zero]
    rw [← List.flatten_append, List.take_append_drop]
    rfl
  | retired idle empty starved =>
    exact ⟨List.nil_prefix, fun _ => by simp [remaining, idle, acceptedBy]⟩
  | advanced batch count _ busy left answered =>
    have part : acceptedBy [.wrote batch.slices (.accepted (count + 1))] =
        batch.unwritten.take (count + 1) := by
      rw [← Batch.flatten_slices]
      exact List.append_nil _
    have whole : batch.unwritten.take (count + 1) ++
        (batch.frames.flatten.drop (batch.written + (count + 1)) ++ writer.inbox.flatten) =
          writer.remaining := by
      rw [remaining, busy, ← List.append_assoc, ← List.drop_drop]
      exact congrArg (· ++ _) (List.take_append_drop (count + 1) batch.unwritten)
    rw [part]
    exact ⟨⟨_, whole⟩, fun _ => whole⟩
  | broken batch answer failure _ busy left answered failed =>
    have nothing : acceptedBy [.wrote batch.slices answer, .released .writer] = [] := by
      have refused := accepted_of_after failed batch.slices
      simp [acceptedBy, Event.call?, refused]
    rw [nothing]
    exact ⟨List.nil_prefix, fun alive => by cases alive⟩
  | completed batch _ busy used answered =>
    have nothing : batch.unwritten = [] := by
      rw [← Batch.flatten_slices]
      exact congrArg List.flatten used
    exact ⟨List.nil_prefix, fun _ => by
      simp [remaining, busy, nothing, acceptedBy, Event.call?, Call.accepted]⟩
  | unflushed | ended => exact ⟨List.nil_prefix, fun alive => by cases alive⟩

end Writer

namespace Dispatch

variable (dispatch : Dispatch)

/-- What one move does to a dispatch. -/
inductive Next : Dispatch → Prop
  | same : Next dispatch
  | handed (ticket : Ticket) (frame : Octets) (writer : Writer)
      (given : dispatch.writer.hand frame = some writer) :
      Next { dispatch with
        writer := writer
        taken := dispatch.taken ++ [(ticket, frame)]
        handed := dispatch.handed ++ [frame] }
  | lost (ticket : Ticket) (frame : Octets) (gone : dispatch.writer.hand frame = none) :
      Next { dispatch with taken := dispatch.taken ++ [(ticket, frame)] }
  | starved : Next { dispatch with writer := dispatch.writer.starve }
  | aborted : Next { dispatch with writer := dispatch.writer.abort.1 }
  | stopped : Next { dispatch with writer := dispatch.writer.starve.abort.1 }
  | outletChanged (change : Outlet → Outlet) :
      Next { dispatch with outlet := change dispatch.outlet }
  | wrote (writer : Writer) (outlet : Outlet) (events : List Event)
      (moved : dispatch.writer.step dispatch.outlet = some (writer, outlet, events)) :
      Next { dispatch with
        writer := writer
        outlet := outlet
        calls := dispatch.calls ++ events.filterMap Event.call? }

end Dispatch

namespace Event

/-- Events that leave no mark in a dispatch. -/
def isInward : Event → Bool
  | .queued _ _ _ | .wrote _ _ | .flushed _ | .shutDown _ => false
  | _ => true

end Event

namespace Session

variable (session : Session)

/-- What recorded events add to a dispatch. -/
theorem dispatch_record (events : List Event) :
    (session.record events).dispatch =
      { session.dispatch with
        taken := session.taken ++ events.filterMap Event.taken?
        handed := session.handed ++ events.filterMap Event.handed?
        calls := session.calls ++ events.filterMap Event.call? } := by
  simp only [dispatch, taken, handed, calls, history_record, gather_append, gather_reverse]
  rfl

/-- Events that leave no mark in a dispatch can be recorded. -/
theorem dispatch_record_of_isInward {events : List Event}
    (inward : ∀ event ∈ events, event.isInward = true) :
    (session.record events).dispatch = session.dispatch := by
  have nothing {α : Type} {pick : Event → Option α}
      (outward : ∀ event : Event, event.isInward = true → pick event = none) :
      events.filterMap pick = [] :=
    List.filterMap_eq_nil_iff.mpr fun event member => outward event (inward event member)
  rw [dispatch_record, nothing, nothing, nothing]
  · simp only [List.append_nil]
    rfl
  all_goals intro event silent; cases event <;> first | rfl | cases silent

/-- An ending is nothing to the writing half. -/
theorem dispatch_finish (reason : LinkError) :
    (session.finish reason).dispatch = session.dispatch := by
  rw [finish_eq, dispatch_record_of_isInward]
  · rfl
  · simp only [endingEvents, List.forall_mem_append, List.forall_mem_map]
    refine ⟨⟨⟨fun _ _ => rfl, ?_⟩, fun _ _ => rfl⟩, by simp [Event.isInward]⟩
    split <;> simp [Event.isInward]

/-- Stopping the writer is all that it does to the writing half. -/
theorem dispatch_abortWriter :
    session.abortWriter.dispatch =
      { session.dispatch with writer := session.writer.abort.1 } := by
  unfold abortWriter
  rw [dispatch_record_of_isInward]
  · rfl
  · unfold Writer.abort
    split <;> simp [Event.isInward]

/-- When the task is dropped nobody feeds the writer any more. -/
theorem dispatch_drop :
    session.drop.dispatch = { session.dispatch with writer := session.writer.starve } := by
  rw [drop_eq, dispatch_record_of_isInward]
  · rfl
  · simp only [List.forall_mem_append, List.forall_mem_map]
    exact ⟨⟨fun _ _ => rfl, fun _ _ => rfl⟩, by simp [Event.isInward]⟩

/-- A frame that is received is nothing to the writing half. -/
theorem dispatch_receive (frame : Frame) : (session.receive frame).dispatch = session.dispatch := by
  have noted : (session.note frame).dispatch = session.dispatch := by
    unfold note
    split <;> exact dispatch_record_of_isInward _ (by simp [Event.isInward])
  rw [receive_eq, ← noted, answer]
  split
  · exact dispatch_record_of_isInward _ (by simp [Event.isInward])
  · apply dispatch_record_of_isInward
    split <;> simp [Event.isInward]

/-- Frames that are received are nothing to the writing half. -/
theorem dispatch_receives (frames : List Frame) :
    (frames.foldl receive session).dispatch = session.dispatch := by
  induction frames generalizing session with
  | nil => rfl
  | cons frame rest inductionHypothesis =>
    rw [List.foldl_cons, inductionHypothesis, dispatch_receive]

/-- A failure lets go of the writer and stops it. -/
theorem dispatch_endByFailure (error : LinkError) :
    (session.endByFailure error).dispatch =
      { session.dispatch with writer := session.writer.starve.abort.1 } := by
  rw [endByFailure, dispatch_finish, dispatch_abortWriter]
  have inward : ∀ event ∈ [Event.failed error session.pending.size], event.isInward = true := by
    simp [Event.isInward]
  have told := dispatch_record_of_isInward session inward
  exact congrArg (fun told : Dispatch => { told with writer := session.writer.starve.abort.1 }) told

/-- The end of the peer lets go of the writer and does not stop it. -/
theorem dispatch_endByPeer :
    session.endByPeer.dispatch = { session.dispatch with writer := session.writer.starve } := by
  unfold endByPeer
  rw [dispatch_finish]
  have inward : ∀ event ∈ Event.peerClosed session.pending.size ::
      (if session.codec.isEmpty then [] else [Event.truncated session.codec.buffered]),
      event.isInward = true := by
    split <;> simp [Event.isInward]
  have told := dispatch_record_of_isInward session inward
  exact congrArg (fun told : Dispatch => { told with writer := session.writer.starve }) told

/-- A request that is taken reaches the writer, unless the writer is gone. -/
theorem next_onSend (connected : session.lifecycle = .connected) (ticket : Ticket)
    (frame : Octets) (rest : List Command) :
    session.dispatch.Next ({ session with commands := rest }.onSend ticket frame).dispatch := by
  simp only [onSend, connected, if_true]
  split
  · next writer given =>
    have noCall : [Event.queued ticket frame true].filterMap Event.call? = [] := rfl
    rw [dispatch_record, noCall, List.append_nil]
    exact .handed ticket frame writer given
  · next gone =>
    have noCall : [Event.queued ticket frame false].filterMap Event.call? = [] := rfl
    have notHanded : [Event.queued ticket frame false].filterMap Event.handed? = [] := rfl
    rw [dispatch_record, noCall, notHanded, List.append_nil, List.append_nil]
    exact .lost ticket frame gone

/-- Every move of a session is a move of its dispatch. -/
theorem dispatch_next {before after : Session} {accepting : Bool}
    (connected : before.task = .running → before.lifecycle = .connected)
    (becomes : Becomes before accepting after) : before.dispatch.Next after.dispatch := by
  cases becomes with
  | same | askedToClose | abandoned | handled | delivered | advanced | doomed | started | begun =>
    exact .same
  | outletChanged change => exact .outletChanged change
  | accepted frame =>
    rw [accept, dispatch_record_of_isInward _ (by simp [Event.isInward])]
    exact .same
  | taken ticket frame rest running first =>
    exact next_onSend before (connected running) ticket frame rest
  | closing rest running first =>
    rw [beginClosing, dispatch_record_of_isInward _ (by simp [Event.isInward])]
    exact .starved
  | fed octets inlet frames codec running available extracted =>
    rw [dispatch_receives, afterRead, dispatch_record_of_isInward _ (by simp [Event.isInward])]
    exact .same
  | overrun octets inlet error codec running available refused =>
    rw [dispatch_endByFailure, afterRead,
      dispatch_record_of_isInward _ (by simp [Event.isInward])]
    exact .stopped
  | leftByPeer inlet running available =>
    rw [dispatch_endByPeer]
    exact .starved
  | readFailed inlet fault running available =>
    rw [dispatch_endByFailure]
    exact .stopped
  | writerLost failure running gone =>
    rw [dispatch_endByFailure]
    exact .stopped
  | flushed deadline failure waiting gone =>
    rw [dispatch_finish, dispatch_record_of_isInward _ (by simp [Event.isInward])]
    exact .same
  | timedOut deadline waiting due =>
    rw [dispatch_finish, dispatch_abortWriter,
      dispatch_record_of_isInward _ (by simp [Event.isInward])]
    exact .aborted
  | droppedBeforeTurn doomed idle =>
    have starved : before.drop.writer = before.writer.starve :=
      congrArg Dispatch.writer (dispatch_drop before)
    rw [dispatch_abortWriter, dispatch_drop, starved]
    exact .stopped
  | dropped doomed busy =>
    rw [dispatch_drop]
    exact .starved
  | wrote writer outlet events begun moved =>
    have nothing {α : Type} {pick : Event → Option α}
        (quiet : ∀ event : Event, event.isQuiet = true → pick event = none) :
        events.filterMap pick = [] :=
      List.filterMap_eq_nil_iff.mpr fun event member =>
        quiet event (isQuiet_of_writer_step moved event member)
    have notTaken : events.filterMap Event.taken? = [] :=
      nothing fun event silent => by cases event <;> first | rfl | cases silent
    have notHanded : events.filterMap Event.handed? = [] :=
      nothing fun event silent => by cases event <;> first | rfl | cases silent
    rw [dispatch_record, notTaken, notHanded, List.append_nil, List.append_nil]
    exact .wrote writer outlet events moved

end Session

namespace Dispatch

/-- What the stream has accepted. -/
def accepted (dispatch : Dispatch) : Octets := dispatch.calls.flatMap Call.accepted

/-- The writer writes what it was handed, and it was handed what was taken. Once it is gone, what
was written and what was handed stay as they are. -/
structure Carried (dispatch : Dispatch) : Prop where
  whole : dispatch.writer.isAlive →
    dispatch.accepted ++ dispatch.writer.remaining = dispatch.handed.flatten
  written : dispatch.accepted <+: dispatch.handed.flatten
  relayed : dispatch.writer.isAlive → dispatch.handed = dispatch.taken.map Prod.snd
  handed : dispatch.handed <+: dispatch.taken.map Prod.snd

/-- A writer that was stopped is gone. -/
theorem isAlive_abort (writer : Writer) : writer.abort.1.isAlive = false := by
  unfold Writer.abort
  split
  · rfl
  · next gone => simpa using gone

/-- A move of the writer adds what its calls made the stream accept. -/
theorem accepted_wrote (dispatch : Dispatch) (writer : Writer) (outlet : Outlet)
    (events : List Event) :
    accepted { dispatch with
      writer := writer
      outlet := outlet
      calls := dispatch.calls ++ events.filterMap Event.call? } =
        dispatch.accepted ++ Writer.acceptedBy events := List.flatMap_append

variable {dispatch after : Dispatch}

/-- Every move of the writing half keeps the octets together. -/
theorem Carried.next (carried : dispatch.Carried) (moved : dispatch.Next after) :
    after.Carried := by
  obtain ⟨whole, written, relayed, handed⟩ := carried
  cases moved with
  | same | outletChanged => exact ⟨whole, written, relayed, handed⟩
  | handed ticket frame writer given =>
    obtain ⟨alive, left⟩ := Writer.remaining_hand given
    refine ⟨?_, ?_, ?_, ?_⟩
    · intro _
      rw [left, List.flatten_append, ← whole alive]
      simp [accepted]
    · rw [List.flatten_append]
      exact written.trans (List.prefix_append _ _)
    · intro _
      simp [relayed alive]
    · simp [relayed alive]
  | lost ticket frame gone =>
    have dead : dispatch.writer.isAlive = false := by
      unfold Writer.hand at gone
      split at gone
      · cases gone
      · next dead => simpa using dead
    refine ⟨whole, written, fun alive => absurd (dead.symm.trans alive) (by simp), ?_⟩
    rw [List.map_append]
    exact handed.trans (List.prefix_append _ _)
  | starved => exact ⟨whole, written, relayed, handed⟩
  | aborted =>
    have dead := isAlive_abort dispatch.writer
    exact ⟨fun alive => absurd (dead.symm.trans alive) (by simp), written,
      fun alive => absurd (dead.symm.trans alive) (by simp), handed⟩
  | stopped =>
    have dead := isAlive_abort dispatch.writer.starve
    exact ⟨fun alive => absurd (dead.symm.trans alive) (by simp), written,
      fun alive => absurd (dead.symm.trans alive) (by simp), handed⟩
  | wrote writer outlet events moved =>
    obtain ⟨alive, part, rest⟩ := Writer.remaining_step moved
    have all := whole alive
    refine ⟨?_, ?_, fun _ => relayed alive, handed⟩
    · intro still
      rw [accepted_wrote, List.append_assoc, rest still]
      exact all
    · rw [accepted_wrote, ← all]
      exact (List.prefix_append_right_inj _).mpr part

end Dispatch

namespace Session

variable {settings : Settings} {session : Session}

/-- Wherever a run leads, octets are neither lost nor invented on their way to the stream. -/
theorem Reachable.carried (reachable : Reachable settings session) :
    session.dispatch.Carried := by
  apply reachable.kept fun session => session.dispatch.Carried
  · rintro _ ⟨outlet, task, _, rfl⟩
    exact ⟨fun _ => rfl, List.prefix_refl _, fun _ => rfl, List.prefix_refl _⟩
  · intro before after accepting reached _ becomes carried
    exact carried.next (dispatch_next (connected_of_running reached.sound) becomes)

end Session

end Antiphon
