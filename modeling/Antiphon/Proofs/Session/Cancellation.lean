import Antiphon.Proofs.Pending.Unwatched
import Antiphon.Proofs.Session.Parallel
import Antiphon.Session.Waiter

/-!
# Giving up is nobody else's business

A caller that gives up on a request leaves its place in the order, its reservation and its response
as they were. What is left behind is the mark that nobody awaits the response, and the note that it
was discarded. `Session.unwatched` takes both out of a state, and `unwatched_make?` says that a move
comes to the same with them or without: it can be made or cannot, and the states it leads to differ
in nothing else. So two runs that differ in who gave up, and when, cannot be told apart by anybody
else.

A call with a deadline is the plain call and a caller that gives up. What it shows depends on when
its caller gets to look at it: if one look finds the deadline passed and no outcome, the call is
over; otherwise it shows what the plain call shows.
-/

namespace Antiphon

namespace Event

/-- Whether an event would have been recorded whoever awaits a response. -/
def isPublic : Event → Bool
  | .discarded _ => false
  | _ => true

end Event

namespace Session

/-- The session as if nobody awaited a response, and nothing of that had been recorded. -/
def unwatched (session : Session) : Session :=
  { session with
    pending := session.pending.unwatched
    history := session.history.filter Event.isPublic }

variable (session : Session)

/-- To stop watching a session twice is to stop watching it once. -/
@[simp] theorem unwatched_unwatched : session.unwatched.unwatched = session.unwatched := by
  simp [unwatched]

/-- Of the events that are recorded the public ones are left when nobody watches. -/
theorem unwatched_record (events : List Event) :
    (session.record events).unwatched =
      session.unwatched.record (events.filter Event.isPublic) := by
  simp [unwatched, record]

/-- Public events are recorded alike, watched or not. -/
theorem unwatched_record_of_public {events : List Event}
    (heard : ∀ event ∈ events, event.isPublic = true) :
    (session.record events).unwatched = session.unwatched.record events := by
  rw [unwatched_record, List.filter_eq_self.mpr heard]

/-- A session ends alike, watched or not. -/
theorem unwatched_finish (reason : LinkError) :
    (session.finish reason).unwatched = session.unwatched.finish reason := by
  rw [finish_eq, finish_eq, unwatched_record_of_public]
  · simp only [unwatched, PendingQueue.unwatched_settleAll]
    rfl
  · simp only [endingEvents, List.forall_mem_append, List.forall_mem_map]
    refine ⟨⟨⟨fun _ _ => rfl, ?_⟩, fun _ _ => rfl⟩, by simp [Event.isPublic]⟩
    split <;> simp [Event.isPublic]

/-- A task is dropped alike, watched or not. -/
theorem unwatched_drop : session.drop.unwatched = session.unwatched.drop := by
  rw [drop_eq, drop_eq, unwatched_record_of_public]
  · simp only [unwatched, PendingQueue.unwatched_settleAll]
    rfl
  · simp only [List.forall_mem_append, List.forall_mem_map]
    exact ⟨⟨fun _ _ => rfl, fun _ _ => rfl⟩, by simp [Event.isPublic]⟩

/-- A writer is stopped alike, watched or not. -/
theorem unwatched_abortWriter : session.abortWriter.unwatched = session.unwatched.abortWriter := by
  unfold abortWriter
  rw [unwatched_record_of_public]
  · rfl
  · unfold Writer.abort
    split <;> simp [Event.isPublic]

/-- A failure ends a session alike, watched or not. -/
theorem unwatched_endByFailure (error : LinkError) :
    (session.endByFailure error).unwatched = session.unwatched.endByFailure error := by
  unfold endByFailure
  rw [unwatched_finish, unwatched_abortWriter]
  rfl

/-- The end of the peer ends a session alike, watched or not. -/
theorem unwatched_endByPeer : session.endByPeer.unwatched = session.unwatched.endByPeer := by
  unfold endByPeer
  rw [unwatched_finish]
  have heard : ∀ event ∈ Event.peerClosed session.pending.size ::
      (if session.codec.isEmpty then [] else [Event.truncated session.codec.buffered]),
      event.isPublic = true := by
    split <;> simp [Event.isPublic]
  exact congrArg (fun told : Session => told.leaveWriter.finish .connectionClosed)
    (unwatched_record_of_public session heard)

/-- A request is taken alike, watched or not. -/
theorem unwatched_onSend (ticket : Ticket) (frame : Octets) (rest : List Command) :
    ({ session with commands := rest }.onSend ticket frame).unwatched =
      { session.unwatched with commands := rest }.onSend ticket frame := by
  simp only [onSend]
  by_cases connected : session.lifecycle = .connected
  · simp only [connected, unwatched]
    cases session.writer.hand frame <;> rfl
  · simp only [connected, if_false, unwatched, turnAway, PendingQueue.unwatched_settle, record]
    rfl

/-- A request is accepted alike, watched or not. -/
theorem unwatched_accept (frame : Octets) :
    (session.accept frame).unwatched = (session.unwatched.accept frame).unwatched := by
  rw [accept, accept, unwatched_record_of_public _ (by simp [Event.isPublic]),
    unwatched_record_of_public _ (by simp [Event.isPublic])]
  simp [unwatched, PendingQueue.unwatched, PendingQueue.issue, Function.comp_def]

/-- A frame is noted alike, watched or not. -/
theorem unwatched_note (frame : Frame) :
    (session.note frame).unwatched = session.unwatched.note frame := by
  unfold note
  split <;> rfl

/-- A frame answers a request alike, watched or not. -/
theorem unwatched_answer (frame : Frame) (outcome : Outcome) :
    (session.answer frame outcome).unwatched =
      (session.unwatched.answer frame outcome).unwatched := by
  have waits : session.unwatched.pending.waiting = session.pending.waiting := rfl
  cases first : session.pending.waiting with
  | nil =>
    rw [answer_of_nobody _ _ _ first, answer_of_nobody _ _ _ (waits.trans first),
      unwatched_record_of_public _ (by simp [Event.isPublic]),
      unwatched_record_of_public _ (by simp [Event.isPublic])]
    simp [unwatched]
  | cons ticket rest =>
    have said (session : Session) :
        (session.answeredEvents ticket outcome).filter Event.isPublic =
          [.completed ticket outcome] := by
      unfold answeredEvents
      split <;> rfl
    rw [answer_of_waiting _ _ _ first, answer_of_waiting _ _ _ (waits.trans first),
      unwatched_record, unwatched_record, said, said]
    simp only [unwatched, PendingQueue.unwatched_settle]
    simp [PendingQueue.unwatched, Function.comp_def]

/-- A frame is received alike, watched or not. -/
theorem unwatched_receive (frame : Frame) :
    (session.receive frame).unwatched = (session.unwatched.receive frame).unwatched := by
  rw [receive_eq, receive_eq, unwatched_answer, unwatched_note]

/-- Frames are received alike, watched or not. -/
theorem unwatched_receives (frames : List Frame) :
    (frames.foldl receive session).unwatched =
      (frames.foldl receive session.unwatched).unwatched := by
  induction frames generalizing session with
  | nil => simp
  | cons frame rest inductionHypothesis =>
    rw [List.foldl_cons, List.foldl_cons, inductionHypothesis, unwatched_receive,
      ← inductionHypothesis]

/-- What an exact step comes to, and what a step up to the watching comes to. -/
theorem map_unwatched_of_eq {next next' : Option Session} (same : next.map unwatched = next') :
    next.map unwatched = next'.map unwatched := map_view_of_eq unwatched_unwatched same

/-- Nobody who sends is asked who awaits a response. -/
theorem sends_unwatched : Sends unwatched session where
  again := unwatched_unwatched session
  lifecycle := rfl
  settings := rfl
  tally := rfl
  taking := rfl
  ticket := by simp [unwatched, PendingQueue.unwatched, PendingQueue.issue]
  accepted := unwatched_accept session

/-- What a caller does with a handle is done alike, watched or not. -/
theorem unwatched_byHandle {session next next' : Session}
    (same : next.unwatched = next'.unwatched) :
    (session.byHandle next).map unwatched = (session.unwatched.byHandle next').map unwatched :=
  byHandle_of_view (by rfl) same

/-- A command is taken alike, watched or not. -/
theorem unwatched_takeCommand? :
    session.takeCommand?.map unwatched = session.unwatched.takeCommand? := by
  have task : session.unwatched.task = session.task := rfl
  have commands : session.unwatched.commands = session.commands := rfl
  have handles : session.unwatched.handles = session.handles := rfl
  unfold takeCommand?
  rw [task, commands, handles]
  split
  · next ticket frame rest _ _ => exact congrArg some (unwatched_onSend session ticket frame rest)
  · rfl
  · split <;> rfl
  · rfl

/-- A chunk is read alike, watched or not. -/
theorem unwatched_afterRead (inlet : Inlet) (octets : Octets) (codec : Codec) :
    (session.afterRead inlet octets codec).unwatched =
      session.unwatched.afterRead inlet octets codec := rfl

/-- Nor does it matter to what is read. -/
theorem reads_unwatched : Reads unwatched session where
  task := rfl
  settings := rfl
  codec := rfl
  inlet := rfl
  left := fun inlet => by
    rw [unwatched_endByPeer, unwatched_endByPeer]
    simp [unwatched]
  failed := fun inlet error => by
    rw [unwatched_endByFailure, unwatched_endByFailure]
    simp [unwatched]
  overrun := fun inlet octets codec error => by
    rw [unwatched_endByFailure, unwatched_endByFailure, unwatched_afterRead, unwatched_afterRead,
      unwatched_unwatched]
  fed := fun inlet octets codec frames => by
    rw [unwatched_receives, unwatched_afterRead]

/-- The end of the writer is noticed alike, watched or not. -/
theorem unwatched_noticeWriter? :
    session.noticeWriter?.map unwatched = session.unwatched.noticeWriter? := by
  have task : session.unwatched.task = session.task := rfl
  have writer : session.unwatched.writer = session.writer := rfl
  unfold noticeWriter?
  rw [task, writer]
  split
  · exact congrArg some (unwatched_endByFailure session _)
  · rfl

/-- The end of the writer ends the wait for it alike, watched or not. -/
theorem unwatched_finishClosing? :
    session.finishClosing?.map unwatched = session.unwatched.finishClosing? := by
  have task : session.unwatched.task = session.task := rfl
  have writer : session.unwatched.writer = session.writer := rfl
  unfold finishClosing?
  rw [task, writer]
  split
  · next failure _ _ =>
    apply congrArg some
    have heard : ∀ event ∈ failure.toList.map Event.flushFailed, event.isPublic = true := by
      simp [Event.isPublic]
    rw [unwatched_finish, unwatched_record_of_public session heard]
  · rfl

/-- Time runs out alike, watched or not. -/
theorem unwatched_timeOut? : session.timeOut?.map unwatched = session.unwatched.timeOut? := by
  have task : session.unwatched.task = session.task := rfl
  have clock : session.unwatched.clock = session.clock := rfl
  unfold timeOut?
  rw [task, clock]
  split
  · split
    · apply congrArg some
      rw [unwatched_finish, unwatched_abortWriter]
      rfl
    · rfl
  · rfl

/-- A doomed task is dropped alike, watched or not. -/
theorem unwatched_drop? : session.drop?.map unwatched = session.unwatched.drop? := by
  have doomed : session.unwatched.doomed = session.doomed := rfl
  have task : session.unwatched.task = session.task := rfl
  unfold drop?
  rw [doomed, task]
  split
  · apply congrArg some
    rw [unwatched_abortWriter, unwatched_drop]
  · apply congrArg some
    rw [unwatched_abortWriter, unwatched_drop]
  · exact congrArg some (unwatched_drop session)
  · exact congrArg some (unwatched_drop session)
  · rfl

/-- The writer moves alike, watched or not. -/
theorem unwatched_moveWriter? :
    session.moveWriter?.map unwatched = session.unwatched.moveWriter? := by
  have task : session.unwatched.task = session.task := rfl
  have writer : session.unwatched.writer = session.writer := rfl
  have outlet : session.unwatched.outlet = session.outlet := rfl
  have heard {writer : Writer} {outlet : Outlet} {events : List Event}
      (moved : session.writer.step session.outlet = some (writer, outlet, events)) :
      ∀ event ∈ events, event.isPublic = true := by
    cases Writer.stride_of_step moved <;> simp [Event.isPublic]
  unfold moveWriter?
  rw [task, writer, outlet]
  cases moved : session.writer.step session.outlet with
  | none => split <;> rfl
  | some step =>
    obtain ⟨writer, outlet, events⟩ := step
    have told := unwatched_record_of_public
      { session with writer := writer, outlet := outlet } (heard moved)
    split
    · rfl
    · rfl
    all_goals exact congrArg some told

/-- A move comes to the same whether or not anybody awaits a response. -/
theorem unwatched_make? (move : Move) :
    (session.make? move).map unwatched = (session.unwatched.make? move).map unwatched := by
  cases move with
  | send text => exact unwatched_byHandle ((sends_unwatched session).send text).2
  | sendChecked text =>
    have chosen : session.unwatched.settings = session.settings := rfl
    simp only [make?, chosen]
    split
    · next frame framed =>
      exact unwatched_byHandle ((sends_unwatched session).sendFrame frame).2
    · rfl
  | read => exact (reads_unwatched session).read?
  | abandon ticket => simp [make?, abandon, unwatched]
  | requestClose =>
    apply unwatched_byHandle
    have taking : session.unwatched.takesCommands = session.takesCommands := rfl
    unfold requestClose
    rw [taking]
    split <;> exact (unwatched_unwatched _).symm
  | addHandle | dropHandle => exact unwatched_byHandle (unwatched_unwatched _).symm
  | deliver | changeOutlet | advance | doom => exact congrArg some (unwatched_unwatched _).symm
  | start =>
    apply map_unwatched_of_eq
    cases task : session.task <;> simp [make?, start, unwatched, task]
  | begin =>
    apply map_unwatched_of_eq
    cases task : session.task <;> simp [make?, begin?, unwatched, task]
  | takeCommand => exact map_unwatched_of_eq (unwatched_takeCommand? session)
  | noticeWriter => exact map_unwatched_of_eq (unwatched_noticeWriter? session)
  | finishClosing => exact map_unwatched_of_eq (unwatched_finishClosing? session)
  | timeOut => exact map_unwatched_of_eq (unwatched_timeOut? session)
  | drop => exact map_unwatched_of_eq (unwatched_drop? session)
  | write => exact map_unwatched_of_eq (unwatched_moveWriter? session)

end Session

/-- Whether a move is somebody giving up on a request. -/
def Move.isAbandon : Move → Bool
  | .abandon _ => true
  | _ => false

namespace Session

/-- States that differ in who awaits a response have the same future. -/
theorem unwatched_steps :
    Steps (fun _ => True) fun one other => one.unwatched = other.unwatched := by
  rintro one other move - alike
  have moved := unwatched_make? one move
  rw [alike, ← unwatched_make? other move] at moved
  have answered : one.answer? move = other.answer? move := by
    rw [(sends_unwatched one).answer? move, alike, ← (sends_unwatched other).answer? move]
  cases made : one.make? move <;> cases made' : other.make? move <;>
    simp only [made, made', Option.map_some, Option.map_none, reduceCtorEq] at moved
  · exact .inl ⟨rfl, rfl⟩
  · exact .inr ⟨_, _, rfl, rfl, Option.some.inj moved, answered⟩

/-- Giving up leaves everything else as it was. -/
theorem unwatched_abandon (session : Session) (ticket : Ticket) :
    (session.abandon ticket).unwatched = session.unwatched := by
  simp [abandon, unwatched]

/-- Giving up is silent. -/
theorem unwatched_simulation :
    Simulation (fun _ => True) (fun stage => stage.2.isAbandon)
      (fun stage => stage.1.answer? stage.2) fun one other => one.unwatched = other.unwatched where
  first := by
    intro session next other move _ _ _ alike quiet made
    cases move with
    | abandon ticket =>
      cases made
      exact ⟨(unwatched_abandon session ticket).trans alike, rfl⟩
    | _ => cases quiet
  second := by
    intro session other next move _ _ _ alike quiet made
    cases move with
    | abandon ticket =>
      cases made
      exact ⟨alike.trans (unwatched_abandon other ticket).symm, rfl⟩
    | _ => cases quiet
  both := by
    intro session next other next' move _ _ _ _ alike _ _ made made'
    rcases @unwatched_steps _ _ move trivial alike with
      ⟨stuck, _⟩ | ⟨_, _, makes, makes', after, answered⟩
    · cases made.symm.trans stuck
    · obtain rfl := Option.some.inj (made.symm.trans makes)
      obtain rfl := Option.some.inj (made'.symm.trans makes')
      exact ⟨after, answered⟩

/-- Giving up stands in no move's way, and no move waits for it. -/
theorem isSome_play?_of_unwatched {session other : Session} {moves : List Move}
    (alike : session.unwatched = other.unwatched) :
    (session.play? moves).isSome =
      (other.play? (moves.filter fun move => !move.isAbandon)).isSome := by
  induction moves generalizing session other with
  | nil => rfl
  | cons move rest inductionHypothesis =>
    have stepped (session : Session) (moves : List Move) :
        (session.play? (move :: moves)).isSome =
          ((session.make? move).bind fun next => next.play? moves).isSome := by
      rw [play?]
      cases session.make? move with
      | none => rfl
      | some next => cases later : next.play? moves <;> simp [later]
    cases quiet : move.isAbandon with
    | true =>
      cases move with
      | abandon ticket =>
        rw [stepped, List.filter_cons_of_neg (by simp [quiet])]
        exact inductionHypothesis ((unwatched_abandon session ticket).trans alike)
      | _ => cases quiet
    | false =>
      rw [stepped, List.filter_cons_of_pos (by simp [quiet]), stepped]
      rcases @unwatched_steps _ _ move trivial alike with
        ⟨stuck, stuck'⟩ | ⟨_, _, made, made', after, _⟩
      · rw [stuck, stuck']
        rfl
      · rw [made, made']
        exact inductionHypothesis after

/-- Events other than the notes of what was discarded are the same, watched or not. -/
theorem gather_unwatched (session : Session) {α : Type} {pick : Event → Option α}
    (silent : ∀ ticket, pick (.discarded ticket) = none) :
    gather pick session.unwatched.history = gather pick session.history := by
  simp only [gather, unwatched, ← List.filter_reverse, List.filterMap_filter]
  congr 1
  funext event
  cases event <;> simp [Event.isPublic, silent]

/-- States that are the same when nobody watches cannot be told apart. -/
theorem indistinct_of_unwatched {one other : Session} (alike : one.unwatched = other.unwatched) :
    Indistinct one other := by
  have calls : one.calls = other.calls := by
    rw [Session.calls, ← gather_unwatched one (by intro ticket; rfl), alike,
      gather_unwatched other (by intro ticket; rfl)]
    rfl
  have tally : one.unwatched.tally = other.unwatched.tally := congrArg Session.tally alike
  have lifecycle : one.unwatched.lifecycle = other.unwatched.lifecycle :=
    congrArg Session.lifecycle alike
  refine ⟨fun ticket => ?_, ?_, calls, tally, lifecycle, ?_⟩
  · rw [← PendingQueue.outcome?_unwatched, ← PendingQueue.outcome?_unwatched other.pending]
    exact congrArg (fun session : Session => session.pending.outcome? ticket) alike
  · rw [acceptedOctets_eq, acceptedOctets_eq, calls]
  · rw [Session.states, ← gather_unwatched one (by intro ticket; rfl), alike,
      gather_unwatched other (by intro ticket; rfl)]
    rfl

/-! ## Calls with a deadline -/

/-- Time does not go back. -/
theorem Becomes.clock_le {before after : Session} {accepting : Bool}
    (becomes : Becomes before accepting after) : before.clock ≤ after.clock := by
  have aborted (session : Session) : session.abortWriter.clock = session.clock := rfl
  have finished (session : Session) (reason : LinkError) :
      (session.finish reason).clock = session.clock := by rw [finish_eq]; rfl
  have dropped (session : Session) : session.drop.clock = session.clock := by rw [drop_eq]; rfl
  cases becomes with
  | advanced milliseconds => exact Nat.le_add_right _ _
  | taken ticket frame rest =>
    unfold onSend
    split
    · dsimp only
      split <;> exact Nat.le_refl _
    · exact Nat.le_refl _
  | fed octets inlet frames codec =>
    obtain ⟨_, _, _, result⟩ := exists_receives_eq (before.afterRead inlet octets codec) frames
    rw [result]
    exact Nat.le_refl _
  | overrun | leftByPeer | readFailed | writerLost | flushed | timedOut =>
    simp only [endByFailure, endByPeer, finished, aborted]
    exact Nat.le_refl _
  | droppedBeforeTurn | dropped =>
    simp only [aborted, dropped]
    exact Nat.le_refl _
  | _ => exact Nat.le_refl _

variable {settings : Settings} {origin session : Session} {past : List (Session × Move)}

/-- What came of a request is not taken back. -/
theorem Run.outcome?_eq_some (run : Run origin past session) (sound : origin.ledger.Sound)
    {ticket : Ticket} {outcome : Outcome}
    (settled : origin.pending.outcome? ticket = some outcome) :
    session.pending.outcome? ticket = some outcome := by
  have kept := run.preserves
    (fun state => state.ledger.Sound ∧ state.pending.outcome? ticket = some outcome)
    ⟨sound, settled⟩ (fun {before after _} becomes held => by
      have sound := held.1.next (next_of_sound held.1 becomes)
      refine ⟨sound, ?_⟩
      obtain ⟨more, grown⟩ := becomes.gather_prefix Event.completion?
      have found : (before.completions[ticket]?).map Prod.snd = some outcome :=
        (held.1.lined.settled ticket).symm.trans held.2
      obtain ⟨completion, place, same⟩ := Option.map_eq_some_iff.mp found
      have here : after.completions[ticket]? = some completion := by
        have grown : before.completions ++ more = after.completions := grown
        rw [← grown, List.getElem?_append_left (List.getElem?_eq_some_iff.mp place).1]
        exact place
      apply (sound.lined.settled ticket).trans
      change (after.completions[ticket]?).map Prod.snd = _
      rw [here, Option.map_some, same])
  exact kept.2

/-- The clock never goes back. -/
theorem Run.clock_le (run : Run origin past session) : origin.clock ≤ session.clock :=
  run.preserves (fun state => origin.clock ≤ state.clock) (Nat.le_refl _)
    fun becomes earlier => Nat.le_trans earlier becomes.clock_le

/-- The states of a run come one after the other. -/
theorem Run.pairwise_visited (run : Run origin past session) :
    (visited past session).Pairwise fun earlier later =>
      ∃ between, Run earlier between later := by
  induction run with
  | stay => simp [visited]
  | @step past before next move earlier made inductionHypothesis =>
    rw [visited_concat, List.pairwise_append]
    refine ⟨inductionHypothesis, List.pairwise_singleton _ _, ?_⟩
    rintro state there last last_mem
    obtain rfl := List.mem_singleton.mp last_mem
    obtain ⟨_, back, _, _, onward⟩ := earlier.through there
    exact ⟨_, .step onward made⟩

end Session

namespace Waiter

/-- Whether a look at a call finds its deadline passed and its request not completed. -/
def Expired (ticket : Ticket) (deadline : Nat) (look : Session) : Prop :=
  deadline ≤ look.clock ∧ look.pending.outcome? ticket = none

/-- What a call shows to somebody who looks at it in some states, one after the other. -/
def shown? (waiter : Waiter) (looks : List Session) : Option Completion :=
  looks.findSome? waiter.poll?

variable {ticket : Ticket} {deadline : Nat} {allowed : Duration} {looks : List Session}

/-- One look that finds a call expired is enough to end it. -/
theorem shown?_of_expired
    (kept : looks.Pairwise fun earlier later => ∀ outcome,
      earlier.pending.outcome? ticket = some outcome →
        later.pending.outcome? ticket = some outcome)
    (expired : ∃ look ∈ looks, Expired ticket deadline look) :
    (Waiter.timed ticket deadline allowed).shown? looks =
      some (.text (.error (.requestTimeout allowed))) := by
  induction looks with
  | nil => simp at expired
  | cons first rest inductionHypothesis =>
    obtain ⟨onward, later⟩ := List.pairwise_cons.mp kept
    obtain ⟨look, member, passed, unsettled⟩ := expired
    cases settled : first.pending.outcome? ticket with
    | some outcome =>
      rcases List.mem_cons.mp member with rfl | after
      · simp [unsettled] at settled
      · simp [onward look after outcome settled] at unsettled
    | none =>
      by_cases due : deadline ≤ first.clock
      · simp [shown?, poll?, settled, due]
      · have after : look ∈ rest := by
          rcases List.mem_cons.mp member with rfl | after
          · exact absurd passed due
          · exact after
        have silent : (Waiter.timed ticket deadline allowed).poll? first = none := by
          simp [poll?, settled, due]
        rw [shown?, List.findSome?_cons, silent]
        exact inductionHypothesis later ⟨look, after, passed, unsettled⟩

/-- A call that no look finds expired shows what the plain call shows. -/
theorem shown?_of_not_expired (timely : ∀ look ∈ looks, ¬ Expired ticket deadline look) :
    (Waiter.timed ticket deadline allowed).shown? looks =
      (Waiter.response ticket).shown? looks := by
  induction looks with
  | nil => rfl
  | cons first rest inductionHypothesis =>
    rw [List.forall_mem_cons] at timely
    have same : (Waiter.timed ticket deadline allowed).poll? first =
        (Waiter.response ticket).poll? first := by
      cases settled : first.pending.outcome? ticket with
      | some outcome => simp [poll?, settled]
      | none =>
        have early : ¬ deadline ≤ first.clock := fun due => timely.1 ⟨due, settled⟩
        simp [poll?, settled, early]
    have others := inductionHypothesis timely.2
    rw [shown?, shown?] at others ⊢
    rw [List.findSome?_cons, List.findSome?_cons, same, others]

end Waiter

namespace Session

variable {settings : Settings} {origin session : Session} {past : List (Session × Move)}

/-- The accounts are kept in every state that a run went through. -/
theorem Run.sound_of_visited (run : Run origin past session) (sound : origin.ledger.Sound) :
    ∀ state ∈ visited past session, state.ledger.Sound := by
  intro state there
  obtain ⟨_, _, _, earlier, _⟩ := run.through there
  exact earlier.sound sound

/-- What has come of a request is there in every later state. -/
theorem Run.pairwise_outcome?_eq_some (run : Run origin past session)
    (sound : origin.ledger.Sound) (ticket : Ticket) :
    (visited past session).Pairwise fun earlier later => ∀ outcome,
      earlier.pending.outcome? ticket = some outcome →
        later.pending.outcome? ticket = some outcome := by
  apply run.pairwise_visited.imp_of_mem
  rintro earlier later there _ ⟨between, onward⟩ outcome settled
  exact onward.outcome?_eq_some (run.sound_of_visited sound earlier there) settled

/-- A request that is completed before the deadline is never found expired, whoever looks. -/
theorem Run.not_expired_of_completed (run : Run origin past session)
    (sound : origin.ledger.Sound) {ticket : Ticket} {deadline : Nat}
    (completed : ∃ state ∈ visited past session,
      state.clock < deadline ∧ (state.pending.outcome? ticket).isSome) :
    ∀ look ∈ visited past session, ¬ Waiter.Expired ticket deadline look := by
  rintro look member ⟨passed, unsettled⟩
  obtain ⟨state, there, early, settled⟩ := completed
  obtain ⟨outcome, settled⟩ := Option.isSome_iff_exists.mp settled
  obtain ⟨first, inside, rfl⟩ := List.getElem_of_mem there
  obtain ⟨second, inside', rfl⟩ := List.getElem_of_mem member
  have ordered := List.pairwise_iff_getElem.mp run.pairwise_visited
  rcases Nat.lt_trichotomy first second with before | same | after
  · obtain ⟨between, onward⟩ := ordered first second inside inside' before
    have kept := onward.outcome?_eq_some (run.sound_of_visited sound _ there) settled
    simp [kept] at unsettled
  · subst same
    simp [settled] at unsettled
  · obtain ⟨between, onward⟩ := ordered second first inside' inside after
    have := onward.clock_le
    omega

/-- Nobody else notices who gives up. Take any run, and put the moves of callers that give up on
requests wherever else, as many as one likes. The moves can then still be made, every send is
answered as before, and the requests have the same outcomes; what the stream accepted in which
calls, the counters and the published states are the same. This holds at every point, as the
beginning of a run is a run.

A call with a deadline, of which the send was answered with a ticket, is the same send and perhaps a
caller that gives up. In whatever state it lets go, it leaves the session as the same moves do with
one more, that of giving up on this request there; and whatever moves follow, they can be made as if
it had held on, with the same answers, and lead to states that neither the stream nor a caller can
tell apart. If its caller has a turn when the deadline has passed and the request is not completed,
the call shows that it timed out; if there is no such turn, it shows what the plain call shows.
There is none if the request is completed before the deadline. -/
theorem cancellation_unseen (opened : Opened settings origin) (run : Run origin past session) :
    (∀ moves : List Move,
      (moves.filter fun move => !move.isAbandon) =
        ((past.map Prod.snd).filter fun move => !move.isAbandon) →
      ∃ past' session', origin.play? moves = some (past', session') ∧
        (past'.filterMap fun stage => stage.1.answer? stage.2) =
          (past.filterMap fun stage => stage.1.answer? stage.2) ∧
        Indistinct session' session) ∧
    (∀ before sending move later ticket allowed, past = before ++ (sending, move) :: later →
      sending.answer? move = some (.ok ticket) →
      (∀ state ∈ visited later session,
        (∃ between, between <+: later ∧
          Run origin (before ++ (sending, move) :: between ++ [(state, .abandon ticket)])
            ((timedCall sending ticket allowed).release state)) ∧
        ∀ moves, PlaysAlike Indistinct moves
          ((timedCall sending ticket allowed).release state) state) ∧
      ∀ looks, looks.Sublist (visited later session) →
        ((∃ look ∈ looks, Waiter.Expired ticket (sending.clock + milliseconds allowed) look) →
          (timedCall sending ticket allowed).shown? looks =
            some (.text (.error (.requestTimeout allowed)))) ∧
        ((∀ look ∈ looks, ¬ Waiter.Expired ticket (sending.clock + milliseconds allowed) look) →
          (timedCall sending ticket allowed).shown? looks =
            (Waiter.response ticket).shown? looks) ∧
        ((∃ state ∈ visited later session, state.clock < sending.clock + milliseconds allowed ∧
            (state.pending.outcome? ticket).isSome) →
          (timedCall sending ticket allowed).shown? looks =
            (Waiter.response ticket).shown? looks)) := by
  constructor
  · intro moves same
    have played : origin.play? (past.map Prod.snd) = some (past, session) :=
      play?_eq_some_iff.mpr ⟨rfl, run⟩
    have possible : (origin.play? moves).isSome := by
      rw [isSome_play?_of_unwatched rfl, same, ← isSome_play?_of_unwatched rfl, played]
      rfl
    obtain ⟨⟨past', session'⟩, played'⟩ := Option.isSome_iff_exists.mp possible
    obtain ⟨rfl, run'⟩ := play?_eq_some_iff.mp played'
    have louder (past : List (Session × Move)) :
        loud (fun stage => stage.2.isAbandon) past =
          (past.map Prod.snd).filter fun move => !move.isAbandon := by
      rw [List.filter_map]
      rfl
    obtain ⟨alike, answers⟩ := unwatched_simulation.alike rfl run' run (fun _ _ => trivial)
      (fun _ _ => trivial) (by rw [louder, louder, same])
    exact ⟨past', session', played', answers, indistinct_of_unwatched alike⟩
  · rintro before sending move later ticket allowed rfl answered
    obtain ⟨earlier, next, made, onward⟩ := run.divide
    refine ⟨fun state there => ⟨?_, fun moves => ?_⟩, fun looks among => ?_⟩
    · obtain ⟨between, after, rfl, toState, _⟩ := onward.through there
      have released : state.make? (.abandon ticket) =
        some ((timedCall sending ticket allowed).release state) := rfl
      exact ⟨between, List.prefix_append _ _,
        .step (earlier.trans (.cons made toState)) released⟩
    · exact (playsAlike_of_steps unwatched_steps (fun _ _ => trivial)
        (unwatched_abandon state ticket)).imp indistinct_of_unwatched
    have sound : next.ledger.Sound :=
      (earlier.sound (sound_of_opened opened)).next
        (next_of_sound (earlier.sound (sound_of_opened opened)) (becomes_of_make made))
    refine ⟨?_, Waiter.shown?_of_not_expired, ?_⟩
    · intro expired
      have kept := (onward.pairwise_outcome?_eq_some sound ticket).sublist among
      exact Waiter.shown?_of_expired kept expired
    · intro completed
      apply Waiter.shown?_of_not_expired
      intro look member
      exact onward.not_expired_of_completed sound completed look (among.subset member)

/-- Two requests, the first of which is given up in one run and not in the other. A call for the
second times out after five milliseconds, and has its response when it waits for twenty. -/
theorem cancellation_unseen_of_two_requests :
    ∃ origin past session past' session' sending later, Opened Settings.default origin ∧
      Run origin past session ∧ Run origin past' session' ∧
      past.length = 9 ∧ past'.length = 8 ∧ Indistinct session' session ∧
      (session'.pending.outcome? 1).isSome ∧
      (timedCall sending 1 (.ofMilliseconds 5)).shown? (visited later session) =
        some (.text (.error (.requestTimeout (.ofMilliseconds 5)))) ∧
      (timedCall sending 1 (.ofMilliseconds 20)).shown? (visited later session) =
        (Waiter.response 1).shown? (visited later session) := by
  let origin : Session := .new Settings.default .unlimited .ready
  let front : List Move :=
    [.send (.ok [0x7b, 0x7d]), .send (.ok [0x5b, 0x5d]), .begin, .takeCommand, .takeCommand,
      .advance 5]
  let back : List Move :=
    [.deliver (.chunk [0, 0, 0, 1, 0x30, 0, 0, 0, 1, 0x31]), .read]
  let ticket? (stage : Session × Move) := (stage.1.answer? stage.2).bind Except.toOption
  let sight (state : Session) : Nat × Bool := (state.clock, (state.pending.outcome? 1).isSome)
  have shown : (origin.play? (front ++ .abandon 0 :: back)).map (fun run =>
      ((run.1.take 2).map (fun stage => (stage.1.clock, ticket? stage)),
        (visited (run.1.drop 2) run.2).map sight)) =
      some ([(0, some 0), (0, some 1)],
        [(0, false), (0, false), (0, false), (0, false), (5, false), (5, false), (5, false),
          (5, true)]) := by
    decide +kernel
  obtain ⟨⟨past, session⟩, played, seen⟩ := Option.map_eq_some_iff.mp shown
  obtain ⟨made, run⟩ := play?_eq_some_iff.mp played
  have opened : Opened Settings.default origin := ⟨_, _, .inr rfl, rfl⟩
  obtain ⟨others, calls⟩ := cancellation_unseen opened run
  obtain ⟨past', session', played', _, indistinct⟩ := others (front ++ back) (by rw [made]; rfl)
  obtain ⟨made', run'⟩ := play?_eq_some_iff.mp played'
  obtain ⟨sent, looks⟩ := Prod.mk.inj seen
  obtain _ | ⟨first, _ | ⟨⟨sending, move⟩, later⟩⟩ := past
  · simp at sent
  · simp at sent
  · simp only [List.take_succ_cons, List.take_zero, List.map_cons, List.map_nil, List.cons.injEq,
      Prod.mk.injEq, and_true] at sent
    obtain ⟨_, early, accepted⟩ := sent
    have answered : sending.answer? move = some (.ok 1) := by
      obtain ⟨result, given, same⟩ := Option.bind_eq_some_iff.mp accepted
      cases result <;> cases same
      exact given
    have looks : (visited later session).map sight = _ := looks
    have met (look : Nat × Bool) (among : look ∈ (visited later session).map sight) :
        ∃ state ∈ visited later session, state.clock = look.1 ∧
          (state.pending.outcome? 1).isSome = look.2 := by
      obtain ⟨state, there, rfl⟩ := List.mem_map.mp among
      exact ⟨state, there, rfl, rfl⟩
    have settled : (session.pending.outcome? 1).isSome = true := by
      have last := congrArg List.getLast? looks
      simp only [visited, List.map_append, List.map_cons, List.map_nil,
        List.getLast?_concat] at last
      exact (Prod.mk.inj (Option.some.inj last)).2
    refine ⟨origin, _, session, past', session', sending, later, opened, run, run',
      (List.length_map _).symm.trans (congrArg List.length made),
      (List.length_map _).symm.trans (congrArg List.length made'), indistinct, ?_, ?_, ?_⟩
    · rw [indistinct.outcomes]
      exact settled
    · apply ((calls [first] sending move later 1 (.ofMilliseconds 5) rfl answered).2 _
        (List.Sublist.refl _)).1
      obtain ⟨look, there, clock, unsettled⟩ := met (5, false) (by rw [looks]; decide)
      exact ⟨look, there, by rw [early, clock]; decide, by simpa using unsettled⟩
    · apply ((calls [first] sending move later 1 (.ofMilliseconds 20) rfl answered).2 _
        (List.Sublist.refl _)).2.2
      obtain ⟨state, there, clock, settled⟩ := met (5, true) (by rw [looks]; decide)
      exact ⟨state, there, by rw [early, clock]; decide, settled⟩

/-- A deadline ends nothing by itself. The deadline of this call passes before its request is
completed, but its caller has no turn until the response is there, and then finds the response. -/
theorem answered_past_deadline :
    ∃ origin past session sending later, Opened Settings.default origin ∧
      Run origin past session ∧ past = (sending, .send (.ok [0x31])) :: later ∧
      sending.answer? (.send (.ok [0x31])) = some (.ok 0) ∧
      (∃ state ∈ visited later session,
        Waiter.Expired 0 (sending.clock + milliseconds (.ofMilliseconds 5)) state) ∧
      ∃ value : Json, (timedCall sending 0 (.ofMilliseconds 5)).shown? [session] =
        some (.text (.ok value.render)) := by
  let origin : Session := .new Settings.default .unlimited .ready
  let moves : List Move :=
    [.begin, .advance 10, .deliver (.chunk [0, 0, 0, 1, 0x32]), .takeCommand, .read]
  have shown : (origin.play? (.send (.ok [0x31]) :: moves)).map (fun run =>
      ((run.1.drop 1).any (fun stage =>
        decide (5 ≤ stage.1.clock) && (stage.1.pending.outcome? 0).isNone),
        (run.2.pending.outcome? 0).any Except.isOk)) = some (true, true) := by decide +kernel
  obtain ⟨⟨past, session⟩, played, seen⟩ := Option.map_eq_some_iff.mp shown
  obtain ⟨expired, settled⟩ := Prod.mk.inj seen
  obtain ⟨_, run⟩ := play?_eq_some_iff.mp played
  obtain ⟨_, _, ⟨later, last⟩, _, rfl, rfl⟩ : ∃ next,
      origin.make? (.send (.ok [0x31])) = some next ∧ ∃ rest, next.play? moves = some rest ∧
        (origin, .send (.ok [0x31])) :: rest.1 = past ∧ rest.2 = session := by
    simpa [play?, Option.bind_eq_some_iff] using played
  obtain ⟨stage, member, passed⟩ := List.any_eq_true.mp expired
  simp only [Bool.and_eq_true, decide_eq_true_eq, Option.isNone_iff_eq_none] at passed
  have here : stage.1 ∈ visited later last :=
    List.mem_append_left _ (List.mem_map_of_mem member)
  have answered : ∃ value, last.pending.outcome? 0 = some (.ok value) := by
    cases found : last.pending.outcome? 0 with
    | none => simp [found] at settled
    | some outcome =>
      cases outcome with
      | error => simp [found, Except.isOk, Except.toBool] at settled
      | ok value => exact ⟨value, rfl⟩
  obtain ⟨value, found⟩ := answered
  refine ⟨origin, _, last, origin, later, ⟨_, _, .inr rfl, rfl⟩, run, rfl, rfl,
    ⟨stage.1, here, passed⟩, value, ?_⟩
  simp [Waiter.shown?, Waiter.poll?, timedCall, found, Except.map]

end Session

end Antiphon
