import Antiphon.Proofs.Session.Cancellation
import Antiphon.Proofs.Session.Closing

/-!
# A slow peer makes nobody else wait

The task hands frames to the writer and looks at it only to learn that it has ended. As long as the
stream keeps what it promises and the task is in its loop, the writer does not end, so nothing that
the task or a caller does depends on how far the writer has got. `Session.muted` leaves the writer
out of a session, with the stream that it writes to and everything that was recorded, and a move
that is not the writer's comes to the same with it or without (`muted_make?`).

Closing is the one thing that waits for the writer. From there on two sessions can drift apart, the
one being closed while the other still waits. What they have in common is the state in which they
began to close. It decides what can still come of a request, whenever that comes
(`Run.settled_of_closing`).
-/

namespace Antiphon

/-- Whether a call made some headway, and no fault was answered. -/
def Call.isFlawless : Call → Bool
  | .write _ (.accepted count) => count != 0
  | .write _ (.failed _) => false
  | .flush fault | .shutdown fault => fault.isNone

namespace Dispatch

variable {dispatch after : Dispatch}

/-- A writer that failed had a reason. -/
def Excused (dispatch : Dispatch) : Prop :=
  ∀ error, dispatch.writer.phase = .ended (some error) →
    ∃ call ∈ dispatch.calls, call.isFlawless = false

/-- Whatever the writing half does, a writer that failed had a reason. -/
theorem Excused.next (excused : dispatch.Excused) (moved : dispatch.Next after) :
    after.Excused := by
  intro error failed
  cases moved with
  | same | lost | starved | outletChanged => exact excused error failed
  | handed ticket frame writer given =>
    obtain ⟨_, rfl⟩ := Writer.hand_eq given
    exact excused error failed
  | aborted | stopped =>
    unfold Writer.abort at failed
    split at failed
    · cases failed
    · exact excused error failed
  | wrote writer outlet events moved =>
    have last {call : Call} (made : call ∈ events.filterMap Event.call?)
        (flawed : call.isFlawless = false) :
        ∃ call ∈ dispatch.calls ++ events.filterMap Event.call?, call.isFlawless = false :=
      ⟨call, List.mem_append_right _ made, flawed⟩
    cases Writer.stride_of_step moved with
    | gathered | retired | advanced | completed => cases failed
    | broken batch answer failure _ _ _ _ unkept =>
      refine last (List.mem_singleton.mpr rfl) ?_
      unfold Batch.after at unkept
      split at unkept
      · rfl
      · rfl
      · cases unkept
    | unflushed batch fault => exact last (List.mem_singleton.mpr rfl) rfl
    | ended fault =>
      cases fault with
      | none => cases failed
      | some fault => exact last (List.mem_singleton.mpr rfl) rfl

end Dispatch

namespace Ledger

variable {ledger after : Ledger} {accepting : Bool}

/-- A session is published as closing when its task begins to wait for the writer. -/
theorem Next.closing_of_mem_states (moved : ledger.Next accepting after)
    (fresh : .closing ∉ ledger.states) (told : .closing ∈ after.states) :
    ledger.task = .running ∧ ∃ deadline, after.task = .closing deadline := by
  cases moved with
  | closing rest deadline running => exact ⟨running, deadline, rfl⟩
  | fed octets frames codec =>
    rw [(published_receives (ledger.read octets codec) frames).1] at told
    exact absurd told fresh
  | overrun | finished =>
    rcases List.mem_append.mp told with before | last
    · exact absurd before fresh
    · simp at last
  | _ => exact absurd told fresh

/-- A task that waits for the writer has published that the session is closing. -/
theorem Published.mem_of_closing (published : ledger.Published) {deadline : Nat}
    (waiting : ledger.task = .closing deadline) : .closing ∈ ledger.states := by
  have tells := published.tells
  rw [waiting] at tells
  rw [tells]
  decide

/-- A session that has been published as closing is not connected any more. -/
theorem Published.ne_connected (published : ledger.Published) (told : .closing ∈ ledger.states) :
    ledger.lifecycle ≠ .connected := by
  intro connected
  have last := published.last
  rw [connected] at last
  have tells := published.tells
  unfold Task.Tells at tells
  split at tells
  · simp [tells] at told
  · simp [tells] at told
  · simp [tells] at told
  · simp [tells] at last
  · rcases tells with same | same <;> simp [same] at last
  · rcases tells with same | same
    · simp [same] at told
    · simp [same] at last

/-- Before a session is published as closing, the published states are a matter of the last. -/
theorem Published.states_of_not_mem (published : ledger.Published)
    (never : .closing ∉ ledger.states) :
    ledger.states = if ledger.lifecycle = .closed then [.connected, .closed] else [.connected] := by
  have last := published.last
  have tells := published.tells
  unfold Task.Tells at tells
  split at tells
  · rw [tells] at last ⊢
    simp [← Option.some.inj last]
  · rw [tells] at last ⊢
    simp [← Option.some.inj last]
  · rw [tells] at last ⊢
    simp [← Option.some.inj last]
  · simp [tells] at never
  · rcases tells with same | same
    · simp [same] at never
    · rw [same] at last ⊢
      simp [← Option.some.inj last]
  · rcases tells with same | same
    · rw [same] at last ⊢
      simp [← Option.some.inj last]
    · simp [same] at never

end Ledger

namespace Session

/-- Every call on the stream made some headway. -/
def Flawless (session : Session) : Prop := ∀ call ∈ session.calls, call.isFlawless = true

/-- The session without its writer, the stream that this writes to, and what was recorded. -/
def muted (session : Session) : Session :=
  { session with writer := .new, outlet := .unlimited, history := [] }

variable {settings : Settings} {origin session next : Session} {past : List (Session × Move)}
  {move : Move}

/-- A writer that failed had a reason in every state that a run leads to. -/
theorem Reachable.excused (reachable : Reachable settings session) : session.dispatch.Excused := by
  apply reachable.kept fun session => session.dispatch.Excused
  · rintro _ ⟨outlet, task, _, rfl⟩ error failed
    cases failed
  · intro before after accepting reached _ becomes excused
    exact excused.next (dispatch_next (connected_of_running reached.sound) becomes)

/-- Over a stream without flaws the writer is there as long as the task is in its loop. -/
theorem Reachable.alive_of_flawless (reachable : Reachable settings session)
    (flawless : session.Flawless) (serving : session.task.isServing = true) :
    session.writer.isAlive = true := by
  by_contra gone
  obtain ⟨error, failed⟩ := reachable.failed_of_gone serving (Bool.eq_false_iff.mpr gone)
  obtain ⟨call, made, flawed⟩ := reachable.excused error failed
  exact absurd (flawless call made) (by simp [flawed])

/-- A run over a stream without flaws has met none on its way. -/
theorem Run.flawless_of_visited (run : Run origin past session) (flawless : session.Flawless) :
    ∀ state ∈ visited past session, state.Flawless := by
  intro state there call made
  obtain ⟨_, _, _, _, onward⟩ := run.through there
  exact flawless call ((onward.gather_prefix Event.call?).subset made)

end Session

/-- Whether a move is one of the writer or of the stream, or ends the wait for them. -/
def Move.isOutward : Move → Bool
  | .write | .changeOutlet _ | .finishClosing | .timeOut => true
  | _ => false

namespace Session

variable {settings : Settings} {origin session next : Session} {past : List (Session × Move)}
  {move : Move}

section Muted

variable (session : Session)

/-- What callers see is not left out. -/
theorem eq_of_muted {one other : Session} (same : one.muted = other.muted) :
    one.task = other.task ∧ one.pending = other.pending ∧ one.tally = other.tally ∧
      one.lifecycle = other.lifecycle := by
  refine ⟨?_, ?_, ?_, ?_⟩
  · exact (congrArg Session.task same : one.muted.task = other.muted.task)
  · exact (congrArg Session.pending same : one.muted.pending = other.muted.pending)
  · exact (congrArg Session.tally same : one.muted.tally = other.muted.tally)
  · exact (congrArg Session.lifecycle same : one.muted.lifecycle = other.muted.lifecycle)

/-- A session ends alike without its writer. -/
theorem muted_finish (reason : LinkError) :
    (session.finish reason).muted = (session.muted.finish reason).muted := by
  rw [finish_eq, finish_eq]
  rfl

/-- A task is dropped alike without its writer. -/
theorem muted_drop : session.drop.muted = session.muted.drop.muted := by
  rw [drop_eq, drop_eq]
  rfl

/-- A failure ends a session alike without its writer. -/
theorem muted_endByFailure (error : LinkError) :
    (session.endByFailure error).muted = (session.muted.endByFailure error).muted := by
  unfold endByFailure
  rw [muted_finish, muted_finish (session.muted.record _).leaveWriter.abortWriter]
  rfl

/-- The end of the peer ends a session alike without its writer. -/
theorem muted_endByPeer : session.endByPeer.muted = session.muted.endByPeer.muted := by
  unfold endByPeer
  rw [muted_finish, muted_finish (session.muted.record _).leaveWriter]
  rfl

/-- A frame is received alike without the writer. -/
theorem muted_receive (frame : Frame) :
    (session.receive frame).muted = (session.muted.receive frame).muted := by
  have noted : (session.note frame).muted = (session.muted.note frame).muted := by
    unfold note
    split <;> rfl
  have answered (session : Session) (outcome : Outcome) :
      (session.answer frame outcome).muted = (session.muted.answer frame outcome).muted := by
    have waits : session.muted.pending.waiting = session.pending.waiting := rfl
    cases first : session.pending.waiting with
    | nil =>
      rw [answer_of_nobody _ _ _ first, answer_of_nobody _ _ _ (waits.trans first)]
      rfl
    | cons ticket rest =>
      rw [answer_of_waiting _ _ _ first, answer_of_waiting _ _ _ (waits.trans first)]
      rfl
  rw [receive_eq, answered, noted, ← answered, receive_eq]

/-- Frames are received alike without the writer. -/
theorem muted_receives (frames : List Frame) :
    (frames.foldl receive session).muted = (frames.foldl receive session.muted).muted := by
  induction frames generalizing session with
  | nil => rfl
  | cons frame rest inductionHypothesis =>
    rw [List.foldl_cons, List.foldl_cons, inductionHypothesis, muted_receive,
      ← inductionHypothesis]

/-- A writer that is there takes every frame. -/
theorem muted_onSend (alive : session.writer.isAlive = true) (ticket : Ticket) (frame : Octets)
    (rest : List Command) :
    ({ session with commands := rest }.onSend ticket frame).muted =
      ({ session.muted with commands := rest }.onSend ticket frame).muted := by
  have handed : session.writer.hand frame = some _ := if_pos alive
  unfold onSend
  by_cases connected : session.lifecycle = .connected
  · have connected' : session.muted.lifecycle = .connected := connected
    rw [if_pos connected, if_pos connected']
    dsimp only
    rw [handed]
    rfl
  · have elsewhere : ¬ session.muted.lifecycle = .connected := connected
    rw [if_neg connected, if_neg elsewhere]
    rfl

/-- Nobody who sends looks at the writer, -/
theorem sends_muted : Sends muted session where
  again := rfl
  lifecycle := rfl
  settings := rfl
  tally := rfl
  taking := rfl
  ticket := rfl
  accepted := fun _ => rfl

/-- nor does anybody who reads. -/
theorem reads_muted : Reads muted session where
  task := rfl
  settings := rfl
  codec := rfl
  inlet := rfl
  left := fun inlet => by
    rw [muted_endByPeer, muted_endByPeer { session.muted with inlet := inlet }]
    rfl
  failed := fun inlet error => by
    rw [muted_endByFailure, muted_endByFailure { session.muted with inlet := inlet }]
    rfl
  overrun := fun inlet octets codec error => by
    rw [muted_endByFailure, muted_endByFailure (session.muted.afterRead inlet octets codec)]
    rfl
  fed := fun inlet octets codec frames => by
    rw [muted_receives, muted_receives (session.muted.afterRead inlet octets codec)]
    rfl

/-- A task takes a command alike without its writer, as long as this is there. -/
theorem muted_takeCommand? (alive : session.task.isServing = true → session.writer.isAlive = true) :
    session.takeCommand?.map muted = session.muted.takeCommand?.map muted := by
  by_cases running : session.task = .running
  · have running' : session.muted.task = .running := running
    have there := alive (by rw [running]; rfl)
    cases first : session.commands with
    | nil =>
      rw [takeCommand?_of_empty running first, takeCommand?_of_empty running' first]
      change _ = Option.map muted (if session.handles = 0 then _ else none)
      split <;> rfl
    | cons command rest =>
      cases command with
      | send ticket frame =>
        rw [takeCommand?_of_send running first, takeCommand?_of_send running' first]
        exact congrArg some (muted_onSend session there ticket frame rest)
      | close =>
        rw [takeCommand?_of_close running first, takeCommand?_of_close running' first]
        rfl
  · have other : session.muted.task ≠ .running := running
    rw [takeCommand?_of_not_running running, takeCommand?_of_not_running other]

/-- Nobody notices the end of a writer that is there. -/
theorem noticeWriter?_of_alive
    (alive : session.task.isServing = true → session.writer.isAlive = true) :
    session.noticeWriter? = none := by
  unfold noticeWriter?
  split
  · next failure running gone =>
    have there := alive (by rw [running]; rfl)
    simp [Writer.isAlive, gone] at there
  · rfl

/-- A doomed task is dropped alike without its writer. -/
theorem muted_drop? : session.drop?.map muted = session.muted.drop?.map muted := by
  have doomed : session.muted.doomed = session.doomed := rfl
  have task : session.muted.task = session.task := rfl
  unfold drop?
  rw [doomed, task]
  split
  all_goals first | exact congrArg some (muted_drop session) | rfl

end Muted

/-- Whether a stage belongs to the writing side. The writer and the stream move, or a task that is
closing stops waiting for them, be it that it is dropped. -/
def isOutward (stage : Session × Move) : Bool :=
  match stage.2 with
  | .drop => !stage.1.task.isServing
  | move => move.isOutward

/-- As long as the writer is there, all other moves come to the same with it or without. -/
theorem muted_make? (session : Session) (inward : isOutward (session, move) = false)
    (alive : session.task.isServing = true → session.writer.isAlive = true) :
    (session.make? move).map muted = (session.muted.make? move).map muted := by
  cases move with
  | write | changeOutlet | finishClosing | timeOut => cases inward
  | send text => exact byHandle_of_view (by rfl) ((sends_muted session).send text).2
  | sendChecked text =>
    have chosen : session.muted.settings = session.settings := rfl
    simp only [make?, chosen]
    split
    · next frame framed =>
      exact byHandle_of_view (by rfl) ((sends_muted session).sendFrame frame).2
    · rfl
  | requestClose =>
    refine byHandle_of_view (by rfl) ?_
    have taking : session.muted.takesCommands = session.takesCommands := rfl
    unfold requestClose
    rw [taking]
    split <;> rfl
  | addHandle | dropHandle => exact byHandle_of_view (by rfl) rfl
  | abandon | deliver | advance | doom => rfl
  | start =>
    cases task : session.task <;> simp [make?, start, muted, task]
  | begin =>
    cases task : session.task <;> simp [make?, begin?, muted, task]
  | takeCommand => exact muted_takeCommand? session alive
  | read => exact (reads_muted session).read?
  | noticeWriter =>
    simp only [make?]
    rw [noticeWriter?_of_alive session alive, noticeWriter?_of_alive session.muted fun _ => rfl]
  | drop => exact muted_drop? session

/-- A stage of the writing side leaves the rest of the session as it was, unless the task is
closing. -/
theorem muted_of_isOutward (outward : isOutward (session, move) = true)
    (made : session.make? move = some next) (calm : ∀ deadline, session.task ≠ .closing deadline) :
    next.muted = session.muted ∧ session.answer? move = none := by
  cases move with
  | write =>
    obtain ⟨_, writer, outlet, events, _, rfl⟩ := written_of_moveWriter? made
    exact ⟨rfl, rfl⟩
  | changeOutlet change =>
    cases made
    exact ⟨rfl, rfl⟩
  | finishClosing =>
    simp only [make?, finishClosing?] at made
    split at made
    · next deadline _ waiting _ => exact absurd waiting (calm deadline)
    · cases made
  | timeOut =>
    have made : session.timeOut? = some next := made
    unfold timeOut? at made
    split at made
    · next deadline waiting => exact absurd waiting (calm deadline)
    · cases made
  | drop =>
    simp only [make?, drop?] at made
    split at made
    · next held => simp [isOutward, held, Task.isServing] at outward
    · next ready => simp [isOutward, ready, Task.isServing] at outward
    · next running => simp [isOutward, running, Task.isServing] at outward
    · next deadline _ waiting => exact absurd waiting (calm deadline)
    · cases made
  | _ => cases outward

/-- What a session that began to close in some state has for a request that was not completed by
then. The task waits with those that it had taken; the others it turns away when it ends, unless it
is dropped. -/
def lastWord (left session : Session) (ticket : Ticket) : LinkError :=
  if ticket ∈ left.pending.waiting ∨ session.task = .dropped then .connectionClosed
  else .notConnected

/-- A request that has an outcome was completed with it. -/
theorem Reachable.completed_of_outcome? (reachable : Reachable settings session) {ticket : Ticket}
    {outcome : Outcome} (settled : session.pending.outcome? ticket = some outcome) :
    (ticket, outcome) ∈ session.completions := by
  have found : (session.completions[ticket]?).map Prod.snd = some outcome :=
    (reachable.sound.lined.settled ticket).symm.trans settled
  obtain ⟨completion, place, rfl⟩ := Option.map_eq_some_iff.mp found
  have numbered : completion.1 = ticket := reachable.sound.lined.getElem?_completions place
  rw [← numbered]
  exact List.mem_of_getElem? place

/-- Whatever comes of a request after a session began to close is decided by how it stood then, and
by whether the task is dropped. -/
theorem Run.settled_of_closing {left : Session} (reachable : Reachable settings left)
    {deadline : Nat} (waiting : left.task = .closing deadline) (run : Run left past session)
    {ticket : Ticket} {outcome : Outcome}
    (settled : session.pending.outcome? ticket = some outcome) :
    left.pending.outcome? ticket = some outcome ∨
      left.pending.outcome? ticket = none ∧ outcome = .error (lastWord left session ticket) := by
  cases earlier : left.pending.outcome? ticket with
  | some outcome' =>
    have kept := run.outcome?_eq_some reachable.sound earlier
    exact .inl (kept.symm.trans settled)
  | none =>
    refine .inr ⟨rfl, ?_⟩
    obtain ⟨origin, before, opened, first⟩ := reachable
    have reachable : Reachable settings left := ⟨origin, before, opened, first⟩
    have last : Reachable settings session := ⟨origin, _, opened, first.trans run⟩
    have start : left.ledger.Since .connectionClosed left.ledger := by
      have outside : left.ledger.task.isServing = false := by
        change left.task.isServing = false
        rw [waiting]
        rfl
      refine ⟨outside, rfl, fun _ _ => ⟨rfl, rfl, rfl⟩, fun ended => ?_⟩
      cases waiting.symm.trans ended
    obtain ⟨since, dropped⟩ :=
      run.since reachable.sound start fun gone => by cases waiting.symm.trans gone
    have completed := last.completed_of_outcome? settled
    have fresh : (ticket, outcome) ∉ left.completions := fun there => by
      have found := reachable.outcome_of_completed _ there
      simp [earlier] at found
    have told {reason : LinkError} (there : (ticket, .error reason) ∈ session.completions) :
        outcome = .error reason :=
      Option.some.inj (settled.symm.trans (last.outcome_of_completed _ there))
    cases task : session.task with
    | held | ready | running =>
      have outside : session.task.isServing = false := since.left
      simp [task, Task.isServing] at outside
    | closing later =>
      have same : session.completions = left.completions := (since.waiting later task).2.1
      rw [same] at completed
      exact absurd completed fresh
    | dropped =>
      obtain ⟨tickets, grown⟩ := dropped task
      have grown : session.completions =
        left.completions ++ tickets.map fun ticket => (ticket, .error .connectionClosed) := grown
      rw [grown] at completed
      rcases List.mem_append.mp completed with before | after
      · exact absurd before fresh
      · obtain ⟨_, _, same⟩ := List.mem_map.mp after
        rw [lastWord, if_pos (.inr task)]
        exact (congrArg Prod.snd same).symm
    | ended =>
      obtain ⟨commands, grown⟩ := since.ended task
      have grown : session.completions =
        left.completions ++ leftovers left.pending.waiting commands .connectionClosed := grown
      by_cases taken : ticket ∈ left.pending.waiting
      · rw [lastWord, if_pos (.inl taken)]
        apply told
        rw [grown, leftovers]
        simp [taken]
      · rw [grown] at completed
        rcases List.mem_append.mp completed with before | after
        · exact absurd before fresh
        · rcases List.mem_append.mp after with waited | untaken
          · obtain ⟨_, member, same⟩ := List.mem_map.mp waited
            obtain rfl := (Prod.mk.inj same).1
            exact absurd member taken
          · obtain ⟨_, _, same⟩ := List.mem_map.mp untaken
            rw [lastWord, if_neg (by simp [taken, task])]
            exact (congrArg Prod.snd same).symm

/-- A session that somebody holds after a move was held before. -/
theorem held_of_make (made : session.make? move = some next) (held : 0 < next.handles) :
    0 < session.handles := by
  have caller {after : Session} (made : session.byHandle after = some next) :
      0 < session.handles := by
    unfold byHandle at made
    split at made
    · assumption
    · cases made
  cases needs : move.needsHandle with
  | false =>
    rw [← handles_of_make needs made]
    exact held
  | true =>
    cases move with
    | send | requestClose | addHandle | dropHandle => exact caller made
    | sendChecked text =>
      simp only [make?] at made
      split at made
      · exact caller made
      · cases made
    | _ => cases needs

/-- The move at which a session is published as closing is a departure. -/
theorem Reachable.departs_of_told (reachable : Reachable settings session)
    (fresh : .closing ∉ session.states) (made : session.make? move = some next)
    (told : .closing ∈ next.states) :
    session.task = .running ∧
      ∃ departure, session.departure? move = some departure ∧ departure.publishes = .closing := by
  have moved := next_of_sound reachable.sound (becomes_of_make made)
  obtain ⟨running, deadline, waiting⟩ := moved.closing_of_mem_states fresh told
  have running : session.task = .running := running
  have closing : next.lifecycle = .closing := by
    have agrees : next.task.Agrees next.lifecycle := (reachable.sound.next moved).phased
    have waiting : next.task = .closing deadline := waiting
    rw [waiting] at agrees
    exact agrees
  obtain ⟨departure, reasoned, published⟩ := reachable.departs_of_connected
    (connected_of_running reachable.sound running) made (by rw [closing]; decide)
  exact ⟨running, departure, reasoned, published.symm.trans closing⟩

/-- A session begins to close because somebody asked for it or nobody holds it any more. -/
theorem Run.not_mem_states_of_unasked (run : Run origin past session)
    (opened : Opened settings origin) (unasked : .requestClose ∉ past.map Prod.snd)
    (held : 0 < session.handles) : .closing ∉ session.states := by
  induction run with
  | stay =>
    obtain ⟨outlet, task, _, rfl⟩ := opened
    change .closing ∉ [Lifecycle.connected]
    decide
  | @step past before next move earlier made inductionHypothesis =>
    rw [List.map_append, List.mem_append] at unasked
    have unasked := not_or.mp unasked
    have reachable : Reachable settings before := ⟨origin, past, opened, earlier⟩
    have fresh := inductionHypothesis unasked.1 (held_of_make made held)
    intro told
    obtain ⟨running, departure, reasoned, published⟩ := reachable.departs_of_told fresh made told
    cases departure with
    | asked =>
      obtain ⟨_, rest, first⟩ := closes_of_departure? reasoned
      have line := earlier.commands_eq opened (by rw [running]; rfl)
      rw [first] at line
      have put : Command.close ∈ past.filterMap commanded? := by
        rw [← line]
        simp
      obtain ⟨⟨state, asking⟩, member, command⟩ := List.mem_filterMap.mp put
      have asked : asking = .requestClose := by
        cases asking with
        | requestClose => rfl
        | _ => simp [commanded?] at command
      exact unasked.1 (List.mem_map.mpr ⟨_, member, asked⟩)
    | unheld =>
      have alone := alone_of_departure? reasoned
      exact absurd (held_of_make made held) (by omega)
    | byPeer | readFailed | overrun | writerFailed => cases published

/-- What a sender is told at a stage. The second half of a send is left out once the session has
been published as closing: whether the task still takes commands is then a matter of the writer. -/
def reply? (stage : Session × Move) : Option (Except LinkError Ticket) :=
  match stage.2 with
  | .sendChecked _ => if .closing ∈ stage.1.states then none else stage.1.answer? stage.2
  | _ => stage.1.answer? stage.2

/-- Before closing is published a sender is told whatever a send is answered. -/
theorem reply?_of_not_mem (never : .closing ∉ session.states) (move : Move) :
    reply? (session, move) = session.answer? move := by
  cases move with
  | sendChecked => exact if_neg never
  | _ => rfl

/-- Once a session was published as closing, whoever begins a send is told that there is no
connection. -/
theorem reply?_of_mem (reachable : Reachable settings session) (told : .closing ∈ session.states)
    (move : Move) : reply? (session, move) =
      match move with
      | .send _ => some (.error .notConnected)
      | _ => none := by
  have elsewhere : session.lifecycle ≠ .connected := reachable.published.ne_connected told
  cases move with
  | send text =>
    have refused : session.send text = (.error .notConnected, session) := if_neg elsewhere
    exact congrArg (fun sent => some sent.1) refused
  | sendChecked => exact if_pos told
  | _ => rfl

/-- Two sessions that are the same apart from the writer, or that were so when they began to close.
-/
inductive Abreast (settings : Settings) (one other : Session) : Prop
  | together (same : one.muted = other.muted) (never : .closing ∉ one.states)
      (never' : .closing ∉ other.states)
  | apart (left left' : Session) (deadline : Nat) (same : left.muted = left'.muted)
      (reachable : Reachable settings left) (reachable' : Reachable settings left')
      (waiting : left.task = .closing deadline) (onward : ∃ past, Run left past one)
      (onward' : ∃ past, Run left' past other)

/-- A session that went on after it had begun to close has been published as closing. -/
theorem mem_states_of_onward {left : Session} {deadline : Nat} (reachable : Reachable settings left)
    (waiting : left.task = .closing deadline) (onward : ∃ past, Run left past session) :
    .closing ∈ session.states := by
  obtain ⟨past, run⟩ := onward
  exact (run.gather_prefix Event.published?).subset (reachable.published.mem_of_closing waiting)

/-- Two sessions go on abreast when the writing side of one of them moves. -/
theorem Abreast.outward {one other next : Session} (abreast : Abreast settings one other)
    (reachable : Reachable settings one) (outward : isOutward (one, move) = true)
    (made : one.make? move = some next) :
    Abreast settings next other ∧ reply? (one, move) = none := by
  cases abreast with
  | together same never never' =>
    have calm (deadline : Nat) (waiting : one.task = .closing deadline) : False :=
      never (reachable.published.mem_of_closing waiting)
    obtain ⟨silent, unanswered⟩ := muted_of_isOutward outward made calm
    have fresh : .closing ∉ next.states := by
      intro told
      have moved := next_of_sound reachable.sound (becomes_of_make made)
      obtain ⟨_, deadline, waiting⟩ := moved.closing_of_mem_states never told
      exact calm deadline ((eq_of_muted silent).1.symm.trans waiting)
    exact ⟨.together (silent.trans same) fresh never',
      (reply?_of_not_mem never move).trans unanswered⟩
  | apart left left' deadline same first first' waiting onward onward' =>
    obtain ⟨past, run⟩ := onward
    refine ⟨.apart left left' deadline same first first' waiting ⟨_, .step run made⟩ onward', ?_⟩
    rw [reply?_of_mem reachable (mem_states_of_onward first waiting ⟨past, run⟩)]
    cases move <;> first | rfl | cases outward

/-- Either of two sessions abreast can be named first. -/
theorem Abreast.symm {one other : Session} (abreast : Abreast settings one other) :
    Abreast settings other one := by
  cases abreast with
  | together same never never' => exact .together same.symm never' never
  | apart left left' deadline same first first' waiting onward onward' =>
    have waiting' : left'.task = .closing deadline := (eq_of_muted same).1.symm.trans waiting
    exact .apart left' left deadline same.symm first' first waiting' onward' onward

/-- Two sessions go on abreast when both make a move that is not the writing side's. -/
theorem Abreast.inward {one other next next' : Session} (abreast : Abreast settings one other)
    (first : Reachable settings one) (first' : Reachable settings other)
    (second : Reachable settings next) (second' : Reachable settings next')
    (flawless : one.Flawless) (flawless' : other.Flawless)
    (inward : isOutward (one, move) = false) (inward' : isOutward (other, move) = false)
    (made : one.make? move = some next) (made' : other.make? move = some next') :
    Abreast settings next next' ∧ reply? (one, move) = reply? (other, move) := by
  cases abreast with
  | together same never never' =>
    have after : next.muted = next'.muted := by
      have moved := muted_make? one inward (first.alive_of_flawless flawless)
      rw [same, ← muted_make? other inward' (first'.alive_of_flawless flawless'), made,
        made'] at moved
      exact Option.some.inj moved
    have told : reply? (one, move) = reply? (other, move) := by
      rw [reply?_of_not_mem never, reply?_of_not_mem never', (sends_muted one).answer?, same,
        ← (sends_muted other).answer?]
    refine ⟨?_, told⟩
    have moved := next_of_sound first.sound (becomes_of_make made)
    have moved' := next_of_sound first'.sound (becomes_of_make made')
    by_cases closing : .closing ∈ next.states
    · obtain ⟨_, deadline, waiting⟩ := moved.closing_of_mem_states never closing
      exact .apart next next' deadline after second second' waiting ⟨[], .stay⟩ ⟨[], .stay⟩
    · refine .together after closing fun closing' => ?_
      obtain ⟨_, deadline, waiting⟩ := moved'.closing_of_mem_states never' closing'
      exact closing (second.published.mem_of_closing ((eq_of_muted after).1.trans waiting))
  | apart left left' deadline same reachable reachable' waiting onward onward' =>
    have waiting' : left'.task = .closing deadline := (eq_of_muted same).1.symm.trans waiting
    have told := mem_states_of_onward reachable waiting onward
    have told' := mem_states_of_onward reachable' waiting' onward'
    obtain ⟨past, run⟩ := onward
    obtain ⟨past', run'⟩ := onward'
    refine ⟨.apart left left' deadline same reachable reachable' waiting ⟨_, .step run made⟩
      ⟨_, .step run' made'⟩, ?_⟩
    rw [reply?_of_mem first told, reply?_of_mem first' told']

/-- What the writing side does is silent. -/
theorem outward_simulation (settings : Settings) :
    Simulation (fun state => Reachable settings state ∧ state.Flawless) isOutward reply?
      (Abreast settings) where
  first := by
    intro session next other move proper _ _ abreast outward made
    exact abreast.outward proper.1 outward made
  second := by
    intro session other next move _ proper' _ abreast outward made
    obtain ⟨after, unanswered⟩ := abreast.symm.outward proper'.1 outward made
    exact ⟨after.symm, unanswered⟩
  both := by
    intro session next other next' move proper after proper' after' abreast inward inward' made
    exact abreast.inward proper.1 proper'.1 after.1 after'.1 proper.2 proper'.2 inward inward' made

/-- Two sessions that callers cannot tell apart. -/
structure SameToCallers (one other : Session) : Prop where
  outcomes : ∀ ticket, one.pending.outcome? ticket = other.pending.outcome? ticket
  tally : one.tally = other.tally
  lifecycle : one.lifecycle = other.lifecycle
  states : one.states = other.states

/-- Callers cannot tell sessions apart that are the same without their writers. -/
theorem sameToCallers_of_muted {one other : Session} (same : one.muted = other.muted)
    (reachable : Reachable settings one) (reachable' : Reachable settings other)
    (never : .closing ∉ one.states) (never' : .closing ∉ other.states) :
    SameToCallers one other := by
  obtain ⟨_, pending, tally, lifecycle⟩ := eq_of_muted same
  refine ⟨fun ticket => congrArg (PendingQueue.outcome? · ticket) pending, tally, lifecycle, ?_⟩
  have states := reachable.published.states_of_not_mem never
  have states' := reachable'.published.states_of_not_mem never'
  have lifecycle : one.ledger.lifecycle = other.ledger.lifecycle := lifecycle
  rw [lifecycle] at states
  exact states.trans states'.symm

/-- While the task is there, a request that neither waits nor is completed has not been taken. -/
theorem Reachable.not_mem_taken (reachable : Reachable settings session)
    (live : session.task ≠ .ended ∧ session.task ≠ .dropped) {ticket : Ticket}
    (unsettled : session.pending.outcome? ticket = none)
    (elsewhere : ticket ∉ session.pending.waiting) : ticket ∉ session.taken.map Prod.fst := by
  have paired := reachable.paired.1
  have tickets : session.pairing.taken = session.taken.map Prod.fst := paired.taken
  have answered : session.completions = session.pairing.answers := (paired.serving live).1
  have waits : session.pending.waiting =
      session.pairing.taken.drop session.pairing.matched.length := (paired.serving live).2
  have completed : session.completions.map Prod.fst =
      session.pairing.taken.take session.pairing.matched.length := by
    rw [answered]
    exact Pairing.map_fst_answers paired.started
  rw [← tickets, ← List.take_append_drop session.pairing.matched.length session.pairing.taken,
    ← completed, ← waits, List.mem_append]
  rintro (before | there)
  · obtain ⟨completion, member, rfl⟩ := List.mem_map.mp before
    have found := reachable.outcome_of_completed completion member
    simp [unsettled] at found
  · exact elsewhere there

/-- A request that was neither completed nor waited for when a session began to close is never
taken. -/
theorem Run.not_mem_taken_of_closing {left : Session} (reachable : Reachable settings left)
    {deadline : Nat} (waiting : left.task = .closing deadline) (run : Run left past session)
    {ticket : Ticket} (unsettled : left.pending.outcome? ticket = none)
    (elsewhere : ticket ∉ left.pending.waiting) : ticket ∉ session.taken.map Prod.fst := by
  have outside : left.task.isServing = false := by
    rw [waiting]
    rfl
  rw [(run.taken_of_left reachable.sound outside).1]
  exact reachable.not_mem_taken (by simp [waiting]) unsettled elsewhere

/-- What two sessions abreast have for a request that is completed in both. -/
theorem Abreast.outcomes {one other : Session} (abreast : Abreast settings one other)
    {ticket : Ticket} {outcome outcome' : Outcome}
    (settled : one.pending.outcome? ticket = some outcome)
    (settled' : other.pending.outcome? ticket = some outcome') :
    outcome = outcome' ∨
      ticket ∉ one.taken.map Prod.fst ∧ ticket ∉ other.taken.map Prod.fst ∧
        ((one.task = .dropped ∧ outcome = .error .connectionClosed ∧
            other.task ≠ .dropped ∧ outcome' = .error .notConnected) ∨
          (other.task = .dropped ∧ outcome' = .error .connectionClosed ∧
            one.task ≠ .dropped ∧ outcome = .error .notConnected)) := by
  cases abreast with
  | together same =>
    have found := congrArg (PendingQueue.outcome? · ticket) (eq_of_muted same).2.1
    exact .inl (Option.some.inj ((settled.symm.trans found).trans settled'))
  | apart left left' deadline same first first' waiting onward onward' =>
    have pending := (eq_of_muted same).2.1
    have waiting' : left'.task = .closing deadline := (eq_of_muted same).1.symm.trans waiting
    obtain ⟨_, run⟩ := onward
    obtain ⟨_, run'⟩ := onward'
    have word := run.settled_of_closing first waiting settled
    have word' := run'.settled_of_closing first' waiting' settled'
    rw [lastWord, ← pending] at word'
    rw [lastWord] at word
    rcases word with before | ⟨fresh, rfl⟩ <;> rcases word' with before' | ⟨fresh', rfl⟩
    · exact .inl (Option.some.inj (before.symm.trans before'))
    · simp [before] at fresh'
    · simp [before'] at fresh
    · by_cases taken : ticket ∈ left.pending.waiting
      · simp [taken]
      · have untaken := run.not_mem_taken_of_closing first waiting fresh taken
        rw [pending] at fresh taken
        have untaken' := run'.not_mem_taken_of_closing first' waiting' fresh taken
        by_cases gone : one.task = .dropped <;> by_cases gone' : other.task = .dropped <;>
          simp [pending, taken, gone, gone', untaken, untaken']

variable {origin' session' : Session} {past' : List (Session × Move)}

/-- A slow peer affects nobody but those who wait for the end.

Take two runs over streams without flaws that differ in what the writing side does and when: how
much the stream accepts at a time, when it lets the writer wait, and when a task that is closing
goes on. Whoever sends is told the same in both; once the session is closing, this is said of sends
that begin then, and not of one that was half made before. Until the session is closing, and that
is at least as long as nobody asks for the end and somebody holds the session, callers cannot tell
the sessions apart. After that a request that is completed in both has the same outcome in both,
unless a task is dropped while it waits for the writer: a request that this task had not taken
learns that the connection was closed, and not that there is none.

This holds at every point, as the beginning of a run is a run. -/
theorem slow_peer_unnoticed (opened : Opened settings origin) (opened' : Opened settings origin')
    (begun : origin.task = origin'.task) (run : Run origin past session)
    (run' : Run origin' past' session') (flawless : session.Flawless)
    (flawless' : session'.Flawless) (same : loud isOutward past = loud isOutward past') :
    past.filterMap reply? = past'.filterMap reply? ∧
    (.closing ∈ session.states ↔ .closing ∈ session'.states) ∧
    (.closing ∉ session.states → SameToCallers session session') ∧
    (.requestClose ∉ past.map Prod.snd → 0 < session.handles → .closing ∉ session.states) ∧
    ∀ ticket outcome outcome', session.pending.outcome? ticket = some outcome →
      session'.pending.outcome? ticket = some outcome' →
      outcome = outcome' ∨
        ticket ∉ session.taken.map Prod.fst ∧ ticket ∉ session'.taken.map Prod.fst ∧
          ((session.task = .dropped ∧ outcome = .error .connectionClosed ∧
              session'.task ≠ .dropped ∧ outcome' = .error .notConnected) ∨
            (session'.task = .dropped ∧ outcome' = .error .connectionClosed ∧
              session.task ≠ .dropped ∧ outcome = .error .notConnected)) := by
  have reachable : Reachable settings session := ⟨origin, past, opened, run⟩
  have reachable' : Reachable settings session' := ⟨origin', past', opened', run'⟩
  have proper {origin session : Session} {past : List (Session × Move)}
      (opened : Opened settings origin) (run : Run origin past session)
      (flawless : session.Flawless) :
      ∀ state ∈ visited past session, Reachable settings state ∧ state.Flawless := by
    intro state there
    obtain ⟨front, _, _, earlier, _⟩ := run.through there
    exact ⟨⟨origin, front, opened, earlier⟩, run.flawless_of_visited flawless state there⟩
  have start : Abreast settings origin origin' := by
    obtain ⟨outlet, task, _, rfl⟩ := opened
    obtain ⟨outlet', task', _, rfl⟩ := opened'
    obtain rfl : task = task' := begun
    refine .together rfl ?_ ?_
    · change .closing ∉ [Lifecycle.connected]
      decide
    · change .closing ∉ [Lifecycle.connected]
      decide
  obtain ⟨abreast, replies⟩ := (outward_simulation settings).alike start run run'
    (proper opened run flawless) (proper opened' run' flawless') same
  refine ⟨replies, ?_, ?_, run.not_mem_states_of_unasked opened,
    fun _ _ _ settled settled' => abreast.outcomes settled settled'⟩
  · cases abreast with
    | together _ never never' => exact iff_of_false never never'
    | apart left left' deadline alike first first' waiting onward onward' =>
      have waiting' : left'.task = .closing deadline := (eq_of_muted alike).1.symm.trans waiting
      exact iff_of_true (mem_states_of_onward first waiting onward)
        (mem_states_of_onward first' waiting' onward')
  · intro never
    cases abreast with
    | together alike _ never' =>
      exact sameToCallers_of_muted alike reachable reachable' never never'
    | apart left left' deadline alike first first' waiting onward onward' =>
      exact absurd (mem_states_of_onward first waiting onward) never

/-- Unless a task is dropped, the moves tell which stages are the writing side's. -/
theorem loud_eq_filter {moves : List Move} (made : past.map Prod.snd = moves)
    (undropped : ∀ move ∈ moves, move ≠ .drop) :
    loud isOutward past = moves.filter fun move => !move.isOutward := by
  subst made
  rw [List.filter_map, loud]
  congr 1
  apply List.filter_congr
  intro stage member
  have other := undropped stage.2 (List.mem_map_of_mem member)
  obtain ⟨state, move⟩ := stage
  cases move <;> first | rfl | exact absurd rfl other

/-- One stream takes everything at once, and the other nothing at all. Up to the end callers notice
no difference, and then the one session is closed while the other still waits. -/
theorem slow_peer_unnoticed_over_closed_window :
    ∃ origin origin' past past' middle middle' later later' session session',
      Opened Settings.default origin ∧ Opened Settings.default origin' ∧
      Run origin past middle ∧ Run middle later session ∧
      Run origin' past' middle' ∧ Run middle' later' session' ∧
      middle.acceptedOctets ≠ middle'.acceptedOctets ∧ SameToCallers middle middle' ∧
      session.lifecycle = .closed ∧ session'.lifecycle = .closing ∧
      (past ++ later).filterMap reply? = (past' ++ later').filterMap reply? ∧
      ∃ outcome outcome', session.pending.outcome? 0 = some outcome ∧
        session'.pending.outcome? 0 = some outcome' ∧ outcome = outcome' := by
  let stuck : Outlet := { Outlet.unlimited with window := some 0 }
  let origin : Session := .new Settings.default .unlimited .ready
  let origin' : Session := .new Settings.default stuck .ready
  let sending (writes : List Move) : List Move :=
    [.send (.ok [0x7b, 0x7d]), .begin, .takeCommand] ++ writes ++
      [.deliver (.chunk [0, 0, 0, 1, 0x30]), .read]
  let ending (writes : List Move) : List Move :=
    [.requestClose, .send (.ok [0x5b, 0x5d]), .takeCommand] ++ writes ++ [.send (.ok [0x31])]
  let seen (middle session : Session) (accepted : Octets) (last : Lifecycle) : Bool :=
    middle.states = [.connected] ∧ middle.acceptedOctets = accepted ∧
      middle.calls.all Call.isFlawless ∧ session.lifecycle = last ∧ session.task ≠ .dropped ∧
      session.calls.all Call.isFlawless ∧ (session.pending.outcome? 0).isSome
  have shown : ((origin.play? (sending [.write, .write, .write])).bind fun front =>
      (front.2.play? (ending [.write, .write, .finishClosing])).map fun back =>
        seen front.2 back.2 [0, 0, 0, 2, 0x7b, 0x7d] .closed) = some true := by decide +kernel
  have shown' : ((origin'.play? (sending [.write])).bind fun front =>
      (front.2.play? (ending [])).map fun back => seen front.2 back.2 [] .closing) =
      some true := by
    decide +kernel
  obtain ⟨⟨past, middle⟩, played, rest⟩ := Option.bind_eq_some_iff.mp shown
  obtain ⟨⟨later, session⟩, onward, checked⟩ := Option.map_eq_some_iff.mp rest
  obtain ⟨⟨past', middle'⟩, played', rest'⟩ := Option.bind_eq_some_iff.mp shown'
  obtain ⟨⟨later', session'⟩, onward', checked'⟩ := Option.map_eq_some_iff.mp rest'
  simp only [seen, decide_eq_true_eq, List.all_eq_true] at checked checked'
  obtain ⟨states, accepted, flawless, closed, present, flawlessEnd, settled⟩ := checked
  obtain ⟨_, accepted', flawless', closing, present', flawlessEnd', settled'⟩ := checked'
  obtain ⟨made, run⟩ := play?_eq_some_iff.mp played
  obtain ⟨made', run'⟩ := play?_eq_some_iff.mp played'
  obtain ⟨madeLater, further⟩ := play?_eq_some_iff.mp onward
  obtain ⟨madeLater', further'⟩ := play?_eq_some_iff.mp onward'
  have opened : Opened Settings.default origin := ⟨_, _, .inr rfl, rfl⟩
  have opened' : Opened Settings.default origin' := ⟨_, _, .inr rfl, rfl⟩
  have front : loud isOutward past = loud isOutward past' := by
    rw [loud_eq_filter made (by simp [sending]), loud_eq_filter made' (by simp [sending])]
    rfl
  have whole : loud isOutward (past ++ later) = loud isOutward (past' ++ later') := by
    have moves := List.map_append.trans (congrArg₂ (· ++ ·) made madeLater)
    have moves' := List.map_append.trans (congrArg₂ (· ++ ·) made' madeLater')
    rw [loud_eq_filter moves (by simp [sending, ending]),
      loud_eq_filter moves' (by simp [sending, ending])]
    rfl
  obtain ⟨_, _, alike, _⟩ :=
    slow_peer_unnoticed opened opened' rfl run run' flawless flawless' front
  obtain ⟨replies, _, _, _, outcomes⟩ := slow_peer_unnoticed opened opened' rfl
    (run.trans further) (run'.trans further') flawlessEnd flawlessEnd' whole
  obtain ⟨outcome, settled⟩ := Option.isSome_iff_exists.mp settled
  obtain ⟨outcome', settled'⟩ := Option.isSome_iff_exists.mp settled'
  refine ⟨origin, origin', past, past', middle, middle', later, later', session, session', opened,
    opened', run, further, run', further', ?_, alike (by simp [states]), closed, closing, replies,
    outcome, outcome', settled, settled', ?_⟩
  · rw [accepted, accepted']
    decide
  · rcases outcomes 0 outcome outcome' settled settled' with
      agree | ⟨_, _, ⟨gone, _⟩ | ⟨gone, _⟩⟩
    · exact agree
    · exact absurd gone present
    · exact absurd gone present'

/-- Closing tells a slow stream from a fast one. Where the task ends, a request behind the request
to close is refused; where it still waits for the stream, it can be dropped, and the request learns
that the connection was closed. A send that was half made when the task took the request to close
can still put its request in where the task waits, and cannot where it has ended. -/
theorem slow_peer_noticed_while_closing :
    ∃ origin past past' session session', Opened Settings.default origin ∧
      Run origin past session ∧ Run origin past' session' ∧ session.Flawless ∧ session'.Flawless ∧
      loud isOutward past = loud isOutward past' ∧
      session.pending.outcome? 0 = some (.error .notConnected) ∧
      session'.pending.outcome? 0 = some (.error .connectionClosed) ∧
      (past.filterMap fun stage => stage.1.answer? stage.2) ≠
        past'.filterMap fun stage => stage.1.answer? stage.2 := by
  let origin : Session := .new Settings.default .unlimited .ready
  let moves (writes : List Move) : List Move :=
    [.requestClose, .send (.ok [0x31]), .begin, .takeCommand] ++ writes ++
      [.sendChecked (.ok [0x32]), .doom]
  let answers (past : List (Session × Move)) : List (Except LinkError Ticket) :=
    past.filterMap fun stage => stage.1.answer? stage.2
  let told (outcome? : Option Outcome) (reason : LinkError) : Bool :=
    outcome?.any fun outcome => decide (outcome = .error reason)
  have exact {outcome? : Option Outcome} {reason : LinkError}
      (seen : told outcome? reason = true) : outcome? = some (.error reason) := by
    cases outcome? with
    | none => cases seen
    | some outcome => exact congrArg some (of_decide_eq_true seen)
  have shown : (origin.play? (moves [.write, .write, .finishClosing])).map (fun run =>
      (run.2.calls.all Call.isFlawless, told (run.2.pending.outcome? 0) .notConnected,
        (answers run.1).map Except.isOk)) = some (true, true, [true, false]) := by decide +kernel
  have shown' : ((origin.play? (moves [])).bind fun run => (run.2.make? .drop).map fun last =>
      (isOutward (run.2, .drop), last.calls.all Call.isFlawless,
        told (last.pending.outcome? 0) .connectionClosed, (answers run.1).map Except.isOk)) =
      some (true, true, true, [true, true]) := by decide +kernel
  obtain ⟨⟨past, session⟩, played, seen⟩ := Option.map_eq_some_iff.mp shown
  obtain ⟨⟨past', waiting⟩, played', rest⟩ := Option.bind_eq_some_iff.mp shown'
  obtain ⟨session', dropped, seen'⟩ := Option.map_eq_some_iff.mp rest
  simp only [Prod.mk.injEq, List.all_eq_true] at seen seen'
  obtain ⟨flawless, refused, answered⟩ := seen
  obtain ⟨outward, flawless', cut, answered'⟩ := seen'
  obtain ⟨made, run⟩ := play?_eq_some_iff.mp played
  obtain ⟨made', run'⟩ := play?_eq_some_iff.mp played'
  refine ⟨origin, past, _, session, session', ⟨_, _, .inr rfl, rfl⟩, run, .step run' dropped,
    flawless, flawless', ?_, exact refused, exact cut, ?_⟩
  · rw [loud_concat_of_silent outward, loud_eq_filter made (by simp [moves]),
      loud_eq_filter made' (by simp [moves])]
    rfl
  · intro same
    have grown : answers (past' ++ [(waiting, .drop)]) = answers past' := by
      simp [answers, answer?]
    have same : answers past = answers past' := same.trans grown
    rw [← same, answered] at answered'
    cases answered'

end Session

end Antiphon
