import Antiphon.Proofs.Session.Parallel
import Antiphon.Proofs.Session.Published

/-!
# Where a connection is closed

All commands go through one queue. As long as the task is in its loop, the requests that it has
taken and the commands that it has not are, one after the other, what was put in
(`Run.commands_eq`). So when it takes a request to close, it has taken just the requests that were
put in before. They have their places in the order, and the writer was handed their frames unless
it had failed. No other request is taken any more, and what becomes of the others is decided by how
the task ends.
-/

namespace Antiphon.Session

variable {settings : Settings} {origin session next : Session} {past : List (Session × Move)}
  {move : Move}

/-- The command that a stage of a run puts in, if it puts one in. -/
def commanded? (stage : Session × Move) : Option Command :=
  match stage.2 with
  | .requestClose => if stage.1.takesCommands then some .close else none
  | _ => (requested? stage).map fun request => .send request.1 request.2

/-- The commands that requests were. -/
def sends (requests : List (Ticket × Octets)) : List Command :=
  requests.map fun request => .send request.1 request.2

/-- A send adds the request that it answers, or changes nothing. -/
theorem accept_or_eq_of_send {text : Except Json.Fault Octets} (sent : move.text? = some text)
    (made : session.make? move = some next) :
    (requested? (session, move) = none ∧ next = session) ∨
      ∃ frame, requested? (session, move) = some (session.pending.issue.1, frame) ∧
        next = session.accept frame := by
  cases move with
  | send message =>
    obtain rfl := eq_of_byHandle made
    simp only [send, requested?, answer?, Move.text?]
    by_cases connected : session.lifecycle = .connected
    · cases framed : frameMessage message session.settings.maxPayload with
      | error error => simp [connected]
      | ok frame =>
        simp only [connected, if_true, sendFrame_eq]
        by_cases room : session.tally.pending < session.settings.maxInFlight
        · cases taking : session.takesCommands <;> simp [room, framed]
        · simp [room]
    · simp [connected]
  | sendChecked message =>
    simp only [make?] at made
    split at made
    · next frame framed =>
      obtain rfl := eq_of_byHandle made
      simp only [requested?, answer?, Move.text?, framed, sendFrame_eq]
      by_cases room : session.tally.pending < session.settings.maxInFlight
      · cases taking : session.takesCommands <;> simp [room, framed]
      · simp [room]
    · cases made
  | _ => cases sent

/-- The requests that were taken and the commands that were not, in one line. A move of a task that
stays in its loop puts a command at the end or takes a request out of the front, which leaves the
line as it was. -/
theorem commands_of_make (sound : session.ledger.Sound) (made : session.make? move = some next)
    (serving : next.task.isServing = true) :
    sends next.taken ++ next.commands =
      sends session.taken ++ session.commands ++ (commanded? (session, move)).toList := by
  have quiet (silent : commanded? (session, move) = none)
      (taken : next.taken = session.taken) (commands : next.commands = session.commands) :
      sends next.taken ++ next.commands =
        sends session.taken ++ session.commands ++ (commanded? (session, move)).toList := by
    rw [silent, taken, commands, Option.toList_none, List.append_nil]
  have sent {text : Except Json.Fault Octets} (asks : move.text? = some text) :
      sends next.taken ++ next.commands =
        sends session.taken ++ session.commands ++ (commanded? (session, move)).toList := by
    have put : commanded? (session, move) =
        (requested? (session, move)).map fun request => .send request.1 request.2 := by
      cases move <;> first | rfl | cases asks
    rcases accept_or_eq_of_send asks made with ⟨refused, rfl⟩ | ⟨frame, requested, rfl⟩
    · exact quiet (by rw [put, refused]; rfl) rfl rfl
    · have taken : (session.accept frame).taken = session.taken :=
        congrArg Ledger.taken (ledger_accept session frame)
      rw [put, requested, taken, List.append_assoc]
      rfl
  cases move with
  | send text => exact sent rfl
  | sendChecked text => exact sent rfl
  | requestClose =>
    obtain rfl := eq_of_byHandle made
    unfold requestClose commanded?
    split
    · exact (List.append_assoc _ _ _).symm
    · exact (List.append_nil _).symm
  | addHandle | dropHandle =>
    obtain rfl := eq_of_byHandle made
    exact quiet rfl rfl rfl
  | abandon | deliver | changeOutlet | advance | doom =>
    cases made
    exact quiet rfl rfl rfl
  | start =>
    cases made
    apply quiet rfl <;> (unfold start; split <;> rfl)
  | begin =>
    simp only [make?, begin?] at made
    split at made
    · cases made
      exact quiet rfl rfl rfl
    · cases made
  | takeCommand =>
    have none : commanded? (session, .takeCommand) = .none := rfl
    simp only [make?, takeCommand?] at made
    split at made
    · next ticket frame rest running first =>
      cases made
      obtain ⟨count, result⟩ :=
        ledger_onSend session (connected_of_running sound running) ticket frame rest
      have taken : ({ session with commands := rest }.onSend ticket frame).taken =
          session.taken ++ [(ticket, frame)] := congrArg Ledger.taken result
      have commands : ({ session with commands := rest }.onSend ticket frame).commands = rest :=
        congrArg Ledger.commands result
      rw [none, taken, commands, first]
      simp [sends]
    · cases made; cases serving
    · split at made
      · cases made; cases serving
      · cases made
    · cases made
  | read =>
    simp only [make?, read?] at made
    split at made
    · next arrival inlet running available =>
      cases arrival with
      | finish => cases made; cases serving
      | fault => cases made; cases serving
      | chunk octets =>
        rcases extracted : session.codec.feed octets with ⟨result, codec⟩
        simp only [onData, extracted] at made
        cases result with
        | error => cases made; cases serving
        | ok frames =>
          cases made
          have ledger : (frames.foldl receive (session.afterRead inlet octets codec)).ledger =
              frames.foldl Ledger.receive (session.ledger.read octets codec) := by
            rw [ledger_receives, ledger_afterRead]
          have kept := Ledger.orders_receives (session.ledger.read octets codec) frames
          rw [← ledger] at kept
          exact quiet rfl kept.1 kept.2.1
    · cases made
  | noticeWriter =>
    simp only [make?, noticeWriter?] at made
    split at made
    · cases made; cases serving
    · cases made
  | finishClosing =>
    simp only [make?, finishClosing?] at made
    split at made
    · cases made; cases serving
    · cases made
  | timeOut =>
    simp only [make?, timeOut?] at made
    split at made
    · split at made
      · cases made; cases serving
      · cases made
    · cases made
  | drop =>
    simp only [make?, drop?] at made
    split at made <;> cases made <;> cases serving
  | write =>
    obtain ⟨_, writer, outlet, events, moved, rfl⟩ := written_of_moveWriter? made
    have same := ledger_record_of_isQuiet { session with writer := writer, outlet := outlet }
      (isQuiet_of_writer_step moved)
    exact quiet rfl (congrArg Ledger.taken same) rfl

/-- While the task is in its loop, what was put in is what it has taken and what it has not. -/
theorem Run.commands_eq (run : Run origin past session) (opened : Opened settings origin)
    (serving : session.task.isServing = true) :
    sends session.taken ++ session.commands = past.filterMap commanded? := by
  induction run with
  | stay =>
    obtain ⟨outlet, task, _, rfl⟩ := opened
    rfl
  | @step past before next move earlier made inductionHypothesis =>
    have sound := earlier.sound (sound_of_opened opened)
    have inside : before.task.isServing = true :=
      (next_of_sound sound (becomes_of_make made)).serving serving
    rw [commands_of_make sound made serving, inductionHypothesis inside, List.filterMap_append,
      List.filterMap_cons, List.filterMap_nil]
    cases commanded? (before, move) <;> rfl

end Antiphon.Session

namespace Antiphon

namespace Ledger

/-- What has been completed if the task was dropped after it had left its loop, in the state of the
first ledger. -/
def DroppedSince (first ledger : Ledger) : Prop :=
  ledger.task = .dropped → ∃ tickets : List Ticket, ledger.completions =
    first.completions ++ tickets.map fun ticket => (ticket, .error .connectionClosed)

/-- A task that is dropped while it waits for the writer completes what is left. -/
theorem Since.droppedSince {first ledger after : Ledger} {reason : LinkError} {accepting : Bool}
    (since : first.Since reason ledger) (dropped : first.DroppedSince ledger)
    (moved : ledger.Next accepting after) : first.DroppedSince after := by
  intro gone
  obtain ⟨left, _, waiting, _⟩ := since
  cases moved with
  | same | abandoned => exact dropped gone
  | accepted frame text framed room taking => exact absurd gone taking.2
  | askedToClose taking => exact absurd gone taking.2
  | started | begun | closing | overrun | finished => cases gone
  | taken ticket frame rest sent running => simp [running, Task.isServing] at left
  | fed octets frames codec running => simp [running, Task.isServing] at left
  | dropped live =>
    cases task : ledger.task with
    | held | ready | running => simp [task, Task.isServing] at left
    | ended => exact absurd task live.1
    | dropped => exact absurd task live.2
    | closing deadline =>
      refine ⟨ledger.left, ?_⟩
      rw [← (waiting deadline task).2.1]
      rfl

end Ledger

/-- The writer is handed only what the task takes. -/
theorem Dispatch.Next.handed_eq {dispatch after : Dispatch} (moved : dispatch.Next after)
    (same : after.taken = dispatch.taken) : after.handed = dispatch.handed := by
  cases moved with
  | handed ticket frame writer given => simp at same
  | _ => rfl

namespace Session

variable {settings : Settings} {origin session next leaving : Session}
  {past before later : List (Session × Move)} {move : Move}

/-- Outside of its loop the task takes no request, and the writer is handed none. -/
theorem Run.taken_of_left (run : Run origin past session) (sound : origin.ledger.Sound)
    (left : origin.task.isServing = false) :
    session.taken = origin.taken ∧ session.handed = origin.handed := by
  have kept := run.preserves
    (fun state => state.ledger.Sound ∧ state.task.isServing = false ∧
      state.taken = origin.taken ∧ state.handed = origin.handed)
    ⟨sound, left, rfl, rfl⟩ (by
      rintro before after accepting becomes ⟨sound, outside, taken, handed⟩
      have moved := next_of_sound sound becomes
      have stays : after.taken = before.taken := moved.taken_eq outside
      have given : after.handed = before.handed :=
        (dispatch_next (connected_of_running sound) becomes).handed_eq stays
      refine ⟨sound.next moved, ?_, stays.trans taken, given.trans handed⟩
      cases inside : after.task.isServing with
      | false => rfl
      | true => exact absurd (outside.symm.trans (moved.serving inside)) (by decide))
  exact kept.2.2

/-- What has become of the requests since the task left its loop is kept along a run. -/
theorem Run.since {first : Ledger} {reason : LinkError} (run : Run origin past session)
    (sound : origin.ledger.Sound) (since : first.Since reason origin.ledger)
    (dropped : first.DroppedSince origin.ledger) :
    first.Since reason session.ledger ∧ first.DroppedSince session.ledger := by
  have kept := run.preserves
    (fun state => state.ledger.Sound ∧ first.Since reason state.ledger ∧
      first.DroppedSince state.ledger)
    ⟨sound, since, dropped⟩ (by
      rintro before after accepting becomes ⟨sound, since, dropped⟩
      have moved := next_of_sound sound becomes
      exact ⟨sound.next moved, since.next moved fun deadline closing ended =>
        becomes.eq_finish_of_closing closing ended, since.droppedSince dropped moved⟩)
  exact kept.2

/-- A departure leads out of the loop, and what it says of the requests holds from then on. -/
theorem Run.since_of_departure {departure : Departure} (opened : Opened settings origin)
    (run : Run origin (before ++ (leaving, move) :: later) session)
    (reasoned : leaving.departure? move = some departure) :
    leaving.ledger.Since departure.reason session.ledger ∧
      leaving.ledger.DroppedSince session.ledger := by
  obtain ⟨earlier, next, made, onward⟩ := run.divide
  have reachable : Reachable settings leaving := ⟨origin, before, opened, earlier⟩
  have serving : leaving.task.isServing = true := by
    rw [running_of_departure? reasoned]
    rfl
  have moved := next_of_sound reachable.sound (becomes_of_make made)
  have start : leaving.ledger.Since departure.reason next.ledger ∧ next.task ≠ .dropped := by
    cases turns_of_make reachable serving made with
    | leaves other reason since =>
      obtain rfl : other = departure := Option.some.inj (reason.symm.trans reasoned)
      refine ⟨since, fun gone => ?_⟩
      -- A departure publishes a state, which a drop does not.
      have same : next.lifecycle = leaving.lifecycle := moved.lifecycle_of_dropped gone
      have connected := connected_of_running reachable.sound (running_of_departure? reasoned)
      have published := lifecycle_of_departure? reasoned made
      rw [same, connected] at published
      cases other <;> cases published
    | stays unmoved | dropped unmoved => simp [unmoved] at reasoned
  exact onward.since (reachable.sound.next moved) start.1 fun gone => absurd gone start.2

/-- Requests that the task has not taken when it leaves its loop, and those that come in later. -/
def behind (leaving : Session) (later : List (Session × Move)) : List Ticket :=
  untaken leaving.commands ++ (later.filterMap requested?).map Prod.fst

/-- A task that is dropped after its departure tells whoever it had not taken that the connection
was closed. -/
theorem Run.outcome?_of_dropped {departure : Departure} (opened : Opened settings origin)
    (run : Run origin (before ++ (leaving, move) :: later) session)
    (reasoned : leaving.departure? move = some departure) (gone : session.task = .dropped) :
    ∀ ticket ∈ behind leaving later,
      session.pending.outcome? ticket = some (.error .connectionClosed) := by
  intro ticket unseen
  have reachable : Reachable settings session := ⟨origin, _, opened, run⟩
  have left : Reachable settings leaving := ⟨origin, before, opened, run.divide.1⟩
  obtain ⟨tickets, completed⟩ := (run.since_of_departure opened reasoned).2 gone
  have completed : session.completions = leaving.completions ++
      tickets.map fun ticket => (ticket, .error .connectionClosed) := completed
  have all : session.completions.map Prod.fst = session.requests.map Prod.fst := by
    have order := reachable.sound.lined.order
    rw [reachable.sound.spent (.inr gone), List.append_nil] at order
    exact order.trans reachable.sound.issued.symm
  have earlier : leaving.completions.map Prod.fst ++
      (leaving.pending.waiting ++ untaken leaving.commands) = leaving.requests.map Prod.fst :=
    left.sound.lined.order.trans left.sound.issued.symm
  rw [completed, run.requests_of_departure opened reasoned, List.map_append, List.map_append,
    ← earlier, List.map_map, Function.comp_def, List.map_id'] at all
  have named : tickets = leaving.pending.waiting ++ behind leaving later := by
    have placed : leaving.completions.map Prod.fst ++ tickets =
        leaving.completions.map Prod.fst ++ (leaving.pending.waiting ++ behind leaving later) := by
      rw [all, behind]
      simp only [List.append_assoc]
    exact List.append_cancel_left placed
  apply reachable.outcome_of_completed (ticket, .error .connectionClosed)
  rw [completed, named]
  simp [unseen]

/-- How things stand in a session whose task left its loop because it had taken a request to close.
Of the run, `before` leads to that point and `later` on from it. -/
structure ClosedAt (before : List (Session × Move)) (leaving : Session)
    (later : List (Session × Move)) (session : Session) : Prop where
  /-- Of all commands that had been put in, the task had taken those before the request to close,
  -/
  queued : ∃ rest, leaving.commands = .close :: rest ∧
    before.filterMap commanded? = sends leaving.taken ++ .close :: rest
  /-- and these had their places in the order, where the first ones had been answered. -/
  slots : leaving.taken.map Prod.fst =
    leaving.pairing.taken.take leaving.pairing.matched.length ++ leaving.pending.waiting
  /-- As long as the writer was there it had been handed whatever was taken; -/
  handed : ∀ state ∈ visited before leaving, state.writer.isAlive = true →
    state.handed = state.taken.map Prod.snd ∧ state.handed <+: leaving.handed
  /-- it was gone only if it had failed. -/
  failed : ∀ state ∈ visited before leaving, state.writer.isAlive = false →
    ∃ error, state.writer.phase = .ended (some error)
  /-- All this was before the session was published as closing. -/
  unpublished : leaving.states = [.connected]
  /-- Nothing was taken or handed over later. -/
  untouched : session.taken = leaving.taken ∧ session.handed = leaving.handed
  /-- When the session is closed, the requests behind learn that there is no connection; -/
  closed : session.lifecycle = .closed → ∀ ticket ∈ behind leaving later,
    session.pending.outcome? ticket = some (.error .notConnected)
  /-- if the task was dropped before, that the connection was closed. -/
  dropped : session.task = .dropped → ∀ ticket ∈ behind leaving later,
    session.pending.outcome? ticket = some (.error .connectionClosed)
  /-- A session that is not closed yet is closed in time. -/
  ends : session.lifecycle = .closed ∨ session.task = .dropped ∨
    ∃ milliseconds past last, Run session past last ∧
      past.map Prod.snd = [.advance milliseconds, .timeOut] ∧ last.lifecycle = .closed

/-- What was picked from a history remains the beginning of what can be picked later. -/
theorem Run.gather_prefix (run : Run origin past session) {α : Type} (pick : Event → Option α) :
    gather pick origin.history <+: gather pick session.history :=
  run.preserves (fun state => gather pick origin.history <+: gather pick state.history)
    (List.prefix_refl _) fun becomes kept => kept.trans (becomes.gather_prefix pick)

/-- Who is in the loop has been there all along. -/
theorem Run.serving_of_later (run : Run origin past session) (sound : origin.ledger.Sound)
    (serving : session.task.isServing = true) : origin.task.isServing = true := by
  induction run with
  | stay => exact serving
  | step earlier made inductionHypothesis =>
    have moved := next_of_sound (earlier.sound sound) (becomes_of_make made)
    exact inductionHypothesis (moved.serving serving)

/-- A writer does not stop itself from outside. -/
theorem phase_ne_aborted_of_step {writer after : Writer} {outlet other : Outlet}
    {events : List Event} (moved : writer.step outlet = some (after, other, events)) :
    after.phase ≠ .aborted := by
  cases Writer.stride_of_step moved <;> simp

/-- A writer is stopped only by a task that leaves its loop. -/
theorem Becomes.phase_ne_aborted {before after : Session} {accepting : Bool}
    (becomes : Becomes before accepting after) (serving : after.task.isServing = true)
    (there : before.writer.phase ≠ .aborted) : after.writer.phase ≠ .aborted := by
  cases becomes with
  | taken ticket frame rest =>
    unfold onSend
    split
    · dsimp only
      split
      · next writer given =>
        obtain ⟨_, rfl⟩ := Writer.hand_eq given
        exact there
      · exact there
    · exact there
  | fed octets inlet frames codec =>
    have same := dispatch_receives (before.afterRead inlet octets codec) frames
    have phase := congrArg (fun dispatch => dispatch.writer.phase) same
    exact fun stopped => there (phase.symm.trans stopped)
  | wrote writer outlet events begun moved => exact phase_ne_aborted_of_step moved
  | closing | overrun | leftByPeer | readFailed | writerLost | flushed | timedOut
  | droppedBeforeTurn | dropped => cases serving
  | _ => exact there

/-- To a task in its loop, a writer that is gone is one that has failed. -/
theorem Reachable.failed_of_gone (reachable : Reachable settings session)
    (serving : session.task.isServing = true) (gone : session.writer.isAlive = false) :
    ∃ error, session.writer.phase = .ended (some error) := by
  have unstopped : session.writer.phase ≠ .aborted := by
    revert serving
    apply reachable.kept fun session =>
      session.task.isServing = true → session.writer.phase ≠ .aborted
    · rintro _ ⟨outlet, task, _, rfl⟩ _
      simp [new, Writer.new]
    · intro before after accepting reached _ becomes held serving
      have inside := (next_of_sound reached.sound becomes).serving serving
      exact becomes.phase_ne_aborted serving (held inside)
  have held := reachable.fed_of_serving serving
  cases phase : session.writer.phase with
  | idle | writing | shuttingDown => simp [Writer.isAlive, phase] at gone
  | aborted => exact absurd phase unstopped
  | ended failure =>
    cases failure with
    | some error => exact ⟨error, rfl⟩
    | none =>
      have starved : session.writer.fed = false := reachable.orderly.starved (.inr phase)
      exact absurd (held.symm.trans starved) (by decide)

/-- A task that leaves its loop because it was asked to has taken a request to close. -/
theorem closes_of_departure? (reasoned : session.departure? move = some .asked) :
    move = .takeCommand ∧ ∃ rest, session.commands = .close :: rest := by
  unfold departure? at reasoned
  split at reasoned
  · split at reasoned
    · next rest first => exact ⟨rfl, rest, first⟩
    · cases reasoned
    · split at reasoned <;> cases reasoned
  · split at reasoned
    · cases reasoned
    · cases reasoned
    · split at reasoned <;> cases reasoned
    · cases reasoned
  · split at reasoned <;> cases reasoned
  · cases reasoned

/-- One that leaves it because nobody holds the session has found nobody. -/
theorem alone_of_departure? (reasoned : session.departure? move = some .unheld) :
    session.handles = 0 := by
  unfold departure? at reasoned
  split at reasoned
  · split at reasoned
    · cases reasoned
    · cases reasoned
    · split at reasoned
      · next alone => exact alone
      · cases reasoned
  · split at reasoned
    · cases reasoned
    · cases reasoned
    · split at reasoned <;> cases reasoned
    · cases reasoned
  · split at reasoned <;> cases reasoned
  · cases reasoned

/-- A task that leaves its loop because it was asked to leaves things as `ClosedAt` says. -/
theorem closedAt_of_departure? (opened : Opened settings origin)
    (run : Run origin (before ++ (leaving, move) :: later) session)
    (reasoned : leaving.departure? move = some .asked) :
    ClosedAt before leaving later session := by
  obtain ⟨earlier, next, made, onward⟩ := run.divide
  have left : Reachable settings leaving := ⟨origin, before, opened, earlier⟩
  have running := running_of_departure? reasoned
  have serving : leaving.task.isServing = true := by rw [running]; rfl
  have live : leaving.task ≠ .ended ∧ leaving.task ≠ .dropped := by simp [running]
  -- What the move does.
  obtain ⟨rfl, rest, first⟩ := closes_of_departure? reasoned
  have closing : next = { leaving with commands := rest }.beginClosing := by
    simp only [make?, takeCommand?, running, first] at made
    exact (Option.some.inj made).symm
  have inside {state : Session} (there : state ∈ visited before leaving) :
      Reachable settings state ∧ state.task.isServing = true ∧ state.handed <+: leaving.handed := by
    obtain ⟨front, back, _, first, second⟩ := earlier.through there
    have sound := first.sound (sound_of_opened opened)
    exact ⟨⟨origin, front, opened, first⟩, second.serving_of_later sound serving,
      second.gather_prefix Event.handed?⟩
  have sound := left.sound.next (next_of_sound left.sound (becomes_of_make made))
  have out : next.task.isServing = false := by rw [closing]; rfl
  refine ⟨⟨rest, first, ?_⟩, ?_, ?_, ?_, ?_, ?_, ?_, ?_, ?_⟩
  · rw [← first]
    exact (earlier.commands_eq opened serving).symm
  · have waits : leaving.pending.waiting =
        leaving.pairing.taken.drop leaving.pairing.matched.length :=
      (left.paired.1.serving live).2
    rw [waits, List.take_append_drop]
    exact left.paired.1.taken.symm
  · intro state there alive
    obtain ⟨reached, _, kept⟩ := inside there
    exact ⟨reached.carried.relayed alive, kept⟩
  · intro state there gone
    obtain ⟨reached, stateServing, _⟩ := inside there
    exact reached.failed_of_gone stateServing gone
  · exact left.published.states_of_serving serving
  · obtain ⟨taken, handed⟩ := onward.taken_of_left sound out
    have silent : next.taken = leaving.taken ∧ next.handed = leaving.handed := by
      rw [closing, beginClosing]
      have same (session : Session) (pending : Nat) (unwritten : UInt64) :
          (session.record [.published .closing, .closing pending unwritten]).dispatch =
            session.dispatch := dispatch_record_of_isInward session (by simp [Event.isInward])
      exact ⟨congrArg Dispatch.taken (same _ _ _), congrArg Dispatch.handed (same _ _ _)⟩
    exact ⟨taken.trans silent.1, handed.trans silent.2⟩
  · intro closed ticket unseen
    have ended := Reachable.ended_of_closed ⟨origin, _, opened, run⟩ closed
    have since := (run.since_of_departure opened reasoned).1
    exact (concluded_of_since opened run reasoned since ended).untaken ticket unseen
  · exact run.outcome?_of_dropped opened reasoned
  · have agrees : session.task.Agrees session.lifecycle := (onward.sound sound).phased
    have outside : session.task.isServing = false := by
      cases entered : session.task.isServing with
      | false => rfl
      | true => exact absurd (out.symm.trans (onward.serving_of_later sound entered)) (by decide)
    cases task : session.task with
    | held | ready | running => simp [task, Task.isServing] at outside
    | dropped => exact .inr (.inl rfl)
    | ended =>
      rw [task] at agrees
      exact .inl agrees
    | closing deadline =>
      have due : (session.advance deadline).make? .timeOut =
          some (((session.advance deadline).record
            [.flushTimedOut session.settings.closeTimeout]).abortWriter.finish
              .connectionClosed) := by
        simp [make?, timeOut?, advance, task]
      exact .inr (.inr ⟨deadline, _, _, .step (.step .stay rfl) due, rfl, rfl⟩)

end Session

end Antiphon
