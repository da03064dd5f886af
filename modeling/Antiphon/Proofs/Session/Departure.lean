import Antiphon.Proofs.Session.Outflow
import Antiphon.Proofs.Session.Pairing

/-!
# No request is lost at the end

The task leaves its loop once, and `Session.departure?` says at which move and why. At that point
the requests stand in three places: those that were matched, those that wait, and those whose
commands the task has not taken. More commands can come in while the task waits for the writer.

`Ledger.Since` is what holds from there on. Nothing is matched or taken any more; as long as the
task waits for the writer everything stays where it is, and when it ends, whoever waits learns the
reason of the departure and whoever was not taken that there is no connection. As the tickets that
were completed are then all tickets in the order of their issue, no request can have been missed.
-/

namespace Antiphon

/-- Why the task leaves its loop. -/
inductive Departure
  /-- A caller asked for the end. -/
  | asked
  /-- The last handle was dropped. -/
  | unheld
  /-- The peer closed its side. -/
  | byPeer
  | readFailed (fault : IoFault)
  /-- A length above the limit arrived. -/
  | overrun (oversized : Oversized)
  | writerFailed (error : LinkError)
deriving DecidableEq

/-- The failure that a departure is due to, if it is due to one. -/
def Departure.failure? : Departure → Option LinkError
  | .asked | .unheld | .byPeer => none
  | .readFailed fault => some (.io fault)
  | .overrun oversized => some (.ofIncoming oversized)
  | .writerFailed error => some error

/-- What the requests are told that wait: that the connection was closed, or the wording of what
made it fail. -/
def Departure.reason (departure : Departure) : LinkError :=
  match departure.failure? with
  | none => .connectionClosed
  | some error => .connection error.message

namespace Session

/-- Why a move makes the task leave its loop, if it does. -/
def departure? (session : Session) (move : Move) : Option Departure :=
  match session.task, move with
  | .running, .takeCommand =>
    match session.commands with
    | .close :: _ => some .asked
    | .send _ _ :: _ => none
    | [] => if session.handles = 0 then some .unheld else none
  | .running, .read =>
    match session.inlet.read session.settings.readCapacity with
    | some (.finish, _) => some .byPeer
    | some (.fault fault, _) => some (.readFailed fault)
    | some (.chunk octets, _) =>
      match (session.codec.buffer.push octets).1 with
      | .error oversized => some (.overrun oversized)
      | .ok _ => none
    | none => none
  | .running, .noticeWriter =>
    match session.writer.phase with
    | .ended (some error) => some (.writerFailed error)
    | _ => none
  | _, _ => none

end Session

namespace Ledger

/-- What has become of the requests since the task left its loop, for a reason, in the state of
the first ledger. -/
structure Since (first : Ledger) (reason : LinkError) (ledger : Ledger) : Prop where
  left : ledger.task.isServing = false
  pairing : ledger.pairing = first.pairing
  /-- While the task waits for the writer, so do the requests. -/
  waiting : ∀ deadline, ledger.task = .closing deadline →
    reason = .connectionClosed ∧ ledger.completions = first.completions ∧
      ledger.pending.waiting = first.pending.waiting
  /-- At the end those that waited learn the reason, and the others that there is no connection. -/
  ended : ledger.task = .ended → ∃ commands,
    ledger.completions =
      first.completions ++ Session.leftovers first.pending.waiting commands reason

namespace Since

variable {first ledger after : Ledger} {reason : LinkError} {accepting : Bool}

/-- The end, as long as the requests are still where they were. -/
theorem finish (reason : LinkError) (paired : ledger.pairing = first.pairing)
    (completed : ledger.completions = first.completions)
    (waits : ledger.pending.waiting = first.pending.waiting) :
    first.Since reason (ledger.finish reason) where
  left := rfl
  pairing := paired
  waiting := fun _ closing => by cases closing
  ended := fun _ => by
    refine ⟨ledger.commands, ?_⟩
    rw [← completed, ← waits]
    rfl

/-- Only the end completes requests, and it does so for the reason of the departure. -/
theorem next (since : first.Since reason ledger) (moved : ledger.Next accepting after)
    (closed : ∀ deadline, ledger.task = .closing deadline → after.task = .ended →
      after = ledger.finish .connectionClosed) : first.Since reason after := by
  obtain ⟨left, pairing, waiting, ended⟩ := since
  cases moved with
  | same | accepted | askedToClose | abandoned => exact ⟨left, pairing, waiting, ended⟩
  | started held => simp [held, Task.isServing] at left
  | begun ready => simp [ready, Task.isServing] at left
  | taken ticket frame rest sent running => simp [running, Task.isServing] at left
  | closing rest deadline running => simp [running, Task.isServing] at left
  | fed octets frames codec running => simp [running, Task.isServing] at left
  | overrun octets error codec running => simp [running, Task.isServing] at left
  | finished other reasoned live =>
    rcases live with running | ⟨deadline, closing⟩
    · simp [running, Task.isServing] at left
    · obtain ⟨rfl, completed, waits⟩ := waiting deadline closing
      rw [closed deadline closing rfl]
      exact .finish _ pairing completed waits
  | dropped =>
    refine ⟨rfl, pairing, fun _ closing => ?_, fun ended => ?_⟩
    · cases closing
    · cases ended

end Since

end Ledger

namespace Session

variable {settings : Settings} {origin session next : Session} {past : List (Session × Move)}
  {move : Move}

/-- A task that has left its loop does not leave it again. -/
theorem departure?_eq_none_of_not_serving (left : session.task.isServing = false) (move : Move) :
    session.departure? move = none := by
  unfold departure?
  split <;> first | rfl | simp_all [Task.isServing]

/-- What the task does when it leaves its loop. -/
inductive Leaves (session : Session) : Departure → Session → Prop
  /-- Asked to, it lets go of the writer and waits for it. -/
  | closing (departure : Departure) (rest : List Command)
      (asked : departure = .asked ∨ departure = .unheld) :
      Leaves session departure { session with commands := rest }.beginClosing
  /-- Left by the peer, it lets go of the writer and ends. -/
  | ending (inlet : Inlet) : Leaves session .byPeer { session with inlet := inlet }.endByPeer
  /-- After a failure it stops the writer and ends. -/
  | failing (departure : Departure) (reached : Session) (error : LinkError)
      (failed : departure.failure? ≠ none) : Leaves session departure (reached.endByFailure error)

/-- A task that leaves its loop when it takes a command does what `Leaves` says. -/
theorem leaves_of_takeCommand {departure : Departure}
    (reasoned : session.departure? .takeCommand = some departure)
    (made : session.takeCommand? = some next) : session.Leaves departure next := by
  unfold takeCommand? at made
  split at made
  · next ticket frame rest running first => simp [departure?, running, first] at reasoned
  · next rest running first =>
    simp only [departure?, running, first, Option.some.injEq] at reasoned
    cases made
    exact .closing departure rest (.inl reasoned.symm)
  · next running empty =>
    split at made
    · next alone =>
      simp only [departure?, running, empty, alone, if_true, Option.some.injEq] at reasoned
      cases made
      exact .closing departure session.commands (.inr reasoned.symm)
    · cases made
  · cases made

/-- A task that leaves its loop when it reads does what `Leaves` says. -/
theorem leaves_of_read {departure : Departure}
    (reasoned : session.departure? .read = some departure) (made : session.read? = some next) :
    session.Leaves departure next := by
  unfold read? at made
  split at made
  · next arrival inlet running available =>
    simp only [departure?, running, available] at reasoned
    cases arrival with
    | finish =>
      cases made
      cases reasoned
      exact .ending inlet
    | fault fault =>
      cases made
      cases reasoned
      exact .failing _ _ _ (by simp [Departure.failure?])
    | chunk octets =>
      rcases pushed : session.codec.buffer.push octets with ⟨oversized | frames, buffer⟩
      · simp only [pushed, Option.some.injEq] at reasoned
        simp only [onData, Codec.feed, pushed, mapError_error] at made
        cases made
        cases reasoned
        exact .failing _ _ _ (by simp [Departure.failure?])
      · simp [pushed] at reasoned
  · cases made

/-- A task that leaves its loop when it notices that the writer has ended does what `Leaves`
says. -/
theorem leaves_of_noticeWriter {departure : Departure}
    (reasoned : session.departure? .noticeWriter = some departure)
    (made : session.noticeWriter? = some next) : session.Leaves departure next := by
  unfold noticeWriter? at made
  split at made
  · next failure running gone =>
    simp only [departure?, running, gone] at reasoned
    cases made
    cases failure with
    | none => cases reasoned
    | some error =>
      cases reasoned
      exact .failing _ _ _ (by simp [Departure.failure?])
  · cases made

/-- A task with a reason to leave does so in one of these ways. -/
theorem leaves_of_departure? {departure : Departure}
    (reasoned : session.departure? move = some departure) (made : session.make? move = some next) :
    session.Leaves departure next := by
  cases move with
  | takeCommand => exact leaves_of_takeCommand reasoned made
  | read => exact leaves_of_read reasoned made
  | noticeWriter => exact leaves_of_noticeWriter reasoned made
  | _ => simp [departure?] at reasoned

/-- A task that waits for the writer ends with the connection closed, whichever of the two comes
first, the end of the writer or the deadline. -/
theorem Becomes.eq_finish_of_closing {before after : Session} {accepting : Bool}
    (becomes : Becomes before accepting after) {deadline : Nat}
    (closing : before.task = .closing deadline) (ended : after.task = .ended) :
    after.ledger = before.ledger.finish .connectionClosed := by
  cases becomes with
  | flushed => exact ledger_flushed before _ _
  | timedOut => exact ledger_timedOut before _ _
  | started held => simp [closing] at held
  | begun ready => simp [closing] at ready
  | taken ticket frame rest running => simp [closing] at running
  | closing rest running => simp [closing] at running
  | fed octets inlet frames codec running => simp [closing] at running
  | overrun octets inlet error codec running => simp [closing] at running
  | leftByPeer inlet running => simp [closing] at running
  | readFailed inlet fault running => simp [closing] at running
  | writerLost failure running => simp [closing] at running
  | droppedBeforeTurn doomed idle => simp [closing] at idle
  | dropped => cases ended
  | _ => cases closing.symm.trans ended

/-- What a move comes to for a task in its loop. -/
inductive Turns (session : Session) (move : Move) (next : Session) : Prop
  /-- The task has a reason to leave. The requests stay where they are, or learn the reason. -/
  | leaves (departure : Departure) (reasoned : session.departure? move = some departure)
      (since : session.ledger.Since departure.reason next.ledger)
  | stays (unmoved : session.departure? move = none) (serving : next.task.isServing = true)
  | dropped (unmoved : session.departure? move = none) (gone : next.task = .dropped)

/-- What taking a command comes to for a task in its loop. -/
theorem turns_of_takeCommand (sound : session.ledger.Sound)
    (made : session.takeCommand? = some next) : session.Turns .takeCommand next := by
  have closed (rest : List Command) : session.ledger.Since .connectionClosed
      ({ session with commands := rest }.beginClosing).ledger := by
    obtain ⟨deadline, result⟩ := ledger_beginClosing session rest
    rw [result]
    exact ⟨rfl, rfl, fun _ _ => ⟨rfl, rfl, rfl⟩, fun ended => by cases ended⟩
  unfold takeCommand? at made
  split at made
  · next ticket frame rest running first =>
    cases made
    obtain ⟨sent, result⟩ :=
      ledger_onSend session (connected_of_running sound running) ticket frame rest
    have task : ({ session with commands := rest }.onSend ticket frame).task = .running :=
      (congrArg Ledger.task result).trans running
    exact .stays (by simp [departure?, running, first]) (by rw [task]; rfl)
  · next rest running first =>
    cases made
    exact .leaves .asked (by simp [departure?, running, first]) (closed rest)
  · next running empty =>
    split at made
    · next alone =>
      cases made
      have same : ({ session with commands := [] } : Session) = session := by rw [← empty]
      have closed := closed []
      rw [same] at closed
      exact .leaves .unheld (by simp [departure?, running, empty, alone]) closed
    · cases made
  · cases made

/-- A chunk whose lengths are allowed keeps the task in its loop, and any other makes it leave. -/
theorem turns_of_chunk {octets : Octets} {inlet : Inlet} (running : session.task = .running)
    (available : session.inlet.read session.settings.readCapacity = some (.chunk octets, inlet))
    (made : (match { session with inlet := inlet }.onData octets with
      | (.ok (), session) => some session
      | (.error error, session) => some (session.endByFailure error)) = some next) :
    session.Turns .read next := by
  rcases pushed : session.codec.buffer.push octets with ⟨result, buffer⟩
  let codec : Codec := { session.codec with buffer := buffer }
  have read := ledger_afterRead session inlet octets codec
  cases result with
  | error oversized =>
    have failed : next.ledger = (session.ledger.read octets codec).finish
        (.connection (LinkError.ofIncoming oversized).message) := by
      simp only [onData, Codec.feed, pushed, mapError_error] at made
      cases made
      exact (ledger_endByFailure _ _).trans (congrArg (Ledger.finish · _) read)
    refine .leaves (.overrun oversized) (by simp [departure?, running, available, pushed]) ?_
    rw [failed]
    exact .finish _ rfl rfl rfl
  | ok frames =>
    have task : next.task = .running := by
      simp only [onData, Codec.feed, pushed, mapError_ok] at made
      cases made
      have same := congrArg Ledger.task
        (ledger_receives (session.afterRead inlet octets codec) frames)
      rw [(Ledger.orders_receives _ frames).2.2.2, read] at same
      exact same.trans running
    exact .stays (by simp [departure?, running, available, pushed]) (by rw [task]; rfl)

/-- What a read comes to for a task in its loop. -/
theorem turns_of_read (made : session.read? = some next) : session.Turns .read next := by
  unfold read? at made
  split at made
  · next arrival inlet running available =>
    cases arrival with
    | chunk octets => exact turns_of_chunk running available made
    | finish =>
      cases made
      refine .leaves .byPeer (by simp [departure?, running, available]) ?_
      rw [ledger_endByPeer]
      exact .finish _ rfl rfl rfl
    | fault fault =>
      cases made
      refine .leaves (.readFailed fault) (by simp [departure?, running, available]) ?_
      rw [ledger_endByFailure]
      exact .finish _ rfl rfl rfl
  · cases made

/-- What noticing the end of the writer comes to for a task in its loop. -/
theorem turns_of_noticeWriter (reachable : Reachable settings session)
    (made : session.noticeWriter? = some next) : session.Turns .noticeWriter next := by
  unfold noticeWriter? at made
  split at made
  · next failure running gone =>
    cases made
    cases failure with
    | some error =>
      refine .leaves (.writerFailed error) (by simp [departure?, running, gone]) ?_
      rw [ledger_endByFailure]
      exact .finish _ rfl rfl rfl
    | none =>
      -- A writer that has ended well was let go of, which the task does not do in its loop.
      have held := reachable.fed_of_serving (by rw [running]; rfl)
      have starved : session.writer.fed = false := reachable.orderly.starved (.inr gone)
      exact absurd (held.symm.trans starved) (by decide)
  · cases made

/-- Handing over a frame does not change what the task is doing. -/
theorem task_sendFrame (session : Session) (frame : Octets) :
    (session.sendFrame frame).2.task = session.task := by
  rw [sendFrame_eq]
  split
  · split <;> rfl
  · rfl

/-- A send does not change what the task is doing. -/
theorem task_send (session : Session) (text : Except Json.Fault Octets) :
    (session.send text).2.task = session.task := by
  unfold send
  split
  · split
    · rfl
    · exact task_sendFrame _ _
  · rfl

/-- Every move of a session whose task is in its loop is one of these. -/
theorem turns_of_make (reachable : Reachable settings session)
    (serving : session.task.isServing = true) (made : session.make? move = some next) :
    session.Turns move next := by
  have idle (calm : session.departure? move = none) (task : next.task = session.task) :
      session.Turns move next := .stays calm (by rw [task]; exact serving)
  have calm (same : move ≠ .takeCommand ∧ move ≠ .read ∧ move ≠ .noticeWriter) :
      session.departure? move = none := by
    unfold departure?
    split <;> simp_all
  cases move with
  | takeCommand => exact turns_of_takeCommand reachable.sound made
  | read => exact turns_of_read made
  | noticeWriter => exact turns_of_noticeWriter reachable made
  | send text =>
    obtain rfl := eq_of_byHandle made
    exact idle (calm (by simp)) (task_send session text)
  | sendChecked text =>
    simp only [make?] at made
    split at made
    · next frame framed =>
      obtain rfl := eq_of_byHandle made
      exact idle (calm (by simp)) (task_sendFrame session frame)
    · cases made
  | requestClose =>
    obtain rfl := eq_of_byHandle made
    apply idle (calm (by simp))
    unfold requestClose
    split <;> rfl
  | addHandle | dropHandle =>
    obtain rfl := eq_of_byHandle made
    exact idle (calm (by simp)) rfl
  | abandon | deliver | changeOutlet | advance | doom =>
    cases made
    exact idle (calm (by simp)) rfl
  | start =>
    cases made
    refine .stays (calm (by simp)) ?_
    unfold start
    split
    · rfl
    · exact serving
  | begin =>
    simp only [make?, begin?] at made
    split at made
    · cases made
      exact .stays (calm (by simp)) rfl
    · cases made
  | finishClosing =>
    simp only [make?, finishClosing?] at made
    split at made
    · next waiting _ => simp [waiting, Task.isServing] at serving
    · cases made
  | timeOut =>
    simp only [make?, timeOut?] at made
    split at made
    · next waiting => simp [waiting, Task.isServing] at serving
    · cases made
  | drop =>
    simp only [make?, drop?] at made
    refine .dropped (calm (by simp)) ?_
    split at made <;> cases made <;> rfl
  | write =>
    obtain ⟨_, writer, outlet, events, _, rfl⟩ := written_of_moveWriter? made
    exact idle (calm (by simp)) rfl

/-- The departures of a run, in order. -/
def departures (past : List (Session × Move)) : List Departure :=
  past.filterMap fun stage => stage.1.departure? stage.2

/-- A task that is in its loop has not left it, and one that is over without having been dropped
has left it once. -/
theorem Run.departs (run : Run origin past session) (opened : Opened settings origin) :
    (session.task.isServing = true → departures past = []) ∧
      (session.task.isServing = false → session.task ≠ .dropped →
        ∃ before leaving move later departure, past = before ++ (leaving, move) :: later ∧
          leaving.departure? move = some departure ∧ departures past = [departure] ∧
          leaving.ledger.Since departure.reason session.ledger) := by
  induction run with
  | stay =>
    obtain ⟨outlet, task, fresh, rfl⟩ := opened
    refine ⟨fun _ => rfl, fun left => ?_⟩
    rcases fresh with rfl | rfl <;> cases left
  | @step past before next move earlier made inductionHypothesis =>
    have reachable : Reachable settings before := ⟨origin, past, opened, earlier⟩
    have becomes := becomes_of_make made
    have moved := next_of_sound reachable.sound becomes
    obtain ⟨inside, outside⟩ := inductionHypothesis
    have grown : departures (past ++ [(before, move)]) =
        departures past ++ (before.departure? move).toList := by
      rw [departures, List.filterMap_append]
      cases found : before.departure? move <;> simp [departures, found]
    rw [grown]
    cases serving : before.task.isServing with
    | true =>
      rw [inside serving]
      cases turns_of_make reachable serving made with
      | leaves departure reasoned since =>
        rw [reasoned]
        refine ⟨fun entered => ?_, fun _ _ => ?_⟩
        · have left : next.task.isServing = false := since.left
          exact absurd (left.symm.trans entered) (by decide)
        · exact ⟨past, before, move, [], departure, rfl, reasoned, rfl, since⟩
      | stays calm stayed =>
        rw [calm]
        exact ⟨fun _ => rfl, fun left => absurd (left.symm.trans stayed) (by decide)⟩
      | dropped calm gone =>
        rw [calm]
        exact ⟨fun _ => rfl, fun _ present => absurd gone present⟩
    | false =>
      rw [departure?_eq_none_of_not_serving serving, Option.toList_none, List.append_nil]
      refine ⟨fun entered => ?_, fun _ present => ?_⟩
      · have entered : before.task.isServing = true := moved.serving entered
        exact absurd (serving.symm.trans entered) (by decide)
      · have there : before.task ≠ .dropped := fun gone => present (moved.dropped_of_dropped gone)
        obtain ⟨front, leaving, leave, later, departure, rfl, reasoned, once, since⟩ :=
          outside serving there
        refine ⟨front, leaving, leave, later ++ [(before, move)], departure, ?_, reasoned, once,
          since.next moved fun deadline closing ended =>
            becomes.eq_finish_of_closing closing ended⟩
        rw [List.append_assoc, List.cons_append]

/-- How the requests of a closed session stand, given the state in which its task left the loop,
what happened later, and the reason. -/
structure Concluded (session leaving : Session) (later : List (Session × Move))
    (departure : Departure) : Prop where
  /-- Every request was completed once, in the order of the sends. -/
  once : session.completions.map Prod.fst = session.requests.map Prod.fst ∧
    (session.completions.map Prod.fst).Nodup
  /-- What a request was completed with is what its caller finds. -/
  told : ∀ completion ∈ session.completions,
    session.pending.outcome? completion.1 = some completion.2
  /-- The requests were matched, or waited, or their commands were on their way when the task left
  its loop, or were put in later. -/
  placed : session.requests.map Prod.fst =
    leaving.pairing.taken.take leaving.pairing.matched.length ++ leaving.pending.waiting ++
      (untaken leaving.commands ++ (later.filterMap requested?).map Prod.fst)
  /-- Nothing was matched later, -/
  paired : session.pairing = leaving.pairing
  /-- and a request that was matched has what its frame is read as. -/
  answered : ∀ (place : Nat) (ticket : Ticket) (frame : Frame),
    leaving.pairing.taken[place]? = some ticket → leaving.pairing.matched[place]? = some frame →
      session.pending.outcome? ticket =
        some ((decodeAs Json frame.payload).mapError (.decode frame.payload))
  waited : ∀ ticket ∈ leaving.pending.waiting,
    session.pending.outcome? ticket = some (.error departure.reason)
  untaken : ∀ ticket ∈ untaken leaving.commands ++ (later.filterMap requested?).map Prod.fst,
    session.pending.outcome? ticket = some (.error .notConnected)

/-- Only a task in its loop can leave it. -/
theorem running_of_departure? {departure : Departure}
    (reasoned : session.departure? move = some departure) : session.task = .running := by
  unfold departure? at reasoned
  split at reasoned
  · assumption
  · assumption
  · assumption
  · cases reasoned

/-- Nobody sends and leaves in one move. -/
theorem requested?_of_departure? {departure : Departure}
    (reasoned : session.departure? move = some departure) : requested? (session, move) = none := by
  unfold departure? at reasoned
  split at reasoned
  · rfl
  · rfl
  · rfl
  · cases reasoned

/-- Only a task that has ended has published that the connection is closed. -/
theorem Reachable.ended_of_closed (reachable : Reachable settings session)
    (closed : session.lifecycle = .closed) : session.task = .ended := by
  have phased : session.task.Agrees session.lifecycle := reachable.sound.phased
  rw [closed] at phased
  unfold Task.Agrees at phased
  split at phased <;> simp_all

/-- A departure sends nothing itself: the requests are those that were there and those that were
sent later. -/
theorem Run.requests_of_departure {before later : List (Session × Move)} {leaving : Session}
    {departure : Departure} (opened : Opened settings origin)
    (run : Run origin (before ++ (leaving, move) :: later) session)
    (reasoned : leaving.departure? move = some departure) :
    session.requests = leaving.requests ++ later.filterMap requested? := by
  rw [run.requests_of_opened opened, run.divide.1.requests_of_opened opened,
    List.filterMap_append, List.filterMap_cons, requested?_of_departure? reasoned]

/-- While the task is there, a request is matched, or it waits, or it has not been taken. -/
theorem Reachable.requests_of_live (reachable : Reachable settings session)
    (live : session.task ≠ .ended ∧ session.task ≠ .dropped) :
    session.requests.map Prod.fst =
      session.pairing.taken.take session.pairing.matched.length ++ session.pending.waiting ++
        untaken session.commands := by
  have paired := reachable.paired.1
  have waits : session.pending.waiting =
      session.pairing.taken.drop session.pairing.matched.length := (paired.serving live).2
  have tickets : session.pairing.taken = session.taken.map Prod.fst := paired.taken
  have ordered : session.taken ++ asked session.commands = session.requests :=
    reachable.ordered.1 live
  rw [waits, List.take_append_drop, tickets, ← map_fst_asked, ← List.map_append, ordered]

/-- Once the task has ended, every ticket that was issued is the ticket of a completion. -/
theorem Reachable.completed_of_ended (reachable : Reachable settings session)
    (ended : session.task = .ended) :
    session.completions.map Prod.fst = session.requests.map Prod.fst := by
  have order := reachable.sound.lined.order
  rw [reachable.sound.spent (.inl ended), List.append_nil] at order
  exact order.trans reachable.sound.issued.symm

/-- The requests of a session that has ended stand as `Concluded` says. -/
theorem concluded_of_since {before later : List (Session × Move)} {leaving : Session}
    {departure : Departure} (opened : Opened settings origin)
    (run : Run origin (before ++ (leaving, move) :: later) session)
    (reasoned : leaving.departure? move = some departure)
    (since : leaving.ledger.Since departure.reason session.ledger)
    (ended : session.task = .ended) : Concluded session leaving later departure := by
  have reachable : Reachable settings session := ⟨origin, _, opened, run⟩
  have left : Reachable settings leaving := ⟨origin, before, opened, run.divide.1⟩
  have live : leaving.task ≠ .ended ∧ leaving.task ≠ .dropped := by
    simp [running_of_departure? reasoned]
  have answers : leaving.completions = leaving.pairing.answers :=
    (left.paired.1.serving live).1
  have started : leaving.pairing.matched.length ≤ leaving.pairing.taken.length :=
    left.paired.1.started
  obtain ⟨commands, completed⟩ := since.ended ended
  have whole : session.completions = leaving.pairing.answers ++
      leftovers leaving.pending.waiting commands departure.reason :=
    completed.trans (congrArg (· ++ _) answers)
  have all := reachable.completed_of_ended ended
  have placed : session.requests.map Prod.fst =
      leaving.pairing.taken.take leaving.pairing.matched.length ++ leaving.pending.waiting ++
        (untaken leaving.commands ++ (later.filterMap requested?).map Prod.fst) := by
    rw [run.requests_of_departure opened reasoned, List.map_append, left.requests_of_live live,
      List.append_assoc _ (untaken leaving.commands)]
  have rest : untaken commands =
      untaken leaving.commands ++ (later.filterMap requested?).map Prod.fst := by
    rw [placed, whole, List.map_append, Pairing.map_fst_answers started, map_fst_leftovers,
      ← List.append_assoc] at all
    exact List.append_cancel_left all
  refine ⟨⟨all, ?_⟩, reachable.outcome_of_completed, placed, since.pairing, ?_,
    ?_, ?_⟩
  · rw [all]
    have issued : session.requests.map Prod.fst = List.range session.pending.replies.length :=
      reachable.sound.issued
    rw [issued]
    exact List.nodup_range
  · intro place ticket frame asked came
    have same : session.pairing = leaving.pairing := since.pairing
    rw [← same] at asked came
    exact (reachable.completion_of_matched asked came).2
  · intro ticket waits
    apply reachable.outcome_of_completed (ticket, .error departure.reason)
    rw [whole, leftovers]
    simp [waits]
  · intro ticket unseen
    rw [← rest] at unseen
    apply reachable.outcome_of_completed (ticket, .error .notConnected)
    rw [whole, leftovers]
    simp [unseen]

/-- No request is lost when a session closes. Whatever the run, its task left the loop once, while
the session was connected, and for one reason. Every request that a send returned has been
completed, and none twice. A request that was matched has what its frame is read as; those that
waited when the task left its loop learn the reason; and those whose commands were not taken by
then, or came in later, learn that there is no connection. -/
theorem concluded_of_closed (opened : Opened settings origin) (run : Run origin past session)
    (closed : session.lifecycle = .closed) :
    session.requests = past.filterMap requested? ∧
      ∃ before leaving move later departure, past = before ++ (leaving, move) :: later ∧
        leaving.lifecycle = .connected ∧ leaving.departure? move = some departure ∧
        departures past = [departure] ∧ Concluded session leaving later departure := by
  have reachable : Reachable settings session := ⟨origin, past, opened, run⟩
  have ended := reachable.ended_of_closed closed
  refine ⟨run.requests_of_opened opened, ?_⟩
  obtain ⟨before, leaving, move, later, departure, rfl, reasoned, once, since⟩ :=
    (run.departs opened).2 (by rw [ended]; rfl) (by simp [ended])
  have left : Reachable settings leaving := ⟨origin, before, opened, run.divide.1⟩
  exact ⟨before, leaving, move, later, departure, rfl,
    connected_of_running left.sound (running_of_departure? reasoned), reasoned, once,
    concluded_of_since opened run reasoned since ended⟩

/-- Three requests, of which one was answered, one waited, and one was not taken when the read
failed. -/
theorem concluded_of_closed_by_read_fault :
    ∃ origin past session, Opened Settings.default origin ∧ Run origin past session ∧
      session.lifecycle = .closed ∧
      session.pending.outcome? 0 = some ((decodeAs Json [0x31]).mapError (.decode [0x31])) ∧
      session.pending.outcome? 1 =
        some (.error (.connection "I/O error: connection reset")) ∧
      session.pending.outcome? 2 = some (.error .notConnected) ∧
      session.completions.map Prod.fst = [0, 1, 2] ∧
      ∃ leaving later, leaving.lifecycle = .connected ∧
        Concluded session leaving later (.readFailed (.plain .connectionReset)) := by
  let origin : Session := .new Settings.default .unlimited .ready
  let moves : List Move :=
    [.send (.ok [0x7b, 0x7d]), .send (.ok [0x5b, 0x5d]), .begin, .takeCommand, .takeCommand,
      .deliver (.chunk [0, 0, 0, 1, 0x31]), .read, .send (.ok [0x30]),
      .deliver (.fault (.plain .connectionReset)), .read]
  have shown : (origin.play? moves).map (fun run =>
      (run.2.lifecycle, departures run.1, run.2.requests.map Prod.fst,
        run.1.all fun stage => (stage.1.departure? stage.2).isNone ||
          decide ((stage.1.pairing, stage.1.pending.waiting, untaken stage.1.commands) =
            (⟨[0, 1], [⟨[0x31]⟩], []⟩, [1], [2])))) =
      some (.closed, [.readFailed (.plain .connectionReset)], [0, 1, 2], true) := by
    decide +kernel
  obtain ⟨⟨past, session⟩, played, seen⟩ := Option.map_eq_some_iff.mp shown
  simp only [Prod.mk.injEq] at seen
  obtain ⟨closed, left, requests, places⟩ := seen
  obtain ⟨_, run⟩ := play?_eq_some_iff.mp played
  have opened : Opened Settings.default origin := ⟨_, _, .inr rfl, rfl⟩
  obtain ⟨_, before, leaving, move, later, departure, rfl, connected, reasoned, once, concluded⟩ :=
    concluded_of_closed opened run closed
  obtain rfl : departure = .readFailed (.plain .connectionReset) :=
    List.singleton_inj.mp (once.symm.trans left)
  have place := List.all_eq_true.mp places (leaving, move) (by simp)
  obtain ⟨paired, waits, unseen⟩ : leaving.pairing = ⟨[0, 1], [⟨[0x31]⟩], []⟩ ∧
      leaving.pending.waiting = [1] ∧ untaken leaving.commands = [2] := by
    simpa [reasoned] using place
  refine ⟨origin, _, session, opened, run, closed, ?_, ?_, ?_, concluded.once.1.trans requests,
    leaving, later, connected, concluded⟩
  · exact concluded.answered 0 0 ⟨[0x31]⟩ (by rw [paired]; rfl) (by rw [paired]; rfl)
  · exact concluded.waited 1 (by simp [waits])
  · exact concluded.untaken 2 (by simp [unseen])

end Session

end Antiphon
