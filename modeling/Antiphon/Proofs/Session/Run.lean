import Antiphon.Session.Step

/-!
# Runs of a session

A run is any sequence of moves, by callers, the peer, the stream, the clock, the owner of
the task, the task itself and the writer. Nothing schedules them: whatever is proved of all
runs holds under every interleaving. A run remembers each state that it left and the move
that was made there.

`play?` makes given moves one after the other, so that single runs can be computed.

`Becomes` is what one move can do, told once and with every guard that was passed. Invariants
are proved by cases on it and carried along a run by `Run.preserves`.
-/

namespace Antiphon

/-- Everything that can happen to a session, by whomever it is brought about. -/
inductive Move
  /-- A caller sends a message. -/
  | send (text : Except Json.Fault Octets)
  /-- The second half of a send. The state and the message were checked earlier, and the
  session may have moved on since. -/
  | sendChecked (text : Except Json.Fault Octets)
  | requestClose
  /-- A caller gives up on a request. -/
  | abandon (ticket : Ticket)
  | addHandle
  | dropHandle
  /-- Something arrives on the stream. -/
  | deliver (arrival : Arrival)
  /-- The stream will answer the writer otherwise. -/
  | changeOutlet (change : Outlet → Outlet)
  | advance (milliseconds : Nat)
  | start
  | doom
  /-- The task has its first turn. -/
  | begin
  | takeCommand
  | read
  | noticeWriter
  | finishClosing
  | timeOut
  | drop
  /-- The writer moves. -/
  | write

/-- The message of a send, given as the text that writing it produced. -/
def Move.text? : Move → Option (Except Json.Fault Octets)
  | .send text | .sendChecked text => some text
  | _ => none

namespace Session

/-- What a caller does takes a handle. -/
def byHandle (session next : Session) : Option Session :=
  if 0 < session.handles then some next else none

/-- The session after a move, if the move can be made. -/
def make? (session : Session) : Move → Option Session
  | .send text => session.byHandle (session.send text).2
  | .sendChecked text =>
    match frameMessage text session.settings.maxPayload with
    | .ok frame => session.byHandle (session.sendFrame frame).2
    | .error _ => none
  | .requestClose => session.byHandle session.requestClose
  | .abandon ticket => some (session.abandon ticket)
  | .addHandle => session.byHandle session.addHandle
  | .dropHandle => session.byHandle session.dropHandle
  | .deliver arrival => some (session.deliver arrival)
  | .changeOutlet change => some (session.changeOutlet change)
  | .advance milliseconds => some (session.advance milliseconds)
  | .start => some session.start
  | .doom => some session.doom
  | .begin => session.begin?
  | .takeCommand => session.takeCommand?
  | .read => session.read?
  | .noticeWriter => session.noticeWriter?
  | .finishClosing => session.finishClosing?
  | .timeOut => session.timeOut?
  | .drop => session.drop?
  | .write => session.moveWriter?

/-- What a move answers to its caller, if it is a send. -/
def answer? (session : Session) : Move → Option (Except LinkError Ticket)
  | .send text => some (session.send text).1
  | .sendChecked text =>
    match frameMessage text session.settings.maxPayload with
    | .ok frame => some (session.sendFrame frame).1
    | .error _ => none
  | _ => none

/-- Whether a move is a send that is answered with a ticket. -/
def accepts (session : Session) (move : Move) : Bool := (session.answer? move).any Except.isOk

/-- A session as it is handed out: over an open stream, held or about to begin. -/
def Opened (settings : Settings) (session : Session) : Prop :=
  ∃ outlet task, (task = .held ∨ task = .ready) ∧ session = .new settings outlet task

/-- A run, with the states that it left and the moves that were made there, earliest first. -/
inductive Run (origin : Session) : List (Session × Move) → Session → Prop
  | stay : Run origin [] origin
  | step {past : List (Session × Move)} {session next : Session} {move : Move}
      (run : Run origin past session) (made : session.make? move = some next) :
      Run origin (past ++ [(session, move)]) next

/-- A state that some run from an open stream leads to. -/
def Reachable (settings : Settings) (session : Session) : Prop :=
  ∃ origin past, Opened settings origin ∧ Run origin past session

/-- Makes moves one after the other; answers the states that were left and the last one, if each
move can be made. -/
def play? (session : Session) : List Move → Option (List (Session × Move) × Session)
  | [] => some ([], session)
  | move :: rest => do
    let next ← session.make? move
    let (past, last) ← next.play? rest
    some ((session, move) :: past, last)

/-- A move can be put in front of a run. -/
theorem Run.cons {session next last : Session} {move : Move} {past : List (Session × Move)}
    (made : session.make? move = some next) (run : Run next past last) :
    Run session ((session, move) :: past) last := by
  induction run with
  | stay => exact .step .stay made
  | step run later inductionHypothesis => exact .step inductionHypothesis later

/-- A run can be followed by another. -/
theorem Run.trans {origin session last : Session} {past more : List (Session × Move)}
    (run : Run origin past session) (later : Run session more last) :
    Run origin (past ++ more) last := by
  induction later with
  | stay => simpa using run
  | step _ made inductionHypothesis =>
    rw [← List.append_assoc]
    exact .step inductionHypothesis made

/-- A run can be divided at any of its stages. -/
theorem Run.divide {origin session : Session} {before later : List (Session × Move)}
    {stage : Session × Move} (run : Run origin (before ++ stage :: later) session) :
    Run origin before stage.1 ∧
      ∃ next, stage.1.make? stage.2 = some next ∧ Run next later session := by
  generalize whole : before ++ stage :: later = past at run
  induction run generalizing later with
  | stay => simp at whole
  | @step past left next move earlier made inductionHypothesis =>
    rcases List.eq_nil_or_concat later with rfl | ⟨front, last, rfl⟩
    · obtain ⟨rfl, same⟩ := List.append_inj' whole rfl
      obtain rfl := List.singleton_inj.mp same
      exact ⟨earlier, next, made, .stay⟩
    · rw [List.concat_eq_append] at whole ⊢
      rw [← List.cons_append, ← List.append_assoc] at whole
      obtain ⟨rest, same⟩ := List.append_inj' whole rfl
      obtain rfl := List.singleton_inj.mp same
      obtain ⟨first, second, moved, between⟩ := inductionHypothesis rest
      exact ⟨first, second, moved, .step between made⟩

/-- A move can be played behind others. -/
theorem play?_concat {origin session next : Session} {past : List (Session × Move)}
    {moves : List Move} {move : Move} (played : origin.play? moves = some (past, session))
    (made : session.make? move = some next) :
    origin.play? (moves ++ [move]) = some (past ++ [(session, move)], next) := by
  induction moves generalizing origin past with
  | nil =>
    cases played
    simp [play?, made]
  | cons first rest inductionHypothesis =>
    simp only [play?, Option.bind_eq_bind, Option.bind_eq_some_iff] at played
    obtain ⟨second, moved, ⟨more, last⟩, later, whole⟩ := played
    cases whole
    simp [play?, moved, inductionHypothesis later]

/-- Runs are what can be played. -/
theorem play?_eq_some_iff {origin last : Session} {past : List (Session × Move)}
    {moves : List Move} :
    origin.play? moves = some (past, last) ↔ past.map Prod.snd = moves ∧ Run origin past last := by
  constructor
  · intro played
    induction moves generalizing origin past with
    | nil =>
      cases played
      exact ⟨rfl, .stay⟩
    | cons first rest inductionHypothesis =>
      simp only [play?, Option.bind_eq_bind, Option.bind_eq_some_iff] at played
      obtain ⟨second, moved, ⟨more, last⟩, later, whole⟩ := played
      cases whole
      obtain ⟨rfl, run⟩ := inductionHypothesis later
      exact ⟨rfl, .cons moved run⟩
  · rintro ⟨rfl, run⟩
    induction run with
    | stay => rfl
    | step run made inductionHypothesis =>
      rw [List.map_append]
      exact play?_concat inductionHypothesis made

/-- How many sends of a run were answered with a ticket. -/
def sendsAccepted (past : List (Session × Move)) : Nat :=
  past.countP fun stage => stage.1.accepts stage.2

/-- The session after a frame was accepted as a new request. -/
def accept (session : Session) (frame : Octets) : Session :=
  { session with
    tally := { session.tally with pending := session.tally.pending + 1 }
    pending := session.pending.issue.2
    commands := session.commands ++ [Command.send session.pending.issue.1 frame] }.record
      [.accepted session.pending.issue.1 frame]

/-- A frame is accepted while there is room and the task takes commands; else nothing changes. -/
theorem sendFrame_eq (session : Session) (frame : Octets) :
    session.sendFrame frame =
      if session.tally.pending < session.settings.maxInFlight then
        if session.takesCommands then (.ok session.pending.issue.1, session.accept frame)
        else (.error .notConnected, session)
      else (.error (.tooManyInFlight session.settings.maxInFlight.toNat), session) := by
  by_cases room : session.tally.pending < session.settings.maxInFlight
  · have reserved : session.tally.reserve session.settings.maxInFlight =
        some { session.tally with pending := session.tally.pending + 1 } := by
      simp [Tally.reserve, room]
    by_cases taking : session.takesCommands
    · simp [sendFrame, reserved, room, taking, accept]
    · simp [sendFrame, reserved, room, taking, Tally.release_of_reserve reserved]
  · simp [sendFrame, Tally.reserve, room]

/-- A chunk that was read, and how far the codec got with it. -/
def afterRead (session : Session) (inlet : Inlet) (octets : Octets) (codec : Codec) : Session :=
  { session with inlet := inlet, codec := codec }.record [.read octets]

/-- What one move can do. The mark says whether it is a send that was answered with a ticket. -/
inductive Becomes (session : Session) : Bool → Session → Prop
  /-- A send that fails, and whatever else is without effect. -/
  | same : Becomes session false session
  | accepted (frame text : _) (framed : frameMessage text session.settings.maxPayload = .ok frame)
      (room : session.tally.pending < session.settings.maxInFlight)
      (taking : session.takesCommands) : Becomes session true (session.accept frame)
  | askedToClose (taking : session.takesCommands) :
      Becomes session false { session with commands := session.commands ++ [.close] }
  | abandoned (ticket : Ticket) : Becomes session false (session.abandon ticket)
  | handled (handles : Nat) : Becomes session false { session with handles := handles }
  | delivered (arrival : Arrival) : Becomes session false (session.deliver arrival)
  | outletChanged (change : Outlet → Outlet) : Becomes session false (session.changeOutlet change)
  | advanced (milliseconds : Nat) : Becomes session false (session.advance milliseconds)
  | doomed : Becomes session false session.doom
  | started (held : session.task = .held) : Becomes session false { session with task := .ready }
  | begun (ready : session.task = .ready) : Becomes session false { session with task := .running }
  | taken (ticket : Ticket) (frame : Octets) (rest : List Command)
      (running : session.task = .running) (first : session.commands = .send ticket frame :: rest) :
      Becomes session false ({ session with commands := rest }.onSend ticket frame)
  | closing (rest : List Command) (running : session.task = .running)
      (first : session.commands = .close :: rest ∨
        session.commands = rest ∧ rest = [] ∧ session.handles = 0) :
      Becomes session false { session with commands := rest }.beginClosing
  | fed (octets : Octets) (inlet : Inlet) (frames : List Frame) (codec : Codec)
      (running : session.task = .running)
      (available : session.inlet.read session.settings.readCapacity = some (.chunk octets, inlet))
      (extracted : session.codec.feed octets = (.ok frames, codec)) :
      Becomes session false (frames.foldl receive (session.afterRead inlet octets codec))
  | overrun (octets : Octets) (inlet : Inlet) (error : LinkError) (codec : Codec)
      (running : session.task = .running)
      (available : session.inlet.read session.settings.readCapacity = some (.chunk octets, inlet))
      (refused : session.codec.feed octets = (.error error, codec)) :
      Becomes session false ((session.afterRead inlet octets codec).endByFailure error)
  | leftByPeer (inlet : Inlet) (running : session.task = .running)
      (available : session.inlet.read session.settings.readCapacity = some (.finish, inlet)) :
      Becomes session false { session with inlet := inlet }.endByPeer
  | readFailed (inlet : Inlet) (fault : IoFault) (running : session.task = .running)
      (available : session.inlet.read session.settings.readCapacity =
        some (.fault fault, inlet)) :
      Becomes session false ({ session with inlet := inlet }.endByFailure (.io fault))
  | writerLost (failure : Option LinkError) (running : session.task = .running)
      (gone : session.writer.phase = .ended failure) :
      Becomes session false (session.endByFailure (failure.getD .connectionClosed))
  | flushed (deadline : Nat) (failure : Option LinkError)
      (waiting : session.task = .closing deadline) (gone : session.writer.phase = .ended failure) :
      Becomes session false
        ((session.record (failure.toList.map Event.flushFailed)).finish .connectionClosed)
  | timedOut (deadline : Nat) (waiting : session.task = .closing deadline)
      (due : deadline ≤ session.clock) :
      Becomes session false
        ((session.record [.flushTimedOut session.settings.closeTimeout]).abortWriter.finish
          .connectionClosed)
  | droppedBeforeTurn (doomed : session.doomed = true)
      (idle : session.task = .held ∨ session.task = .ready) :
      Becomes session false session.drop.abortWriter
  | dropped (doomed : session.doomed = true)
      (busy : session.task = .running ∨ ∃ deadline, session.task = .closing deadline) :
      Becomes session false session.drop
  | wrote (writer : Writer) (outlet : Outlet) (events : List Event)
      (begun : session.task ≠ .held ∧ session.task ≠ .ready)
      (moved : session.writer.step session.outlet = some (writer, outlet, events)) :
      Becomes session false ({ session with writer := writer, outlet := outlet }.record events)

/-- A caller with a handle does what it does. -/
theorem eq_of_byHandle {session next after : Session}
    (made : session.byHandle next = some after) : next = after := by
  unfold byHandle at made
  split at made
  · exact Option.some.inj made
  · cases made

/-- What a caller does is what one move can do. -/
theorem becomes_of_byHandle {session next after : Session} {accepting : Bool}
    (made : session.byHandle next = some after) (becomes : Becomes session accepting next) :
    Becomes session accepting after := by
  obtain rfl := eq_of_byHandle made
  exact becomes

/-- What the second half of a send can do. -/
theorem becomes_sendFrame {session : Session} {text : Except Json.Fault Octets} {frame : Octets}
    (framed : frameMessage text session.settings.maxPayload = .ok frame) :
    Becomes session (session.sendFrame frame).1.isOk (session.sendFrame frame).2 := by
  rw [sendFrame_eq]
  split
  · next room =>
    split
    · next taking => exact .accepted frame text framed room taking
    · exact .same
  · exact .same

/-- What a send can do. -/
theorem becomes_send (session : Session) (text : Except Json.Fault Octets) :
    Becomes session (session.send text).1.isOk (session.send text).2 := by
  unfold send
  split
  · split
    · exact .same
    · next frame framed => exact becomes_sendFrame framed
  · exact .same

/-- What taking a command can do. -/
theorem becomes_takeCommand {session next : Session} (made : session.takeCommand? = some next) :
    Becomes session false next := by
  unfold takeCommand? at made
  split at made
  · next ticket frame rest running first =>
    cases made; exact .taken ticket frame rest running first
  · next rest running first => cases made; exact .closing rest running (.inl first)
  · next running none =>
    split at made
    · next alone =>
      cases made
      have same : ({ session with commands := [] } : Session) = session := by rw [← none]
      rw [← congrArg beginClosing same]
      exact .closing [] running (.inr ⟨none, rfl, alone⟩)
    · cases made
  · cases made

/-- What a read can do. -/
theorem becomes_read {session next : Session} (made : session.read? = some next) :
    Becomes session false next := by
  unfold read? at made
  split at made
  · next arrival inlet running available =>
    cases arrival with
    | finish => cases made; exact .leftByPeer inlet running available
    | fault fault => cases made; exact .readFailed inlet fault running available
    | chunk octets =>
      cases extracted : session.codec.feed octets with
      | mk result codec =>
        cases result with
        | error error =>
          simp only [onData, extracted] at made
          cases made
          exact .overrun octets inlet error codec running available extracted
        | ok frames =>
          simp only [onData, extracted] at made
          cases made
          exact .fed octets inlet frames codec running available extracted
  · cases made

/-- What dropping the task can do. -/
theorem becomes_drop {session next : Session} (made : session.drop? = some next) :
    Becomes session false next := by
  unfold drop? at made
  split at made
  · next doomed held => cases made; exact .droppedBeforeTurn doomed (.inl held)
  · next doomed ready => cases made; exact .droppedBeforeTurn doomed (.inr ready)
  · next doomed running => cases made; exact .dropped doomed (.inl running)
  · next deadline doomed waiting => cases made; exact .dropped doomed (.inr ⟨deadline, waiting⟩)
  · cases made

/-- What a move of the writer comes to. -/
theorem written_of_moveWriter? {session next : Session} (made : session.moveWriter? = some next) :
    (session.task ≠ .held ∧ session.task ≠ .ready) ∧
      ∃ writer outlet events, session.writer.step session.outlet = some (writer, outlet, events) ∧
        next = { session with writer := writer, outlet := outlet }.record events := by
  have begun : session.task ≠ .held ∧ session.task ≠ .ready := by
    constructor <;> intro idle <;> simp [moveWriter?, idle] at made
  have called : (session.writer.step session.outlet).bind (fun step =>
      some ({ session with writer := step.1, outlet := step.2.1 }.record step.2.2)) =
        some next := by
    unfold moveWriter? at made
    split at made
    · cases made
    · cases made
    all_goals exact made
  obtain ⟨⟨writer, outlet, events⟩, moved, written⟩ := Option.bind_eq_some_iff.mp called
  cases written
  exact ⟨begun, writer, outlet, events, moved, rfl⟩

/-- Every move does one of these things. -/
theorem becomes_of_make {session next : Session} {move : Move}
    (made : session.make? move = some next) : Becomes session (session.accepts move) next := by
  cases move with
  | send text => exact becomes_of_byHandle made (becomes_send session text)
  | sendChecked text =>
    simp only [make?] at made
    split at made
    · next frame framed =>
      have marked : session.accepts (.sendChecked text) = (session.sendFrame frame).1.isOk := by
        simp [accepts, answer?, framed]
      rw [marked]
      exact becomes_of_byHandle made (becomes_sendFrame framed)
    · cases made
  | requestClose =>
    apply becomes_of_byHandle made
    unfold requestClose
    split
    · next taking => exact .askedToClose taking
    · exact .same
  | abandon ticket => cases made; exact .abandoned ticket
  | addHandle => exact becomes_of_byHandle made (.handled _)
  | dropHandle => exact becomes_of_byHandle made (.handled _)
  | deliver arrival => cases made; exact .delivered arrival
  | changeOutlet change => cases made; exact .outletChanged change
  | advance milliseconds => cases made; exact .advanced milliseconds
  | start =>
    cases made
    unfold start
    split
    · next held => exact .started held
    · exact .same
  | doom => cases made; exact .doomed
  | begin =>
    simp only [make?, begin?] at made
    split at made
    · next ready => cases made; exact .begun ready
    · cases made
  | takeCommand => exact becomes_takeCommand made
  | read => exact becomes_read made
  | noticeWriter =>
    simp only [make?, noticeWriter?] at made
    split at made
    · next failure running gone => cases made; exact .writerLost failure running gone
    · cases made
  | finishClosing =>
    simp only [make?, finishClosing?] at made
    split at made
    · next deadline failure waiting gone => cases made; exact .flushed deadline failure waiting gone
    · cases made
  | timeOut =>
    simp only [make?, timeOut?] at made
    split at made
    · next deadline waiting =>
      split at made
      · next due => cases made; exact .timedOut deadline waiting due
      · cases made
    · cases made
  | drop => exact becomes_drop made
  | write =>
    obtain ⟨begun, writer, outlet, events, moved, rfl⟩ := written_of_moveWriter? made
    exact .wrote writer outlet events begun moved

/-- What every move keeps holds along a run. -/
theorem Run.preserves {origin session : Session} {past : List (Session × Move)}
    (run : Run origin past session) (Kept : Session → Prop) (kept : Kept origin)
    (step : ∀ {before after : Session} {accepting : Bool},
      Becomes before accepting after → Kept before → Kept after) :
    Kept session := by
  induction run with
  | stay => exact kept
  | step _ made inductionHypothesis => exact step (becomes_of_make made) inductionHypothesis

/-- What holds where a run ends, and not where it begins, begins to hold with some move and holds
from there on. -/
theorem Run.exists_turn {origin session : Session} {past : List (Session × Move)}
    (run : Run origin past session) (Holds : Session → Prop) (fresh : ¬ Holds origin)
    (holds : Holds session) :
    ∃ before leaving move next later, past = before ++ (leaving, move) :: later ∧
      Run origin before leaving ∧ leaving.make? move = some next ∧ Run next later session ∧
      ¬ Holds leaving ∧ Holds next ∧ ∀ stage ∈ later, Holds stage.1 := by
  induction run with
  | stay => exact absurd holds fresh
  | @step past reached next move earlier made inductionHypothesis =>
    -- The last state without it decides, as it can have come and gone before.
    by_cases already : Holds reached
    · obtain ⟨before, leaving, leave, after, later, rfl, front, left, onward, missing, begins,
        kept⟩ := inductionHypothesis already
      refine ⟨before, leaving, leave, after, later ++ [(reached, move)], ?_, front, left,
        .step onward made, missing, begins, ?_⟩
      · rw [List.append_assoc, List.cons_append]
      · rw [List.forall_mem_append, List.forall_mem_singleton]
        exact ⟨kept, already⟩
    · exact ⟨past, reached, move, next, [], rfl, earlier, made, .stay, already, holds, by simp⟩

/-- What holds of every opened session, and is kept by every move from one reachable state to
another, holds wherever a run leads. -/
theorem Reachable.kept {settings : Settings} {session : Session}
    (reachable : Reachable settings session) (Kept : Session → Prop)
    (start : ∀ {origin : Session}, Opened settings origin → Kept origin)
    (step : ∀ {before after : Session} {accepting : Bool}, Reachable settings before →
      Reachable settings after → Becomes before accepting after → Kept before → Kept after) :
    Kept session := by
  obtain ⟨origin, past, opened, run⟩ := reachable
  induction run with
  | stay => exact start opened
  | @step past before next move earlier made inductionHypothesis =>
    exact step ⟨origin, past, opened, earlier⟩ ⟨origin, _, opened, .step earlier made⟩
      (becomes_of_make made) inductionHypothesis

end Session

end Antiphon
