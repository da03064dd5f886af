import Antiphon.Proofs.Session.ClosePoint
import Mathlib.Logic.Function.Iterate

/-!
# Ways to close

A task attends to its queue up to the first request to close. What stands behind matters only as far
as it are requests, which are refused in the end; and the drop of the last handle is a request to
close behind all others. `outlook` is the queue in this sense, and `tidied` is the session with its
outlook for a queue.

No move looks at more of the queue than its outlook (`held_steps`), so states with the same
outlook have the same future. Asking to close once more leaves the outlook as it was, and dropping
the last handle gives the same one as asking to close.
-/

namespace Antiphon

/-- Whether a command is a request. -/
def Command.isSend : Command → Bool
  | .send _ _ => true
  | .close => false

namespace Session

/-- The commands that a task attends to: those up to the first request to close, and the requests
behind it. -/
def tidy : List Command → List Command
  | [] => []
  | .send ticket frame :: rest => .send ticket frame :: tidy rest
  | .close :: rest => .close :: rest.filter Command.isSend

/-- A queue can be tidied before anything is put behind it. -/
theorem tidy_append (front back : List Command) :
    tidy (tidy front ++ back) = tidy (front ++ back) := by
  induction front with
  | nil => rfl
  | cons command rest inductionHypothesis =>
    cases command with
    | send ticket frame => exact congrArg (.send ticket frame :: ·) inductionHypothesis
    | close => simp [tidy, List.filter_append]

/-- A tidy queue is tidied already. -/
@[simp] theorem tidy_tidy (commands : List Command) : tidy (tidy commands) = tidy commands := by
  simpa using tidy_append commands []

/-- One request to close more is one too many. -/
theorem tidy_close_of_mem {front : List Command} (asked : .close ∈ front) (back : List Command) :
    tidy (front ++ .close :: back) = tidy (front ++ back) := by
  induction front with
  | nil => cases asked
  | cons command rest inductionHypothesis =>
    cases command with
    | send ticket frame =>
      have later : .close ∈ rest := by simpa using asked
      exact congrArg (.send ticket frame :: ·) (inductionHypothesis later)
    | close => simp [tidy, List.filter_append, Command.isSend]

/-- Without its requests to close a queue has the same requests. -/
@[simp] theorem untaken_filter (commands : List Command) :
    untaken (commands.filter Command.isSend) = untaken commands := by
  induction commands with
  | nil => rfl
  | cons command rest inductionHypothesis =>
    cases command with
    | send ticket frame => exact congrArg (ticket :: ·) inductionHypothesis
    | close => exact inductionHypothesis

/-- A tidied queue has the same requests. -/
@[simp] theorem untaken_tidy (commands : List Command) :
    untaken (tidy commands) = untaken commands := by
  induction commands with
  | nil => rfl
  | cons command rest inductionHypothesis =>
    cases command with
    | send ticket frame => exact congrArg (ticket :: ·) inductionHypothesis
    | close => exact untaken_filter rest

variable (session : Session)

/-- What the last handle leaves in the queue. -/
def parting : List Command := if session.handles = 0 then [.close] else []

/-- What the queue comes to. -/
def outlook : List Command :=
  if session.task.isServing then tidy (session.commands ++ session.parting)
  else session.commands.filter Command.isSend

/-- The session with another queue and another number of handles. -/
def withQueue (commands : List Command) (handles : Nat) : Session :=
  { session with commands := commands, handles := handles }

/-- The session with its outlook for a queue, and one handle. -/
def tidied : Session := session.withQueue session.outlook 1

/-- A session with its outlook for a queue has the same outlook. -/
@[simp] theorem outlook_tidied : session.tidied.outlook = session.outlook := by
  have task : session.tidied.task = session.task := rfl
  have none : session.tidied.parting = [] := rfl
  have queue : session.tidied.commands = session.outlook := rfl
  rw [outlook, task, none, queue, List.append_nil]
  unfold outlook
  split <;> simp

/-- The outlook has the requests of the queue. -/
@[simp] theorem untaken_outlook : untaken session.outlook = untaken session.commands := by
  have nobody : untaken session.parting = [] := by
    unfold parting
    split <;> rfl
  unfold outlook
  split
  · rw [untaken_tidy, untaken_append, nobody, List.append_nil]
  · exact untaken_filter _

/-- To take the outlook for the queue twice is to take it once. -/
@[simp] theorem tidied_tidied : session.tidied.tidied = session.tidied := by
  rw [tidied, outlook_tidied]
  rfl

/-- A step that is blind to the queue, and leaves the task inside or outside of its loop. -/
theorem tidied_of_blind (step : Session → Session)
    (blind : ∀ commands handles,
      step (session.withQueue commands handles) = (step session).withQueue commands handles)
    (queue : (step session).commands = session.commands ∧ (step session).handles = session.handles)
    (task : (step session).task.isServing = session.task.isServing) :
    (step session).tidied = step session.tidied := by
  have same : (step session).outlook = session.outlook := by
    simp only [outlook, parting, queue.1, queue.2, task]
  rw [tidied, same, tidied, blind]

/-- A session ends alike with its outlook for a queue. -/
theorem tidied_finish (reason : LinkError) :
    (session.finish reason).tidied = session.tidied.finish reason := by
  have told : session.tidied.endingEvents reason = session.endingEvents reason := by
    have same : untaken session.tidied.commands = untaken session.commands :=
      untaken_outlook session
    unfold endingEvents
    rw [same]
    rfl
  have left : leftovers session.tidied.pending.waiting session.tidied.commands reason =
      leftovers session.pending.waiting session.commands reason := by
    have same : untaken session.tidied.commands = untaken session.commands :=
      untaken_outlook session
    unfold leftovers
    rw [same]
    rfl
  rw [finish_eq, finish_eq, told, left]
  rfl

/-- A task is dropped alike with its outlook for a queue. -/
theorem tidied_drop : session.drop.tidied = session.tidied.drop := by
  have same : untaken session.tidied.commands = untaken session.commands :=
    untaken_outlook session
  rw [drop_eq, drop_eq, same]
  rfl

/-- A writer is stopped alike with its outlook for a queue. -/
theorem tidied_abortWriter : session.abortWriter.tidied = session.tidied.abortWriter := rfl

/-- A failure ends a session alike with its outlook for a queue. -/
theorem tidied_endByFailure (error : LinkError) :
    (session.endByFailure error).tidied = session.tidied.endByFailure error := by
  unfold endByFailure
  rw [tidied_finish, tidied_abortWriter]
  rfl

/-- The end of the peer ends a session alike with its outlook for a queue. -/
theorem tidied_endByPeer : session.endByPeer.tidied = session.tidied.endByPeer := by
  unfold endByPeer
  rw [tidied_finish]
  rfl

/-- A frame is received alike whatever the queue is. -/
theorem withQueue_receive (frame : Frame) (commands : List Command) (handles : Nat) :
    (session.withQueue commands handles).receive frame =
      (session.receive frame).withQueue commands handles := by
  have noted : (session.withQueue commands handles).note frame =
      (session.note frame).withQueue commands handles := by
    unfold note
    cases Codec.decode Json frame <;> rfl
  have answered (session : Session) (outcome : Outcome) :
      (session.withQueue commands handles).answer frame outcome =
        (session.answer frame outcome).withQueue commands handles := by
    cases first : session.pending.waiting with
    | nil =>
      rw [answer_of_nobody _ _ _ first, answer_of_nobody]
      · rfl
      · exact first
    | cons ticket rest =>
      rw [answer_of_waiting _ _ _ first, answer_of_waiting]
      · rfl
      · exact first
  rw [receive_eq, noted, answered, receive_eq]

/-- Frames are received alike whatever the queue is. -/
theorem withQueue_receives (frames : List Frame) (commands : List Command) (handles : Nat) :
    frames.foldl receive (session.withQueue commands handles) =
      (frames.foldl receive session).withQueue commands handles := by
  induction frames generalizing session with
  | nil => rfl
  | cons frame rest inductionHypothesis =>
    rw [List.foldl_cons, withQueue_receive, inductionHypothesis, List.foldl_cons]

/-- Frames are received alike with the outlook for a queue. -/
theorem tidied_receives (frames : List Frame) :
    (frames.foldl receive session).tidied = frames.foldl receive session.tidied := by
  obtain ⟨_, _, _, result⟩ := exists_receives_eq session frames
  refine session.tidied_of_blind (frames.foldl receive) (fun _ _ => ?_) ?_ ?_
  · exact withQueue_receives session frames _ _
  · rw [result]
    exact ⟨rfl, rfl⟩
  · rw [result]

/-- A request that was taken is put in line alike whatever the queue is now. -/
theorem withQueue_onSend (ticket : Ticket) (frame : Octets) (commands : List Command)
    (handles : Nat) :
    (session.withQueue commands handles).onSend ticket frame =
      (session.onSend ticket frame).withQueue commands handles := by
  have state : (session.withQueue commands handles).lifecycle = session.lifecycle := rfl
  have writer : (session.withQueue commands handles).writer = session.writer := rfl
  unfold onSend
  rw [state, writer]
  split
  · dsimp only
    split <;> rfl
  · rfl

/-- Putting a request in line changes the writer, the counters, the line and the history only. -/
theorem exists_onSend_eq (ticket : Ticket) (frame : Octets) : ∃ writer tally pending history,
    session.onSend ticket frame = { session with
      writer := writer, tally := tally, pending := pending, history := history } := by
  unfold onSend
  split
  · dsimp only
    split <;> exact ⟨_, _, _, _, rfl⟩
  · exact ⟨_, _, _, _, rfl⟩

/-- A request is put in line alike with the outlook for a queue. -/
theorem tidied_onSend (ticket : Ticket) (frame : Octets) :
    (session.onSend ticket frame).tidied = session.tidied.onSend ticket frame := by
  obtain ⟨_, _, _, _, result⟩ := exists_onSend_eq session ticket frame
  refine session.tidied_of_blind (fun session => session.onSend ticket frame) (fun _ _ => ?_) ?_ ?_
  · exact withQueue_onSend session ticket frame _ _
  · rw [result]
    exact ⟨rfl, rfl⟩
  · rw [result]

/-- A task begins to close alike with its outlook for a queue. -/
theorem tidied_beginClosing (commands : List Command) :
    ({ session with commands := commands }.beginClosing).tidied =
      { session.tidied with commands := commands.filter Command.isSend }.beginClosing := rfl

/-- What an exact step comes to, and what a step up to the outlook comes to. -/
theorem map_tidied_of_eq {next next' : Option Session} (same : next.map tidied = next') :
    next.map tidied = next'.map tidied := map_view_of_eq tidied_tidied same

section Taking

variable {session} (running : session.task = .running)
include running

/-- A task in its loop takes the request that is first in the queue. -/
theorem takeCommand?_of_send {ticket : Ticket} {frame : Octets} {rest : List Command}
    (first : session.commands = .send ticket frame :: rest) :
    session.takeCommand? = some ({ session with commands := rest }.onSend ticket frame) := by
  unfold takeCommand?
  rw [running, first]

/-- A task in its loop begins to close when a request to close is first in the queue. -/
theorem takeCommand?_of_close {rest : List Command} (first : session.commands = .close :: rest) :
    session.takeCommand? = some { session with commands := rest }.beginClosing := by
  unfold takeCommand?
  rw [running, first]

/-- A task in its loop that finds an empty queue begins to close if nobody holds the session. -/
theorem takeCommand?_of_empty (empty : session.commands = []) :
    session.takeCommand? =
      if session.handles = 0 then some { session with commands := [] }.beginClosing else none := by
  have same : ({ session with commands := [] } : Session) = session := by rw [← empty]
  rw [same]
  unfold takeCommand?
  rw [running, empty]

end Taking

/-- A task that is not in its loop takes no command. -/
theorem takeCommand?_of_not_running {session : Session} (other : session.task ≠ .running) :
    session.takeCommand? = none := by
  unfold takeCommand?
  split <;> simp_all

/-- The task takes from the outlook what it takes from the queue. -/
theorem tidied_takeCommand? :
    session.takeCommand?.map tidied = session.tidied.takeCommand?.map tidied := by
  by_cases running : session.task = .running
  · have running' : session.tidied.task = .running := running
    have serving : session.task.isServing = true := by
      rw [running]
      rfl
    have queue : session.tidied.commands = tidy (session.commands ++ session.parting) :=
      if_pos serving
    cases first : session.commands with
    | nil =>
      rw [first, List.nil_append] at queue
      rw [takeCommand?_of_empty running first]
      by_cases alone : session.handles = 0
      · have asked : session.tidied.commands = .close :: [] := by
          rw [queue, parting, if_pos alone]
          rfl
        rw [if_pos alone, takeCommand?_of_close running' asked, Option.map_some, Option.map_some,
          tidied_beginClosing, tidied_beginClosing, tidied_tidied]
      · have empty : session.tidied.commands = [] := by
          rw [queue, parting, if_neg alone]
          rfl
        have held : session.tidied.handles = 1 := rfl
        rw [if_neg alone, takeCommand?_of_empty running' empty, held]
        rfl
    | cons command rest =>
      rw [first, List.cons_append] at queue
      cases command with
      | send ticket frame =>
        have outlook : ({ session with commands := rest } : Session).outlook =
            tidy (rest ++ session.parting) := if_pos serving
        have outlook' : ({ session.tidied with
            commands := tidy (rest ++ session.parting) } : Session).outlook =
              tidy (tidy (rest ++ session.parting) ++ []) := if_pos serving
        rw [takeCommand?_of_send running first, takeCommand?_of_send running' queue,
          Option.map_some, Option.map_some, tidied_onSend, tidied_onSend, tidied, outlook, tidied,
          outlook', List.append_nil, tidy_tidy]
        rfl
      | close =>
        have nobody : session.parting.filter Command.isSend = [] := by
          unfold parting
          split <;> rfl
        rw [takeCommand?_of_close running first, takeCommand?_of_close running' queue,
          Option.map_some, Option.map_some, tidied_beginClosing, tidied_beginClosing,
          tidied_tidied, List.filter_append, nobody, List.append_nil, List.filter_filter]
        simp
  · have other : session.tidied.task ≠ .running := running
    rw [takeCommand?_of_not_running running, takeCommand?_of_not_running other]

/-- Nobody who reads looks at the queue. -/
theorem reads_tidied : Reads tidied session where
  task := rfl
  settings := rfl
  codec := rfl
  inlet := rfl
  left := fun inlet => by
    rw [tidied_endByPeer, tidied_endByPeer]
    exact congrArg endByPeer (tidied_tidied { session with inlet := inlet }).symm
  failed := fun inlet error => by
    rw [tidied_endByFailure, tidied_endByFailure]
    exact congrArg (endByFailure · error) (tidied_tidied { session with inlet := inlet }).symm
  overrun := fun inlet octets codec error => by
    rw [tidied_endByFailure, tidied_endByFailure]
    exact congrArg (endByFailure · error)
      (tidied_tidied (session.afterRead inlet octets codec)).symm
  fed := fun inlet octets codec frames => by
    rw [tidied_receives, tidied_receives]
    exact congrArg (frames.foldl receive)
      (tidied_tidied (session.afterRead inlet octets codec)).symm

/-- The end of the writer is noticed alike with the outlook for a queue. -/
theorem tidied_noticeWriter? :
    session.noticeWriter?.map tidied = session.tidied.noticeWriter?.map tidied := by
  have task : session.tidied.task = session.task := rfl
  have writer : session.tidied.writer = session.writer := rfl
  apply map_tidied_of_eq
  unfold noticeWriter?
  rw [task, writer]
  split
  · exact congrArg some (tidied_endByFailure session _)
  · rfl

/-- The end of the writer ends the wait for it alike with the outlook for a queue. -/
theorem tidied_finishClosing? :
    session.finishClosing?.map tidied = session.tidied.finishClosing?.map tidied := by
  have task : session.tidied.task = session.task := rfl
  have writer : session.tidied.writer = session.writer := rfl
  apply map_tidied_of_eq
  unfold finishClosing?
  rw [task, writer]
  split
  · exact congrArg some (tidied_finish _ _)
  · rfl

/-- Time runs out alike with the outlook for a queue. -/
theorem tidied_timeOut? : session.timeOut?.map tidied = session.tidied.timeOut?.map tidied := by
  have task : session.tidied.task = session.task := rfl
  have clock : session.tidied.clock = session.clock := rfl
  apply map_tidied_of_eq
  unfold timeOut?
  rw [task, clock]
  split
  · split
    · exact congrArg some (tidied_finish _ _)
    · rfl
  · rfl

/-- A doomed task is dropped alike with its outlook for a queue. -/
theorem tidied_drop? : session.drop?.map tidied = session.tidied.drop?.map tidied := by
  have doomed : session.tidied.doomed = session.doomed := rfl
  have task : session.tidied.task = session.task := rfl
  apply map_tidied_of_eq
  unfold drop?
  rw [doomed, task]
  split
  · exact congrArg some (by rw [tidied_abortWriter, tidied_drop])
  · exact congrArg some (by rw [tidied_abortWriter, tidied_drop])
  · exact congrArg some (tidied_drop session)
  · exact congrArg some (tidied_drop session)
  · rfl

/-- The writer moves alike with the outlook for a queue. -/
theorem tidied_moveWriter? :
    session.moveWriter?.map tidied = session.tidied.moveWriter?.map tidied := by
  have task : session.tidied.task = session.task := rfl
  have writer : session.tidied.writer = session.writer := rfl
  have outlet : session.tidied.outlet = session.outlet := rfl
  apply map_tidied_of_eq
  unfold moveWriter?
  rw [task, writer, outlet]
  cases session.writer.step session.outlet <;> split <;> rfl

end Session

/-- Whether a move is one that a caller makes with a handle. -/
def Move.needsHandle : Move → Bool
  | .send _ | .sendChecked _ | .requestClose | .addHandle | .dropHandle => true
  | _ => false

namespace Session

/-- Nobody but the callers looks at more than the outlook. -/
theorem tidied_make? (session : Session) {move : Move} (bare : move.needsHandle = false) :
    (session.make? move).map tidied = (session.tidied.make? move).map tidied := by
  cases move with
  | send | sendChecked | requestClose | addHandle | dropHandle => cases bare
  | takeCommand => exact tidied_takeCommand? session
  | read => exact (reads_tidied session).read?
  | noticeWriter => exact tidied_noticeWriter? session
  | finishClosing => exact tidied_finishClosing? session
  | timeOut => exact tidied_timeOut? session
  | drop => exact tidied_drop? session
  | write => exact tidied_moveWriter? session
  | abandon | deliver | changeOutlet | advance | doom =>
    exact map_tidied_of_eq rfl
  | start =>
    apply map_tidied_of_eq
    cases task : session.task <;>
      simp [make?, start, tidied, withQueue, outlook, parting, task, Task.isServing]
  | begin =>
    apply map_tidied_of_eq
    cases task : session.task <;>
      simp [make?, begin?, tidied, withQueue, outlook, parting, task, Task.isServing]

/-- Handles are a matter of the callers. -/
theorem handles_of_make {session next : Session} {move : Move} (bare : move.needsHandle = false)
    (made : session.make? move = some next) : next.handles = session.handles := by
  have finished (session : Session) (reason : LinkError) :
      (session.finish reason).handles = session.handles := by
    rw [finish_eq]
    rfl
  have dropped (session : Session) : session.drop.handles = session.handles := by
    rw [drop_eq]
    rfl
  cases move with
  | send | sendChecked | requestClose | addHandle | dropHandle => cases bare
  | abandon | deliver | changeOutlet | advance | doom => cases made; rfl
  | start =>
    cases made
    unfold start
    split <;> rfl
  | begin =>
    simp only [make?, begin?] at made
    split at made <;> cases made
    rfl
  | takeCommand =>
    simp only [make?, takeCommand?] at made
    split at made
    · next ticket frame rest _ _ =>
      cases made
      obtain ⟨_, _, _, _, result⟩ :=
        exists_onSend_eq { session with commands := rest } ticket frame
      rw [result]
    · cases made; rfl
    · split at made <;> cases made
      rfl
    · cases made
  | read =>
    simp only [make?, read?] at made
    split at made
    · next arrival inlet _ _ =>
      cases arrival with
      | finish => cases made; exact finished _ _
      | fault => cases made; exact finished _ _
      | chunk octets =>
        rcases extracted : session.codec.feed octets with ⟨result, codec⟩
        simp only [onData, extracted] at made
        cases result with
        | error => cases made; exact finished _ _
        | ok frames =>
          cases made
          obtain ⟨_, _, _, result⟩ :=
            exists_receives_eq (session.afterRead inlet octets codec) frames
          have same := congrArg Session.handles result
          exact same
    · cases made
  | noticeWriter =>
    simp only [make?, noticeWriter?] at made
    split at made <;> cases made
    exact finished _ _
  | finishClosing =>
    simp only [make?, finishClosing?] at made
    split at made <;> cases made
    exact finished _ _
  | timeOut =>
    simp only [make?, timeOut?] at made
    split at made
    · split at made <;> cases made
      exact finished _ _
    · cases made
  | drop =>
    simp only [make?, drop?] at made
    split at made <;> cases made <;> exact dropped session
  | write =>
    obtain ⟨_, _, _, _, _, rfl⟩ := written_of_moveWriter? made
    rfl

/-- As long as somebody holds the session its outlook is its tidied queue. -/
theorem outlook_of_held {session : Session} (held : 0 < session.handles) :
    session.outlook =
      if session.task.isServing then tidy session.commands
      else session.commands.filter Command.isSend := by
  have nothing : session.parting = [] := if_neg (Nat.ne_of_gt held)
  rw [outlook, nothing, List.append_nil]

/-- A command that is put in while somebody holds the session goes to the end of the outlook. -/
theorem outlook_push {session : Session} (held : 0 < session.handles) (command : Command) :
    ({ session with commands := session.commands ++ [command] } : Session).outlook =
      ({ session.tidied with commands := session.tidied.commands ++ [command] } :
        Session).outlook := by
  have queue : session.tidied.commands = session.outlook := rfl
  rw [queue, outlook_of_held held, outlook_of_held, outlook_of_held]
  · change (if session.task.isServing = true then _ else _) =
      if session.task.isServing = true then _ else _
    cases session.task.isServing with
    | true => exact (tidy_append _ _).symm
    | false => simp
  · exact Nat.one_pos
  · exact held

/-- A request is accepted alike with the outlook for a queue. -/
theorem tidied_accept {session : Session} (held : 0 < session.handles) (frame : Octets) :
    (session.accept frame).tidied = (session.tidied.accept frame).tidied := by
  have pushed := outlook_push held (.send session.pending.issue.1 frame)
  have outlook : (session.accept frame).outlook = (session.tidied.accept frame).outlook := pushed
  rw [tidied, outlook, tidied]
  rfl

/-- Nor does anybody who sends, as long as somebody holds the session. -/
theorem sends_tidied {session : Session} (held : 0 < session.handles) : Sends tidied session where
  again := tidied_tidied session
  lifecycle := rfl
  settings := rfl
  tally := rfl
  taking := rfl
  ticket := rfl
  accepted := tidied_accept held

/-- A request to close is put in alike with the outlook for a queue. -/
theorem tidied_requestClose {session : Session} (held : 0 < session.handles) :
    session.requestClose.tidied = session.tidied.requestClose.tidied := by
  have taking : session.tidied.takesCommands = session.takesCommands := rfl
  have pushed := outlook_push held .close
  unfold requestClose
  rw [taking]
  split
  · rw [tidied, pushed, tidied]
    rfl
  · exact (tidied_tidied session).symm

/-- Asking to close leaves the outlook as it was if that has been asked already, and if the task has
left its loop. -/
theorem tidied_ask {session : Session} (held : 0 < session.handles)
    (asked : .close ∈ session.commands ∨ session.task.isServing = false) :
    ({ session with commands := session.commands ++ [.close] } : Session).tidied =
      session.tidied := by
  have outlook : ({ session with commands := session.commands ++ [.close] } : Session).outlook =
      session.outlook := by
    rw [outlook_of_held held, outlook_of_held]
    · change (if session.task.isServing = true then _ else _) = _
      cases serving : session.task.isServing with
      | true =>
        have again : .close ∈ session.commands := by simpa [serving] using asked
        simpa using tidy_close_of_mem again []
      | false => simp [Command.isSend]
    · exact held
  rw [tidied, outlook]
  rfl

/-- A session that nobody holds is one that has been asked to close, last of all. -/
theorem tidied_unheld {session : Session} (held : 0 < session.handles) :
    ({ session with handles := 0 } : Session).tidied =
      ({ session with commands := session.commands ++ [.close] } : Session).tidied := by
  have outlook : ({ session with handles := 0 } : Session).outlook =
      ({ session with commands := session.commands ++ [.close] } : Session).outlook := by
    have asked : ({ session with commands := session.commands ++ [.close] } : Session).outlook =
        if session.task.isServing then tidy (session.commands ++ [.close])
        else (session.commands ++ [Command.close]).filter Command.isSend := outlook_of_held held
    rw [asked, List.filter_append]
    exact congrArg (ite _ _) (List.append_nil _).symm
  rw [tidied, outlook, tidied]
  rfl

/-- The drop of the last handle is a request to close, and any other drop is nothing. -/
theorem tidied_dropHandle {session : Session} (held : 0 < session.handles) :
    session.dropHandle.tidied =
      if session.handles = 1 then
        ({ session.tidied with commands := session.tidied.commands ++ [.close] } : Session).tidied
      else session.tidied := by
  by_cases last : session.handles = 1
  · have same : session.dropHandle = { session with handles := 0 } := by simp [dropHandle, last]
    rw [if_pos last, same, tidied_unheld held, tidied, outlook_push held, tidied]
    rfl
  · have others : 0 < session.dropHandle.handles := by
      simp only [dropHandle]
      omega
    have outlook : session.dropHandle.outlook = session.outlook := by
      rw [outlook_of_held others, outlook_of_held held]
      rfl
    rw [if_neg last, tidied, outlook]
    rfl

/-- Handles are dropped one by one. -/
theorem iterate_dropHandle (session : Session) (count : Nat) :
    dropHandle^[count] session = { session with handles := session.handles - count } := by
  induction count with
  | zero => rfl
  | succ count inductionHypothesis =>
    rw [Function.iterate_succ_apply', inductionHypothesis]
    simp [dropHandle, Nat.sub_sub]

/-- Dropping all handles comes to the same as asking to close. -/
theorem tidied_requestClose_eq {session : Session} (held : 0 < session.handles) :
    (dropHandle^[session.handles] session).tidied = session.requestClose.tidied := by
  rw [iterate_dropHandle, Nat.sub_self, tidied_unheld held]
  unfold requestClose
  split
  · rfl
  · next ended =>
    -- Nobody takes commands, so the task has left its loop.
    apply tidied_ask held
    right
    unfold takesCommands at ended
    unfold Task.isServing
    split at ended <;> simp_all

/-- Asking to close once more changes nothing. -/
theorem tidied_requestClose_of_asked {session : Session} (held : 0 < session.handles)
    (asked : .close ∈ session.commands ∨ session.task.isServing = false) :
    session.requestClose.tidied = session.tidied := by
  unfold requestClose
  split
  · exact tidied_ask held asked
  · rfl

/-- Nobody but the callers notices how many handles there are. -/
theorem bare_steps :
    Steps (fun move => move.needsHandle = false) fun one other => one.tidied = other.tidied := by
  intro one other move bare alike
  have moved := tidied_make? one bare
  rw [alike, ← tidied_make? other bare] at moved
  have unanswered (session : Session) : session.answer? move = none := by
    cases move <;> first | rfl | cases bare
  cases made : one.make? move <;> cases made' : other.make? move <;>
    simp only [made, made', Option.map_some, Option.map_none, reduceCtorEq] at moved
  · exact .inl ⟨rfl, rfl⟩
  · exact .inr ⟨_, _, rfl, rfl, Option.some.inj moved, by rw [unanswered, unanswered]⟩

/-- Handing over a frame takes no handle away. -/
theorem handles_sendFrame (session : Session) (frame : Octets) :
    (session.sendFrame frame).2.handles = session.handles := by
  rw [sendFrame_eq]
  split
  · split <;> rfl
  · rfl

/-- A send takes no handle away. -/
theorem handles_send (session : Session) (text : Except Json.Fault Octets) :
    (session.send text).2.handles = session.handles := by
  unfold send
  split
  · split
    · rfl
    · exact handles_sendFrame _ _
  · rfl

/-- States with one outlook and as many handles. -/
def SameQueue (one other : Session) : Prop :=
  one.tidied = other.tidied ∧ one.handles = other.handles

namespace SameQueue

variable {one other next next' : Session}

/-- What callers do from the one state they can do from the other. -/
theorem byHandle {answer answer' : Option (Except LinkError Ticket)} (same : SameQueue one other)
    (step : 0 < one.handles → 0 < other.handles → SameQueue next next' ∧ answer = answer') :
    (one.byHandle next = none ∧ other.byHandle next' = none) ∨
      ∃ after after', one.byHandle next = some after ∧ other.byHandle next' = some after' ∧
        SameQueue after after' ∧ answer = answer' := by
  by_cases held : 0 < one.handles
  · have held' : 0 < other.handles := same.2 ▸ held
    exact .inr ⟨next, next', if_pos held, if_pos held', step held held'⟩
  · have nobody : ¬ 0 < other.handles := same.2 ▸ held
    exact .inl ⟨if_neg held, if_neg nobody⟩

/-- Sessions with the same outlook take a frame alike. -/
theorem sendFrame (same : SameQueue one other) (held : 0 < one.handles)
    (held' : 0 < other.handles) (frame : Octets) :
    SameQueue (one.sendFrame frame).2 (other.sendFrame frame).2 ∧
      (one.sendFrame frame).1 = (other.sendFrame frame).1 := by
  obtain ⟨answer, after⟩ := (sends_tidied held).sendFrame frame
  obtain ⟨answer', after'⟩ := (sends_tidied held').sendFrame frame
  refine ⟨⟨?_, ?_⟩, ?_⟩
  · rw [after, after', same.1]
  · rw [handles_sendFrame, handles_sendFrame, same.2]
  · rw [answer, answer', same.1]

/-- Sessions with the same outlook take a send alike. -/
theorem send (same : SameQueue one other) (held : 0 < one.handles) (held' : 0 < other.handles)
    (text : Except Json.Fault Octets) :
    SameQueue (one.send text).2 (other.send text).2 ∧
      (one.send text).1 = (other.send text).1 := by
  obtain ⟨answer, after⟩ := (sends_tidied held).send text
  obtain ⟨answer', after'⟩ := (sends_tidied held').send text
  refine ⟨⟨?_, ?_⟩, ?_⟩
  · rw [after, after', same.1]
  · rw [handles_send, handles_send, same.2]
  · rw [answer, answer', same.1]

/-- Sessions with the same outlook take a request to close alike. -/
theorem requestClose (same : SameQueue one other) (held : 0 < one.handles)
    (held' : 0 < other.handles) : SameQueue one.requestClose other.requestClose := by
  have kept (session : Session) : session.requestClose.handles = session.handles := by
    unfold Session.requestClose
    split <;> rfl
  refine ⟨?_, ?_⟩
  · rw [tidied_requestClose held, tidied_requestClose held', same.1]
  · rw [kept, kept, same.2]

/-- Sessions with the same outlook get another handle alike. -/
theorem addHandle (same : SameQueue one other) (held : 0 < one.handles)
    (held' : 0 < other.handles) : SameQueue one.addHandle other.addHandle := by
  have kept (session : Session) (held : 0 < session.handles) :
      session.addHandle.tidied = session.tidied := by
    have outlook : session.addHandle.outlook = session.outlook := by
      rw [outlook_of_held held, outlook_of_held (Nat.succ_pos _)]
      rfl
    rw [tidied, outlook]
    rfl
  refine ⟨?_, congrArg (· + 1) same.2⟩
  rw [kept one held, kept other held', same.1]

/-- Sessions with the same outlook lose a handle alike. -/
theorem dropHandle (same : SameQueue one other) (held : 0 < one.handles)
    (held' : 0 < other.handles) : SameQueue one.dropHandle other.dropHandle := by
  refine ⟨?_, congrArg (· - 1) same.2⟩
  rw [tidied_dropHandle held, tidied_dropHandle held', same.1, same.2]

end SameQueue

/-- States with one outlook and as many handles have the same future. -/
theorem held_steps : Steps (fun _ => True) SameQueue := by
  rintro one other move - same
  have chosen : other.settings = one.settings :=
    (congrArg settings same.1 : one.tidied.settings = other.tidied.settings).symm
  have bare (needless : move.needsHandle = false) :
      (one.make? move = none ∧ other.make? move = none) ∨
        ∃ next next', one.make? move = some next ∧ other.make? move = some next' ∧
          SameQueue next next' ∧ one.answer? move = other.answer? move := by
    rcases bare_steps needless same.1 with stuck | ⟨next, next', made, made', after, answered⟩
    · exact .inl stuck
    · refine .inr ⟨next, next', made, made', ⟨after, ?_⟩, answered⟩
      rw [handles_of_make needless made, handles_of_make needless made', same.2]
  cases move with
  | send text =>
    apply same.byHandle
    intro held held'
    obtain ⟨after, answered⟩ := same.send held held' text
    exact ⟨after, congrArg some answered⟩
  | sendChecked text =>
    simp only [make?, answer?, chosen]
    cases frameMessage text one.settings.maxPayload with
    | error => exact .inl ⟨rfl, rfl⟩
    | ok frame =>
      apply same.byHandle
      intro held held'
      obtain ⟨after, answered⟩ := same.sendFrame held held' frame
      exact ⟨after, congrArg some answered⟩
  | requestClose => exact same.byHandle fun held held' => ⟨same.requestClose held held', rfl⟩
  | addHandle => exact same.byHandle fun held held' => ⟨same.addHandle held held', rfl⟩
  | dropHandle => exact same.byHandle fun held held' => ⟨same.dropHandle held held', rfl⟩
  | _ => exact bare rfl

/-- What callers and the stream see of a session is no matter of its queue. -/
theorem indistinct_of_tidied {one other : Session} (alike : one.tidied = other.tidied) :
    Indistinct one other := by
  have pending : one.tidied.pending = other.tidied.pending := congrArg Session.pending alike
  have history : one.tidied.history = other.tidied.history := congrArg Session.history alike
  have calls : one.calls = other.calls := congrArg (gather Event.call?) history
  have tally : one.tidied.tally = other.tidied.tally := congrArg Session.tally alike
  have lifecycle : one.tidied.lifecycle = other.tidied.lifecycle :=
    congrArg Session.lifecycle alike
  refine ⟨fun ticket => congrArg (PendingQueue.outcome? · ticket) pending, ?_, calls, tally,
    lifecycle, congrArg (gather Event.published?) history⟩
  rw [acceptedOctets_eq, acceptedOctets_eq, calls]

variable {settings : Settings} {origin session : Session} {past : List (Session × Move)}

/-- How a connection is closed.

In every state of every run the published states begin the way of a connection, through closing or
straight to its end; the last of them is the state, and nothing is published after the end. A
session leaves its connected state at a departure of its task, for one of the reasons that there
are, and is then closing if the end was asked for or nobody holds the session any more, and closed
otherwise. Octets that declare no length above the limit do not make it leave, whatever they are.

Where the task leaves because it has taken a request to close, the requests before and behind are
treated as `ClosedAt` says. Once that is asked for, asking again changes nothing, and dropping all
handles comes to the same as asking: whatever moves follow, the same can be made, with the same
answers, and they lead to states that neither the stream nor a caller can tell apart.

Nobody can send in any other state. -/
theorem closing_exact (opened : Opened settings origin) (run : Run origin past session) :
    (session.states <+: [.connected, .closing, .closed] ∨
      session.states <+: [.connected, .closed]) ∧
    session.states.getLast? = some session.lifecycle ∧
    (session.lifecycle = .closed → ∀ later last, Run session later last →
      last.states = session.states) ∧
    (∀ move next, session.make? move = some next → session.lifecycle = .connected →
      next.lifecycle ≠ .connected → ∃ departure, session.departure? move = some departure ∧
        next.lifecycle = departure.publishes) ∧
    (∀ octets inlet next, session.lifecycle = .connected →
      session.inlet.read session.settings.readCapacity = some (.chunk octets, inlet) →
      Frame.fatal? settings.maxPayload (session.octetsRead ++ octets) = none →
      session.make? .read = some next → next.lifecycle = .connected) ∧
    (∀ before leaving move later, past = before ++ (leaving, move) :: later →
      leaving.departure? move = some .asked → ClosedAt before leaving later session) ∧
    (0 < session.handles → .close ∈ session.commands ∨ session.task.isServing = false →
      ∀ moves, PlaysAlike Indistinct moves session.requestClose session) ∧
    (0 < session.handles → ∀ moves, (∀ move ∈ moves, move.needsHandle = false) →
      PlaysAlike Indistinct moves (dropHandle^[session.handles] session) session.requestClose) ∧
    (session.lifecycle ≠ .connected →
      ∀ text, session.send text = (.error .notConnected, session)) := by
  have reachable : Reachable settings session := ⟨origin, past, opened, run⟩
  have published := reachable.published
  refine ⟨published.states_prefix, published.last, ?_, ?_, ?_, ?_, ?_, ?_, ?_⟩
  · intro closed later last onward
    exact (onward.states_of_closed reachable.sound (reachable.ended_of_closed closed)).1
  · intro move next made connected left
    exact reachable.departs_of_connected connected made left
  · intro octets inlet next connected available allowed made
    exact reachable.connected_of_chunk connected available allowed made
  · rintro before leaving move later rfl reasoned
    exact closedAt_of_departure? opened run reasoned
  · intro held asked moves
    have alike : SameQueue session.requestClose session := by
      refine ⟨tidied_requestClose_of_asked held asked, ?_⟩
      unfold requestClose
      split <;> rfl
    exact (playsAlike_of_steps held_steps (fun _ _ => trivial) alike).imp
      fun same => indistinct_of_tidied same.1
  · intro held moves bare
    exact (playsAlike_of_steps bare_steps bare (tidied_requestClose_eq held)).imp
      indistinct_of_tidied
  · intro elsewhere text
    exact if_neg elsewhere

/-- The stage of a run at which its move of a number was made. -/
theorem exists_stage {place : Nat} {move : Move} {seen : Session × Move → Bool}
    (there : (past.map Prod.snd)[place]? = some move)
    (shown : past[place]?.any seen = true) :
    ∃ reached, past = past.take place ++ (reached, move) :: past.drop (place + 1) ∧
      seen (reached, move) = true := by
  cases found : past[place]? with
  | none => simp [found] at shown
  | some stage =>
    obtain ⟨reached, made⟩ := stage
    rw [List.getElem?_map, found] at there
    rw [found] at shown
    obtain rfl : made = move := Option.some.inj there
    refine ⟨reached, ?_, shown⟩
    obtain ⟨inside, same⟩ := List.getElem?_eq_some_iff.mp found
    rw [← same, List.getElem_cons_drop, List.take_append_drop]

/-- One request before a request to close and one behind it. The first is written; the second is
refused when the connection is closed. -/
theorem closing_exact_of_two_requests :
    ∃ origin past session before leaving later, Opened Settings.default origin ∧
      Run origin past session ∧ past = before ++ (leaving, .takeCommand) :: later ∧
      ClosedAt before leaving later session ∧
      session.states = [.connected, .closing, .closed] ∧
      session.handed = [[0, 0, 0, 2, 0x7b, 0x7d]] ∧
      session.pending.outcome? 1 = some (.error .notConnected) ∧
      session.send (.ok [0x30]) = (.error .notConnected, session) := by
  let origin : Session := .new Settings.default .unlimited .ready
  let moves : List Move :=
    [.send (.ok [0x7b, 0x7d]), .requestClose, .send (.ok [0x5b, 0x5d]), .begin, .takeCommand,
      .takeCommand, .write, .write, .write, .write, .write, .finishClosing]
  have shown : (origin.play? moves).map (fun run =>
      (run.2.lifecycle, run.2.states, run.2.handed, run.1[5]?.any fun stage =>
        decide (stage.1.departure? stage.2 = some .asked ∧ untaken stage.1.commands = [1]))) =
      some (.closed, [.connected, .closing, .closed], [[0, 0, 0, 2, 0x7b, 0x7d]], true) := by
    decide +kernel
  obtain ⟨⟨past, session⟩, played, seen⟩ := Option.map_eq_some_iff.mp shown
  simp only [Prod.mk.injEq] at seen
  obtain ⟨closed, states, handed, seen⟩ := seen
  obtain ⟨made, run⟩ := play?_eq_some_iff.mp played
  obtain ⟨leaving, divided, seen⟩ := exists_stage (congrArg (·[5]?) made) seen
  obtain ⟨reasoned, unseen⟩ := of_decide_eq_true seen
  have opened : Opened Settings.default origin := ⟨_, _, .inr rfl, rfl⟩
  obtain ⟨_, _, _, _, _, point, _, _, elsewhere⟩ := closing_exact opened run
  have closedAt := point _ leaving .takeCommand _ divided reasoned
  exact ⟨origin, past, session, _, leaving, _, opened, run, divided, closedAt, states, handed,
    closedAt.closed closed 1 (by simp [behind, unseen]), elsewhere (by simp [closed]) _⟩

/-- A task that is dropped while it waits for the writer refuses nothing. The request behind the
request to close learns that the connection was closed. -/
theorem connectionClosed_behind_close :
    ∃ origin past session before leaving later, Opened Settings.default origin ∧
      Run origin past session ∧ past = before ++ (leaving, .takeCommand) :: later ∧
      leaving.departure? .takeCommand = some .asked ∧ 0 ∈ untaken leaving.commands ∧
      session.pending.outcome? 0 = some (.error .connectionClosed) := by
  let origin : Session := .new Settings.default .unlimited .ready
  let moves : List Move :=
    [.requestClose, .send (.ok [0x31]), .begin, .takeCommand, .doom, .drop]
  have shown : (origin.play? moves).map (fun run =>
      (run.2.task, run.1[3]?.any fun stage =>
        decide (stage.1.departure? stage.2 = some .asked ∧ untaken stage.1.commands = [0]))) =
      some (.dropped, true) := by
    decide +kernel
  obtain ⟨⟨past, session⟩, played, seen⟩ := Option.map_eq_some_iff.mp shown
  obtain ⟨gone, seen⟩ := Prod.mk.inj seen
  obtain ⟨made, run⟩ := play?_eq_some_iff.mp played
  obtain ⟨leaving, divided, seen⟩ := exists_stage (congrArg (·[3]?) made) seen
  obtain ⟨reasoned, unseen⟩ := of_decide_eq_true seen
  have opened : Opened Settings.default origin := ⟨_, _, .inr rfl, rfl⟩
  rw [divided] at run
  exact ⟨origin, _, session, _, leaving, _, opened, run, rfl, reasoned, by simp [unseen],
    run.outcome?_of_dropped opened reasoned gone 0 (by simp [behind, unseen])⟩

end Session

end Antiphon
