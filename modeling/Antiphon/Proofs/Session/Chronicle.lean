import Antiphon.Session.Step

/-!
# What the history tells

A session keeps its events, latest first. Each list here picks the events of one kind and
gives them back in the order in which they happened: the requests that were accepted, those
that the task took and whether the writer got their frames, the chunks that were read, the
frames that were cut out of them, and the completions.

`Pairing` follows two of these lists at once. It is the whole rule of correlation: a frame that
arrives while every request taken before it has been matched is a stray, and any other frame
belongs to the first request that has none.
-/

namespace Antiphon

namespace Event

/-- The request that a send added, with its frame. -/
def request? : Event → Option (Ticket × Octets)
  | .accepted ticket frame => some (ticket, frame)
  | _ => none

/-- The request that the task took, with its frame. -/
def taken? : Event → Option (Ticket × Octets)
  | .queued ticket frame _ => some (ticket, frame)
  | _ => none

/-- The frame that the writer was handed. -/
def handed? : Event → Option Octets
  | .queued _ frame true => some frame
  | _ => none

/-- The chunk that was read. -/
def chunk? : Event → Option Octets
  | .read octets => some octets
  | _ => none

/-- The frame that was cut out of the stream. -/
def frame? : Event → Option Frame
  | .received frame => some frame
  | _ => none

/-- The request that was completed, and with what. -/
def completion? : Event → Option (Ticket × Outcome)
  | .completed ticket outcome => some (ticket, outcome)
  | _ => none

/-- The state that was published. -/
def published? : Event → Option Lifecycle
  | .published state => some state
  | _ => none

/-- How many octets were held when the peer was found to have stopped inside a frame. -/
def truncation? : Event → Option Nat
  | .truncated buffered => some buffered
  | _ => none

end Event

/-- The events of one kind in a history, in the order in which they happened. -/
def gather {α : Type} (pick : Event → Option α) (history : List Event) : List α :=
  history.reverse.filterMap pick

/-- What later events add stands behind what was there. -/
@[simp] theorem gather_append {α : Type} (pick : Event → Option α) (later history : List Event) :
    gather pick (later ++ history) = gather pick history ++ gather pick later := by
  simp [gather, List.filterMap_append]

/-- Events that are recorded are gathered in the order in which they happened. -/
@[simp] theorem gather_reverse {α : Type} (pick : Event → Option α) (events : List Event) :
    gather pick events.reverse = events.filterMap pick := by simp [gather]

namespace Session

/-- Requests whose send returned, with their frames. -/
def requests (session : Session) : List (Ticket × Octets) :=
  gather Event.request? session.history

/-- Requests in the order in which the task took them, with their frames. -/
def taken (session : Session) : List (Ticket × Octets) := gather Event.taken? session.history

/-- Frames that the writer was handed. -/
def handed (session : Session) : List Octets := gather Event.handed? session.history

/-- What was read, chunk by chunk. -/
def chunks (session : Session) : List Octets := gather Event.chunk? session.history

/-- What was read, as one stream. -/
def octetsRead (session : Session) : Octets := session.chunks.flatten

/-- Frames that were cut out of the stream. -/
def received (session : Session) : List Frame := gather Event.frame? session.history

/-- Requests in the order in which they were completed, with what came of them. -/
def completions (session : Session) : List (Ticket × Outcome) :=
  gather Event.completion? session.history

/-- States in the order in which they were published. -/
def states (session : Session) : List Lifecycle := gather Event.published? session.history

/-- Requests in the order in which they were taken, the frames that came for them, and those that
came for nobody. -/
structure Pairing where
  taken : List Ticket
  matched : List Frame
  strays : List Frame
deriving DecidableEq

namespace Pairing

/-- Nobody has asked, and nothing has come. -/
def none : Pairing := ⟨[], [], []⟩

/-- One more request. -/
def take (pairing : Pairing) (ticket : Ticket) : Pairing :=
  { pairing with taken := pairing.taken ++ [ticket] }

/-- One more frame. -/
def meet (pairing : Pairing) (frame : Frame) : Pairing :=
  if pairing.matched.length < pairing.taken.length then
    { pairing with matched := pairing.matched ++ [frame] }
  else { pairing with strays := pairing.strays ++ [frame] }

/-- What an event means for the pairing. -/
def after (pairing : Pairing) : Event → Pairing
  | .queued ticket _ _ => pairing.take ticket
  | .received frame => pairing.meet frame
  | _ => pairing

end Pairing

/-- The pairing of all requests and frames so far, in the order in which they came. -/
def pairing (session : Session) : Pairing :=
  session.history.foldr (fun event pairing => pairing.after event) Pairing.none

/-- Tickets whose commands the task has not taken. -/
def untaken (commands : List Command) : List Ticket :=
  commands.filterMap fun
    | .send ticket _ => some ticket
    | .close => none

/-- An empty queue holds no ticket. -/
@[simp] theorem untaken_nil : untaken [] = [] := rfl

/-- A request that was not taken has its ticket in the queue. -/
@[simp] theorem untaken_send (ticket : Ticket) (frame : Octets) (rest : List Command) :
    untaken (.send ticket frame :: rest) = ticket :: untaken rest := rfl

/-- A request to close has no ticket. -/
@[simp] theorem untaken_close (rest : List Command) : untaken (.close :: rest) = untaken rest := rfl

/-- The tickets of two queues are those of the one and then those of the other. -/
@[simp] theorem untaken_append (front back : List Command) :
    untaken (front ++ back) = untaken front ++ untaken back := List.filterMap_append

/-- Requests whose commands the task has not taken, with their frames. -/
def asked (commands : List Command) : List (Ticket × Octets) :=
  commands.filterMap fun
    | .send ticket frame => some (ticket, frame)
    | .close => none

/-- An empty queue holds no request. -/
@[simp] theorem asked_nil : asked [] = [] := rfl

/-- A request that was not taken is in the queue with its frame. -/
@[simp] theorem asked_send (ticket : Ticket) (frame : Octets) (rest : List Command) :
    asked (.send ticket frame :: rest) = (ticket, frame) :: asked rest := rfl

/-- To ask for the end is no request. -/
@[simp] theorem asked_close (rest : List Command) : asked (.close :: rest) = asked rest := rfl

/-- The requests of two queues are those of the one and then those of the other. -/
@[simp] theorem asked_append (front back : List Command) :
    asked (front ++ back) = asked front ++ asked back := List.filterMap_append

/-- The commands that are requests are told by their tickets or with their frames. -/
theorem map_fst_asked (commands : List Command) :
    (asked commands).map Prod.fst = untaken commands := by
  induction commands with
  | nil => rfl
  | cons command rest inductionHypothesis =>
    cases command with
    | send ticket frame => exact congrArg (ticket :: ·) inductionHypothesis
    | close => exact inductionHypothesis

/-- The history is kept latest first. -/
@[simp] theorem history_record (session : Session) (events : List Event) :
    (session.record events).history = events.reverse ++ session.history := rfl

end Session

end Antiphon
