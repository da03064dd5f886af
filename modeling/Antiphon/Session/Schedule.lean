import Antiphon.Session.Step

/-!
# Running a session until nothing moves

Of the many orders in which moves can be made, this is the one of a single thread: the
task and the writer take turns, each going on until it can only wait, and whoever was woken
first has the next turn. What lets a runner move wakes it; a writer that waits for the
stream is also woken by a change of the stream that leaves it waiting. In a turn neither
goes to its queue more than `takesPerTurn` times, so that a long queue of the one does
not keep the other waiting. Timers fire when nobody has anything else to do, except for one
that is due as soon as it is set.

A run ends because each move uses something up: a command, what has arrived, octets to
write, or a stage of the task. `load` bounds the number of moves.
-/

namespace Antiphon

/-- Who can have a turn. -/
inductive Runner
  | task
  | writer
deriving DecidableEq, Repr

namespace Session

/-- A move of the task other than by a timer. -/
def moveTask? (session : Session) : Option Session :=
  session.drop? <|> session.begin? <|> session.takeCommand? <|> session.read? <|>
    session.noticeWriter? <|> session.finishClosing?

/-- Whether a runner could move now. -/
def isAble (session : Session) : Runner → Bool
  | .task => session.moveTask?.isSome
  | .writer => session.moveWriter?.isSome

/-- A bound on the moves that can follow. -/
def load (session : Session) : Nat :=
  let commands := session.commands.foldl (fun total command => total + match command with
    | .send _ frame => frame.length + 8
    | .close => 1) 0
  16 + commands + session.inlet.load + session.writer.load

/-- How often a runner goes to its queue in one turn. -/
def takesPerTurn : Nat := 128

/-- The task goes on until it can only wait, or has taken as many commands as it may. -/
def runTask : (moves takes : Nat) → Session → Session
  | 0, _, session | _, 0, session => session
  | moves + 1, takes + 1, session =>
    match session.drop? <|> session.begin? with
    | some session => runTask moves (takes + 1) session
    | none =>
      match session.takeCommand? with
      | some session => runTask moves takes session
      | none =>
        match session.read? <|> session.noticeWriter? <|> session.finishClosing? <|>
            session.timeOut? with
        | some session => runTask moves (takes + 1) session
        | none => session

/-- The writer goes on until it can only wait, or has gone to its inbox as often as it may. -/
def runWriter : (moves takes : Nat) → Session → Session
  | 0, _, session => session
  | moves + 1, takes, session =>
    match session.writer.phase, takes with
    | .idle, 0 => session
    | .idle, takes + 1 => session.moveWriter?.elim session (runWriter moves takes)
    | _, takes => session.moveWriter?.elim session (runWriter moves takes)

/-- One turn. -/
def turn (session : Session) : Runner → Session
  | .task => session.runTask session.load takesPerTurn
  | .writer => session.runWriter session.load takesPerTurn

/-- Puts those who can move now, and are not yet in line, at the end of the line. The writer
goes before a task that has had its turn and is not done. -/
def lineUp (session : Session) (line : List Runner) : List Runner :=
  line ++ [Runner.writer, Runner.task].filter fun runner =>
    !line.contains runner && session.isAble runner

/-- Puts a writer that waits for the stream, and is not yet in line, at the end of the line. -/
def lineUpWriter (session : Session) (line : List Runner) : List Runner :=
  if session.writer.isCalling && !line.contains .writer then line ++ [.writer] else line

/-- Gives turns until nobody is in line and no timer is due. -/
def settle : (turns : Nat) → List Runner → Session → Session
  | 0, _, session => session
  | turns + 1, runner :: line, session =>
    let session := session.turn runner
    settle turns (session.lineUp line) session
  | turns + 1, [], session =>
    match session.timeOut? with
    | some session => settle turns (session.lineUp []) session
    | none => session

/-- Nothing can move. -/
def isSettled (session : Session) : Bool :=
  !session.isAble .task && !session.isAble .writer && session.timeOut?.isNone

end Session

end Antiphon
