import Antiphon.Session.Schedule
import Antiphon.Session.Waiter

/-!
# Scripts for a session

A script says what callers, the peer, the stream and the clock do, step by step. Handles
are numbered in the order in which they were made, and so are the calls that wait.
-/

namespace Antiphon

/-- How the two sides of the stream are held. -/
inductive Holding
  /-- One stream, gone when both sides are. -/
  | shared
  /-- Two objects, gone separately. -/
  | split
deriving DecidableEq, Repr

/-- Who can still stop the session's task. -/
inductive Grip
  /-- Nobody. -/
  | none
  /-- The script holds a session that was not started. -/
  | session
  /-- The script holds the running task. -/
  | task
deriving DecidableEq, Repr

/-- One step of a script. -/
inductive ScriptStep
  /-- Sends a message, perhaps several times, without waiting. -/
  | send (handle : Nat) (message : Octets) (times : Option Nat)
  /-- Sends a message and waits for a response in some shape. -/
  | request (handle : Nat) (message : Octets) (asked : Asked)
  /-- Sends a message and waits for so many milliseconds. -/
  | sendTimeout (handle : Nat) (message : Octets) (milliseconds : Nat)
  /-- Asks to close and waits for the end. -/
  | close (handle : Nat)
  /-- Waits for the end. -/
  | closed (handle : Nat)
  | cloneHandle (handle : Nat)
  | dropHandle (handle : Nat)
  /-- Gives up a call that waits. -/
  | dropCall (call : Nat)
  | deliver (arrival : Arrival)
  | changeOutlet (change : Outlet → Outlet)
  | advance (milliseconds : Nat)
  /-- Starts a session that was held. -/
  | run
  /-- Drops a held session or stops the task. -/
  | abort
  /-- Does nothing. -/
  | idle

/-- What a step answers. -/
inductive StepAnswer
  | ok
  | nothing
  | noHandle
  | flag (value : Bool)
  /-- The number of a new handle or call. -/
  | number (value : Nat)
  | failed (error : LinkError)
  /-- How many sends succeeded and failed, and the first failure. -/
  | sends (succeeded failed : Nat) (first : Option LinkError)

/-- A session under a script. -/
structure Rehearsal where
  session : Session
  holding : Holding
  grip : Grip
  /-- Who has the next turns. -/
  line : List Runner
  /-- Which handles are alive. -/
  handles : List Bool
  /-- Calls that wait, by number. -/
  waiters : List (Nat × Waiter)
  /-- How many calls there have been. -/
  calls : Nat
  /-- Calls that were done since the last report. -/
  done : List (Nat × Completion)

namespace Rehearsal

/-- A session over an open stream. A session that is not held has its first turn coming. -/
def new (settings : Settings) (outlet : Outlet) (holding : Holding) (grip : Grip) : Rehearsal :=
  let session := Session.new settings outlet (if grip = .session then .held else .ready)
  ⟨session, holding, grip, session.lineUp [], [true], [], 0, []⟩

/-- Goes on with a changed session; whoever can move now gets in line. -/
def withSession (rehearsal : Rehearsal) (session : Session) : Rehearsal :=
  { rehearsal with session := session, line := session.lineUp rehearsal.line }

/-- Changes how the stream answers, of which a writer that waits for it is told. -/
def changeOutlet (rehearsal : Rehearsal) (change : Outlet → Outlet) : Rehearsal :=
  let session := rehearsal.session.changeOutlet change
  { rehearsal with line := session.lineUpWriter rehearsal.line }.withSession session

/-- Whether a handle is alive. -/
def hasHandle (rehearsal : Rehearsal) (handle : Nat) : Bool :=
  rehearsal.handles[handle]?.getD false

/-- Whether a call has a handle of its own while it waits, a copy of the one that it was made
with. -/
def ownsHandle : Waiter → Bool
  | .response _ => false
  | .shaped _ _ | .timed _ _ _ | .closed => true

/-- Lets go of what a call held, its handle as well. -/
def dismiss (waiter : Waiter) (session : Session) : Session :=
  if ownsHandle waiter then (waiter.release session).dropHandle else waiter.release session

/-- A new call that waits; it is not looked at yet. -/
def enrol (rehearsal : Rehearsal) (waiter : Waiter) : Nat × Rehearsal :=
  (rehearsal.calls,
    { rehearsal with
      waiters := rehearsal.waiters ++ [(rehearsal.calls, waiter)]
      calls := rehearsal.calls + 1 })

/-- A new call that is done at once. -/
def enrolDone (rehearsal : Rehearsal) (completion : Completion) : Nat × Rehearsal :=
  (rehearsal.calls,
    { rehearsal with
      done := rehearsal.done ++ [(rehearsal.calls, completion)]
      calls := rehearsal.calls + 1 })

/-- A new call with a handle of its own, which is looked at right away. -/
def enrolHolding (rehearsal : Rehearsal) (waiter : Waiter) : Nat × Rehearsal :=
  match waiter.poll? rehearsal.session with
  | some completion =>
    let (number, rehearsal) := rehearsal.enrolDone completion
    (number, rehearsal.withSession (waiter.release rehearsal.session))
  | none =>
    let (number, rehearsal) := rehearsal.enrol waiter
    (number, rehearsal.withSession rehearsal.session.addHandle)

/-- Sends a value so many times; the sends that succeed become calls. -/
def sendTimes (value : Json) :
    Nat → Nat → Nat → Option LinkError → Rehearsal → StepAnswer × Rehearsal
  | 0, succeeded, failed, first, rehearsal => (.sends succeeded failed first, rehearsal)
  | times + 1, succeeded, failed, first, rehearsal =>
    match rehearsal.session.send (.ok value.render) with
    | (.ok ticket, session) =>
      let (_, rehearsal) := (rehearsal.withSession session).enrol (.response ticket)
      sendTimes value times (succeeded + 1) failed first rehearsal
    | (.error error, session) =>
      sendTimes value times succeeded (failed + 1) (first.or (some error))
        (rehearsal.withSession session)

/-- Sends a value and enrols the call that waits for its response. A send that fails is a
call all the same, which is done at once. -/
def sendAndWait (rehearsal : Rehearsal) (value : Json) (waiter : Ticket → Waiter) :
    StepAnswer × Rehearsal :=
  match rehearsal.session.send (.ok value.render) with
  | (.ok ticket, session) =>
    let (number, rehearsal) := (rehearsal.withSession session).enrolHolding (waiter ticket)
    (.number number, rehearsal)
  | (.error error, session) =>
    let (number, rehearsal) :=
      (rehearsal.withSession session).enrolDone (.text (.error error))
    (.number number, rehearsal)

/-- Carries on with a message once its handle is known to live and its text to be JSON. -/
def withMessage (rehearsal : Rehearsal) (handle : Nat) (message : Octets)
    (next : Json → StepAnswer × Rehearsal) : StepAnswer × Rehearsal :=
  if !rehearsal.hasHandle handle then (.noHandle, rehearsal)
  else match decodePayload Json message with
    | .error error => (.failed error, rehearsal)
    | .ok value => next value

/-- Carries on once a handle is known to live. -/
def withHandle (rehearsal : Rehearsal) (handle : Nat) (next : StepAnswer × Rehearsal) :
    StepAnswer × Rehearsal :=
  if rehearsal.hasHandle handle then next else (.noHandle, rehearsal)

/-- Stops the session as far as the script can. -/
def abort (rehearsal : Rehearsal) : StepAnswer × Rehearsal :=
  let doomed := rehearsal.session.doom
  match rehearsal.grip with
  | .none => (.flag false, rehearsal)
  | .session =>
    (.flag true, { rehearsal with grip := .none }.withSession (doomed.drop?.getD doomed))
  | .task => (.ok, { rehearsal with grip := .none }.withSession doomed)

/-- Does one step. -/
def apply (rehearsal : Rehearsal) : ScriptStep → StepAnswer × Rehearsal
  | .send handle message none =>
    rehearsal.withMessage handle message fun value =>
      match rehearsal.session.send (.ok value.render) with
      | (.ok ticket, session) =>
        let (number, rehearsal) := (rehearsal.withSession session).enrol (.response ticket)
        (.number number, rehearsal)
      | (.error error, session) => (.failed error, rehearsal.withSession session)
  | .send handle message (some times) =>
    rehearsal.withMessage handle message fun value => sendTimes value times 0 0 none rehearsal
  | .request handle message asked =>
    rehearsal.withMessage handle message fun value =>
      rehearsal.sendAndWait value fun ticket => .shaped ticket asked
  | .sendTimeout handle message milliseconds =>
    rehearsal.withMessage handle message fun value =>
      rehearsal.sendAndWait value fun ticket =>
        rehearsal.session.timedCall ticket (.ofMilliseconds milliseconds)
  | .close handle =>
    rehearsal.withHandle handle <|
      let (number, rehearsal) :=
        (rehearsal.withSession rehearsal.session.requestClose).enrolHolding .closed
      (.number number, rehearsal)
  | .closed handle =>
    rehearsal.withHandle handle <|
      let (number, rehearsal) := rehearsal.enrolHolding .closed
      (.number number, rehearsal)
  | .cloneHandle handle =>
    rehearsal.withHandle handle
      (.number rehearsal.handles.length,
        { rehearsal with handles := rehearsal.handles ++ [true] }.withSession
          rehearsal.session.addHandle)
  | .dropHandle handle =>
    rehearsal.withHandle handle
      (.ok,
        { rehearsal with handles := rehearsal.handles.set handle false }.withSession
          rehearsal.session.dropHandle)
  | .dropCall call =>
    match rehearsal.waiters.find? fun waiting => waiting.1 = call with
    | none => (.flag false, rehearsal)
    | some (_, waiter) =>
      let waiters := rehearsal.waiters.filter fun waiting => waiting.1 ≠ call
      (.flag true,
        { rehearsal with waiters := waiters }.withSession (dismiss waiter rehearsal.session))
  | .deliver arrival => (.ok, rehearsal.withSession (rehearsal.session.deliver arrival))
  | .changeOutlet change => (.ok, rehearsal.changeOutlet change)
  | .advance milliseconds =>
    (.ok, rehearsal.withSession (rehearsal.session.advance milliseconds))
  | .run =>
    match rehearsal.grip with
    | .session =>
      (.flag true, { rehearsal with grip := .task }.withSession rehearsal.session.start)
    | .none | .task => (.flag false, rehearsal)
  | .abort => rehearsal.abort
  | .idle => (.nothing, rehearsal)

/-- Looks at every call that waits; those that are done let go of what they held. -/
def look (rehearsal : Rehearsal) : Rehearsal :=
  rehearsal.waiters.foldl
    (fun rehearsal (number, waiter) =>
      match waiter.poll? rehearsal.session with
      | none => { rehearsal with waiters := rehearsal.waiters ++ [(number, waiter)] }
      | some completion =>
        { rehearsal with done := rehearsal.done ++ [(number, completion)] }.withSession
          (dismiss waiter rehearsal.session))
    { rehearsal with waiters := [] }

/-- Lets the session settle and looks at the calls, again and again while calls are done. -/
def settle : (rounds : Nat) → Rehearsal → Rehearsal
  | 0, rehearsal => rehearsal
  | rounds + 1, rehearsal =>
    let session := rehearsal.session.settle rehearsal.session.load rehearsal.line
    let looked := look { rehearsal with session := session, line := [] }
    if looked.waiters.length = rehearsal.waiters.length then looked else settle rounds looked

/-- What a step, or several taken together, led to. -/
structure Report where
  answers : List StepAnswer
  done : List (Nat × Completion)
  /-- The state and the counters as the first live handle shows them. -/
  view : Option (Lifecycle × Tally)
  events : List Event
  /-- Stream objects that were let go. -/
  letGo : List Half
  /-- The whole stream was let go. -/
  letGoWhole : Bool

/-- The halves that were let go, among events. -/
def halvesLetGo (events : List Event) : List Half :=
  events.filterMap fun
    | .released half => some half
    | _ => none

/-- Does several steps, lets everything settle, and reports. -/
def play (rehearsal : Rehearsal) (steps : List ScriptStep) : Report × Rehearsal :=
  let before := rehearsal.session.history.length
  let (answers, rehearsal) := steps.foldl
    (fun (answers, rehearsal) step =>
      let (answer, rehearsal) := rehearsal.apply step
      (answers ++ [answer], rehearsal))
    (([] : List StepAnswer), rehearsal)
  let rehearsal := settle (rehearsal.waiters.length + 2) rehearsal
  let history := rehearsal.session.history
  let events := (history.take (history.length - before)).reverse
  let letGo := halvesLetGo events
  let shared := rehearsal.holding = .shared
  ({ answers := answers
     done := rehearsal.done.mergeSort fun a b => a.1 ≤ b.1
     view := if rehearsal.handles.contains true then
         some (rehearsal.session.lifecycle, rehearsal.session.tally)
       else none
     events := events
     letGo := if shared then [] else letGo
     letGoWhole := shared && !letGo.isEmpty && (halvesLetGo history).length = 2 },
    { rehearsal with done := [] })

end Rehearsal

end Antiphon
