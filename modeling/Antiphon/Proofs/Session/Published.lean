import Antiphon.Proofs.Session.Delivery
import Antiphon.Proofs.Session.Departure

/-!
# The states that are published

A session is published as connected, perhaps as closing, and in the end as closed. Which of these
have been published is a matter of where the task stands (`Task.Tells`), and every move keeps it so.

The published state changes for the first time when the task leaves its loop. `departure?` gives the
reason, and the reason decides what is published: a connection whose end was asked for on this side
goes through closing, and any other is closed at once. A chunk is a reason only if it completes a
length above the limit.
-/

namespace Antiphon

/-- The states that a task has published, at each of its stages. -/
def Task.Tells : Task → List Lifecycle → Prop
  | .held, states | .ready, states | .running, states => states = [.connected]
  | .closing _, states => states = [.connected, .closing]
  | .ended, states => states = [.connected, .closing, .closed] ∨ states = [.connected, .closed]
  | .dropped, states => states = [.connected] ∨ states = [.connected, .closing]

/-- What is published when the task leaves its loop. -/
def Departure.publishes : Departure → Lifecycle
  | .asked | .unheld => .closing
  | .byPeer | .readFailed _ | .overrun _ | .writerFailed _ => .closed

namespace Ledger

variable {ledger after : Ledger} {accepting : Bool}

/-- What has been published is what the task has to tell, and the last of it is the state. -/
structure Published (ledger : Ledger) : Prop where
  tells : ledger.task.Tells ledger.states
  last : ledger.states.getLast? = some ledger.lifecycle

/-- Frames publish nothing. -/
theorem published_receives (ledger : Ledger) (frames : List Frame) :
    (frames.foldl receive ledger).states = ledger.states ∧
      (frames.foldl receive ledger).lifecycle = ledger.lifecycle := by
  induction frames generalizing ledger with
  | nil => exact ⟨rfl, rfl⟩
  | cons frame rest inductionHypothesis =>
    obtain ⟨states, lifecycle⟩ := inductionHypothesis (ledger.receive frame)
    rw [List.foldl_cons, states, lifecycle]
    unfold receive
    split <;> exact ⟨rfl, rfl⟩

/-- A task that is in its loop has published one state. -/
theorem Published.states_of_serving (published : ledger.Published)
    (serving : ledger.task.isServing = true) : ledger.states = [.connected] := by
  have tells := published.tells
  unfold Task.Tells at tells
  unfold Task.isServing at serving
  split at tells <;> simp_all

/-- The published states begin one of the two ways of a connection. -/
theorem Published.states_prefix (published : ledger.Published) :
    ledger.states <+: [.connected, .closing, .closed] ∨
      ledger.states <+: [.connected, .closed] := by
  have tells := published.tells
  unfold Task.Tells at tells
  split at tells
  · rw [tells]
    decide
  · rw [tells]
    decide
  · rw [tells]
    decide
  · rw [tells]
    decide
  · rcases tells with same | same <;> rw [same] <;> decide
  · rcases tells with same | same <;> rw [same] <;> decide

/-- Every move keeps the published states in order. -/
theorem Published.next (published : ledger.Published) (moved : ledger.Next accepting after) :
    after.Published := by
  have inLoop (running : ledger.task = .running) : ledger.states = [.connected] :=
    published.states_of_serving (by simp [running, Task.isServing])
  obtain ⟨tells, last⟩ := published
  cases moved with
  | same | accepted | askedToClose | abandoned => exact ⟨tells, last⟩
  | taken ticket frame rest sent running => exact ⟨tells, last⟩
  | started held =>
    rw [held] at tells
    exact ⟨tells, last⟩
  | begun ready =>
    rw [ready] at tells
    exact ⟨tells, last⟩
  | closing rest deadline running =>
    refine ⟨?_, by simp⟩
    change ledger.states ++ [.closing] = _
    rw [inLoop running]
    rfl
  | fed octets frames codec running =>
    obtain ⟨states, lifecycle⟩ := published_receives (ledger.read octets codec) frames
    have task : (frames.foldl receive (ledger.read octets codec)).task = ledger.task :=
      (orders_receives (ledger.read octets codec) frames).2.2.2
    refine ⟨?_, ?_⟩
    · rw [task, states]
      exact tells
    · rw [states, lifecycle]
      exact last
  | overrun octets error codec running =>
    refine ⟨.inr ?_, by simp [finish, complete]⟩
    change ledger.states ++ [.closed] = _
    rw [inLoop running]
    rfl
  | finished reason reasoned live =>
    refine ⟨?_, by simp [finish, complete]⟩
    change ledger.states ++ [.closed] = _ ∨ ledger.states ++ [.closed] = _
    rcases live with running | ⟨deadline, closing⟩
    · right
      rw [inLoop running]
      rfl
    · left
      rw [closing] at tells
      rw [tells]
      rfl
  | dropped live =>
    refine ⟨?_, last⟩
    change ledger.states = [.connected] ∨ ledger.states = [.connected, .closing]
    unfold Task.Tells at tells
    split at tells <;> simp_all

/-- After the end nothing is published. -/
theorem Next.states_of_ended (moved : ledger.Next accepting after) (ended : ledger.task = .ended) :
    after.states = ledger.states := by
  cases moved <;> simp_all

/-- A task that is dropped publishes nothing, then or later. -/
theorem Next.lifecycle_of_dropped (moved : ledger.Next accepting after)
    (gone : after.task = .dropped) : after.lifecycle = ledger.lifecycle := by
  cases moved with
  | fed octets frames codec running =>
    exact (published_receives (ledger.read octets codec) frames).2
  | closing | overrun | finished => cases gone
  | _ => rfl

end Ledger

namespace Session

variable {settings : Settings} {origin session next : Session} {past : List (Session × Move)}
  {move : Move}

/-- In every state that a run leads to, the task has published what it has to tell. -/
theorem Reachable.published (reachable : Reachable settings session) :
    session.ledger.Published := by
  obtain ⟨origin, past, opened, run⟩ := reachable
  refine run.preserves_ledger Ledger.Published (sound_of_opened opened) ?_
    fun _ next published => published.next next
  obtain ⟨outlet, task, fresh, rfl⟩ := opened
  refine ⟨?_, rfl⟩
  rcases fresh with rfl | rfl <;> rfl

/-- Once the session is closed, nothing is published any more. -/
theorem Run.states_of_closed (run : Run origin past session) (sound : origin.ledger.Sound)
    (ended : origin.task = .ended) :
    session.states = origin.states ∧ session.task = .ended := by
  refine run.preserves_ledger
    (fun ledger => ledger.states = origin.states ∧ ledger.task = .ended) sound ⟨rfl, ended⟩ ?_
  rintro before after accepting _ moved ⟨same, ended⟩
  exact ⟨(moved.states_of_ended ended).trans same, moved.ended ended⟩

/-- What is published at a departure. -/
theorem lifecycle_of_departure? {departure : Departure}
    (reasoned : session.departure? move = some departure) (made : session.make? move = some next) :
    next.lifecycle = departure.publishes := by
  cases leaves_of_departure? reasoned made with
  | closing _ rest asked => rcases asked with rfl | rfl <;> rfl
  | ending inlet =>
    rw [endByPeer, finish_eq]
    rfl
  | failing _ reached error failed =>
    have published : departure.publishes = .closed := by
      cases departure <;> first | rfl | exact absurd rfl failed
    rw [published, endByFailure, finish_eq]
    rfl

/-- A session leaves its connected state at a departure, and goes where the reason says. -/
theorem Reachable.departs_of_connected (reachable : Reachable settings session)
    (connected : session.lifecycle = .connected) (made : session.make? move = some next)
    (left : next.lifecycle ≠ .connected) :
    ∃ departure, session.departure? move = some departure ∧
      next.lifecycle = departure.publishes := by
  have moved := next_of_sound reachable.sound (becomes_of_make made)
  have present : next.task ≠ .dropped := by
    intro gone
    have same : next.lifecycle = session.lifecycle := moved.lifecycle_of_dropped gone
    exact left (same.trans connected)
  have agrees : session.task.Agrees session.lifecycle := reachable.sound.phased
  have serving : session.task.isServing = true := by
    cases task : session.task with
    | held | ready | running => rfl
    | closing | ended => simp [task, connected, Task.Agrees] at agrees
    | dropped => exact absurd (moved.dropped_of_dropped task) present
  cases turns_of_make reachable serving made with
  | leaves departure reasoned => exact ⟨departure, reasoned, lifecycle_of_departure? reasoned made⟩
  | stays unmoved stayed =>
    have agrees' : next.task.Agrees next.lifecycle := (reachable.sound.next moved).phased
    unfold Task.Agrees at agrees'
    unfold Task.isServing at stayed
    split at agrees' <;> simp_all
  | dropped unmoved gone => exact absurd gone present

/-- Octets that declare no length above the limit leave a session connected, whatever they are. -/
theorem Reachable.connected_of_chunk (reachable : Reachable settings session)
    (connected : session.lifecycle = .connected) {octets : Octets} {inlet : Inlet}
    (available : session.inlet.read session.settings.readCapacity = some (.chunk octets, inlet))
    (allowed : Frame.fatal? settings.maxPayload (session.octetsRead ++ octets) = none)
    (made : session.make? .read = some next) : next.lifecycle = .connected := by
  by_contra left
  obtain ⟨departure, reasoned, _⟩ := reachable.departs_of_connected connected made left
  have running := running_of_departure? reasoned
  simp only [departure?, running, available] at reasoned
  split at reasoned
  · next oversized refused =>
    have failed : session.ledger.codec.feed octets =
        (.error (.ofIncoming oversized), (session.codec.feed octets).2) := by
      change session.codec.feed octets = _
      rcases pushed : session.codec.buffer.push octets with ⟨result, buffer⟩
      rw [pushed] at refused
      obtain rfl : result = .error oversized := refused
      simp only [Codec.feed, pushed, mapError_error]
    have fed : session.ledger.Fed := reachable.fed
    obtain ⟨_, _, violated⟩ :=
      Ledger.violation_of_feed fed (reachable.allowed (by simp [running])) failed
    have limit : session.ledger.settings = settings := reachable.settings_eq
    rw [limit] at violated
    exact absurd (allowed.symm.trans violated) (by simp)
  · cases reasoned

end Session

end Antiphon
