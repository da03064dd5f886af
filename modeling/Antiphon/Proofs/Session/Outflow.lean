import Antiphon.Proofs.Outbound.Stride
import Antiphon.Proofs.Session.Dispatch

/-!
# What reaches the stream

What the stream has accepted is a beginning of the frames that the session took, one after the
other, whatever the stream answers and whoever stops the writer. A writer that ends without a
failure has written all of them, and has shut the stream down once, last of all.

The second half rests on who holds the writer. A session lets go of it when it leaves its loop, and
only a writer that nobody holds shuts down. So nothing is taken any more once the writer has begun
to shut down, and its inbox is empty (`Dispatch.Orderly`).
-/

namespace Antiphon

/-- Whether a call is a shutdown. -/
def Call.isShutdown : Call → Bool
  | .shutdown _ => true
  | .write _ _ | .flush _ => false

namespace Dispatch

/-- The writer shuts down when nobody can feed it any more and it has nothing left to write. If it
ends well, it has written everything that was taken. -/
structure Orderly (dispatch : Dispatch) : Prop where
  starved : dispatch.writer.phase = .shuttingDown ∨ dispatch.writer.phase = .ended none →
    dispatch.writer.fed = false
  emptied : dispatch.writer.phase = .shuttingDown → dispatch.writer.inbox = []
  unclosed : dispatch.writer.isAlive → ∀ call ∈ dispatch.calls, call.isShutdown = false
  complete : dispatch.writer.phase = .ended none →
    dispatch.accepted = (dispatch.taken.map Prod.snd).flatten ∧
      ∃ calls, dispatch.calls = calls ++ [.shutdown none] ∧ ∀ call ∈ calls, call.isShutdown = false

namespace Orderly

variable {dispatch after : Dispatch}

/-- Before it shuts down, all that matters is that it has not done so. -/
theorem of_phase (ongoing : dispatch.writer.phase ≠ .shuttingDown)
    (unfinished : dispatch.writer.phase ≠ .ended none)
    (unclosed : dispatch.writer.isAlive → ∀ call ∈ dispatch.calls, call.isShutdown = false) :
    dispatch.Orderly where
  starved := fun either => either.elim (absurd · ongoing) (absurd · unfinished)
  emptied := fun ending => absurd ending ongoing
  unclosed := unclosed
  complete := fun ended => absurd ended unfinished

/-- A writer that is gone, but has not ended well, has nothing to keep to. -/
theorem of_gone (gone : dispatch.writer.isAlive = false)
    (unfinished : dispatch.writer.phase ≠ .ended none) : dispatch.Orderly := by
  refine of_phase ?_ unfinished fun alive => absurd (gone.symm.trans alive) (by decide)
  intro ending
  simp [Writer.isAlive, ending] at gone

/-- A move of the writer keeps it orderly. -/
theorem wrote (orderly : dispatch.Orderly) (carried : dispatch.Carried) {writer : Writer}
    {outlet : Outlet} {events : List Event}
    (moved : dispatch.writer.step dispatch.outlet = some (writer, outlet, events)) :
    Orderly { dispatch with
      writer := writer
      outlet := outlet
      calls := dispatch.calls ++ events.filterMap Event.call? } := by
  have stride := Writer.stride_of_step moved
  have alive := stride.isAlive
  have quiet := orderly.unclosed alive
  have more {calls : List Call} (other : ∀ call ∈ calls, call.isShutdown = false) :
      ∀ call ∈ dispatch.calls ++ calls, call.isShutdown = false :=
    fun call member => (List.mem_append.mp member).elim (quiet call) (other call)
  cases stride with
  | gathered idle filled =>
    exact of_phase (by simp) (by simp) fun _ => more (by simp)
  | advanced batch count _ busy left answered =>
    exact of_phase (by simp) (by simp) fun _ => more (by simp [Event.call?, Call.isShutdown])
  | completed batch _ busy used answered =>
    exact of_phase (by simp) (by simp) fun _ => more (by simp [Event.call?, Call.isShutdown])
  | broken | unflushed => exact of_gone rfl (by simp)
  | retired idle empty starved =>
    exact ⟨fun _ => starved, fun _ => empty, fun _ => more (by simp), by simp⟩
  | ended fault _ ending answered =>
    cases fault with
    | some fault => exact of_gone rfl (by simp)
    | none =>
      have nothing : dispatch.writer.remaining = [] := by
        simp [Writer.remaining, ending, orderly.emptied ending]
      have whole := carried.whole alive
      rw [nothing, List.append_nil, carried.relayed alive] at whole
      refine ⟨fun _ => orderly.starved (.inl ending), by simp, by simp [Writer.isAlive],
        fun _ => ⟨?_, _, rfl, quiet⟩⟩
      rw [← whole]
      simp [accepted, Event.call?, Call.accepted]

/-- Letting go of a writer keeps it orderly, -/
theorem starve (orderly : dispatch.Orderly) :
    Orderly { dispatch with writer := dispatch.writer.starve } :=
  ⟨fun _ => rfl, orderly.emptied, orderly.unclosed, orderly.complete⟩

/-- and so does stopping it. -/
theorem abort (orderly : dispatch.Orderly) :
    Orderly { dispatch with writer := dispatch.writer.abort.1 } := by
  unfold Writer.abort
  split
  · exact of_gone rfl (by simp)
  · exact orderly

/-- Every move of the writing half is orderly, if nothing is taken any more once nobody holds the
writer. -/
theorem next (orderly : dispatch.Orderly) (carried : dispatch.Carried)
    (released : dispatch.writer.fed = false → after.taken = dispatch.taken)
    (moved : dispatch.Next after) : after.Orderly := by
  have unheld {ticket : Ticket} {frame : Octets}
      (ending : dispatch.writer.phase = .shuttingDown ∨ dispatch.writer.phase = .ended none)
      (grown : after.taken = dispatch.taken ++ [(ticket, frame)]) : False := by
    have same := released (orderly.starved ending)
    rw [grown] at same
    simp at same
  cases moved with
  | same | outletChanged =>
    exact ⟨orderly.starved, orderly.emptied, orderly.unclosed, orderly.complete⟩
  | handed ticket frame writer given =>
    obtain ⟨alive, rfl⟩ := Writer.hand_eq given
    exact of_phase (fun ending => unheld (.inl ending) rfl) (fun ended => unheld (.inr ended) rfl)
      fun _ => orderly.unclosed alive
  | lost ticket frame gone =>
    exact of_phase (fun ending => unheld (.inl ending) rfl) (fun ended => unheld (.inr ended) rfl)
      orderly.unclosed
  | starved => exact orderly.starve
  | aborted => exact orderly.abort
  | stopped => exact orderly.starve.abort
  | wrote writer outlet events moved => exact orderly.wrote carried moved

end Orderly

end Dispatch

namespace Session

/-- Whether anybody feeds the writer does not change when a request is taken. -/
theorem fed_onSend (session : Session) (ticket : Ticket) (frame : Octets) :
    (session.onSend ticket frame).writer.fed = session.writer.fed := by
  unfold onSend
  split
  · dsimp only
    split
    · next writer given =>
      obtain ⟨_, rfl⟩ := Writer.hand_eq given
      rfl
    · rfl
  · rfl

/-- As long as the task has not left its loop, nobody else lets go of the writer. -/
theorem Becomes.fed_eq {before after : Session} {accepting : Bool}
    (becomes : Becomes before accepting after) (serving : after.task.isServing = true) :
    after.writer.fed = before.writer.fed := by
  cases becomes with
  | taken ticket frame => exact fed_onSend _ ticket frame
  | fed octets inlet frames codec =>
    have same := dispatch_receives (before.afterRead inlet octets codec) frames
    exact congrArg (fun dispatch => dispatch.writer.fed) same
  | wrote writer outlet events begun moved => exact (Writer.stride_of_step moved).fed_eq
  | closing | overrun | leftByPeer | readFailed | writerLost | flushed | timedOut
  | droppedBeforeTurn | dropped => cases serving
  | _ => rfl

variable {settings : Settings} {origin session : Session} {past : List (Session × Move)}

/-- A task that has not left its loop still holds the writer. -/
theorem Reachable.fed_of_serving (reachable : Reachable settings session)
    (serving : session.task.isServing = true) : session.writer.fed = true := by
  revert serving
  apply reachable.kept fun session => session.task.isServing = true → session.writer.fed = true
  · rintro _ ⟨outlet, task, _, rfl⟩ _
    rfl
  · intro before after accepting reached _ becomes held serving
    have next := next_of_sound reached.sound becomes
    rw [becomes.fed_eq serving]
    exact held (next.serving serving)

/-- Nothing is taken any more once nobody holds the writer. -/
theorem Reachable.taken_of_released {before after : Session} {accepting : Bool}
    (reachable : Reachable settings before) (becomes : Becomes before accepting after)
    (released : before.dispatch.writer.fed = false) :
    after.dispatch.taken = before.dispatch.taken := by
  apply (next_of_sound reachable.sound becomes).taken_eq
  apply Bool.eq_false_iff.mpr
  intro serving
  have held := reachable.fed_of_serving serving
  exact absurd (released.symm.trans held) Bool.false_ne_true

/-- Wherever a run leads, the writer is orderly. -/
theorem Reachable.orderly (reachable : Reachable settings session) : session.dispatch.Orderly := by
  apply reachable.kept fun session => session.dispatch.Orderly
  · rintro _ ⟨outlet, task, _, rfl⟩
    exact .of_phase (by simp [dispatch, new, Writer.new]) (by simp [dispatch, new, Writer.new])
      (by simp [dispatch, calls, new, gather, Event.call?])
  · intro before after accepting reached _ becomes orderly
    exact orderly.next reached.carried (reached.taken_of_released becomes)
      (dispatch_next (connected_of_running reached.sound) becomes)

/-- A requested frame is the frame of the message of its send. -/
theorem framed_of_requested? {stage : Session × Move} {request : Ticket × Octets}
    (requested : requested? stage = some request) :
    ∃ payload, stage.1.answer? stage.2 = some (.ok request.1) ∧
      stage.2.text? = some (.ok payload) ∧
      payload.length ≤ stage.1.settings.maxPayload.toNat ∧
      request.2 = Octets.bigEndian payload.length ++ payload := by
  unfold requested? at requested
  split at requested
  · next ticket text answered sent =>
    split at requested
    · next frame framed =>
      cases requested
      obtain ⟨payload, rfl, fits, rfl⟩ := frameMessage_eq_ok_iff.mp framed
      exact ⟨payload, answered, sent, fits, rfl⟩
    · cases requested
  · cases requested

/-- The stream gets the frames of the messages, in the order of their sends, and nothing else. In
every state of every run, and whatever the stream answers, the octets that it has accepted begin the
frames of the requests that the task has taken, one after the other. A writer that has ended without
a failure has written these to their last octet, and its last call, but none before, was the
shutdown. -/
theorem outflow_exact (opened : Opened settings origin) (run : Run origin past session) :
    session.taken <+: past.filterMap requested? ∧
      (session.task ≠ .ended → session.task ≠ .dropped →
        session.taken ++ asked session.commands = past.filterMap requested?) ∧
      (∀ request ∈ session.taken, ∃ stage ∈ past, ∃ payload,
        stage.1.answer? stage.2 = some (.ok request.1) ∧ stage.2.text? = some (.ok payload) ∧
          payload.length ≤ settings.maxPayload.toNat ∧
          request.2 = Octets.bigEndian payload.length ++ payload) ∧
      session.acceptedOctets <+: (session.taken.map Prod.snd).flatten ∧
      (session.writer.phase = .ended none →
        session.acceptedOctets = (session.taken.map Prod.snd).flatten ∧
          ∃ calls, session.calls = calls ++ [.shutdown none] ∧
            ∀ call ∈ calls, call.isShutdown = false) := by
  have reachable : Reachable settings session := ⟨origin, past, opened, run⟩
  have requests := run.requests_of_opened opened
  obtain ⟨serving, begun⟩ := reachable.ordered
  have taken : session.taken <+: past.filterMap requested? := requests ▸ begun
  refine ⟨taken, fun ongoing present => ?_, ?_, ?_, ?_⟩
  · rw [← requests]
    exact serving ⟨ongoing, present⟩
  · intro request member
    obtain ⟨stage, there, requested⟩ := List.mem_filterMap.mp (taken.subset member)
    obtain ⟨before, later, rfl⟩ := List.append_of_mem there
    have chosen : stage.1.settings = settings :=
      Reachable.settings_eq ⟨origin, before, opened, run.divide.1⟩
    exact ⟨stage, there, chosen ▸ framed_of_requested? requested⟩
  · obtain ⟨rest, whole⟩ := reachable.carried.handed
    rw [acceptedOctets_eq]
    apply reachable.carried.written.trans
    exact ⟨rest.flatten, by rw [← List.flatten_append, whole]; rfl⟩
  · intro ended
    rw [acceptedOctets_eq]
    exact reachable.orderly.complete ended

/-- A frame that is written in two parts, before its session closes. -/
theorem outflow_exact_of_two_writes :
    ∃ origin past session, Opened Settings.default origin ∧ Run origin past session ∧
      session.writer.phase = .ended none ∧
      session.acceptedOctets = [0, 0, 0, 2, 0x7b, 0x7d] ∧
      ∃ calls, session.calls = calls ++ [.shutdown none] ∧
        ∀ call ∈ calls, call.isShutdown = false := by
  let origin : Session := .new Settings.default { Outlet.unlimited with perCall := some 4 } .ready
  let moves : List Move :=
    [.send (.ok [0x7b, 0x7d]), .begin, .takeCommand, .write, .write, .requestClose, .write,
      .takeCommand, .write, .write, .write]
  have shown : (origin.play? moves).map (fun run => (run.2.writer.phase, run.2.taken)) =
      some (.ended none, [(0, [0, 0, 0, 2, 0x7b, 0x7d])]) := by decide +kernel
  obtain ⟨⟨past, session⟩, played, seen⟩ := Option.map_eq_some_iff.mp shown
  obtain ⟨ended, taken⟩ : session.writer.phase = _ ∧ session.taken = _ := Prod.mk.inj seen
  obtain ⟨_, run⟩ := play?_eq_some_iff.mp played
  have opened : Opened Settings.default origin := ⟨_, _, .inr rfl, rfl⟩
  obtain ⟨_, _, _, _, complete⟩ := outflow_exact opened run
  obtain ⟨accepted, calls⟩ := complete ended
  rw [taken] at accepted
  exact ⟨origin, past, session, opened, run, ended, accepted, calls⟩

end Session

end Antiphon
