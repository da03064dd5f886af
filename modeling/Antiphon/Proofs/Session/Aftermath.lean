import Antiphon.Proofs.Session.ClosePoint

/-!
# What still happens outside of the loop

A task that has left its loop reads nothing and hands nothing over. What can still happen is told
by `Outside`: the writer moves, or a task that waits for the writer stops waiting, because the
writer has ended, because time is up, or because it is dropped.

So a session that ends for any reason but the peer's does not leave a writer behind
(`Run.gone_of_ended`).
-/

namespace Antiphon

/-- Only a task in its loop reads. -/
theorem Ledger.Next.chunks_eq {ledger after : Ledger} {accepting : Bool}
    (moved : ledger.Next accepting after) (left : ledger.task.isServing = false) :
    after.chunks = ledger.chunks := by
  cases moved with
  | fed _ _ _ running | overrun _ _ _ running =>
    exact absurd (left.symm.trans (congrArg Task.isServing running)) (by decide)
  | _ => rfl

namespace Session

/-- What one move can do to the writer and to the task, once the task has left its loop. -/
inductive Outside (before after : Session) : Prop
  /-- A matter of the callers, of the peer, of the stream or of the clock. -/
  | aside (task : after.task = before.task)
      (writer : after.writer = before.writer) (calls : after.calls = before.calls)
  | wrote (outlet : Outlet) (events : List Event) (task : after.task = before.task)
      (moved : before.writer.step before.outlet = some (after.writer, outlet, events))
      (calls : after.calls = before.calls ++ events.filterMap Event.call?)
  | flushed (deadline : Nat) (failure : Option LinkError)
      (waiting : before.task = .closing deadline) (gone : before.writer.phase = .ended failure)
      (task : after.task = .ended)
      (writer : after.writer = before.writer) (calls : after.calls = before.calls)
  | timedOut (deadline : Nat) (waiting : before.task = .closing deadline)
      (due : deadline ≤ before.clock) (task : after.task = .ended)
      (writer : after.writer = before.writer.abort.1) (calls : after.calls = before.calls)
  | dropped (deadline : Nat) (waiting : before.task = .closing deadline)
      (task : after.task = .dropped)
      (writer : after.writer = before.writer.starve) (calls : after.calls = before.calls)

variable {settings : Settings} {origin session next before after : Session}
  {past later : List (Session × Move)} {move : Move} {accepting : Bool}

/-- Every move outside of the loop does one of these things. -/
theorem Becomes.outside (becomes : Becomes before accepting after)
    (left : before.task.isServing = false) : Outside before after := by
  have busy {task : Task} (there : before.task = task) (serving : task.isServing = true) :
      Outside before after :=
    absurd (left.symm.trans ((congrArg Task.isServing there).trans serving)) (by decide)
  have ended (session : Session) (reason : LinkError) :
      (session.finish reason).task = .ended := by
    rw [finish_eq]
    rfl
  cases becomes with
  | same | askedToClose | abandoned | handled | delivered | outletChanged | advanced | doomed =>
    exact .aside rfl rfl rfl
  | accepted frame =>
    have same : (before.accept frame).dispatch = before.dispatch :=
      dispatch_record_of_isInward _ (by simp [Event.isInward])
    exact .aside rfl (congrArg Dispatch.writer same) (congrArg Dispatch.calls same)
  | wrote writer outlet events begun moved =>
    have calls := congrArg Dispatch.calls
      (dispatch_record { before with writer := writer, outlet := outlet } events)
    exact .wrote outlet events rfl moved calls
  | flushed deadline failure waiting gone =>
    have same : ((before.record (failure.toList.map Event.flushFailed)).finish
        .connectionClosed).dispatch = before.dispatch := by
      rw [dispatch_finish, dispatch_record_of_isInward _ (by simp [Event.isInward])]
    exact .flushed deadline failure waiting gone (ended _ _) (congrArg Dispatch.writer same)
      (congrArg Dispatch.calls same)
  | timedOut deadline waiting due =>
    have stopped : ((before.record [.flushTimedOut before.settings.closeTimeout]).abortWriter.finish
        .connectionClosed).dispatch =
          { before.dispatch with writer := before.writer.abort.1 } := by
      rw [dispatch_finish, dispatch_abortWriter,
        dispatch_record_of_isInward _ (by simp [Event.isInward])]
      rfl
    exact .timedOut deadline waiting due (ended _ _) (congrArg Dispatch.writer stopped)
      (congrArg Dispatch.calls stopped)
  | dropped doomed either =>
    have starved := dispatch_drop before
    obtain running | ⟨deadline, waiting⟩ := either
    · exact busy running rfl
    · exact .dropped deadline waiting (by rw [drop_eq]; rfl) (congrArg Dispatch.writer starved)
        (congrArg Dispatch.calls starved)
  | started held => exact busy held rfl
  | begun ready => exact busy ready rfl
  | droppedBeforeTurn doomed idle => exact idle.elim (busy · rfl) (busy · rfl)
  | taken _ _ _ running | closing _ running | fed _ _ _ _ running | overrun _ _ _ _ running
  | leftByPeer _ running | readFailed _ _ running | writerLost _ running =>
    exact busy running rfl

namespace Outside

/-- Nobody comes back into the loop. -/
theorem left (outside : Outside before after) (left : before.task.isServing = false) :
    after.task.isServing = false := by
  cases outside with
  | aside task | wrote _ _ task => rw [task]; exact left
  | flushed _ _ _ _ task | timedOut _ _ _ task | dropped _ _ task => rw [task]; rfl

/-- A task that ends by itself does not leave a writer behind. -/
theorem gone (outside : Outside before after)
    (gone : before.task = .ended → before.writer.isAlive = false) (ended : after.task = .ended) :
    after.writer.isAlive = false := by
  cases outside with
  | aside task writer =>
    rw [writer]
    exact gone (task.symm.trans ended)
  | wrote outlet events task moved =>
    have dead := gone (task.symm.trans ended)
    exact absurd (dead.symm.trans (Writer.stride_of_step moved).isAlive) (by decide)
  | flushed deadline failure waiting phase _ writer =>
    rw [writer, Writer.isAlive, phase]
  | timedOut deadline waiting due _ writer =>
    rw [writer]
    exact Dispatch.isAlive_abort _
  | dropped deadline waiting task => exact absurd (task.symm.trans ended) (by simp)

end Outside

/-- Outside of the loop, a writer that is not there once the task has ended is not there in the end.
-/
theorem Run.gone_of_ended (run : Run origin past session) (left : origin.task.isServing = false)
    (gone : origin.task = .ended → origin.writer.isAlive = false) (ended : session.task = .ended) :
    session.writer.isAlive = false := by
  have held := run.preserves
    (fun session => session.task.isServing = false ∧
      (session.task = .ended → session.writer.isAlive = false)) ⟨left, gone⟩
    fun becomes held =>
      have outside := becomes.outside held.1
      ⟨outside.left held.1, outside.gone held.2⟩
  exact held.2 ended

/-- A task that waits for the writer has waited before, for the same time, and does not stop the
writer. -/
theorem Outside.waits (outside : Outside before after) {deadline : Nat}
    (waiting : after.task = .closing deadline) :
    before.task = .closing deadline ∧
      (before.writer.phase ≠ .aborted → after.writer.phase ≠ .aborted) := by
  cases outside with
  | aside task writer =>
    rw [writer]
    exact ⟨task.symm.trans waiting, id⟩
  | wrote outlet events task moved =>
    exact ⟨task.symm.trans waiting, fun _ => phase_ne_aborted_of_step moved⟩
  | flushed _ _ _ _ task | timedOut _ _ _ task | dropped _ _ task =>
    exact absurd (task.symm.trans waiting) (by simp)

/-- No task in its loop has a writer that was stopped. -/
theorem Reachable.unstopped (reachable : Reachable settings session)
    (serving : session.task.isServing = true) : session.writer.phase ≠ .aborted := by
  intro stopped
  have gone : session.writer.isAlive = false := by rw [Writer.isAlive, stopped]
  obtain ⟨error, failed⟩ := reachable.failed_of_gone serving gone
  cases stopped.symm.trans failed

/-- Outside of the loop nothing is taken from what has arrived. -/
theorem Becomes.inlet_prefix (becomes : Becomes before accepting after)
    (left : before.task.isServing = false) : before.inlet <+: after.inlet := by
  have busy (running : before.task = .running) : before.inlet <+: after.inlet :=
    absurd (left.symm.trans (congrArg Task.isServing running)) (by decide)
  cases becomes with
  | delivered arrival =>
    change before.inlet <+: before.inlet.deliver arrival
    rw [Inlet.deliver.eq_def]
    split
    · exact List.prefix_refl _
    · exact List.prefix_append _ _
  | flushed | timedOut =>
    rw [finish_eq]
    exact List.prefix_refl _
  | droppedBeforeTurn | dropped =>
    rw [drop_eq]
    exact List.prefix_refl _
  | taken _ _ _ running | fed _ _ _ _ running | overrun _ _ _ _ running
  | leftByPeer _ running | readFailed _ _ running | writerLost _ running => exact busy running
  | _ => exact List.prefix_refl _

/-- Outside of the loop nothing is read. -/
theorem Run.unread (run : Run origin past session) (sound : origin.ledger.Sound)
    (left : origin.task.isServing = false) :
    session.chunks = origin.chunks ∧ origin.inlet <+: session.inlet := by
  have held := run.preserves
    (fun session => (session.ledger.Sound ∧ session.task.isServing = false) ∧
      session.chunks = origin.chunks ∧ origin.inlet <+: session.inlet)
    ⟨⟨sound, left⟩, rfl, List.prefix_refl _⟩ (by
      rintro before after accepting becomes ⟨⟨sound, left⟩, read, arrived⟩
      have moved := next_of_sound sound becomes
      have same : after.chunks = before.chunks := moved.chunks_eq left
      exact ⟨⟨sound.next moved, (becomes.outside left).left left⟩, same.trans read,
        arrived.trans (becomes.inlet_prefix left)⟩)
  exact held.2

namespace Leaves

variable {departure : Departure}

/-- The task is not in its loop any more. -/
theorem left (leaves : session.Leaves departure next) : next.task.isServing = false := by
  cases leaves with
  | closing => rfl
  | ending => rw [endByPeer, finish_eq]; rfl
  | failing => rw [endByFailure, finish_eq]; rfl

/-- Whoever leaves for any reason but the peer's ends the writer, or waits for its end. -/
theorem gone (leaves : session.Leaves departure next) (ours : departure ≠ .byPeer)
    (ended : next.task = .ended) : next.writer.isAlive = false := by
  cases leaves with
  | closing => cases ended
  | ending => exact absurd rfl ours
  | failing _ reached error =>
    have stopped := congrArg Dispatch.writer (dispatch_endByFailure reached error)
    exact (congrArg Writer.isAlive stopped).trans (Dispatch.isAlive_abort _)

end Leaves

end Session

end Antiphon
