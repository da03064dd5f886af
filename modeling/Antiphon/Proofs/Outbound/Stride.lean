import Antiphon.Outbound.Writer

/-!
# The moves of a writer

`Stride` is what one move of a writer can do, told once and with every guard that was passed.
Whatever is said of all moves of a writer is proved by cases on it, and no other proof need look
into `Writer.step`.

A stream that accepts octets accepts no more than it was offered, so a batch is never written
beyond its end.
-/

namespace Antiphon

/-- A stream accepts no more than it is offered. -/
theorem Outlet.count_le_of_write {outlet next : Outlet} {offered count : Nat}
    (answered : outlet.write offered = some (.accepted count, next)) : count ≤ offered := by
  have below (limit : Option Nat) (most : Nat) : within limit most ≤ most := by
    cases limit with
    | none => exact Nat.le_refl _
    | some limit => exact Nat.min_le_left _ _
  unfold write at answered
  split at answered
  · cases answered
  · split at answered
    · cases answered; exact Nat.zero_le _
    · split at answered
      · cases answered
      · cases answered
        exact Nat.le_trans (below _ _) (below _ _)

namespace Writer

/-- A frame that is handed over goes to the end of the inbox. -/
theorem hand_eq {writer after : Writer} {frame : Octets} (given : writer.hand frame = some after) :
    writer.isAlive ∧ after = { writer with
      inbox := writer.inbox ++ [frame]
      unwritten := writer.unwritten + 1 } := by
  unfold hand at given
  split at given
  · next alive => exact ⟨alive, (Option.some.inj given).symm⟩
  · cases given

/-- What one move does to a writer and its stream, and the events that tell of it. -/
inductive Stride (writer : Writer) (outlet : Outlet) : Writer → Outlet → List Event → Prop
  /-- A batch is formed of what is in the inbox. -/
  | gathered (idle : writer.phase = .idle) (filled : writer.inbox ≠ []) :
      Stride writer outlet
        { writer with
          phase := .writing (Batch.start (writer.inbox.take maxBatch))
          inbox := writer.inbox.drop maxBatch } outlet []
  /-- Nobody is left who could fill the inbox. -/
  | retired (idle : writer.phase = .idle) (empty : writer.inbox = [])
      (starved : writer.fed = false) :
      Stride writer outlet { writer with phase := .shuttingDown } outlet []
  /-- A write call is answered with some octets. -/
  | advanced (batch : Batch) (count : Nat) (next : Outlet)
      (busy : writer.phase = .writing batch) (left : batch.slices ≠ [])
      (answered : outlet.write batch.slices.flatten.length = some (.accepted (count + 1), next)) :
      Stride writer outlet
        { writer with phase := .writing { batch with written := batch.written + (count + 1) } } next
        [.wrote batch.slices (.accepted (count + 1))]
  /-- A write call fails, or is answered with no octet at all. -/
  | broken (batch : Batch) (answer : WriteAnswer) (failure : LinkError) (next : Outlet)
      (busy : writer.phase = .writing batch) (left : batch.slices ≠ [])
      (answered : outlet.write batch.slices.flatten.length = some (answer, next))
      (failed : batch.after answer = .error failure) :
      Stride writer outlet { writer with phase := .ended (some failure) } next
        [.wrote batch.slices answer, .released .writer]
  /-- The flush behind a batch succeeds. -/
  | completed (batch : Batch) (next : Outlet) (busy : writer.phase = .writing batch)
      (used : batch.slices = []) (answered : outlet.flush = some (none, next)) :
      Stride writer outlet
        { writer with
          phase := .idle
          unwritten := writer.unwritten - batch.frames.length.toUInt64 } next
        [.flushed none, .batchWritten batch.frames.length]
  /-- The flush behind a batch fails. -/
  | unflushed (batch : Batch) (fault : IoFault) (next : Outlet)
      (busy : writer.phase = .writing batch) (used : batch.slices = [])
      (answered : outlet.flush = some (some fault, next)) :
      Stride writer outlet { writer with phase := .ended (some (.io fault)) } next
        [.flushed (some fault), .released .writer]
  /-- The shutdown is answered. -/
  | ended (fault : Option IoFault) (next : Outlet) (ending : writer.phase = .shuttingDown)
      (answered : outlet.shutdown = some (fault, next)) :
      Stride writer outlet { writer with phase := .ended (fault.map LinkError.io) } next
        [.shutDown fault, .released .writer]

/-- Only a writer that is there moves. -/
theorem Stride.isAlive {writer after : Writer} {outlet next : Outlet} {events : List Event}
    (stride : writer.Stride outlet after next events) : writer.isAlive := by
  cases stride <;> simp_all [Writer.isAlive]

/-- A writer is fed or not, whatever it does itself. -/
theorem Stride.fed_eq {writer after : Writer} {outlet next : Outlet} {events : List Event}
    (stride : writer.Stride outlet after next events) : after.fed = writer.fed := by
  cases stride <;> rfl

/-- An answer that does not end a batch accepts at least one octet. -/
theorem eq_accepted_of_after {batch after : Batch} {answer : WriteAnswer}
    (kept : batch.after answer = .ok after) :
    ∃ count, answer = .accepted (count + 1) ∧
      after = { batch with written := batch.written + (count + 1) } := by
  unfold Batch.after at kept
  split at kept
  · cases kept
  · cases kept
  · next count positive =>
    cases kept
    cases count with
    | zero => exact absurd rfl positive
    | succ count => exact ⟨count, rfl, rfl⟩

/-- Every move of a writer does one of these things. -/
theorem stride_of_step {writer after : Writer} {outlet next : Outlet} {events : List Event}
    (moved : writer.step outlet = some (after, next, events)) :
    writer.Stride outlet after next events := by
  unfold step at moved
  split at moved
  · next idle =>
    split at moved
    · next empty =>
      split at moved
      · cases moved
      · next starved =>
        cases moved
        exact .retired idle empty (by simpa using starved)
    · next filled =>
      cases moved
      exact .gathered idle (by simp [filled])
  · next batch busy =>
    split at moved
    · next used =>
      unfold completeBatch at moved
      split at moved
      · cases moved
      · next answered => cases moved; exact .completed batch _ busy used answered
      · next fault _ answered => cases moved; exact .unflushed batch fault _ busy used answered
    · next left =>
      unfold writeSome at moved
      split at moved
      · cases moved
      · next answer _ answered =>
        split at moved
        · next kept =>
          obtain ⟨count, rfl, rfl⟩ := eq_accepted_of_after kept
          cases moved
          exact .advanced batch count _ busy left answered
        · next failure failed =>
          cases moved
          exact .broken batch answer failure _ busy left answered failed
  · next ending =>
    split at moved
    · cases moved
    · next fault _ answered => cases moved; exact .ended fault _ ending answered
  · cases moved
  · cases moved

end Writer

end Antiphon
