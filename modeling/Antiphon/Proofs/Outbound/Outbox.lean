import Antiphon.Proofs.Outbound.Transcript
import Antiphon.Proofs.Session.Outflow

/-!
# A writer and those who hand it frames

Frames come to a writer from any number of handles and at any time, and it makes batches of what it
finds. A frame that comes while a batch is being formed comes before it or behind it. So where the
writer cuts depends on when it looks; that it cuts nothing else, and what it does for each batch,
does not.

An `Outbox` is a writer with its handles, with the frames that were queued and the calls that were
made. `Booked` says how these belong together: the frames are those of the batches that are done, of
the batch that was begun, and of the inbox, in this order; the calls are those for the batches, and
the shutdown behind them. For each batch they are a `Batch.Transcript`. What a writer can be found
at, with the batch that it has begun, is a `Standing`.

One turn keeps the books (`Booked.take`), and so does a run.
-/

namespace Antiphon

/-- A batch of frames, and the calls that were made for it. -/
structure Shipment where
  frames : List Octets
  calls : List Call

/-- A writer, the handles through which frames can come, the frames that came, and the calls that
were made. -/
structure Outbox where
  writer : Writer
  handles : Nat
  queued : List Octets
  calls : List Call

/-- What can happen at any time. -/
inductive Turn
  /-- One more handle. -/
  | share
  /-- One handle less. -/
  | release
  | send (frame : Octets)
  /-- The writer moves, if it can; a call finds the stream in the given state. -/
  | move (outlet : Outlet)
  /-- The writer is stopped from outside. -/
  | stop

namespace Outbox

/-- A writer that nobody has handed anything, and its first handle. -/
def new : Outbox := ⟨.new, 1, [], []⟩

/-- One turn. What cannot be done changes nothing: handles come of handles, and a writer that is
gone takes no frame. -/
def take (outbox : Outbox) : Turn → Outbox
  | .share => if 0 < outbox.handles then { outbox with handles := outbox.handles + 1 } else outbox
  | .release =>
    { outbox with
      handles := outbox.handles - 1
      writer := if 1 < outbox.handles then outbox.writer else outbox.writer.starve }
  | .send frame =>
    match outbox.handles, outbox.writer.hand frame with
    | _ + 1, some writer => { outbox with writer := writer, queued := outbox.queued ++ [frame] }
    | _, _ => outbox
  | .move outlet =>
    match outbox.writer.step outlet with
    | some (writer, _, events) =>
      { outbox with writer := writer, calls := outbox.calls ++ events.filterMap Event.call? }
    | none => outbox
  | .stop => { outbox with writer := outbox.writer.abort.1 }

/-- Turns one after the other. -/
def run (outbox : Outbox) (turns : List Turn) : Outbox := turns.foldl take outbox

/-- What a writer is found at: the batch that it has begun, if there is one, and the call that it
has made behind all batches. It shuts the stream down when nobody feeds it and nothing is left. -/
inductive Standing (fed : Bool) (inbox : List Octets) :
    Option Shipment → List Call → WriterPhase → Prop
  | idle : Standing fed inbox none [] .idle
  | busy {shipment : Shipment} {batch : Batch}
      (transcript : Batch.Transcript shipment.frames shipment.calls (.writing batch)) :
      Standing fed inbox (some shipment) [] (.writing batch)
  | broken {shipment : Shipment} {error : LinkError}
      (transcript : Batch.Transcript shipment.frames shipment.calls (.ended (some error))) :
      Standing fed inbox (some shipment) [] (.ended (some error))
  | retired (nobody : fed = false) (empty : inbox = []) : Standing fed inbox none [] .shuttingDown
  | closed (fault : Option IoFault) (nobody : fed = false) (empty : inbox = []) :
      Standing fed inbox none [.shutdown fault] (.ended (fault.map LinkError.io))
  | stopped {current : Option Shipment}
      (begun : ∀ shipment ∈ current, ∃ batch,
        Batch.Transcript shipment.frames shipment.calls (.writing batch)) :
      Standing fed inbox current [] .aborted

/-- The frames of a batch that was begun, and those that wait for one. -/
def unfinished (outbox : Outbox) (current : Option Shipment) : List Octets :=
  current.toList.flatMap Shipment.frames ++ outbox.writer.inbox

/-- The books of an outbox: the batches that are done, the one that was begun, and the last call. -/
structure Booked (outbox : Outbox) (done : List Shipment) (current : Option Shipment)
    (last : List Call) : Prop where
  fed : outbox.writer.fed = decide (0 < outbox.handles)
  queued : outbox.queued = done.flatMap Shipment.frames ++ outbox.unfinished current
  calls : outbox.calls =
    done.flatMap Shipment.calls ++ (current.toList.flatMap Shipment.calls ++ last)
  sized : ∀ shipment ∈ done ++ current.toList,
    1 ≤ shipment.frames.length ∧ shipment.frames.length ≤ Writer.maxBatch
  finished : ∀ shipment ∈ done, Batch.Transcript shipment.frames shipment.calls .idle
  standing : Standing outbox.writer.fed outbox.writer.inbox current last outbox.writer.phase
  counted : outbox.writer.isAlive = true →
    outbox.writer.unwritten = (outbox.unfinished current).length.toUInt64

variable {outbox : Outbox} {done : List Shipment} {current : Option Shipment} {last : List Call}

/-- A writer stands where it stood when nobody feeds it any more. -/
theorem Standing.starve {fed : Bool} {inbox : List Octets} {phase : WriterPhase}
    (standing : Standing fed inbox current last phase) :
    Standing false inbox current last phase := by
  cases standing with
  | idle => exact .idle
  | busy transcript => exact .busy transcript
  | broken transcript => exact .broken transcript
  | retired _ empty => exact .retired rfl empty
  | closed fault _ empty => exact .closed fault rfl empty
  | stopped begun => exact .stopped begun

/-- A writer that is fed and there can be handed a frame, -/
theorem Standing.hand {inbox : List Octets} {phase : WriterPhase}
    (standing : Standing true inbox current last phase) (unstopped : phase ≠ .aborted)
    (unended : ∀ failure, phase ≠ .ended failure) (frame : Octets) :
    Standing true (inbox ++ [frame]) current last phase := by
  cases standing with
  | idle => exact .idle
  | busy transcript => exact .busy transcript
  | broken | closed => exact absurd rfl (unended _)
  -- Only a writer that nobody feeds shuts down, so no frame comes too late.
  | retired nobody => cases nobody
  | stopped => exact absurd rfl unstopped

/-- and any that is there can be stopped. -/
theorem Standing.stop {fed : Bool} {inbox : List Octets} {phase : WriterPhase}
    (standing : Standing fed inbox current last phase)
    (unended : ∀ failure, phase ≠ .ended failure) :
    Standing fed inbox current last .aborted := by
  cases standing with
  | idle | retired => exact .stopped (by simp)
  | busy transcript =>
    refine .stopped ?_
    rintro _ ⟨⟩
    exact ⟨_, transcript⟩
  | broken | closed => exact absurd rfl (unended _)
  | stopped begun => exact .stopped begun

/-- A writer that is there was not stopped and has not ended. -/
theorem phase_of_isAlive {writer : Writer} (alive : writer.isAlive = true) :
    writer.phase ≠ .aborted ∧ ∀ failure, writer.phase ≠ .ended failure := by
  constructor
  · intro stopped
    simp [Writer.isAlive, stopped] at alive
  · intro failure ended
    simp [Writer.isAlive, ended] at alive

namespace Booked

/-- The books of a new outbox are empty. -/
theorem new : Outbox.new.Booked [] none [] where
  fed := rfl
  queued := rfl
  calls := rfl
  sized := by simp
  finished := by simp
  standing := .idle
  counted := fun _ => rfl

/-- Handles are let go of one by one, and the writer with the last of them. -/
theorem release (booked : outbox.Booked done current last) :
    (outbox.take .release).Booked done current last := by
  by_cases more : 1 < outbox.handles
  · simp only [take, more, if_true]
    refine ⟨?_, booked.queued, booked.calls, booked.sized, booked.finished, booked.standing,
      booked.counted⟩
    have held : 0 < outbox.handles := by omega
    have still : 0 < outbox.handles - 1 := by omega
    simpa [held, still] using booked.fed
  · simp only [take, more, if_false]
    refine ⟨?_, booked.queued, booked.calls, booked.sized, booked.finished,
      booked.standing.starve, booked.counted⟩
    have none : outbox.handles - 1 = 0 := by omega
    simp [none, Writer.starve]

/-- A frame that is queued goes to the end of the inbox. -/
theorem send (booked : outbox.Booked done current last) {writer : Writer} {frame : Octets}
    (held : 0 < outbox.handles) (given : outbox.writer.hand frame = some writer) :
    Booked { outbox with writer := writer, queued := outbox.queued ++ [frame] }
      done current last := by
  obtain ⟨alive, rfl⟩ := Writer.hand_eq given
  have fed : outbox.writer.fed = true := by simpa [held] using booked.fed
  have standing := booked.standing
  rw [fed] at standing
  obtain ⟨unstopped, unended⟩ := phase_of_isAlive alive
  refine ⟨booked.fed, ?_, booked.calls, booked.sized, booked.finished, ?_, fun _ => ?_⟩
  · simp [booked.queued, unfinished]
  · simp only [fed]
    exact standing.hand unstopped unended frame
  · change outbox.writer.unwritten + 1 =
      (current.toList.flatMap Shipment.frames ++ (outbox.writer.inbox ++ [frame])).length.toUInt64
    rw [booked.counted alive, ← List.append_assoc, List.length_append, List.length_singleton]
    exact (UInt64.ofNat_add _ 1).symm

/-- A writer that is stopped leaves its batch as it is. -/
theorem stop (booked : outbox.Booked done current last) :
    (outbox.take .stop).Booked done current last := by
  simp only [take, Writer.abort]
  split
  · next alive =>
    exact ⟨booked.fed, booked.queued, booked.calls, booked.sized, booked.finished,
      booked.standing.stop (phase_of_isAlive alive).2, fun still => by cases still⟩
  · exact booked

/-- An idle writer makes a batch of the first frames that wait. -/
theorem gather (booked : outbox.Booked done none []) (idle : outbox.writer.phase = .idle)
    (filled : outbox.writer.inbox ≠ []) :
    Booked
      { outbox with writer :=
        { outbox.writer with
          phase := .writing (Batch.start (outbox.writer.inbox.take Writer.maxBatch))
          inbox := outbox.writer.inbox.drop Writer.maxBatch } }
      done (some ⟨outbox.writer.inbox.take Writer.maxBatch, []⟩) [] := by
  have whole : outbox.writer.inbox.take Writer.maxBatch ++
      outbox.writer.inbox.drop Writer.maxBatch = outbox.unfinished none := List.take_append_drop _ _
  have alive : outbox.writer.isAlive = true := by rw [Writer.isAlive, idle]
  refine ⟨booked.fed, ?_, ?_, ?_, booked.finished, .busy .begun, fun _ => ?_⟩
  · simpa [unfinished, whole] using booked.queued
  · simpa using booked.calls
  · have first : 1 ≤ outbox.writer.inbox.length := List.length_pos_of_ne_nil filled
    have before := booked.sized
    simp only [Option.toList_none, List.append_nil] at before
    simp only [Option.toList_some, List.forall_mem_append, List.forall_mem_singleton,
      List.length_take]
    exact ⟨before, Nat.le_min.mpr ⟨by decide, first⟩, Nat.min_le_left _ _⟩
  · simpa [unfinished, whole] using booked.counted alive

/-- A writer that makes a call for its batch still has it, if it has not flushed. -/
theorem proceed {shipment : Shipment} (booked : outbox.Booked done (some shipment) [])
    (alive : outbox.writer.isAlive = true) {phase : WriterPhase} {made : List Call}
    (standing : Standing outbox.writer.fed outbox.writer.inbox
      (some ⟨shipment.frames, shipment.calls ++ made⟩) [] phase) :
    Booked
      { outbox with
        writer := { outbox.writer with phase := phase }
        calls := outbox.calls ++ made }
      done (some ⟨shipment.frames, shipment.calls ++ made⟩) [] := by
  refine ⟨booked.fed, ?_, ?_, ?_, booked.finished, standing, fun _ => booked.counted alive⟩
  · exact booked.queued
  · simp [booked.calls]
  · have before := booked.sized
    simp only [Option.toList_some, List.forall_mem_append, List.forall_mem_singleton] at before ⊢
    exact before

/-- A batch that was flushed is done, and its frames are taken off the count. -/
theorem complete {shipment : Shipment} (booked : outbox.Booked done (some shipment) [])
    (alive : outbox.writer.isAlive = true) {made : List Call}
    (transcript : Batch.Transcript shipment.frames (shipment.calls ++ made) .idle) :
    Booked
      { outbox with
        writer := { outbox.writer with
          phase := .idle
          unwritten := outbox.writer.unwritten - shipment.frames.length.toUInt64 }
        calls := outbox.calls ++ made }
      (done ++ [⟨shipment.frames, shipment.calls ++ made⟩]) none [] := by
  refine ⟨booked.fed, ?_, ?_, ?_, ?_, .idle, fun _ => ?_⟩
  · simp [booked.queued, unfinished]
  · simp [booked.calls]
  · have before := booked.sized
    simp only [Option.toList_some, Option.toList_none, List.append_nil, List.forall_mem_append,
      List.forall_mem_singleton] at before ⊢
    exact before
  · simp only [List.forall_mem_append, List.forall_mem_singleton]
    exact ⟨booked.finished, transcript⟩
  · have parts : (outbox.unfinished (some shipment)).length =
        outbox.writer.inbox.length + shipment.frames.length := by
      simp [unfinished, Nat.add_comm]
    have words : (outbox.unfinished (some shipment)).length.toUInt64 =
        outbox.writer.inbox.length.toUInt64 + shipment.frames.length.toUInt64 :=
      parts ▸ UInt64.ofNat_add _ _
    change outbox.writer.unwritten - shipment.frames.length.toUInt64 =
      outbox.writer.inbox.length.toUInt64
    rw [booked.counted alive, words, UInt64.add_sub_cancel]

/-- A writer that writes has begun a batch, -/
theorem of_writing (booked : outbox.Booked done current last) {batch : Batch}
    (busy : outbox.writer.phase = .writing batch) :
    ∃ shipment, current = some shipment ∧ last = [] ∧
      Batch.Transcript shipment.frames shipment.calls (.writing batch) := by
  have standing := booked.standing
  rw [busy] at standing
  cases standing with
  | busy transcript => exact ⟨_, rfl, rfl, transcript⟩

/-- and one that waits has not, -/
theorem of_idle (booked : outbox.Booked done current last)
    (idle : outbox.writer.phase = .idle) : current = none ∧ last = [] := by
  have standing := booked.standing
  rw [idle] at standing
  cases standing
  exact ⟨rfl, rfl⟩

/-- nor has one that shuts down. -/
theorem of_shuttingDown (booked : outbox.Booked done current last)
    (ending : outbox.writer.phase = .shuttingDown) :
    current = none ∧ last = [] ∧ outbox.writer.fed = false ∧ outbox.writer.inbox = [] := by
  have standing := booked.standing
  rw [ending] at standing
  cases standing with
  | retired nobody empty => exact ⟨rfl, rfl, nobody, empty⟩

/-- What a writer does with its batch is the next call for it. -/
theorem onward (booked : outbox.Booked done current last) {batch : Batch}
    (busy : outbox.writer.phase = .writing batch) {writer : Writer} {outlet next : Outlet}
    {events : List Event} (moved : outbox.writer.step outlet = some (writer, next, events)) :
    ∃ shipment, current = some shipment ∧ last = [] ∧ batch.frames = shipment.frames ∧
      Batch.Transcript shipment.frames (shipment.calls ++ events.filterMap Event.call?)
        writer.phase := by
  obtain ⟨shipment, rfl, rfl, transcript⟩ := booked.of_writing busy
  exact ⟨shipment, rfl, rfl, (transcript.underway rfl).same,
    (Writer.transcript_step (busy ▸ transcript) busy moved).1⟩

/-- A move of the writer keeps the books, with the batch that it begins, writes or completes. -/
theorem move (booked : outbox.Booked done current last) {writer : Writer} {outlet next : Outlet}
    {events : List Event} (moved : outbox.writer.step outlet = some (writer, next, events)) :
    ∃ done current last, Booked
      { outbox with writer := writer, calls := outbox.calls ++ events.filterMap Event.call? }
      done current last := by
  have stride := Writer.stride_of_step moved
  have alive := stride.isAlive
  cases stride with
  | gathered idle filled =>
    obtain ⟨rfl, rfl⟩ := booked.of_idle idle
    simp only [List.filterMap_nil, List.append_nil]
    exact ⟨_, _, _, booked.gather idle filled⟩
  | retired idle empty starved =>
    obtain ⟨rfl, rfl⟩ := booked.of_idle idle
    simp only [List.filterMap_nil, List.append_nil]
    exact ⟨done, none, [], booked.fed, booked.queued, booked.calls, booked.sized, booked.finished,
      .retired starved empty, fun _ => booked.counted alive⟩
  | advanced batch count _ busy left answered =>
    obtain ⟨shipment, rfl, rfl, _, transcript⟩ := booked.onward busy moved
    exact ⟨_, _, _, booked.proceed alive (.busy transcript)⟩
  | broken batch answer failure _ busy left answered failed =>
    obtain ⟨shipment, rfl, rfl, _, transcript⟩ := booked.onward busy moved
    exact ⟨_, _, _, booked.proceed alive (.broken transcript)⟩
  | completed batch _ busy used answered =>
    obtain ⟨shipment, rfl, rfl, same, transcript⟩ := booked.onward busy moved
    rw [same]
    exact ⟨_, _, _, booked.complete alive transcript⟩
  | unflushed batch fault _ busy used answered =>
    obtain ⟨shipment, rfl, rfl, _, transcript⟩ := booked.onward busy moved
    exact ⟨_, _, _, booked.proceed alive (.broken transcript)⟩
  | ended fault _ ending answered =>
    obtain ⟨rfl, rfl, nobody, empty⟩ := booked.of_shuttingDown ending
    refine ⟨done, none, [.shutdown fault], booked.fed, booked.queued, ?_, booked.sized,
      booked.finished, .closed fault nobody empty, fun still => by cases still⟩
    simp [booked.calls, Event.call?]

/-- A handle that is shared was held. -/
theorem share (booked : outbox.Booked done current last) (held : 0 < outbox.handles) :
    Booked { outbox with handles := outbox.handles + 1 } done current last := by
  refine ⟨?_, booked.queued, booked.calls, booked.sized, booked.finished, booked.standing,
    booked.counted⟩
  simpa [held] using booked.fed

/-- Every turn keeps the books. -/
theorem take (booked : outbox.Booked done current last) (turn : Turn) :
    ∃ done current last, (outbox.take turn).Booked done current last := by
  cases turn with
  | share =>
    simp only [Outbox.take]
    split
    · next held => exact ⟨done, current, last, booked.share held⟩
    · exact ⟨done, current, last, booked⟩
  | release => exact ⟨done, current, last, booked.release⟩
  | send frame =>
    simp only [Outbox.take]
    split
    · next held given =>
      exact ⟨done, current, last, booked.send (held ▸ Nat.succ_pos _) given⟩
    · exact ⟨done, current, last, booked⟩
  | move outlet =>
    simp only [Outbox.take]
    split
    · next moved => exact booked.move moved
    · exact ⟨done, current, last, booked⟩
  | stop => exact ⟨done, current, last, booked.stop⟩

/-- So does a run. -/
theorem run (booked : outbox.Booked done current last) (turns : List Turn) :
    ∃ done current last, (outbox.run turns).Booked done current last := by
  induction turns generalizing outbox done current last with
  | nil => exact ⟨done, current, last, booked⟩
  | cons turn rest inductionHypothesis =>
    obtain ⟨_, _, _, after⟩ := booked.take turn
    exact inductionHypothesis after

end Booked

/-- No call has failed, but for the last one of a writer that has ended with this failure. -/
inductive Answered : List Call → WriterPhase → Prop
  | ongoing {calls : List Call} {phase : WriterPhase}
      (succeeded : ∀ call ∈ calls, call.failure? = none)
      (unended : ∀ failure, phase ≠ .ended failure) : Answered calls phase
  | ended {calls : List Call} (succeeded : ∀ call ∈ calls, call.failure? = none) (call : Call) :
      Answered (calls ++ [call]) (.ended call.failure?)

namespace Answered

variable {front calls : List Call} {phase : WriterPhase}

/-- A writer that has not ended has met no failure. -/
theorem succeeded (answered : Answered calls phase) (unended : ∀ failure, phase ≠ .ended failure) :
    ∀ call ∈ calls, call.failure? = none := by
  cases answered with
  | ongoing succeeded => exact succeeded
  | ended => exact absurd rfl (unended _)

/-- Calls that have not failed can stand in front. -/
theorem behind (answered : Answered calls phase)
    (succeeded : ∀ call ∈ front, call.failure? = none) : Answered (front ++ calls) phase := by
  cases answered with
  | ongoing later unended => exact .ongoing (List.forall_mem_append.mpr ⟨succeeded, later⟩) unended
  | ended later call =>
    rw [← List.append_assoc]
    exact .ended (List.forall_mem_append.mpr ⟨succeeded, later⟩) call

/-- No call for a batch has failed but for one that ended the writer. -/
theorem of_transcript {frames : List Octets} (transcript : Batch.Transcript frames calls phase) :
    Answered calls phase := by
  have accepting {calls : List Call} {batch : Batch}
      (busy : Batch.Transcript frames calls (.writing batch)) :
      ∀ call ∈ calls, call.failure? = none := fun call member =>
    (Call.write_of_isAccepting ((busy.underway rfl).accepting call member)).2
  obtain ⟨written, rfl⟩ | ⟨earlier, written, last, rfl, busy, _, ending⟩ :=
    transcript.writing_or_last
  · exact .ongoing (accepting transcript) (by simp)
  · obtain ⟨rfl, rfl⟩ | ⟨error, rfl, failed⟩ := ending
    · have flushed : ∀ call ∈ [Call.flush none], call.failure? = none := by simp [Call.failure?]
      exact .ongoing (List.forall_mem_append.mpr ⟨accepting busy, flushed⟩) (by simp)
    · exact failed ▸ .ended (accepting busy) last

/-- Nothing is called behind a call that has failed, and the writer has ended with its failure. -/
theorem of_failure (answered : Answered calls phase) {call : Call} {rest : List Call}
    {error : LinkError} (split : calls = front ++ call :: rest)
    (failed : call.failure? = some error) : rest = [] ∧ phase = .ended (some error) := by
  have unfailed {others : List Call} (succeeded : ∀ call ∈ others, call.failure? = none) :
      call ∉ others := fun member => by cases (succeeded call member).symm.trans failed
  cases answered with
  | ongoing succeeded => exact absurd (by simp [split]) (unfailed succeeded)
  | ended succeeded =>
    obtain ⟨nothing, _, rfl⟩ | ⟨others, _, rfl⟩ := Batch.Transcript.eq_or_mem_of_append split
    · exact ⟨nothing, congrArg _ failed⟩
    · exact absurd (by simp) (unfailed succeeded)

/-- A writer that has ended has made a last call, and ended with what it came to. -/
theorem of_ended (answered : Answered calls phase) {failure : Option LinkError}
    (ended : phase = .ended failure) : calls.getLast?.bind Call.failure? = failure := by
  cases answered with
  | ongoing _ unended => exact absurd ended (unended failure)
  | ended _ call =>
    rw [List.getLast?_concat]
    exact WriterPhase.ended.inj ended

end Answered

/-- A writer has met no failure but the one that it has ended with. -/
theorem Standing.answered {fed : Bool} {inbox : List Octets} {phase : WriterPhase}
    (standing : Standing fed inbox current last phase) :
    Answered (current.toList.flatMap Shipment.calls ++ last) phase := by
  cases standing with
  | idle | retired => exact .ongoing (by simp) (by simp)
  | busy transcript | broken transcript => simpa using Answered.of_transcript transcript
  | closed fault =>
    have nothing : ∀ call ∈ ([] : List Call), call.failure? = none := by simp
    exact .ended nothing (.shutdown fault)
  | stopped begun =>
    refine .ongoing ?_ (by simp)
    rw [List.append_nil]
    intro call member
    obtain ⟨shipment, there, member⟩ := List.mem_flatMap.mp member
    obtain ⟨batch, transcript⟩ := begun shipment (Option.mem_toList.mp there)
    exact (Answered.of_transcript transcript).succeeded (by simp) call member

/-- So no call of an outbox has failed, but for the last one. -/
theorem Booked.answered (booked : outbox.Booked done current last) :
    Answered outbox.calls outbox.writer.phase := by
  rw [booked.calls]
  refine booked.standing.answered.behind fun call member => ?_
  obtain ⟨shipment, there, member⟩ := List.mem_flatMap.mp member
  exact (Answered.of_transcript (booked.finished shipment there)).succeeded (by simp) call member

/-- A writer that is gone takes no frame and makes no call, -/
theorem take_of_gone (gone : outbox.writer.isAlive = false) (turn : Turn) :
    (outbox.take turn).queued = outbox.queued ∧ (outbox.take turn).calls = outbox.calls ∧
      (outbox.take turn).writer.phase = outbox.writer.phase := by
  cases turn with
  | share =>
    rw [take]
    split <;> exact ⟨rfl, rfl, rfl⟩
  | release =>
    refine ⟨rfl, rfl, ?_⟩
    rw [take]
    split <;> rfl
  | send frame => simp [take, Writer.hand, gone]
  | move outlet =>
    rw [take]
    split
    · next moved => cases gone.symm.trans (Writer.stride_of_step moved).isAlive
    · exact ⟨rfl, rfl, rfl⟩
  | stop => simp [take, Writer.abort, gone]

/-- and stays so. -/
theorem run_of_gone (gone : outbox.writer.isAlive = false) (turns : List Turn) :
    (outbox.run turns).queued = outbox.queued ∧ (outbox.run turns).calls = outbox.calls ∧
      (outbox.run turns).writer.phase = outbox.writer.phase := by
  induction turns generalizing outbox with
  | nil => exact ⟨rfl, rfl, rfl⟩
  | cons turn rest inductionHypothesis =>
    obtain ⟨queued, calls, phase⟩ := outbox.take_of_gone gone turn
    have still : (outbox.take turn).writer.isAlive = false := by
      rw [Writer.isAlive, phase]
      exact gone
    obtain ⟨queued', calls', phase'⟩ := inductionHypothesis still
    exact ⟨queued'.trans queued, calls'.trans calls, phase'.trans phase⟩

/-- What a writer has made of the frames that were queued. -/
structure Exact (outbox : Outbox) (done : List Shipment) (current : Option Shipment)
    (last : List Call) : Prop where
  /-- The frames of the batches, and behind them those that wait, are the frames that were queued,
  in the same order. -/
  queued : outbox.queued = done.flatMap Shipment.frames ++ outbox.unfinished current
  /-- The stream is called for one batch after the other, and then once more at most. -/
  calls : outbox.calls =
    done.flatMap Shipment.calls ++ (current.toList.flatMap Shipment.calls ++ last)
  sized : ∀ shipment ∈ done ++ current.toList,
    1 ≤ shipment.frames.length ∧ shipment.frames.length ≤ 64
  /-- A batch is done when it was written to its end and flushed, once. -/
  complete : ∀ shipment ∈ done, Batch.Exact shipment.frames shipment.calls .idle ∧
    ∃ writes, shipment.calls = writes ++ [.flush none] ∧
      (∀ call ∈ writes, call.isAccepting = true) ∧
      writes.flatMap Call.accepted = shipment.frames.flatten
  /-- The batch that was begun is being written, or was broken off where the writer has ended or was
  stopped. -/
  begun : ∀ shipment ∈ current, ∃ phase, phase ≠ .idle ∧
    Batch.Exact shipment.frames shipment.calls phase ∧
    (outbox.writer.phase = phase ∨ outbox.writer.phase = .aborted)
  last : last = [] ∨ ∃ fault, last = [.shutdown fault]
  /-- A shutdown is the last call, and the writer ends with it. It is made when there is no handle
  any more and all batches are done, with every frame that was queued. -/
  shutdown : ∀ {front fault rest}, outbox.calls = front ++ .shutdown fault :: rest →
    rest = [] ∧ front = done.flatMap Shipment.calls ∧ outbox.handles = 0 ∧
      outbox.queued = done.flatMap Shipment.frames ∧
      outbox.writer.phase = .ended (fault.map LinkError.io)
  /-- The writer ends without a failure behind a shutdown only. -/
  success : outbox.writer.phase = .ended none →
    outbox.calls = done.flatMap Shipment.calls ++ [.shutdown none] ∧
      outbox.queued = done.flatMap Shipment.frames
  /-- A call that fails is the last one, and the writer ends with its failure. -/
  failed : ∀ {front call rest error}, outbox.calls = front ++ call :: rest →
    call.failure? = some error → rest = [] ∧ outbox.writer.phase = .ended (some error)
  /-- There is no other way for it to end with a failure. -/
  failure : ∀ {error}, outbox.writer.phase = .ended (some error) →
    outbox.calls.getLast?.bind Call.failure? = some error
  /-- While the writer is there, it counts the frames that were queued and are in no batch that is
  done. -/
  counted : outbox.writer.isAlive = true →
    outbox.writer.unwritten = (outbox.unfinished current).length.toUInt64
  /-- If a word can hold their number, that is the count, and no batch takes more off it than there
  is. -/
  number : outbox.writer.isAlive = true → (outbox.unfinished current).length < UInt64.size →
    outbox.writer.unwritten.toNat = (outbox.unfinished current).length ∧
      ∀ batch, outbox.writer.phase = .writing batch →
        batch.frames.length ≤ outbox.writer.unwritten.toNat

/-- A batch that is done was written to its end by calls of which something was accepted, and
flushed behind them. -/
theorem flushed_of_transcript {frames : List Octets} {calls : List Call}
    (transcript : Batch.Transcript frames calls .idle) :
    ∃ writes, calls = writes ++ [.flush none] ∧ (∀ call ∈ writes, call.isAccepting = true) ∧
      writes.flatMap Call.accepted = frames.flatten := by
  obtain ⟨_, busy⟩ | ⟨writes, _, last, made, busy, due, ending⟩ := transcript.writing_or_last
  · cases busy
  · obtain ⟨_, rfl⟩ | ⟨_, ended, _⟩ := ending
    · exact ⟨writes, made, (busy.underway rfl).accepting, busy.accepted_of_due due⟩
    · cases ended

namespace Standing

variable {fed : Bool} {inbox : List Octets} {phase : WriterPhase}

/-- A batch that was begun has had some calls, and the writer goes on with it unless it was
stopped. -/
theorem begun (standing : Standing fed inbox current last phase) {shipment : Shipment}
    (there : shipment ∈ current) : ∃ reached, reached ≠ .idle ∧
      Batch.Exact shipment.frames shipment.calls reached ∧
      (phase = reached ∨ phase = .aborted) := by
  cases standing with
  | busy transcript | broken transcript =>
    obtain rfl := Option.mem_some.mp there
    exact ⟨_, by simp, transcript.exact, .inl rfl⟩
  | stopped begun =>
    obtain ⟨batch, transcript⟩ := begun shipment there
    exact ⟨_, by simp, transcript.exact, .inr rfl⟩
  | idle | retired | closed => cases there

/-- A call behind all batches is the shutdown, made when nothing was left, and the writer has
ended. -/
theorem eq_of_last (standing : Standing fed inbox current last phase) (called : last ≠ []) :
    ∃ fault, last = [.shutdown fault] ∧ fed = false ∧ inbox = [] ∧ current = none ∧
      phase = .ended (fault.map LinkError.io) := by
  cases standing with
  | closed fault nobody empty => exact ⟨fault, rfl, nobody, empty, rfl, rfl⟩
  | _ => exact absurd rfl called

/-- A writer that has ended well has shut the stream down. -/
theorem last_ne_nil (standing : Standing fed inbox current last phase)
    (ended : phase = .ended none) : last ≠ [] := by
  cases standing with
  | closed => simp
  | _ => cases ended

end Standing

/-- For a batch the stream is not shut down. -/
theorem not_shutdown_of_mem {shipment : Shipment} {phase : WriterPhase} {fault : Option IoFault}
    (exact : Batch.Exact shipment.frames shipment.calls phase) :
    .shutdown fault ∉ shipment.calls := by
  intro member
  obtain ⟨_, _, write⟩ | ⟨⟨_, flush⟩, _⟩ := exact.others _ member
  · cases write
  · cases flush

namespace Booked

/-- When the stream is shut down all batches are done, and nothing is left behind them. -/
theorem of_last (booked : outbox.Booked done current last) (called : last ≠ []) :
    ∃ fault, outbox.calls = done.flatMap Shipment.calls ++ [.shutdown fault] ∧
      outbox.handles = 0 ∧ outbox.queued = done.flatMap Shipment.frames ∧
      outbox.writer.phase = .ended (fault.map LinkError.io) := by
  obtain ⟨fault, rfl, nobody, empty, rfl, ended⟩ := booked.standing.eq_of_last called
  have fed := booked.fed
  rw [nobody] at fed
  refine ⟨fault, by simp [booked.calls], by simpa using fed, ?_, ended⟩
  simp [booked.queued, unfinished, empty]

/-- A shutdown is made behind all batches. -/
theorem of_shutdown (booked : outbox.Booked done current last) {fault : Option IoFault}
    (member : .shutdown fault ∈ outbox.calls) : last ≠ [] := by
  rintro rfl
  rw [booked.calls, List.append_nil, List.mem_append] at member
  obtain member | member := member
  · obtain ⟨shipment, there, called⟩ := List.mem_flatMap.mp member
    exact not_shutdown_of_mem (booked.finished shipment there).exact called
  · obtain ⟨shipment, there, called⟩ := List.mem_flatMap.mp member
    obtain ⟨_, _, exact, _⟩ := booked.standing.begun (Option.mem_toList.mp there)
    exact not_shutdown_of_mem exact called

/-- The books say what the writer has made of the frames. -/
theorem exact (booked : outbox.Booked done current last) : outbox.Exact done current last where
  queued := booked.queued
  calls := booked.calls
  sized := booked.sized
  complete shipment member :=
    have transcript := booked.finished shipment member
    ⟨transcript.exact, flushed_of_transcript transcript⟩
  begun shipment there := booked.standing.begun there
  last := by
    refine (em (last = [])).imp_right fun called => ?_
    obtain ⟨fault, made, _⟩ := booked.standing.eq_of_last called
    exact ⟨fault, made⟩
  shutdown {front fault rest} split := by
    have member : .shutdown fault ∈ outbox.calls := by rw [split]; simp
    obtain ⟨fault', calls, none, queued, ended⟩ := booked.of_last (booked.of_shutdown member)
    obtain ⟨nothing, front, same⟩ | ⟨others, _, earlier⟩ :=
      Batch.Transcript.eq_or_mem_of_append (calls.symm.trans split)
    · cases same
      exact ⟨nothing, front, none, queued, ended⟩
    · have member : .shutdown fault ∈ done.flatMap Shipment.calls := by rw [earlier]; simp
      obtain ⟨shipment, there, called⟩ := List.mem_flatMap.mp member
      exact absurd called (not_shutdown_of_mem (booked.finished shipment there).exact)
  success ended := by
    obtain ⟨fault, calls, _, queued, phase⟩ :=
      booked.of_last (booked.standing.last_ne_nil ended)
    obtain rfl : fault = none :=
      Option.map_eq_none_iff.mp (WriterPhase.ended.inj (phase.symm.trans ended))
    exact ⟨calls, queued⟩
  failed split := booked.answered.of_failure split
  failure ended := booked.answered.of_ended ended
  counted := booked.counted
  number alive small := by
    have count : outbox.writer.unwritten.toNat = (outbox.unfinished current).length := by
      rw [booked.counted alive]
      exact UInt64.toNat_ofNat_of_lt' small
    refine ⟨count, fun batch busy => ?_⟩
    obtain ⟨shipment, rfl, _, transcript⟩ := booked.of_writing busy
    have same : batch.frames = shipment.frames := (transcript.underway rfl).same
    rw [count, same]
    simp [unfinished]

end Booked

/-- A writer keeps its frames together and in order, and its calls apart. Take any frames, through
any handles, a writer that moves at any time, and a stream that answers anything. What was queued
are the batches that are done, the batch that was begun, and the frames that wait, in this order.
Each batch has from 1 to 64 frames, and those that are done were written to their end and flushed
once, one before the next. The stream is shut down behind them once at most, when there is neither a
handle nor a frame left; a writer that ends without a failure has done so. The first call that fails
is the last one, and the writer ends with its failure. While it is there, its count is the number of
frames in no batch that is done, and never passes below zero. A writer that is gone stays as it
is. -/
theorem exact_run (turns : List Turn) :
    let outbox := Outbox.new.run turns
    (∃ done current last, outbox.Exact done current last) ∧
      (outbox.writer.isAlive = false → ∀ more, (outbox.run more).queued = outbox.queued ∧
        (outbox.run more).calls = outbox.calls ∧
        (outbox.run more).writer.phase = outbox.writer.phase) := by
  intro outbox
  obtain ⟨done, current, last, booked⟩ := Booked.new.run turns
  exact ⟨⟨done, current, last, booked.exact⟩, outbox.run_of_gone⟩

/-- A frame that comes while a batch is being written goes into the next one. -/
example : (Outbox.new.run [.send [1], .send [2], .move .unlimited, .send [3], .release,
    .move { Outlet.unlimited with perCall := some 1 }, .move .unlimited, .move .unlimited,
    .move .unlimited, .move .unlimited, .move .unlimited, .move .unlimited,
    .move .unlimited]).calls =
      [.write [[1], [2]] (.accepted 1), .write [[2]] (.accepted 1), .flush none,
        .write [[3]] (.accepted 1), .flush none, .shutdown none] := by decide

/-! ## The writer of a session -/

/-- A session holds its writer by one handle, until it lets go of it. -/
structure Serves (outbox : Outbox) (dispatch : Dispatch) : Prop where
  single : outbox.handles ≤ 1
  writer : outbox.writer = dispatch.writer
  queued : outbox.queued = dispatch.handed
  calls : outbox.calls = dispatch.calls

/-- Every move of the writing half of a session is made of turns, if nothing is taken any more once
nobody holds the writer. -/
theorem Serves.next {dispatch after : Dispatch} (serves : outbox.Serves dispatch)
    (booked : outbox.Booked done current last)
    (released : dispatch.writer.fed = false → after.taken = dispatch.taken)
    (moved : dispatch.Next after) : ∃ turns, (outbox.run turns).Serves after := by
  obtain ⟨single, writer, queued, calls⟩ := serves
  have alone : ¬ 1 < outbox.handles := Nat.not_lt_of_le single
  cases moved with
  | same | lost | outletChanged => exact ⟨[], single, writer, queued, calls⟩
  | handed ticket frame next given =>
    -- What is handed over was taken, so the session still holds the writer.
    have held : outbox.handles = 1 := by
      by_contra none
      have nobody : dispatch.writer.fed = false := by
        rw [← writer, booked.fed]
        exact decide_eq_false (by omega)
      simpa using released nobody
    refine ⟨[.send frame], ?_⟩
    simp only [run, List.foldl_cons, List.foldl_nil, take, held, writer, given]
    exact ⟨Nat.le_refl 1, rfl, congrArg (· ++ [frame]) queued, calls⟩
  | starved =>
    refine ⟨[.release], ?_⟩
    simp only [run, List.foldl_cons, List.foldl_nil, take, alone, if_false, writer]
    exact ⟨Nat.le_trans (Nat.sub_le _ _) single, rfl, queued, calls⟩
  | aborted =>
    refine ⟨[.stop], ?_⟩
    simp only [run, List.foldl_cons, List.foldl_nil, take, writer]
    exact ⟨single, rfl, queued, calls⟩
  | stopped =>
    refine ⟨[.release, .stop], ?_⟩
    simp only [run, List.foldl_cons, List.foldl_nil, take, alone, if_false, writer]
    exact ⟨Nat.le_trans (Nat.sub_le _ _) single, rfl, queued, calls⟩
  | wrote next outlet events moved =>
    refine ⟨[.move dispatch.outlet], ?_⟩
    simp only [run, List.foldl_cons, List.foldl_nil, take, writer, moved]
    exact ⟨single, rfl, queued, congrArg (· ++ events.filterMap Event.call?) calls⟩

end Outbox

/-- So whatever holds of outboxes holds of the writer of a session, with the frames that the session
handed over and the calls that were made on its stream. -/
theorem Session.Reachable.exists_outbox {settings : Settings} {session : Session}
    (reachable : Reachable settings session) :
    ∃ turns, (Outbox.new.run turns).Serves session.dispatch := by
  apply reachable.kept fun session => ∃ turns, (Outbox.new.run turns).Serves session.dispatch
  · rintro _ ⟨outlet, task, _, rfl⟩
    exact ⟨[], Nat.le_refl 1, rfl, rfl, rfl⟩
  · rintro before after accepting reached _ becomes ⟨turns, serves⟩
    obtain ⟨_, _, _, booked⟩ := Outbox.Booked.new.run turns
    obtain ⟨more, serves⟩ := serves.next booked (reached.taken_of_released becomes)
      (dispatch_next (connected_of_running reached.sound) becomes)
    refine ⟨turns ++ more, ?_⟩
    rw [Outbox.run, List.foldl_append]
    exact serves

end Antiphon
