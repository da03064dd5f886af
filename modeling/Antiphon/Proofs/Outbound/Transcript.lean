import Antiphon.Proofs.Outbound.Slices
import Antiphon.Proofs.Session.Dispatch
import Mathlib.Data.List.Forall2

/-!
# The calls for one batch

A writer that has formed a batch writes it to the end before it does anything else. `Transcript`
tells which calls it makes for that, and what it does next: it offers all that the stream has not
accepted, until nothing is left, and flushes once; the first failure is the end of it.

The stream can be found in any state whenever it is asked (`Writer.writeBatch`), so that it gives
whatever answers keep to the offers: a writer over a stream makes a transcript, and every transcript
is made over some stream.
-/

namespace Antiphon

/-- The failure that an answer is to the writer. -/
def Call.failure? : Call → Option LinkError
  | .write _ (.accepted 0) => some (.io Batch.nothingAccepted)
  | .write _ (.accepted (_ + 1)) => none
  | .write _ (.failed fault) => some (.io fault)
  | .flush fault | .shutdown fault => fault.map LinkError.io

/-- Whether a call has made the stream accept something. -/
def Call.isAccepting : Call → Bool
  | .write _ (.accepted (_ + 1)) => true
  | _ => false

namespace Call

/-- A call of which something was accepted is a write call that has not failed. -/
theorem write_of_isAccepting {call : Call} (accepting : call.isAccepting = true) :
    (∃ slices answer, call = .write slices answer) ∧ call.failure? = none := by
  unfold isAccepting at accepting
  split at accepting
  · exact ⟨⟨_, _, rfl⟩, rfl⟩
  · cases accepting

/-- Of a call that has failed nothing was accepted. -/
theorem accepted_of_failure {call : Call} {error : LinkError}
    (failed : call.failure? = some error) : call.isAccepting = false ∧ call.accepted = [] := by
  unfold failure? at failed
  split at failed <;> first | exact ⟨rfl, rfl⟩ | cases failed

end Call

namespace Outlet

/-- Every answer can be had that accepts no more than was offered, and no other. -/
theorem exists_write_iff (offered : Nat) (answer : WriteAnswer) :
    (∃ outlet next : Outlet, outlet.write offered = some (answer, next)) ↔
      ∀ count, answer = .accepted count → count ≤ offered := by
  constructor
  · rintro ⟨outlet, next, answered⟩ count rfl
    exact count_le_of_write answered
  · intro kept
    cases answer with
    | failed fault => exact ⟨{ unlimited with writeFault := some fault }, _, rfl⟩
    | accepted count =>
      have most : min offered count = count := Nat.min_eq_right (kept count rfl)
      let outlet : Outlet := { unlimited with perCall := some count }
      refine ⟨outlet, outlet, ?_⟩
      simp [outlet, write, unlimited, within, most]

end Outlet

namespace Batch

/-- The call that the writer makes when that many octets are written: it offers what is left, and
flushes when nothing is. -/
inductive Due (frames : List Octets) (written : Nat) : Call → Prop
  | write (left : slicesAfter written frames ≠ []) (answer : WriteAnswer) :
      Due frames written (.write (slicesAfter written frames) answer)
  | flush (used : slicesAfter written frames = []) (fault : Option IoFault) :
      Due frames written (.flush fault)

/-- The calls that are made for a batch of frames, and what the writer does after them. -/
inductive Transcript (frames : List Octets) : List Call → WriterPhase → Prop
  | begun : Transcript frames [] (.writing (start frames))
  | accepted {calls : List Call} {written : Nat} (count : Nat)
      (earlier : Transcript frames calls (.writing ⟨frames, written⟩))
      (left : slicesAfter written frames ≠ [])
      (within : count + 1 ≤ (slicesAfter written frames).flatten.length) :
      Transcript frames (calls ++ [.write (slicesAfter written frames) (.accepted (count + 1))])
        (.writing ⟨frames, written + (count + 1)⟩)
  | flushed {calls : List Call} {written : Nat}
      (earlier : Transcript frames calls (.writing ⟨frames, written⟩))
      (used : slicesAfter written frames = []) :
      Transcript frames (calls ++ [.flush none]) .idle
  | failed {calls : List Call} {written : Nat} {call : Call} (error : LinkError)
      (earlier : Transcript frames calls (.writing ⟨frames, written⟩))
      (due : Due frames written call) (failed : call.failure? = some error) :
      Transcript frames (calls ++ [call]) (.ended (some error))

/-- Every slice is what is left of a frame of its own, in the order of the frames. -/
theorem exists_sublist_slicesAfter (skip : Nat) (frames : List Octets) :
    ∃ kept, kept.Sublist frames ∧ List.Forall₂ (· <:+ ·) (slicesAfter skip frames) kept := by
  induction frames generalizing skip with
  | nil => exact ⟨[], List.Sublist.refl _, .nil⟩
  | cons frame rest inductionHypothesis =>
    rw [slicesAfter]
    split
    · obtain ⟨kept, part, suffixes⟩ := inductionHypothesis (skip - frame.length)
      exact ⟨kept, part.cons frame, suffixes⟩
    · obtain ⟨kept, part, suffixes⟩ := inductionHypothesis 0
      exact ⟨frame :: kept, part.cons_cons frame, .cons (List.drop_suffix skip frame) suffixes⟩

/-- A batch of which nothing is left has been accepted to its end. -/
theorem le_of_slicesAfter_eq_nil {skip : Nat} {frames : List Octets}
    (used : slicesAfter skip frames = []) : frames.flatten.length ≤ skip := by
  have nothing := flatten_slicesAfter skip frames
  rw [used] at nothing
  exact List.drop_eq_nil_iff.mp nothing.symm

/-- What the calls for a batch have come to while it is being written. Every one of them has made
the stream accept something, and the batch tells how much that was. -/
structure Underway (frames : List Octets) (calls : List Call) (batch : Batch) : Prop where
  same : batch.frames = frames
  accepted : calls.flatMap Call.accepted = frames.flatten.take batch.written
  within : batch.written ≤ frames.flatten.length
  accepting : ∀ call ∈ calls, call.isAccepting = true
  short : calls.length ≤ batch.written

namespace Transcript

variable {frames : List Octets} {calls front rest : List Call} {call : Call}
  {phase : WriterPhase}

/-- In the middle of a batch every call has made the stream accept something. -/
theorem underway (transcript : Transcript frames calls phase) {batch : Batch}
    (busy : phase = .writing batch) : Underway frames calls batch := by
  induction transcript generalizing batch with
  | begun =>
    cases busy
    exact ⟨rfl, rfl, Nat.zero_le _, by simp, Nat.le_refl _⟩
  | @accepted calls written count earlier left within inductionHypothesis =>
    cases busy
    obtain ⟨_, total, _, accepting, short⟩ := inductionHypothesis rfl
    simp only [flatten_slicesAfter, List.length_drop] at within
    constructor
    · rfl
    · rw [List.flatMap_append, total, List.take_add, ← flatten_slicesAfter]
      exact congrArg _ (List.append_nil _)
    · change written + (count + 1) ≤ _
      omega
    · rw [List.forall_mem_append]
      exact ⟨accepting, by simp [Call.isAccepting]⟩
    · rw [List.length_append, List.length_singleton]
      change calls.length ≤ written at short
      change calls.length + 1 ≤ written + (count + 1)
      omega
  | flushed | failed => cases busy

/-- So the octets that were accepted are those that are not left. -/
theorem written_eq {written : Nat}
    (transcript : Transcript frames calls (.writing ⟨frames, written⟩)) :
    (calls.flatMap Call.accepted).length = written := by
  have underway := transcript.underway rfl
  rw [underway.accepted, List.length_take]
  exact Nat.min_eq_left underway.within

/-- The last call of a list with something behind is one of the front. -/
theorem eq_or_mem_of_append {earlier : List Call} {last : Call}
    (split : earlier ++ [last] = front ++ call :: rest) :
    (rest = [] ∧ front = earlier ∧ call = last) ∨
      ∃ others, rest = others ++ [last] ∧ earlier = front ++ call :: others := by
  rcases List.eq_nil_or_concat rest with rfl | ⟨others, final, rfl⟩
  · obtain ⟨rfl, same⟩ := List.append_inj' split rfl
    exact .inl ⟨rfl, rfl, (List.cons.inj same).1.symm⟩
  · rw [List.concat_eq_append, ← List.cons_append, ← List.append_assoc] at split
    obtain ⟨rfl, same⟩ := List.append_inj' split rfl
    obtain rfl : last = final := (List.cons.inj same).1
    exact .inr ⟨others, List.concat_eq_append, rfl⟩

/-- A writer that goes no further with its batch has made a last call, of which nothing was
accepted: the flush has succeeded, or the call has failed. -/
theorem writing_or_last (transcript : Transcript frames calls phase) :
    (∃ written, phase = .writing ⟨frames, written⟩) ∨
      ∃ earlier written last, calls = earlier ++ [last] ∧
        Transcript frames earlier (.writing ⟨frames, written⟩) ∧ Due frames written last ∧
        (phase = .idle ∧ last = .flush none ∨
          ∃ error, phase = .ended (some error) ∧ last.failure? = some error) := by
  cases transcript with
  | begun => exact .inl ⟨0, rfl⟩
  | accepted => exact .inl ⟨_, rfl⟩
  | flushed earlier used =>
    exact .inr ⟨_, _, _, rfl, earlier, .flush used none, .inl ⟨rfl, rfl⟩⟩
  | failed error earlier due failed =>
    exact .inr ⟨_, _, _, rfl, earlier, due, .inr ⟨error, rfl, failed⟩⟩

/-- Only a call of which something was accepted is followed by another one. -/
theorem isAccepting_of_followed (transcript : Transcript frames calls phase)
    (split : calls = front ++ call :: rest) (followed : rest ≠ []) :
    call.isAccepting = true := by
  obtain ⟨written, busy⟩ | ⟨earlier, written, last, rfl, busy, _⟩ := transcript.writing_or_last
  · exact (transcript.underway busy).accepting call (by simp [split])
  · obtain ⟨nothing, _, _⟩ | ⟨others, _, rfl⟩ := eq_or_mem_of_append split
    · exact absurd nothing followed
    · exact (busy.underway rfl).accepting call (by simp)

/-- Every write call offers what the calls before it have left. -/
theorem slices_eq (transcript : Transcript frames calls phase) {slices : List Octets}
    {answer : WriteAnswer} (split : calls = front ++ .write slices answer :: rest) :
    slices = slicesAfter (front.flatMap Call.accepted).length frames ∧ slices ≠ [] := by
  induction transcript generalizing rest with
  | begun => simp at split
  | accepted _ earlier left _ inductionHypothesis =>
    obtain ⟨_, rfl, same⟩ | ⟨_, _, before⟩ := eq_or_mem_of_append split
    · cases same
      rw [earlier.written_eq]
      exact ⟨rfl, left⟩
    · exact inductionHypothesis before
  | flushed _ _ inductionHypothesis =>
    obtain ⟨_, _, same⟩ | ⟨_, _, before⟩ := eq_or_mem_of_append split
    · cases same
    · exact inductionHypothesis before
  | failed _ earlier due _ inductionHypothesis =>
    obtain ⟨_, rfl, rfl⟩ | ⟨_, _, before⟩ := eq_or_mem_of_append split
    · cases due with
      | write left =>
        rw [earlier.written_eq]
        exact ⟨rfl, left⟩
    · exact inductionHypothesis before

/-- These are all the octets that were not accepted yet, and no slice is empty or shares its frame
with another one. -/
theorem offers (transcript : Transcript frames calls phase) {slices : List Octets}
    {answer : WriteAnswer} (split : calls = front ++ .write slices answer :: rest) :
    slices.flatten = frames.flatten.drop (front.flatMap Call.accepted).length ∧
      slices ≠ [] ∧ [] ∉ slices ∧
      ∃ kept, kept.Sublist frames ∧ List.Forall₂ (· <:+ ·) slices kept := by
  obtain ⟨rfl, left⟩ := transcript.slices_eq split
  exact ⟨flatten_slicesAfter _ _, left, fun empty => ne_nil_of_mem_slicesAfter empty rfl,
    exists_sublist_slicesAfter _ _⟩

/-- A flush is due when all was accepted. -/
theorem accepted_of_due {written : Nat} {fault : Option IoFault}
    (transcript : Transcript frames calls (.writing ⟨frames, written⟩))
    (due : Due frames written (.flush fault)) :
    calls.flatMap Call.accepted = frames.flatten := by
  have underway := transcript.underway rfl
  cases due with
  | flush used => rw [underway.accepted, List.take_of_length_le (le_of_slicesAfter_eq_nil used)]

end Transcript

/-- Which calls are made for a batch of frames, and what the writer does after them, told of the
octets. -/
structure Exact (frames : List Octets) (calls : List Call) (phase : WriterPhase) : Prop where
  /-- A write call offers all that was not accepted so far, in slices that are not empty, each of
  them the end of a frame of its own. -/
  offers : ∀ {front slices answer rest}, calls = front ++ .write slices answer :: rest →
    slices.flatten = frames.flatten.drop (front.flatMap Call.accepted).length ∧
      slices ≠ [] ∧ [] ∉ slices ∧
      ∃ kept, kept.Sublist frames ∧ List.Forall₂ (· <:+ ·) slices kept
  /-- What was accepted is the beginning of what the batch holds. -/
  accepted : calls.flatMap Call.accepted <+: frames.flatten
  /-- Only behind a call of which something was accepted there is another one. -/
  followed : ∀ {front call rest}, calls = front ++ call :: rest → rest ≠ [] →
    call.isAccepting = true
  /-- The batch is flushed when all was accepted, and the stream is not shut down. -/
  others : ∀ call ∈ calls, (∃ slices answer, call = .write slices answer) ∨
    ((∃ fault, call = .flush fault) ∧ calls.flatMap Call.accepted = frames.flatten)
  /-- The batch is done with if all was accepted and the flush behind it has succeeded. -/
  complete : phase = .idle ↔
    calls.flatMap Call.accepted = frames.flatten ∧ calls.getLast? = some (.flush none)
  /-- The writer ends if its last call has failed, with this failure. -/
  failed : ∀ error, phase = .ended (some error) ↔
    calls.getLast?.bind Call.failure? = some error
  /-- In any other case it goes on. -/
  underway : phase = .idle ∨ (∃ error, phase = .ended (some error)) ∨
    phase = .writing ⟨frames, (calls.flatMap Call.accepted).length⟩
  /-- Every call behind which the writer goes on takes an octet at least. -/
  short : calls.countP Call.isAccepting ≤ frames.flatten.length

namespace Transcript

variable {frames : List Octets} {calls : List Call} {call : Call} {phase : WriterPhase}
  {written : Nat}

/-- A batch that is being written. -/
theorem exact_of_writing (transcript : Transcript frames calls (.writing ⟨frames, written⟩)) :
    Exact frames calls (.writing ⟨frames, written⟩) := by
  obtain ⟨_, total, within, all, short⟩ := transcript.underway rfl
  have lastCall {call : Call} (last : calls.getLast? = some call) :=
    Call.write_of_isAccepting (all call (List.mem_of_getLast? last))
  refine ⟨transcript.offers, total ▸ List.take_prefix _ _, transcript.isAccepting_of_followed,
    fun call member => .inl (Call.write_of_isAccepting (all call member)).1, ?_, ?_, ?_, ?_⟩
  · refine ⟨(nomatch ·), fun flushed => ?_⟩
    obtain ⟨slices, answer, write⟩ := (lastCall flushed.2).1
    cases write
  · refine fun error => ⟨(nomatch ·), fun failed => ?_⟩
    obtain ⟨call, last, failure⟩ := Option.bind_eq_some_iff.mp failed
    cases (lastCall last).2.symm.trans failure
  · exact .inr (.inr (by rw [transcript.written_eq]))
  · exact Nat.le_trans List.countP_le_length (Nat.le_trans short within)

/-- A batch that was flushed, or broken off. -/
theorem exact_of_last (transcript : Transcript frames (calls ++ [call]) phase)
    (busy : Transcript frames calls (.writing ⟨frames, written⟩)) (due : Due frames written call)
    (ending : phase = .idle ∧ call = .flush none ∨
      ∃ error, phase = .ended (some error) ∧ call.failure? = some error) :
    Exact frames (calls ++ [call]) phase := by
  obtain ⟨_, total, within, all, short⟩ := busy.underway rfl
  have nothing : call.isAccepting = false ∧ call.accepted = [] := by
    obtain ⟨_, rfl⟩ | ⟨error, _, failed⟩ := ending
    · exact ⟨rfl, rfl⟩
    · exact Call.accepted_of_failure failed
  have same : (calls ++ [call]).flatMap Call.accepted = calls.flatMap Call.accepted := by
    simp [nothing.2]
  refine ⟨transcript.offers, same.trans total ▸ List.take_prefix _ _,
    transcript.isAccepting_of_followed, ?_, ?_, ?_, ?_, ?_⟩
  · intro one member
    rw [same]
    obtain before | last := List.mem_append.mp member
    · exact .inl (Call.write_of_isAccepting (all one before)).1
    · obtain rfl := List.mem_singleton.mp last
      cases due with
      | write left answer => exact .inl ⟨_, answer, rfl⟩
      | flush used fault => exact .inr ⟨⟨fault, rfl⟩, busy.accepted_of_due (.flush used fault)⟩
  · rw [same, List.getLast?_concat]
    obtain ⟨rfl, rfl⟩ | ⟨error, rfl, failed⟩ := ending
    · exact ⟨fun _ => ⟨busy.accepted_of_due due, rfl⟩, fun _ => rfl⟩
    · refine ⟨(nomatch ·), fun flushed => ?_⟩
      cases flushed.2
      cases failed
  · rw [List.getLast?_concat]
    obtain ⟨rfl, rfl⟩ | ⟨error, rfl, failed⟩ := ending
    · exact fun error => ⟨(nomatch ·), (nomatch ·)⟩
    · simp [failed]
  · obtain ⟨rfl, _⟩ | ⟨error, rfl, _⟩ := ending
    · exact .inl rfl
    · exact .inr (.inl ⟨error, rfl⟩)
  · have fewer : calls.countP Call.isAccepting ≤ calls.length := List.countP_le_length
    rw [List.countP_append, List.countP_cons_of_neg (by simp [nothing.1]), List.countP_nil]
    exact Nat.le_trans fewer (Nat.le_trans short within)

/-- The calls for a batch are told by the octets. -/
theorem exact (transcript : Transcript frames calls phase) : Exact frames calls phase := by
  obtain ⟨written, rfl⟩ | ⟨earlier, written, last, rfl, busy, due, ending⟩ :=
    transcript.writing_or_last
  · exact transcript.exact_of_writing
  · exact transcript.exact_of_last busy due ending

end Transcript

end Batch

namespace Writer

/-- The writer goes on with its batch, over a stream that is found in these states, one after the
other, whenever it is asked. A state in which it lets the writer wait is no answer. -/
def writeBatch (writer : Writer) : List Outlet → List Call × Writer
  | [] => ([], writer)
  | outlet :: rest =>
    match writer.phase, writer.step outlet with
    | .writing _, some (after, _, events) =>
      (events.filterMap Event.call? ++ (after.writeBatch rest).1, (after.writeBatch rest).2)
    | _, _ => writer.writeBatch rest

section Moves

variable {frames : List Octets} {writer : Writer} {calls : List Call}

/-- An answer that a batch cannot go on from is a failure to the writer. -/
theorem failure_of_after {batch : Batch} {answer : WriteAnswer} {failure : LinkError}
    (failed : batch.after answer = .error failure) (slices : List Octets) :
    (Call.write slices answer).failure? = some failure := by
  unfold Batch.after at failed
  split at failed
  · cases failed; rfl
  · cases failed; rfl
  · cases failed

/-- A move of a writer that has a batch makes the call that is due. -/
theorem transcript_step {after : Writer} {outlet next : Outlet} {events : List Event}
    (transcript : Batch.Transcript frames calls writer.phase) {batch : Batch}
    (busy : writer.phase = .writing batch)
    (moved : writer.step outlet = some (after, next, events)) :
    Batch.Transcript frames (calls ++ events.filterMap Event.call?) after.phase ∧
      ∀ later, after.phase = .writing later → later.unwritten.length < batch.unwritten.length := by
  obtain ⟨rfl, _, within, _, _⟩ := transcript.underway busy
  rw [busy] at transcript
  cases stride_of_step moved with
  | gathered idle | retired idle | ended _ _ idle =>
    exact absurd (busy.symm.trans idle) WriterPhase.noConfusion
  | advanced batch' count _ busy' left answered =>
    obtain rfl : batch = batch' := WriterPhase.writing.inj (busy.symm.trans busy')
    refine ⟨.accepted count transcript left (Outlet.count_le_of_write answered), ?_⟩
    rintro _ ⟨⟩
    have offered := Outlet.count_le_of_write answered
    rw [Batch.flatten_slices] at offered
    simp only [Batch.unwritten, List.length_drop] at offered ⊢
    omega
  | broken batch' answer failure _ busy' left answered failed =>
    obtain rfl : batch = batch' := WriterPhase.writing.inj (busy.symm.trans busy')
    exact ⟨.failed failure transcript (.write left answer) (failure_of_after failed _),
      fun _ later => by cases later⟩
  | completed batch' _ busy' used answered =>
    obtain rfl : batch = batch' := WriterPhase.writing.inj (busy.symm.trans busy')
    exact ⟨.flushed transcript used, fun _ later => by cases later⟩
  | unflushed batch' fault _ busy' used answered =>
    obtain rfl : batch = batch' := WriterPhase.writing.inj (busy.symm.trans busy')
    exact ⟨.failed _ transcript (.flush used (some fault)) rfl, fun _ later => by cases later⟩

/-- The states in which the stream is found can be told in two parts. -/
theorem writeBatch_append (writer : Writer) (front back : List Outlet) :
    writer.writeBatch (front ++ back) =
      ((writer.writeBatch front).1 ++ ((writer.writeBatch front).2.writeBatch back).1,
        ((writer.writeBatch front).2.writeBatch back).2) := by
  induction front generalizing writer with
  | nil => rfl
  | cons outlet rest inductionHypothesis =>
    rw [List.cons_append, writeBatch, writeBatch]
    split
    · next after _ _ _ _ => rw [inductionHypothesis after, List.append_assoc]
    · exact inductionHypothesis writer

/-- Every answer can be had to a write call that is due. -/
theorem exists_outlet_of_left {written : Nat} (busy : writer.phase = .writing ⟨frames, written⟩)
    (left : Batch.slicesAfter written frames ≠ []) {answer : WriteAnswer}
    (kept : ∀ count, answer = .accepted count →
      count ≤ (Batch.slicesAfter written frames).flatten.length) :
    ∃ outlet, (writer.writeBatch [outlet]).1 =
        [.write (Batch.slicesAfter written frames) answer] ∧
      (writer.writeBatch [outlet]).2.phase =
        match (⟨frames, written⟩ : Batch).after answer with
        | .ok batch => .writing batch
        | .error failure => .ended (some failure) := by
  obtain ⟨outlet, next, answered⟩ := (Outlet.exists_write_iff _ answer).mpr kept
  have moved : writer.step outlet =
      writer.writeSome ⟨frames, written⟩ (Batch.slicesAfter written frames) outlet := by
    simp only [step, busy, Batch.slices]
  refine ⟨outlet, ?_⟩
  cases result : (⟨frames, written⟩ : Batch).after answer <;>
    simp only [writeSome, answered, result] at moved <;>
    simp [writeBatch, busy, moved, finish, Event.call?]

/-- And so can every answer to a flush that is due. -/
theorem exists_outlet_of_used {written : Nat} (busy : writer.phase = .writing ⟨frames, written⟩)
    (used : Batch.slicesAfter written frames = []) (fault : Option IoFault) :
    ∃ outlet, (writer.writeBatch [outlet]).1 = [.flush fault] ∧
      (writer.writeBatch [outlet]).2.phase =
        match fault with
        | none => .idle
        | some fault => .ended (some (.io fault)) := by
  refine ⟨{ Outlet.unlimited with flushFault := fault }, ?_⟩
  cases fault <;>
    simp [writeBatch, busy, step, Batch.slices, used, completeBatch, Outlet.flush,
      Outlet.unlimited, finish, Event.call?]

/-- Every transcript is that of a writer over some stream. -/
theorem exists_writeBatch_of_transcript {phase : WriterPhase}
    (transcript : Batch.Transcript frames calls phase)
    (begun : writer.phase = .writing (Batch.start frames)) :
    ∃ outlets, (writer.writeBatch outlets).1 = calls ∧
      (writer.writeBatch outlets).2.phase = phase := by
  -- One more state of the stream, for the last call.
  have onward {earlier : List Call} {outlets : List Outlet} {last : Call} {phase : WriterPhase}
      (before : (writer.writeBatch outlets).1 = earlier)
      (one : ∃ outlet, ((writer.writeBatch outlets).2.writeBatch [outlet]).1 = [last] ∧
        ((writer.writeBatch outlets).2.writeBatch [outlet]).2.phase = phase) :
      ∃ outlets, (writer.writeBatch outlets).1 = earlier ++ [last] ∧
        (writer.writeBatch outlets).2.phase = phase := by
    obtain ⟨outlet, made, reached⟩ := one
    refine ⟨outlets ++ [outlet], ?_⟩
    rw [writeBatch_append, before, made, reached]
    exact ⟨rfl, rfl⟩
  induction transcript with
  | begun => exact ⟨[], rfl, begun⟩
  | accepted count _ left within inductionHypothesis =>
    obtain ⟨outlets, before, busy⟩ := inductionHypothesis
    refine onward before (exists_outlet_of_left busy left ?_)
    rintro _ ⟨⟩
    exact within
  | flushed _ used inductionHypothesis =>
    obtain ⟨outlets, before, busy⟩ := inductionHypothesis
    exact onward before (exists_outlet_of_used busy used none)
  | failed error _ due failed inductionHypothesis =>
    obtain ⟨outlets, before, busy⟩ := inductionHypothesis
    refine onward before ?_
    cases due with
    | flush used fault =>
      obtain ⟨fault, rfl, rfl⟩ := Option.map_eq_some_iff.mp failed
      exact exists_outlet_of_used busy used (some fault)
    | write left answer =>
      match answer, failed with
      | .failed fault, failed =>
        cases failed
        exact exists_outlet_of_left busy left (by simp)
      | .accepted 0, failed =>
        cases failed
        exact exists_outlet_of_left busy left (by simp)

end Moves

end Writer

end Antiphon
