import Antiphon.Proofs.Frame.Pushing

/-!
# Streams that break the framing

A stream breaks the framing where, read frame by frame from its start, it comes to a length above
the limit. `Frame.Breaches` says so by concatenation alone, and `fatal?` finds exactly that place.

A buffer that is pushed such a stream reports the length in the push that completes it. The length
is not consumed, so every later push meets it first, whatever its chunk holds: the octets behind it
are never read as anything. Only `clear` gets the buffer out of this state, and it leaves nothing of
what was accumulated. So a history of pushes and clears comes to a buffer that stands for the tail
of what was pushed since the last clear (`foldl_after`), and one more push is told by that alone.
-/

namespace Antiphon

namespace Frame

/-- Octets that are some allowed frames, then a length above the limit, and whatever follows it. -/
structure Breaches (limit : UInt32) (octets : Octets) (before : List Frame) (size : Nat)
    (behind : Octets) : Prop where
  written : octets = before.flatMap Frame.octets ++ (Octets.bigEndian size ++ behind)
  allowed : ∀ frame ∈ before, frame.size ≤ limit.toNat
  above : limit.toNat < size
  /-- The length is one that four octets can hold. -/
  whole : size < UInt32.size

/-- Four octets that hold a number above the limit are what a violation is. -/
theorem violation?_eq_some_iff {limit : UInt32} {octets : Octets} {oversized : Oversized} :
    violation? limit octets = some oversized ↔
      ∃ behind, octets = Octets.bigEndian oversized.size ++ behind ∧
        limit.toNat < oversized.size ∧ oversized.size < UInt32.size ∧
        oversized.limit = limit.toNat := by
  constructor
  · intro violated
    unfold violation? at violated
    cases read : octets.ofBigEndian? with
    | none => simp [read] at violated
    | some size =>
      by_cases above : limit.toNat < size
      · simp only [read, above, if_true, Option.some.injEq] at violated
        subst violated
        refine ⟨octets.drop 4, ?_, above, Octets.ofBigEndian?_lt read, rfl⟩
        rw [← Octets.take_eq_bigEndian_of_ofBigEndian? read, List.take_append_drop]
      · simp [read, above] at violated
  · rintro ⟨behind, rfl, above, whole, named⟩
    simp only [violation?, Octets.ofBigEndian?_bigEndian_append whole, above, if_true]
    rw [← named]

namespace Breaches

variable {limit : UInt32} {octets behind : Octets} {before : List Frame} {size : Nat}

/-- The octets from the length on are a violation, -/
theorem violation (breaches : Breaches limit octets before size behind) :
    violation? limit (Octets.bigEndian size ++ behind) = some ⟨size, limit.toNat⟩ :=
  violation?_eq_some_iff.mpr ⟨behind, rfl, breaches.above, breaches.whole, rfl⟩

/-- and they are the tail that the frames before them are cut from. -/
theorem cut_eq (breaches : Breaches limit octets before size behind) :
    cut limit octets = (before, Octets.bigEndian size ++ behind) := by
  rw [breaches.written, cut_frames_append breaches.allowed,
    cut_of_violation? breaches.violation, List.append_nil]

/-- More octets only come behind the length. -/
theorem append (breaches : Breaches limit octets before size behind) (more : Octets) :
    Breaches limit (octets ++ more) before size (behind ++ more) where
  written := by rw [breaches.written, List.append_assoc, List.append_assoc]
  allowed := breaches.allowed
  above := breaches.above
  whole := breaches.whole

end Breaches

/-- What is fatal to a stream is the length that breaks its framing. -/
theorem fatal?_eq_some_iff {limit : UInt32} {octets : Octets} {oversized : Oversized} :
    fatal? limit octets = some oversized ↔
      ∃ before behind, Breaches limit octets before oversized.size behind ∧
        oversized.limit = limit.toNat := by
  constructor
  · intro fatal
    obtain ⟨behind, tail, above, whole, named⟩ := violation?_eq_some_iff.mp fatal
    obtain ⟨joined, allowed, _⟩ := cut_spec limit octets
    rw [tail] at joined
    exact ⟨(cut limit octets).1, behind, ⟨joined, allowed, above, whole⟩, named⟩
  · rintro ⟨before, behind, breaches, named⟩
    rw [fatal?, breaches.cut_eq, breaches.violation, ← named]

end Frame

namespace Reassembly

/-- The verdict is a failure exactly for a stream with a fatal length. -/
theorem verdict_eq_error_iff {limit : UInt32} {octets : Octets} {oversized : Oversized} :
    verdict limit octets = .error oversized ↔ Frame.fatal? limit octets = some oversized := by
  unfold verdict
  cases Frame.fatal? limit octets <;> simp

/-- A tail that begins with a length above the limit is held as it is. -/
theorem holding_of_violation {limit : UInt32} {tail : Octets} {oversized : Oversized}
    (violated : Frame.violation? limit tail = some oversized) :
    holding limit tail = ⟨limit, tail, .length⟩ := by
  obtain ⟨behind, rfl, above, whole, _⟩ := Frame.violation?_eq_some_iff.mp violated
  rw [holding, Octets.ofBigEndian?_bigEndian_append whole]
  simp [above]

/-- What can be done with a buffer. -/
inductive Use
  | push (chunk : Octets)
  | clear

/-- The buffer that is left. -/
def after (buffer : Reassembly) : Use → Reassembly
  | .push chunk => (buffer.push chunk).2
  | .clear => buffer.clear

/-- What has accumulated behind some octets: all that was pushed since the last clear. -/
def accumulate (octets : Octets) : Use → Octets
  | .push chunk => octets ++ chunk
  | .clear => []

/-- The octets that were pushed since a history began, or since it came to its last clear. -/
def accumulated (history : List Use) : Octets := history.foldl accumulate []

/-- A push to a buffer that stands for the tail of a stream is told by the whole stream. -/
theorem push_tail (limit : UInt32) (octets chunk : Octets) :
    ((holding limit (Frame.cut limit octets).2).push chunk).2 =
        holding limit (Frame.cut limit (octets ++ chunk)).2 ∧
      ∀ oversized, ((holding limit (Frame.cut limit octets).2).push chunk).1 = .error oversized ↔
        Frame.fatal? limit (octets ++ chunk) = some oversized := by
  rw [push_holding, Frame.cut_append limit octets chunk]
  refine ⟨rfl, fun oversized => ?_⟩
  rw [verdict_eq_error_iff, Frame.fatal?_tail_append]

/-- After any history the buffer stands for the tail of what has accumulated. The induction is over
the history, behind any octets. -/
theorem foldl_after (limit : UInt32) (octets : Octets) (history : List Use) :
    history.foldl after (holding limit (Frame.cut limit octets).2) =
      holding limit (Frame.cut limit (history.foldl accumulate octets)).2 := by
  induction history generalizing octets with
  | nil => rfl
  | cons use rest inductionHypothesis =>
    have first : (holding limit (Frame.cut limit octets).2).after use =
        holding limit (Frame.cut limit (accumulate octets use)).2 := by
      cases use with
      | push chunk => exact (push_tail limit octets chunk).1
      | clear =>
        rw [after, clear, accumulate, limit_holding, Frame.cut_nil]
        rfl
    rw [List.foldl_cons, List.foldl_cons, first, inductionHypothesis]

/-- Behind a length above the limit every push reports it, and the chunks pile up. -/
theorem pushAll_of_breaches {limit : UInt32} {octets behind : Octets} {before : List Frame}
    {size : Nat} (breaches : Frame.Breaches limit octets before size behind)
    (chunks : List Octets) :
    (holding limit (Frame.cut limit octets).2).pushAll chunks =
      (List.replicate chunks.length (.error ⟨size, limit.toNat⟩),
        holding limit (Frame.cut limit (octets ++ chunks.flatten)).2) := by
  induction chunks generalizing octets behind with
  | nil => simp [pushAll]
  | cons chunk rest inductionHypothesis =>
    have onward := breaches.append chunk
    obtain ⟨left, answered⟩ := push_tail limit octets chunk
    have refused := (answered ⟨size, limit.toNat⟩).mpr
      (Frame.fatal?_eq_some_iff.mpr ⟨before, _, onward, rfl⟩)
    rw [pushAll, refused, left, inductionHypothesis onward, List.flatten_cons, List.append_assoc]
    rfl

/-- A broken framing is found exactly, and for good. After any history of pushes and clears, a push
fails if and only if what has accumulated, its chunk included, breaks the framing; the failure names
the length and the limit. From then on every push fails in the same way, whatever its chunk, and the
buffer holds all octets from the length on. A clear makes a buffer, broken or not, as good as
new. -/
theorem breach_fatal (limit : UInt32) (history : List Use) (chunk : Octets) :
    let buffer := history.foldl after (new limit)
    let octets := accumulated history ++ chunk
    (∀ oversized, (buffer.push chunk).1 = .error oversized ↔
      ∃ before behind, Frame.Breaches limit octets before oversized.size behind ∧
        oversized.limit = limit.toNat) ∧
    (∀ before size behind, Frame.Breaches limit octets before size behind →
      (Codec.feed ⟨limit, buffer⟩ chunk).1 =
        .error (.protocol s!"Payload size {size} exceeds maximum {limit.toNat}") ∧
      ∀ chunks, ∃ last,
        (buffer.push chunk).2.pushAll chunks =
          (List.replicate chunks.length (.error ⟨size, limit.toNat⟩), last) ∧
        last.isEmpty = false ∧
        last.size = ((octets ++ chunks.flatten).drop (before.flatMap Frame.octets).length).length) ∧
    ∀ chunks, buffer.clear.pushAll chunks = (new limit).pushAll chunks := by
  intro buffer octets
  have stands : buffer = holding limit (Frame.cut limit (accumulated history)).2 := by
    have all := foldl_after limit [] history
    rwa [Frame.cut_nil] at all
  obtain ⟨left, answered⟩ := push_tail limit (accumulated history) chunk
  rw [← stands] at left answered
  refine ⟨fun oversized => (answered oversized).trans Frame.fatal?_eq_some_iff, ?_, ?_⟩
  · intro before size behind breaches
    have refused : (buffer.push chunk).1 = .error ⟨size, limit.toNat⟩ :=
      (answered _).mpr (Frame.fatal?_eq_some_iff.mpr ⟨before, behind, breaches, rfl⟩)
    refine ⟨?_, fun chunks => ⟨_, left ▸ pushAll_of_breaches breaches chunks, ?_, ?_⟩⟩
    · change (buffer.push chunk).1.mapError LinkError.ofIncoming = _
      rw [refused]
      rfl
    all_goals
      have later := breaches.append chunks.flatten
      rw [later.cut_eq]
    · apply Bool.eq_false_iff.mpr
      rw [ne_eq, isEmpty_holding]
      exact List.cons_ne_nil _ _
    · rw [holding_of_violation later.violation, later.written, List.drop_left]
      rfl
  · intro chunks
    rw [stands, clear, limit_holding]

/-- The octets of the length nine come in three pushes, behind a frame and after a clear; the limit
is four. -/
theorem breach_fatal_of_scattered_length :
    ∃ (history : List Use) (chunk : Octets),
      history = [.push [0, 0, 0, 9], .clear, .push [0, 0, 0, 1, 0x31, 0], .push [0, 0]] ∧
      Frame.Breaches 4 (accumulated history ++ chunk) [⟨[0x31]⟩] 9 [0x32] ∧
      ((history.foldl after (new 4)).push chunk).1 = .error ⟨9, 4⟩ ∧
      ∃ last, ((history.foldl after (new 4)).push chunk).2.pushAll [[], [0, 0, 0, 0]] =
        ([.error ⟨9, 4⟩, .error ⟨9, 4⟩], last) ∧ last.isEmpty = false ∧ last.size = 9 := by
  let history : List Use :=
    [.push [0, 0, 0, 9], .clear, .push [0, 0, 0, 1, 0x31, 0], .push [0, 0]]
  let chunk : Octets := [9, 0x32]
  have breaches : Frame.Breaches 4 (accumulated history ++ chunk) [⟨[0x31]⟩] 9 [0x32] :=
    ⟨by decide, by decide, by decide, by decide⟩
  obtain ⟨found, broken, _⟩ := breach_fatal 4 history chunk
  obtain ⟨last, answers, filled, held⟩ := (broken _ _ _ breaches).2 [[], [0, 0, 0, 0]]
  exact ⟨history, chunk, rfl, breaches, (found ⟨9, 4⟩).mpr ⟨_, _, breaches, rfl⟩, last, answers,
    filled, held⟩

end Reassembly

end Antiphon
