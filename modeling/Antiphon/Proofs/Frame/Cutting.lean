import Antiphon.Frame.Reassembly

/-!
# Frames cut out of a whole stream

`cut` divides the octets of a stream, seen all at once, into the payloads of the complete
frames that they begin with and an unfinished tail. It keeps no state and knows nothing of
chunks. A length above the limit stops it for good, whatever follows.

Three facts make it the measure of the reassembly buffer. What it returns is determined by
concatenation alone (`cut_eq_iff`); the octets that arrive later only matter to the tail
(`cut_append`); and one push gives the frames that the tail and the chunk are cut into, or the
length that is above the limit, and leaves the buffer holding the new tail (`push_eq`).
-/

namespace Antiphon

namespace Frame

/-- The length above the limit that octets begin with, if they begin with one. -/
def violation? (limit : UInt32) (octets : Octets) : Option Oversized :=
  match octets.ofBigEndian? with
  | none => none
  | some size => if limit.toNat < size then some ⟨size, limit.toNat⟩ else none

/-- The frame that octets begin with and what follows it, if the frame is allowed and complete. -/
def first? (limit : UInt32) (octets : Octets) : Option (Frame × Octets) :=
  match octets.ofBigEndian? with
  | none => none
  | some size =>
    if limit.toNat < size then none
    else (Octets.split? size (octets.drop lengthSize)).map fun parts => (⟨parts.1⟩, parts.2)

/-- An announcement and as many octets as it says are one frame, and nothing else is. -/
theorem first?_eq_some_iff {limit : UInt32} {octets rest : Octets} {frame : Frame} :
    first? limit octets = some (frame, rest) ↔
      frame.size ≤ limit.toNat ∧ octets = frame.octets ++ rest := by
  constructor
  · intro found
    unfold first? at found
    cases read : octets.ofBigEndian? with
    | none => simp [read] at found
    | some size =>
      by_cases above : limit.toNat < size
      · simp [read, above] at found
      · simp only [read, above, if_false, Option.map_eq_some_iff, Prod.mk.injEq] at found
        obtain ⟨⟨payload, back⟩, split, rfl, rfl⟩ := found
        obtain ⟨whole, joined⟩ := Octets.split?_eq_some_iff.mp split
        have announced : octets.take 4 = Octets.bigEndian size :=
          Octets.take_eq_bigEndian_of_ofBigEndian? read
        refine ⟨by simpa [Frame.size, whole] using above, ?_⟩
        rw [Frame.octets, Frame.size, whole, List.append_assoc, ← joined, ← announced,
          lengthSize, List.take_append_drop]
  · rintro ⟨allowed, rfl⟩
    have read : (frame.octets ++ rest).ofBigEndian? = some frame.size := by
      rw [Frame.octets, List.append_assoc]
      exact Octets.ofBigEndian?_bigEndian_append (Nat.lt_of_le_of_lt allowed limit.toNat_lt) _
    have behind : (frame.octets ++ rest).drop lengthSize = frame.payload ++ rest := by
      rw [Frame.octets, List.append_assoc]
      exact List.drop_left' (Octets.bigEndian_length _)
    have split : Octets.split? frame.size (frame.payload ++ rest) = some (frame.payload, rest) :=
      Octets.split?_eq_some_iff.mpr ⟨rfl, rfl⟩
    simp [first?, read, behind, split, Nat.not_lt.mpr allowed]

/-- A frame takes four octets more than its payload. -/
theorem length_octets (frame : Frame) : frame.octets.length = frame.size + 4 := by
  simp [Frame.octets, Frame.size, Octets.bigEndian_length, Nat.add_comm]

/-- Taking a frame off leaves fewer octets, so cutting comes to an end. -/
theorem length_of_first? {limit : UInt32} {octets rest : Octets} {frame : Frame}
    (found : first? limit octets = some (frame, rest)) : rest.length < octets.length := by
  obtain ⟨_, rfl⟩ := first?_eq_some_iff.mp found
  simp only [List.length_append, length_octets]
  omega

/-- The complete frames that octets begin with, and the unfinished tail behind them. -/
def cut (limit : UInt32) (octets : Octets) : List Frame × Octets :=
  match _found : first? limit octets with
  | none => ([], octets)
  | some (frame, rest) => (frame :: (cut limit rest).1, (cut limit rest).2)
termination_by octets.length
decreasing_by all_goals exact length_of_first? _found

/-- The cut ends where no frame begins. -/
theorem cut_of_first?_none {limit : UInt32} {octets : Octets}
    (unfinished : first? limit octets = none) : cut limit octets = ([], octets) := by
  rw [cut]
  split
  · rfl
  · next found => rw [unfinished] at found; cases found

/-- The cut goes on behind a frame. -/
theorem cut_of_first?_some {limit : UInt32} {octets rest : Octets} {frame : Frame}
    (found : first? limit octets = some (frame, rest)) :
    cut limit octets = (frame :: (cut limit rest).1, (cut limit rest).2) := by
  rw [cut]
  split
  · next unfinished => rw [found] at unfinished; cases unfinished
  · next other =>
    obtain ⟨rfl, rfl⟩ : _ = _ ∧ _ = _ := by simpa using found.symm.trans other
    rfl

/-- Nothing is cut out of nothing. -/
@[simp] theorem cut_nil (limit : UInt32) : cut limit [] = ([], []) :=
  cut_of_first?_none rfl

/-- The first length above the limit in a stream, if there is one: what stops the cut. -/
def fatal? (limit : UInt32) (octets : Octets) : Option Oversized :=
  violation? limit (cut limit octets).2

/-- An empty stream holds no length above the limit. -/
@[simp] theorem fatal?_nil (limit : UInt32) : fatal? limit [] = none := by
  rw [fatal?, cut_nil]
  rfl

/-- A frame in front of a stream is the first one that is cut off. -/
theorem cut_frame_append {limit : UInt32} {frame : Frame} (allowed : frame.size ≤ limit.toNat)
    (rest : Octets) :
    cut limit (frame.octets ++ rest) = (frame :: (cut limit rest).1, (cut limit rest).2) :=
  cut_of_first?_some (first?_eq_some_iff.mpr ⟨allowed, rfl⟩)

/-- So are any number of frames. -/
theorem cut_frames_append {limit : UInt32} {frames : List Frame}
    (allowed : ∀ frame ∈ frames, frame.size ≤ limit.toNat) (rest : Octets) :
    cut limit (frames.flatMap Frame.octets ++ rest) =
      (frames ++ (cut limit rest).1, (cut limit rest).2) := by
  induction frames with
  | nil => simp
  | cons frame later inductionHypothesis =>
    simp only [List.forall_mem_cons] at allowed
    rw [List.flatMap_cons, List.append_assoc, cut_frame_append allowed.1,
      inductionHypothesis allowed.2]
    rfl

/-- Cutting a stream loses nothing, keeps to the limit, and leaves no frame behind. -/
theorem cut_spec (limit : UInt32) (octets : Octets) :
    octets = (cut limit octets).1.flatMap Frame.octets ++ (cut limit octets).2 ∧
      (∀ frame ∈ (cut limit octets).1, frame.size ≤ limit.toNat) ∧
      first? limit (cut limit octets).2 = none := by
  induction octets using cut.induct limit with
  | case1 octets unfinished =>
    rw [cut_of_first?_none unfinished]
    exact ⟨rfl, by simp, unfinished⟩
  | case2 octets frame rest found inductionHypothesis =>
    obtain ⟨joined, allowed, unfinished⟩ := inductionHypothesis
    obtain ⟨fits, split⟩ := first?_eq_some_iff.mp found
    rw [cut_of_first?_some found]
    refine ⟨?_, List.forall_mem_cons.mpr ⟨fits, allowed⟩, unfinished⟩
    rw [List.flatMap_cons, List.append_assoc, ← joined, split]

/-- The division of a stream is fixed by concatenation: it is the only way of writing the
octets as allowed frames and a tail that begins with none. -/
theorem cut_eq_iff {limit : UInt32} {octets tail : Octets} {frames : List Frame} :
    cut limit octets = (frames, tail) ↔
      octets = frames.flatMap Frame.octets ++ tail ∧
      (∀ frame ∈ frames, frame.size ≤ limit.toNat) ∧
      ∀ (frame : Frame) (rest : Octets),
        frame.size ≤ limit.toNat → tail ≠ frame.octets ++ rest := by
  constructor
  · intro divided
    obtain ⟨joined, allowed, unfinished⟩ := cut_spec limit octets
    rw [divided] at joined allowed unfinished
    refine ⟨joined, allowed, ?_⟩
    intro frame rest fits begins
    have found : first? limit tail = some (frame, rest) := first?_eq_some_iff.mpr ⟨fits, begins⟩
    cases unfinished.symm.trans found
  · rintro ⟨rfl, allowed, unfinished⟩
    have stops : first? limit tail = none := by
      cases found : first? limit tail with
      | none => rfl
      | some parts =>
        obtain ⟨fits, begins⟩ := first?_eq_some_iff.mp found
        exact absurd begins (unfinished _ _ fits)
    rw [cut_frames_append allowed, cut_of_first?_none stops, List.append_nil]

/-- Octets that arrive later are cut together with the tail; the frames before it stay. -/
theorem cut_append (limit : UInt32) (front back : Octets) :
    cut limit (front ++ back) =
      ((cut limit front).1 ++ (cut limit ((cut limit front).2 ++ back)).1,
        (cut limit ((cut limit front).2 ++ back)).2) := by
  obtain ⟨joined, allowed, _⟩ := cut_spec limit front
  conv => lhs; rw [joined, List.append_assoc]
  exact cut_frames_append allowed _

/-- A length above the limit is still there, and still first, after more octets. -/
theorem violation?_append {limit : UInt32} {octets : Octets} {oversized : Oversized}
    (violated : violation? limit octets = some oversized) (more : Octets) :
    violation? limit (octets ++ more) = some oversized := by
  match octets, violated with
  | a :: b :: c :: d :: rest, violated => exact violated

/-- It is not a frame, and it hides all frames behind it. -/
theorem cut_of_violation? {limit : UInt32} {octets : Octets} {oversized : Oversized}
    (violated : violation? limit octets = some oversized) : cut limit octets = ([], octets) := by
  apply cut_of_first?_none
  unfold violation? at violated
  unfold first?
  cases read : octets.ofBigEndian? with
  | none => rfl
  | some size =>
    by_cases above : limit.toNat < size
    · simp [above]
    · simp [read, above] at violated

end Frame

namespace Reassembly

/-- Every octet of the unfinished frame, the announcement included if it has been consumed. -/
def tail (buffer : Reassembly) : Octets :=
  match buffer.awaiting with
  | .length => buffer.held
  | .payload size => Octets.bigEndian size ++ buffer.held

/-- The buffer that holds an unfinished tail: a complete and allowed length is consumed. -/
def holding (limit : UInt32) (tail : Octets) : Reassembly :=
  match tail.ofBigEndian? with
  | none => ⟨limit, tail, .length⟩
  | some size =>
    if limit.toNat < size then ⟨limit, tail, .length⟩
    else ⟨limit, tail.drop Frame.lengthSize, .payload size⟩

/-- No payload is awaited that is longer than the limit allows. -/
def Allowed (buffer : Reassembly) : Prop :=
  ∀ size, buffer.awaiting = .payload size → size ≤ buffer.limit.toNat

/-- A tail is held under the limit that it was cut with. -/
@[simp] theorem limit_holding (limit : UInt32) (tail : Octets) :
    (holding limit tail).limit = limit := by
  unfold holding
  split
  · rfl
  · split <;> rfl

/-- A tail that is held awaits no payload above the limit. -/
theorem holding_allowed (limit : UInt32) (tail : Octets) : (holding limit tail).Allowed := by
  intro size awaiting
  unfold holding at awaiting ⊢
  cases read : tail.ofBigEndian? with
  | none => simp [read] at awaiting
  | some announced =>
    by_cases above : limit.toNat < announced
    · simp [read, above] at awaiting
    · simp only [read, above, if_false, Awaiting.payload.injEq] at awaiting ⊢
      omega

/-- The consumed length can be written back from its number, so no octet is lost. -/
@[simp] theorem tail_holding (limit : UInt32) (octets : Octets) :
    (holding limit octets).tail = octets := by
  unfold holding tail
  cases read : octets.ofBigEndian? with
  | none => simp
  | some size =>
    by_cases above : limit.toNat < size
    · simp [above]
    · simp only [above, if_false]
      rw [← Octets.take_eq_bigEndian_of_ofBigEndian? read, Frame.lengthSize,
        List.take_append_drop]

/-- What a consumed length was read from is still in front of the tail. -/
theorem read_tail_of_payload {buffer : Reassembly} {size : Nat} (allowed : buffer.Allowed)
    (awaited : buffer.awaiting = .payload size) :
    size ≤ buffer.limit.toNat ∧ buffer.tail = Octets.bigEndian size ++ buffer.held ∧
      buffer.tail.ofBigEndian? = some size := by
  have fits : size ≤ buffer.limit.toNat := allowed size awaited
  have small : size < UInt32.size := Nat.lt_of_le_of_lt fits buffer.limit.toNat_lt
  have written : buffer.tail = Octets.bigEndian size ++ buffer.held := by rw [tail, awaited]
  refine ⟨fits, written, ?_⟩
  rw [written]
  exact Octets.ofBigEndian?_bigEndian_append small buffer.held

/-- One look at the buffer sees what the whole tail begins with: a length above the limit, a
frame, or neither. -/
theorem next_eq {buffer : Reassembly} (allowed : buffer.Allowed) :
    buffer.next =
      match Frame.violation? buffer.limit buffer.tail with
      | some oversized => .refused oversized
      | none =>
        match Frame.first? buffer.limit buffer.tail with
        | some (frame, rest) => .complete frame ⟨buffer.limit, rest, .length⟩
        | none => .stalled (holding buffer.limit buffer.tail) := by
  cases awaited : buffer.awaiting with
  | length =>
    have whole : buffer.tail = buffer.held := by rw [tail, awaited]
    simp only [next, awaited, whole, Frame.violation?, Frame.first?, holding]
    cases read : buffer.held.ofBigEndian? with
    | none => simp [← awaited]
    | some size =>
      by_cases above : buffer.limit.toNat < size
      · simp [Frame.checkLength, above]
      · simp only [Frame.checkLength, above, if_false, takePayload]
        cases split : Octets.split? size (buffer.held.drop Frame.lengthSize) with
        | none => simp
        | some parts => simp
  | payload size =>
    obtain ⟨fits, written, read⟩ := read_tail_of_payload allowed awaited
    have behind : buffer.tail.drop Frame.lengthSize = buffer.held := by
      rw [written]
      exact List.drop_left' (Octets.bigEndian_length size)
    simp only [next, awaited, Frame.violation?, Frame.first?, holding, read, behind,
      Nat.not_lt.mpr fits, if_false, takePayload]
    cases split : Octets.split? size buffer.held with
    | none => simp
    | some parts => simp

/-- What extraction answers: every frame of the tail, unless the rest begins with a length
above the limit. -/
def verdict (limit : UInt32) (tail : Octets) : Except Oversized (List Frame) :=
  match Frame.fatal? limit tail with
  | some oversized => .error oversized
  | none => .ok (Frame.cut limit tail).1

/-- Without a length above the limit the verdict is the frames. -/
theorem verdict_of_allowed {limit : UInt32} {octets : Octets}
    (allowed : Frame.fatal? limit octets = none) :
    verdict limit octets = .ok (Frame.cut limit octets).1 := by rw [verdict, allowed]

/-- Extraction ends where octets are missing. -/
theorem extract_of_stalled {buffer after : Reassembly} (progress : buffer.next = .stalled after)
    (found : List Frame) : extract found buffer = (.ok found.reverse, after) := by
  rw [extract]
  split <;> simp_all

/-- Extraction ends at a length above the limit, and what it has found is lost. -/
theorem extract_of_refused {buffer : Reassembly} {cause : Oversized}
    (progress : buffer.next = .refused cause) (found : List Frame) :
    extract found buffer = (.error cause, buffer) := by
  rw [extract]
  split <;> simp_all

/-- Extraction goes on behind a frame. -/
theorem extract_of_complete {buffer after : Reassembly} {frame : Frame}
    (progress : buffer.next = .complete frame after) (found : List Frame) :
    extract found buffer = extract (frame :: found) after := by
  rw [extract]
  split <;> simp_all

/-- A buffer in front of a length above the limit has consumed nothing of it. -/
theorem eq_holding_of_violation {buffer : Reassembly} {oversized : Oversized}
    (allowed : buffer.Allowed)
    (violated : Frame.violation? buffer.limit buffer.tail = some oversized) :
    buffer = holding buffer.limit buffer.tail := by
  cases awaited : buffer.awaiting with
  | length =>
    have whole : buffer.tail = buffer.held := by rw [tail, awaited]
    rw [whole, Frame.violation?] at violated
    rw [whole, holding]
    cases read : buffer.held.ofBigEndian? with
    | none => simp [← awaited]
    | some size =>
      by_cases above : buffer.limit.toNat < size
      · simp [above, ← awaited]
      · simp [read, above] at violated
  | payload size =>
    obtain ⟨fits, _, read⟩ := read_tail_of_payload allowed awaited
    simp [Frame.violation?, read, Nat.not_lt.mpr fits] at violated

/-- Extraction cuts the tail, and keeps what is behind the last frame whether or not it
succeeds. The induction is over the frames that the tail is cut into. -/
theorem extract_eq {limit : UInt32} {octets : Octets} {buffer : Reassembly}
    (allowed : buffer.Allowed) (limited : buffer.limit = limit) (content : buffer.tail = octets)
    (found : List Frame) :
    extract found buffer =
      ((verdict limit octets).map (found.reverse ++ ·),
        holding limit (Frame.cut limit octets).2) := by
  induction octets using Frame.cut.induct limit generalizing buffer found with
  | case1 octets unfinished =>
    subst limited content
    have looked := next_eq allowed
    rw [verdict, Frame.fatal?, Frame.cut_of_first?_none unfinished]
    cases violated : Frame.violation? buffer.limit buffer.tail with
    | some oversized =>
      rw [violated] at looked
      rw [extract_of_refused looked, ← eq_holding_of_violation allowed violated]
      rfl
    | none =>
      rw [violated, unfinished] at looked
      rw [extract_of_stalled looked]
      simp [Except.map]
  | case2 octets frame rest complete inductionHypothesis =>
    subst limited content
    have looked := next_eq allowed
    have free : Frame.violation? buffer.limit buffer.tail = none := by
      cases violated : Frame.violation? buffer.limit buffer.tail with
      | none => rfl
      | some oversized =>
        have stopped := Frame.cut_of_violation? violated
        rw [Frame.cut_of_first?_some complete] at stopped
        cases stopped
    rw [free, complete] at looked
    have atBoundary : (⟨buffer.limit, rest, .length⟩ : Reassembly).Allowed := nofun
    rw [extract_of_complete looked, inductionHypothesis atBoundary rfl rfl, verdict, verdict,
      Frame.fatal?, Frame.fatal?, Frame.cut_of_first?_some complete]
    cases Frame.violation? buffer.limit (Frame.cut buffer.limit rest).2 <;> simp [Except.map]

/-- One push: the tail and the chunk are cut together, and the buffer holds what remains. It
says everything about a push, so nothing else about the buffer need ever be unfolded. -/
theorem push_eq {buffer : Reassembly} (allowed : buffer.Allowed) (chunk : Octets) :
    buffer.push chunk =
      (verdict buffer.limit (buffer.tail ++ chunk),
        holding buffer.limit (Frame.cut buffer.limit (buffer.tail ++ chunk)).2) := by
  have content : ({ buffer with held := buffer.held ++ chunk } : Reassembly).tail =
      buffer.tail ++ chunk := by
    unfold tail
    split <;> simp_all
  have extended : ({ buffer with held := buffer.held ++ chunk } : Reassembly).Allowed := allowed
  rw [push, extract_eq extended rfl content]
  cases verdict buffer.limit (buffer.tail ++ chunk) <;> simp [Except.map]

/-- After any octets that were pushed in any chunks, a push depends on the octets alone. -/
theorem push_holding (limit : UInt32) (octets chunk : Octets) :
    (holding limit octets).push chunk =
      (verdict limit (octets ++ chunk), holding limit (Frame.cut limit (octets ++ chunk)).2) := by
  simpa using push_eq (holding_allowed limit octets) chunk

end Reassembly

end Antiphon
