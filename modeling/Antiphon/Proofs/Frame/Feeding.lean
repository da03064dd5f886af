import Antiphon.Codec
import Antiphon.Proofs.Frame.Cutting

/-!
# Feeding a codec chunk by chunk

As long as no length is above the limit, a codec that was fed a stream in any chunks has given
the frames that the stream as a whole is cut into, and holds the tail (`feedAll_eq`). A length
above the limit is fatal: it stays in its place whatever follows (`fatal?_append`), so
a beginning of a stream without one has none either.
-/

namespace Antiphon

namespace Frame

/-- The tail behind the last frame cannot be cut any further. -/
theorem cut_tail (limit : UInt32) (octets : Octets) :
    cut limit (cut limit octets).2 = ([], (cut limit octets).2) :=
  cut_of_first?_none (cut_spec limit octets).2.2

/-- What is fatal in a stream is fatal behind the tail of its front. -/
theorem fatal?_tail_append (limit : UInt32) (front back : Octets) :
    fatal? limit ((cut limit front).2 ++ back) = fatal? limit (front ++ back) := by
  rw [fatal?, fatal?, cut_append limit front]

/-- Whatever follows a length above the limit is never cut. -/
theorem cut_append_of_fatal? {limit : UInt32} {front : Octets} {oversized : Oversized}
    (violated : fatal? limit front = some oversized) (back : Octets) :
    cut limit (front ++ back) = ((cut limit front).1, (cut limit front).2 ++ back) := by
  rw [cut_append, cut_of_violation? (violation?_append violated back), List.append_nil]

/-- Nor does it make the length any better. -/
theorem fatal?_append {limit : UInt32} {front : Octets} {oversized : Oversized}
    (violated : fatal? limit front = some oversized) (back : Octets) :
    fatal? limit (front ++ back) = some oversized := by
  rw [fatal?, cut_append_of_fatal? violated]
  exact violation?_append violated back

/-- A stream without a length above the limit begins with such streams only. -/
theorem fatal?_eq_none_of_append {limit : UInt32} {front back : Octets}
    (allowed : fatal? limit (front ++ back) = none) : fatal? limit front = none := by
  cases violated : fatal? limit front with
  | none => rfl
  | some oversized =>
    rw [fatal?_append violated] at allowed
    cases allowed

/-- Longer streams have more frames. -/
theorem cut_prefix (limit : UInt32) (front back : Octets) :
    (cut limit front).1 <+: (cut limit (front ++ back)).1 := by
  rw [cut_append]
  exact List.prefix_append _ _

/-- A stream has no more frames than octets. -/
theorem length_cut_le (limit : UInt32) (octets : Octets) :
    (cut limit octets).1.length ≤ octets.length := by
  have each (frames : List Frame) : frames.length ≤ (frames.flatMap Frame.octets).length := by
    induction frames with
    | nil => exact Nat.le_refl _
    | cons frame rest inductionHypothesis =>
      rw [List.flatMap_cons, List.length_append, length_octets, List.length_cons]
      omega
  obtain ⟨joined, _⟩ := cut_spec limit octets
  have total := congrArg List.length joined
  rw [List.length_append] at total
  have bound := each (cut limit octets).1
  omega

end Frame

namespace Codec

/-- The codec that holds an unfinished tail. -/
def holding (limit : UInt32) (tail : Octets) : Codec := ⟨limit, .holding limit tail⟩

/-- One feed depends on the octets that are held and on those of the chunk, and on nothing else. -/
theorem feed_holding (limit : UInt32) (tail chunk : Octets) :
    (holding limit tail).feed chunk =
      ((Reassembly.verdict limit (tail ++ chunk)).mapError LinkError.ofIncoming,
        holding limit (Frame.cut limit (tail ++ chunk)).2) := by
  simp [feed, holding, Reassembly.push_holding]

/-- A codec at a frame boundary takes a frame and is at a frame boundary again. -/
theorem feed_octets {limit : UInt32} {frame : Frame} (allowed : frame.size ≤ limit.toNat) :
    (holding limit []).feed frame.octets = (.ok [frame], holding limit []) := by
  have cut : Frame.cut limit frame.octets = ([frame], []) := by
    have front := Frame.cut_frame_append allowed []
    rw [List.append_nil, Frame.cut_nil] at front
    exact front
  have fine : Frame.fatal? limit frame.octets = none := by
    have nothing := Frame.fatal?_nil limit
    rw [Frame.fatal?, Frame.cut_nil] at nothing
    rw [Frame.fatal?, cut]
    exact nothing
  rw [feed_holding, List.nil_append, Reassembly.verdict_of_allowed fine, cut]
  rfl

/-- Feeds chunks one after the other; answers the frames of the feeds that succeed. -/
def feedAll (codec : Codec) : List Octets → List Frame × Codec
  | [] => ([], codec)
  | chunk :: rest =>
    match codec.feed chunk with
    | (.ok frames, codec) => (frames ++ (codec.feedAll rest).1, (codec.feedAll rest).2)
    | (.error _, codec) => codec.feedAll rest

/-- Chunks can be fed in two parts. -/
theorem feedAll_append (codec : Codec) (front back : List Octets) :
    codec.feedAll (front ++ back) =
      ((codec.feedAll front).1 ++ ((codec.feedAll front).2.feedAll back).1,
        ((codec.feedAll front).2.feedAll back).2) := by
  induction front generalizing codec with
  | nil => rfl
  | cons chunk rest inductionHypothesis =>
    simp only [List.cons_append, feedAll]
    split
    · rw [inductionHypothesis, List.append_assoc]
    · exact inductionHypothesis _

/-- Chunks give what the tail and all their octets are cut into. The induction is over the chunks,
and each hands its own tail on. -/
theorem feedAll_holding {limit : UInt32} {tail : Octets} {chunks : List Octets}
    (unfinished : Frame.cut limit tail = ([], tail))
    (allowed : Frame.fatal? limit (tail ++ chunks.flatten) = none) :
    (holding limit tail).feedAll chunks =
      ((Frame.cut limit (tail ++ chunks.flatten)).1,
        holding limit (Frame.cut limit (tail ++ chunks.flatten)).2) := by
  induction chunks generalizing tail with
  | nil => simp [feedAll, unfinished]
  | cons chunk rest inductionHypothesis =>
    rw [List.flatten_cons, ← List.append_assoc] at allowed ⊢
    have first := Frame.fatal?_eq_none_of_append allowed
    rw [← Frame.fatal?_tail_append] at allowed
    rw [Frame.cut_append]
    have fed : (holding limit tail).feed chunk =
        (.ok (Frame.cut limit (tail ++ chunk)).1,
          holding limit (Frame.cut limit (tail ++ chunk)).2) := by
      rw [feed_holding, Reassembly.verdict_of_allowed first]
      rfl
    simp only [feedAll, fed, inductionHypothesis (Frame.cut_tail limit _) allowed]

/-- A new codec cuts a stream as a whole, whatever the chunks. -/
theorem feedAll_eq {limit : UInt32} {chunks : List Octets}
    (allowed : Frame.fatal? limit chunks.flatten = none) :
    (new limit).feedAll chunks =
      ((Frame.cut limit chunks.flatten).1, holding limit (Frame.cut limit chunks.flatten).2) :=
  feedAll_holding (Frame.cut_nil limit) allowed

/-- The feed that meets a length above the limit adds no frame. -/
theorem feedAll_eq_of_fatal? {limit : UInt32} {chunks : List Octets} {fatal : Octets}
    {oversized : Oversized}
    (allowed : Frame.fatal? limit chunks.flatten = none)
    (violated : Frame.fatal? limit (chunks.flatten ++ fatal) = some oversized) :
    ((new limit).feedAll (chunks ++ [fatal])).1 = (Frame.cut limit chunks.flatten).1 := by
  rw [← Frame.fatal?_tail_append] at violated
  have refused : (holding limit (Frame.cut limit chunks.flatten).2).feed fatal =
      (.error (.ofIncoming oversized),
        holding limit (Frame.cut limit ((Frame.cut limit chunks.flatten).2 ++ fatal)).2) := by
    rw [feed_holding, Reassembly.verdict, violated]
    rfl
  rw [feedAll_append, feedAll_eq allowed]
  simp [feedAll, refused]

end Codec

end Antiphon
