import Antiphon.Outbound.Batch

/-!
# What is left of frames

`Batch.slicesAfter` walks over frames with a count of octets. Here are the laws that let the walk
be cut at any point: it can stop between two octets and go on from there, and it can be taken over
the front of a list and then over the back.

`Batch.whole` is the other side of the walk, the number of frames that were used up on the way.
-/

namespace Antiphon

namespace Batch

/-- The walk can be interrupted. -/
theorem slicesAfter_add (first second : Nat) (frames : List Octets) :
    slicesAfter (first + second) frames = slicesAfter second (slicesAfter first frames) := by
  induction frames generalizing first second with
  | nil => rfl
  | cons frame rest inductionHypothesis =>
    by_cases used : frame.length ≤ first
    · have used' : frame.length ≤ first + second := Nat.le_add_right_of_le used
      have shift : first + second - frame.length = first - frame.length + second := by omega
      rw [slicesAfter, if_pos used', slicesAfter, if_pos used, shift, inductionHypothesis]
    · have offered :
          slicesAfter first (frame :: rest) = frame.drop first :: slicesAfter 0 rest := by
        rw [slicesAfter, if_neg used]
      rw [offered, slicesAfter, slicesAfter, List.length_drop, List.drop_drop]
      by_cases later : frame.length ≤ first + second
      · have shift : first + second - frame.length = 0 + (second - (frame.length - first)) := by
          omega
        rw [if_pos later, if_pos (by omega), shift, inductionHypothesis]
      · rw [if_neg later, if_neg (by omega), ← inductionHypothesis]

/-- Over two lists the walk goes on with what the first has left of the count. -/
theorem slicesAfter_append (count : Nat) (front back : List Octets) :
    slicesAfter count (front ++ back) =
      slicesAfter count front ++ slicesAfter (count - front.flatten.length) back := by
  induction front generalizing count with
  | nil => rfl
  | cons frame rest inductionHypothesis =>
    rw [List.cons_append, slicesAfter, slicesAfter, List.flatten_cons, List.length_append,
      ← Nat.sub_sub]
    split
    · exact inductionHypothesis _
    · next left =>
      have nothing : count - frame.length = 0 := by omega
      rw [inductionHypothesis, nothing, Nat.zero_sub, List.cons_append]

/-- Frames that have an octet are not used up by no octet. -/
theorem slicesAfter_zero {frames : List Octets} (filled : ∀ frame ∈ frames, frame ≠ []) :
    slicesAfter 0 frames = frames := by
  induction frames with
  | nil => rfl
  | cons frame rest inductionHypothesis =>
    simp only [List.forall_mem_cons] at filled
    have left : ¬ frame.length ≤ 0 := by
      rw [Nat.le_zero, List.length_eq_zero_iff]
      exact filled.1
    rw [slicesAfter, if_neg left, List.drop_zero, inductionHypothesis filled.2]

/-- How many frames are whole within the first `count` octets of them all. -/
def whole : (count : Nat) → List Octets → Nat
  | _, [] => 0
  | count, frame :: rest =>
    if frame.length ≤ count then whole (count - frame.length) rest + 1 else 0

/-- Every frame is whole or has something left. -/
theorem whole_add_length (count : Nat) {frames : List Octets}
    (filled : ∀ frame ∈ frames, frame ≠ []) :
    whole count frames + (slicesAfter count frames).length = frames.length := by
  induction frames generalizing count with
  | nil => rfl
  | cons frame rest inductionHypothesis =>
    simp only [List.forall_mem_cons] at filled
    rw [whole, slicesAfter]
    split
    · rw [Nat.add_right_comm, inductionHypothesis _ filled.2, List.length_cons]
    · rw [slicesAfter_zero filled.2, Nat.zero_add, List.length_cons, List.length_cons]

/-- A frame is whole if the octets up to its end are there. -/
theorem lt_whole_iff (place count : Nat) (frames : List Octets) :
    place < whole count frames ↔
      place < frames.length ∧ (frames.take (place + 1)).flatten.length ≤ count := by
  induction frames generalizing place count with
  | nil => simp [whole]
  | cons frame rest inductionHypothesis =>
    rw [whole, List.take_succ_cons, List.flatten_cons, List.length_append, List.length_cons]
    split
    · next used =>
      cases place with
      | zero =>
        rw [List.take_zero, List.flatten_nil, List.length_nil]
        omega
      | succ place =>
        rw [Nat.add_lt_add_iff_right, Nat.add_lt_add_iff_right, inductionHypothesis]
        omega
    · next left => omega

end Batch

end Antiphon
