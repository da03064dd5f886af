import Antiphon.LinkError
import Antiphon.Stream.Outlet

/-!
# Writing a batch of frames

Frames are written together, a call offering every octet of the batch that has not been
accepted yet, one slice a frame. A call may accept any part of the offer, so the next one
starts in the middle of a frame; frames that are used up are left out. `slices` is found
by walking over the frames with the count of accepted octets, and what it concatenates to
is `unwritten`.
-/

namespace Antiphon

/-- Frames on their way, and how many of their octets the stream has accepted. -/
structure Batch where
  frames : List Octets
  written : Nat
deriving DecidableEq

namespace Batch

/-- Frames of which nothing has been written. -/
def start (frames : List Octets) : Batch := ⟨frames, 0⟩

/-- What is left of frames after the first `skip` octets, without empty slices. -/
def slicesAfter : (skip : Nat) → List Octets → List Octets
  | _, [] => []
  | skip, frame :: rest =>
    if frame.length ≤ skip then slicesAfter (skip - frame.length) rest
    else frame.drop skip :: slicesAfter 0 rest

/-- What the next call offers. -/
def slices (batch : Batch) : List Octets := slicesAfter batch.written batch.frames

/-- The octets of the batch that the stream has not accepted. -/
def unwritten (batch : Batch) : Octets := batch.frames.flatten.drop batch.written

/-- What the next call offers is what has not been accepted. -/
theorem flatten_slicesAfter (skip : Nat) (frames : List Octets) :
    (slicesAfter skip frames).flatten = frames.flatten.drop skip := by
  induction frames generalizing skip with
  | nil => simp [slicesAfter]
  | cons frame rest inductionHypothesis =>
    simp only [slicesAfter, List.flatten_cons, List.drop_append]
    split
    · next used => rw [List.drop_eq_nil_of_le used, List.nil_append, inductionHypothesis]
    · next left =>
      rw [List.flatten_cons, inductionHypothesis, Nat.sub_eq_zero_of_le (by omega)]

/-- No slice is empty. -/
theorem ne_nil_of_mem_slicesAfter {skip : Nat} {frames : List Octets} {slice : Octets}
    (offered : slice ∈ slicesAfter skip frames) : slice ≠ [] := by
  induction frames generalizing skip with
  | nil => simp [slicesAfter] at offered
  | cons frame rest inductionHypothesis =>
    unfold slicesAfter at offered
    split at offered
    · exact inductionHypothesis offered
    · next left =>
      rcases List.mem_cons.1 offered with rfl | later
      · simpa using left
      · exact inductionHypothesis later

/-- A stream that accepts nothing of an offer has failed. -/
def nothingAccepted : IoFault := .described .writeZero "write_vectored returned 0"

/-- The batch after the answer to a call. -/
def after (batch : Batch) : WriteAnswer → Except LinkError Batch
  | .failed fault => .error (.io fault)
  | .accepted 0 => .error (.io nothingAccepted)
  | .accepted count => .ok { batch with written := batch.written + count }

end Batch

end Antiphon
