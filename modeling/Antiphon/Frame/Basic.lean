import Antiphon.Frame.Length

/-!
# Frames

A frame is one payload. On the stream it is the payload behind its announced length.
The payload may be empty; what it means is not the frame's business.
-/

namespace Antiphon

/-- One payload as it was cut out of the stream. -/
structure Frame where
  payload : Octets
deriving DecidableEq

namespace Frame

/-- How many octets the payload has. -/
def size (frame : Frame) : Nat := frame.payload.length

/-- The frame as it stands on the stream, for a payload that can be announced. -/
def octets (frame : Frame) : Octets := Octets.bigEndian frame.size ++ frame.payload

/-- The octets of a frame around `payload`, unless it is longer than allowed. -/
def build (payload : Octets) (limit : UInt32) : Except Oversized Octets :=
  (announce payload.length limit).map (· ++ payload)

/-- A payload is framed if and only if it is within the limit, and then in one way. -/
theorem build_eq_ok_iff {payload : Octets} {limit : UInt32} {octets : Octets} :
    build payload limit = .ok octets ↔
      payload.length ≤ limit.toNat ∧ octets = (Frame.mk payload).octets := by
  unfold build
  cases announced : announce payload.length limit with
  | error oversized =>
    have refused : ¬ payload.length ≤ limit.toNat := fun fits => by
      rw [announce_eq_ok_iff.2 ⟨fits, rfl⟩] at announced
      cases announced
    simp [Except.map, refused]
  | ok front =>
    obtain ⟨fits, rfl⟩ := announce_eq_ok_iff.1 announced
    simp [Except.map, fits, Frame.octets, Frame.size, eq_comm]

end Frame

end Antiphon
