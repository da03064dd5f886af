import Antiphon.Octets

/-!
# The length in front of a frame

A frame is announced by the length of its payload in four octets. Two limits bound
it: the absolute one, which is what four octets can hold, and the one that the two
ends agreed on. A length that breaks either is `Oversized`, and the record names the
limit that was broken; the absolute limit is tried first.
-/

namespace Antiphon

/-- A payload length above the limit that applied to it. -/
structure Oversized where
  size : Nat
  limit : Nat
deriving DecidableEq, Repr

/-- The wording shared by a refused outgoing payload and a refused incoming length. -/
def Oversized.message (oversized : Oversized) : String :=
  s!"Payload size {oversized.size} exceeds maximum {oversized.limit}"

namespace Frame

/-- How many octets announce a frame. -/
def lengthSize : Nat := 4

/-- The largest payload that any frame can announce. -/
def absoluteLimit : Nat := 4294967295

/-- The payload limit of a party that sets none: one gibibyte. -/
def defaultLimit : UInt32 := 1073741824

/-- Refuses a length above the limit in force. -/
def checkLength (size : Nat) (limit : UInt32) : Except Oversized Unit :=
  if limit.toNat < size then .error ⟨size, limit.toNat⟩ else .ok ()

/-- The four octets that announce a payload of `size` octets. -/
def announce (size : Nat) (limit : UInt32) : Except Oversized Octets :=
  if absoluteLimit < size then .error ⟨size, absoluteLimit⟩
  else (checkLength size limit).map fun _ => Octets.bigEndian size

/-- An announcement is refused exactly when the size is above the limit in force,
since no limit is above the absolute one. -/
theorem announce_eq_ok_iff {size : Nat} {limit : UInt32} {octets : Octets} :
    announce size limit = .ok octets ↔ size ≤ limit.toNat ∧ octets = Octets.bigEndian size := by
  have bound := limit.toNat_lt
  unfold announce checkLength absoluteLimit
  split
  · simp; omega
  · split <;> simp [Except.map, eq_comm] <;> omega

end Frame

end Antiphon
