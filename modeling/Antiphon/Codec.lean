import Antiphon.Frame.Reassembly
import Antiphon.Json.Printer
import Antiphon.LinkError
import Antiphon.Shape.Basic

/-!
# Messages as frames

Outgoing data is written as JSON and framed; incoming payloads are read as whatever the
caller asks for. The codec keeps the reassembly buffer between chunks and applies one
payload limit to both directions. A payload that cannot be read leaves it usable.
-/

namespace Antiphon

/-- A success has no failure to rename. -/
@[simp] theorem mapError_ok {ε δ α : Type} (change : ε → δ) (value : α) :
    (.ok value : Except ε α).mapError change = .ok value := rfl

/-- A failure is renamed. -/
@[simp] theorem mapError_error {ε δ α : Type} (change : ε → δ) (error : ε) :
    (.error error : Except ε α).mapError change = .error (change error) := rfl

/-- The frame around a JSON text, or the reason why there is none. -/
def frameMessage (text : Except Json.Fault Octets) (limit : UInt32) : Except LinkError Octets :=
  match text with
  | .error fault => .error (.encode fault)
  | .ok payload => (Frame.build payload limit).mapError LinkError.ofOutgoing

/-- A message has a frame if it could be written and is not too long, and the frame is the length of
its text and the text. -/
theorem frameMessage_eq_ok_iff {text : Except Json.Fault Octets} {limit : UInt32}
    {frame : Octets} :
    frameMessage text limit = .ok frame ↔
      ∃ payload, text = .ok payload ∧ payload.length ≤ limit.toNat ∧
        frame = (Frame.mk payload).octets := by
  cases text with
  | error fault => simp [frameMessage]
  | ok payload =>
    cases built : Frame.build payload limit with
    | error oversized =>
      have refused : ¬ payload.length ≤ limit.toNat := fun fits => by
        rw [Frame.build_eq_ok_iff.mpr ⟨fits, rfl⟩] at built
        cases built
      simp [frameMessage, built, refused]
    | ok octets =>
      obtain ⟨fits, rfl⟩ := Frame.build_eq_ok_iff.mp built
      simp [frameMessage, built, fits, eq_comm]

/-- The shape that a payload has; a failure carries the payload. -/
def decodePayload (α : Type) [Shape α] (payload : Octets) : Except LinkError α :=
  (decodeAs α payload).mapError (LinkError.decode payload)

/-- A response in the shape that the caller asks for; a failure carries the response. -/
def responseAs (α : Type) [Shape α] (response : Json) : Except LinkError α :=
  (Shape.ofJson response).mapError fun cause => .responseShape response ⟨cause, none⟩

/-- Both directions of a link. -/
structure Codec where
  limit : UInt32
  buffer : Reassembly

namespace Codec

/-- A codec at a frame boundary. -/
def new (limit : UInt32) : Codec := ⟨limit, .new limit⟩

/-- The frame around a JSON text. -/
def encode (codec : Codec) (text : Except Json.Fault Octets) : Except LinkError Octets :=
  frameMessage text codec.limit

/-- Adds a chunk; answers the frames that it completes. -/
def feed (codec : Codec) (chunk : Octets) : Except LinkError (List Frame) × Codec :=
  let (frames, buffer) := codec.buffer.push chunk
  (frames.mapError LinkError.ofIncoming, { codec with buffer := buffer })

/-- The shape of a frame's payload. -/
def decode (α : Type) [Shape α] (frame : Frame) : Except LinkError α :=
  decodePayload α frame.payload

/-- Octets received that do not yet make a frame. -/
def buffered (codec : Codec) : Nat := codec.buffer.size

/-- No partial frame is held. -/
def isEmpty (codec : Codec) : Bool := codec.buffer.isEmpty

/-- Forgets the partial frame. -/
def clear (codec : Codec) : Codec := { codec with buffer := codec.buffer.clear }

end Codec

end Antiphon
