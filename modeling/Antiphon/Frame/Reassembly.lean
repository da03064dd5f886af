import Antiphon.Frame.Basic

/-!
# Reassembly of frames from arbitrary chunks

Octets arrive in chunks whose ends mean nothing. The buffer keeps what does not yet
make a frame and says what it waits for: a length, or a payload whose length it has
already consumed. Each push adds its chunk and takes out every frame that is now
complete.

A length above the limit is never consumed. The push that meets it reports it and
gives up the frames it had found; every later push meets the same length first, so
the stream stays broken until `clear`.

The extraction loop needs no bound of its own: a frame leaves either octets or the
pending length behind, so `load` falls at each round.
-/

namespace Antiphon

/-- What the next octets will be read as. -/
inductive Awaiting
  | length
  | payload (size : Nat)
deriving DecidableEq, Repr

/-- Octets received that do not yet make a frame. -/
structure Reassembly where
  limit : UInt32
  held : Octets
  awaiting : Awaiting
deriving DecidableEq

namespace Reassembly

/-- A buffer at a frame boundary. -/
def new (limit : UInt32) : Reassembly := ⟨limit, [], .length⟩

/-- Octets held, without a length that has been consumed. -/
def size (buffer : Reassembly) : Nat := buffer.held.length

/-- At a frame boundary: nothing is held and no payload is outstanding. -/
def isEmpty (buffer : Reassembly) : Bool := buffer.held.isEmpty && buffer.awaiting == .length

/-- Forgets the partial frame and returns to a frame boundary. -/
def clear (buffer : Reassembly) : Reassembly := new buffer.limit

/-- What one look at the held octets gives. -/
inductive Progress
  | stalled (buffer : Reassembly)
  | complete (frame : Frame) (buffer : Reassembly)
  | refused (cause : Oversized)

/-- Takes the payload of announced size off the held octets, if it is all there. -/
def takePayload (buffer : Reassembly) (size : Nat) : Progress :=
  match buffer.held.split? size with
  | some (payload, rest) => .complete ⟨payload⟩ { buffer with held := rest, awaiting := .length }
  | none => .stalled { buffer with awaiting := .payload size }

/-- Looks for one frame. A length is checked before it is consumed. -/
def next (buffer : Reassembly) : Progress :=
  match buffer.awaiting with
  | .payload size => buffer.takePayload size
  | .length =>
    match buffer.held.ofBigEndian? with
    | none => .stalled buffer
    | some size =>
      match Frame.checkLength size buffer.limit with
      | .error cause => .refused cause
      | .ok () => takePayload { buffer with held := buffer.held.drop Frame.lengthSize } size

/-- What a completed frame uses up: octets, or the length that was waiting. -/
def load (buffer : Reassembly) : Nat :=
  2 * buffer.held.length + match buffer.awaiting with
    | .length => 0
    | .payload _ => 1

/-- A payload that is taken out leaves no more to look at than was held. -/
theorem load_takePayload {buffer after : Reassembly} {size : Nat} {frame : Frame}
    (complete : buffer.takePayload size = .complete frame after) :
    after.load ≤ 2 * buffer.held.length := by
  unfold takePayload at complete
  split at complete
  · next payload rest split =>
    obtain ⟨_, held⟩ := Octets.split?_eq_some_iff.1 split
    cases complete
    simp only [load, held, List.length_append]
    omega
  · cases complete

/-- A completed frame leaves less to look at. -/
theorem load_next {buffer after : Reassembly} {frame : Frame}
    (complete : buffer.next = .complete frame after) : after.load < buffer.load := by
  unfold next at complete
  split at complete
  · next awaiting =>
    have bound := load_takePayload complete
    simp only [load, awaiting] at bound ⊢
    omega
  · next awaiting =>
    split at complete
    · cases complete
    · next size read =>
      split at complete
      · cases complete
      · have bound := load_takePayload complete
        have enough : ¬ buffer.held.length < 4 := fun short => by
          rw [Octets.ofBigEndian?_eq_none_iff.2 short] at read
          cases read
        simp only [Frame.lengthSize, List.length_drop] at bound
        have least : 2 * buffer.held.length ≤ buffer.load := by simp [load]
        omega

/-- Takes complete frames until none is left, after those in `found` (latest first). -/
def extract (found : List Frame) (buffer : Reassembly) :
    Except Oversized (List Frame) × Reassembly :=
  match _progress : buffer.next with
  | .stalled after => (.ok found.reverse, after)
  | .refused cause => (.error cause, buffer)
  | .complete frame after => extract (frame :: found) after
termination_by buffer.load
decreasing_by exact load_next _progress

/-- Adds a chunk; answers every frame it completes, in stream order, or the length that
ended the stream. -/
def push (buffer : Reassembly) (chunk : Octets) : Except Oversized (List Frame) × Reassembly :=
  extract [] { buffer with held := buffer.held ++ chunk }

end Reassembly

end Antiphon
