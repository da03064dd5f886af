import Antiphon.Proofs.Frame.Feeding
import Antiphon.Proofs.Session.Ending

/-!
# Pushing a stream into a fresh buffer

The buffer consumes a length before its payload is there, so what it holds after some pushes
depends on where the last cut fell. What it answers does not. As long as no length is above the
limit, the pushes together answer the complete frames that the stream begins with, each at the
push that brings its last octet, and the buffer stands for the tail behind them (`Reassembled`).

The induction is over the chunks. Its statement speaks of every number of pushes at once, which is
what places each frame at its push; the tail that one push leaves is where the next one begins.
-/

namespace Antiphon

namespace Frame

/-- A frame of a stream is complete in a beginning of it if and only if its last octet is there. -/
theorem lt_length_cut_iff {limit : UInt32} {front back : Octets} {place : Nat}
    (inside : place < (cut limit (front ++ back)).1.length) :
    place < (cut limit front).1.length ↔
      (((cut limit (front ++ back)).1.take (place + 1)).flatMap Frame.octets).length ≤
        front.length := by
  obtain ⟨joined, allowed, _⟩ := cut_spec limit (front ++ back)
  constructor
  · intro complete
    have same : (cut limit (front ++ back)).1.take (place + 1) =
        (cut limit front).1.take (place + 1) := by
      obtain ⟨later, whole⟩ := cut_prefix limit front back
      rw [← whole, List.take_append_of_le_length complete]
    obtain ⟨begun, _⟩ := cut_spec limit front
    have part : ((cut limit front).1.take (place + 1)).flatMap Frame.octets <+: front := by
      conv => rhs; rw [begun, ← List.take_append_drop (place + 1) (cut limit front).1]
      rw [List.flatMap_append, List.append_assoc]
      exact List.prefix_append _ _
    rw [same]
    exact part.length_le
  · intro there
    have part : ((cut limit (front ++ back)).1.take (place + 1)).flatMap Frame.octets <+:
        front ++ back := by
      conv => rhs; rw [joined, ← List.take_append_drop (place + 1) (cut limit (front ++ back)).1]
      rw [List.flatMap_append, List.append_assoc]
      exact List.prefix_append _ _
    obtain ⟨rest, whole⟩ := List.prefix_of_prefix_length_le part (List.prefix_append _ _) there
    have divided := cut_frames_append
      (fun frame member => allowed frame (List.mem_of_mem_take (i := place + 1) member)) rest
    rw [whole] at divided
    have count := congrArg (fun parts => parts.1.length) divided
    simp only [List.length_append, List.length_take] at count
    omega

/-- What octets that begin neither with a frame nor with a length above the limit are: too short
for a length, or too short for the payload that is announced. -/
theorem unfinished_of_first?_none {limit : UInt32} {octets : Octets}
    (unfinished : first? limit octets = none) (allowed : violation? limit octets = none) :
    octets.length < lengthSize ∨ ∃ size, octets.ofBigEndian? = some size ∧
      size ≤ limit.toNat ∧ octets.length < lengthSize + size := by
  cases read : octets.ofBigEndian? with
  | none => exact .inl (Octets.ofBigEndian?_eq_none_iff.mp read)
  | some size =>
    have fits : size ≤ limit.toNat := by
      simp only [violation?, read] at allowed
      split at allowed
      · cases allowed
      · next fits => exact Nat.le_of_not_lt fits
    have short : Octets.split? size (octets.drop lengthSize) = none := by
      simpa [first?, read, Nat.not_lt.mpr fits] using unfinished
    rw [Octets.split?_eq_none_iff, List.length_drop] at short
    exact .inr ⟨size, rfl, fits, by omega⟩

/-- Frames within the limit can be built again. -/
theorem mapM_build {limit : UInt32} {frames : List Frame}
    (allowed : ∀ frame ∈ frames, frame.size ≤ limit.toNat) :
    frames.mapM (fun frame => build frame.payload limit) = .ok (frames.map Frame.octets) := by
  induction frames with
  | nil => rfl
  | cons frame rest inductionHypothesis =>
    simp only [List.forall_mem_cons] at allowed
    have built : build frame.payload limit = .ok frame.octets :=
      build_eq_ok_iff.mpr ⟨allowed.1, rfl⟩
    rw [List.mapM_cons, built, inductionHypothesis allowed.2]
    rfl

end Frame

namespace Reassembly

/-- A buffer is at a frame boundary if and only if it stands for no octets: a length that has been
consumed still counts. -/
theorem isEmpty_holding (limit : UInt32) (tail : Octets) :
    (holding limit tail).isEmpty = true ↔ tail = [] := by
  unfold holding
  cases read : tail.ofBigEndian? with
  | none => simp [isEmpty]
  | some size =>
    have filled : tail ≠ [] := by
      rintro rfl
      cases read
    by_cases above : limit.toNat < size <;> simp [isEmpty, above, filled]

/-- A complete and allowed length is not held any more. -/
theorem size_holding {limit : UInt32} {tail : Octets}
    (allowed : Frame.violation? limit tail = none) :
    (holding limit tail).size =
      if Frame.lengthSize ≤ tail.length then tail.length - Frame.lengthSize else tail.length := by
  unfold Frame.violation? at allowed
  unfold holding
  cases read : tail.ofBigEndian? with
  | none =>
    have short : tail.length < Frame.lengthSize := Octets.ofBigEndian?_eq_none_iff.mp read
    simp [size, Nat.not_le.mpr short]
  | some announced =>
    have whole : Frame.lengthSize ≤ tail.length := by
      apply Nat.le_of_not_lt
      intro short
      rw [Octets.ofBigEndian?_eq_none_iff.mpr short] at read
      cases read
    by_cases above : limit.toNat < announced
    · simp [read, above] at allowed
    · simp [size, above, whole]

/-- Pushes chunks one after the other; gives every answer, and the buffer that is left. -/
def pushAll (buffer : Reassembly) :
    List Octets → List (Except Oversized (List Frame)) × Reassembly
  | [] => ([], buffer)
  | chunk :: rest =>
    ((buffer.push chunk).1 :: ((buffer.push chunk).2.pushAll rest).1,
      ((buffer.push chunk).2.pushAll rest).2)

/-- Behind a tail, any number of pushes answers what the tail and their chunks are cut into. -/
theorem pushAll_holding {limit : UInt32} {tail : Octets} {chunks : List Octets}
    (unfinished : Frame.cut limit tail = ([], tail))
    (allowed : Frame.fatal? limit (tail ++ chunks.flatten) = none) :
    ∃ batches : List (List Frame), (holding limit tail).pushAll chunks =
        (batches.map Except.ok, holding limit (Frame.cut limit (tail ++ chunks.flatten)).2) ∧
      batches.length = chunks.length ∧
      ∀ pushes, (batches.take pushes).flatten =
        (Frame.cut limit (tail ++ (chunks.take pushes).flatten)).1 := by
  induction chunks generalizing tail with
  | nil => exact ⟨[], by simp [pushAll, unfinished], rfl, by simp [unfinished]⟩
  | cons chunk rest inductionHypothesis =>
    rw [List.flatten_cons, ← List.append_assoc] at allowed ⊢
    have first := Frame.fatal?_eq_none_of_append allowed
    rw [← Frame.fatal?_tail_append] at allowed
    obtain ⟨batches, later, counted, divided⟩ :=
      inductionHypothesis (Frame.cut_tail limit (tail ++ chunk)) allowed
    refine ⟨(Frame.cut limit (tail ++ chunk)).1 :: batches, ?_, by simp [counted], ?_⟩
    · simp only [pushAll, push_holding, later, verdict_of_allowed first, List.map_cons]
      rw [Frame.cut_append limit (tail ++ chunk)]
    · intro pushes
      cases pushes with
      | zero => simp [unfinished]
      | succ pushes =>
        rw [List.take_succ_cons, List.flatten_cons, divided, List.take_succ_cons,
          List.flatten_cons, ← List.append_assoc, Frame.cut_append limit (tail ++ chunk)]

end Reassembly

/-- What pushes of a stream come to, told by the stream as a whole: `batches` are the frames that
were answered, push by push, and `buffer` stands for the `tail` behind them. -/
structure Reassembled (limit : UInt32) (chunks : List Octets) (batches : List (List Frame))
    (buffer : Reassembly) (tail : Octets) : Prop where
  /-- The frames are the complete ones that the stream begins with. -/
  frames : Frame.cut limit chunks.flatten = (batches.flatten, tail)
  /-- A frame has been answered after some pushes if and only if their chunks hold its last
  octet. -/
  timely : ∀ pushes place, place < batches.flatten.length →
    (place < (batches.take pushes).flatten.length ↔
      ((batches.flatten.take (place + 1)).flatMap Frame.octets).length ≤
        (chunks.take pushes).flatten.length)
  /-- Built again, and in front of the tail, the frames are the stream. -/
  rebuilt : ∃ written, batches.flatten.mapM (fun frame => Frame.build frame.payload limit) =
      .ok written ∧ written.flatten ++ tail = chunks.flatten
  /-- The tail is too short for a length, or for the payload that it announces. -/
  unfinished : tail.length < Frame.lengthSize ∨
    ∃ size, tail.ofBigEndian? = some size ∧ size ≤ limit.toNat ∧
      tail.length < Frame.lengthSize + size
  /-- A length that is complete is not counted any more, -/
  size : buffer.size =
    if Frame.lengthSize ≤ tail.length then tail.length - Frame.lengthSize else tail.length
  /-- but the buffer is not at a frame boundary until its payload is complete as well. -/
  empty : buffer.isEmpty = true ↔ tail = []
  /-- A session with this buffer reports a truncated frame if the peer closes inside one. -/
  reported : ∀ session : Session, session.codec.buffer = buffer →
    gather Event.truncation? session.endByPeer.history =
      gather Event.truncation? session.history ++ if tail = [] then [] else [buffer.size]

/-- A fresh buffer reassembles a stream, whatever the chunks. As long as no length is above the
limit every push succeeds, and the answers and the buffer are told by the stream alone. -/
theorem reassembled_of_pushes {limit : UInt32} {chunks : List Octets}
    (allowed : Frame.fatal? limit chunks.flatten = none) :
    ∃ batches : List (List Frame),
      ((Reassembly.new limit).pushAll chunks).1 = batches.map Except.ok ∧
      batches.length = chunks.length ∧
      Reassembled limit chunks batches ((Reassembly.new limit).pushAll chunks).2
        (Frame.cut limit chunks.flatten).2 := by
  obtain ⟨batches, pushed, counted, divided⟩ :=
    Reassembly.pushAll_holding (Frame.cut_nil limit) allowed
  have fresh : Reassembly.holding limit [] = Reassembly.new limit := rfl
  rw [fresh, List.nil_append] at pushed
  have all : batches.flatten = (Frame.cut limit chunks.flatten).1 := by
    have total := divided chunks.length
    rwa [← counted, List.take_length, counted, List.take_length] at total
  obtain ⟨joined, within, unfinished⟩ := Frame.cut_spec limit chunks.flatten
  have boundary := Reassembly.isEmpty_holding limit (Frame.cut limit chunks.flatten).2
  refine ⟨batches, by rw [pushed], counted, ?_⟩
  rw [pushed]
  refine ⟨by rw [all], ?_, ?_, Frame.unfinished_of_first?_none unfinished allowed,
    Reassembly.size_holding allowed, boundary, ?_⟩
  · intro pushes place inside
    have parts : chunks.flatten = (chunks.take pushes).flatten ++ (chunks.drop pushes).flatten := by
      rw [← List.flatten_append, List.take_append_drop]
    rw [all, parts] at inside
    rw [divided, all, parts]
    exact Frame.lt_length_cut_iff inside
  · refine ⟨_, by rw [all, Frame.mapM_build within], ?_⟩
    rw [← List.flatMap_def, ← joined]
  · intro session held
    have same : session.codec.isEmpty = session.codec.buffer.isEmpty := rfl
    rw [session.truncations_endByPeer, same, Codec.buffered, held]
    by_cases none : (Frame.cut limit chunks.flatten).2 = []
    · rw [if_pos none, if_pos (boundary.mpr none)]
    · rw [if_neg none, if_neg fun empty => none (boundary.mp empty)]

/-- A length cut off behind its last octet, a frame without payload, a push of nothing, and a tail
that announces two octets and has one. -/
theorem reassembled_of_four_pushes :
    ∃ (chunks : List Octets) (batches : List (List Frame)),
      chunks = [[0, 0, 0, 1], [0x31, 0, 0, 0, 0, 0], [], [0, 0, 2, 0x7b]] ∧
      Frame.fatal? 4 chunks.flatten = none ∧
      ((Reassembly.new 4).pushAll chunks).1 = batches.map Except.ok ∧
      batches.flatten = [⟨[0x31]⟩, ⟨[]⟩] ∧ (batches.take 1).flatten = [] ∧
      ((Reassembly.new 4).pushAll chunks).2.size = 1 ∧
      ((Reassembly.new 4).pushAll chunks).2.isEmpty = false := by
  let chunks : List Octets := [[0, 0, 0, 1], [0x31, 0, 0, 0, 0, 0], [], [0, 0, 2, 0x7b]]
  have allowed : Frame.fatal? 4 chunks.flatten = none := by decide +kernel
  have cut : Frame.cut 4 chunks.flatten = ([⟨[0x31]⟩, ⟨[]⟩], [0, 0, 0, 2, 0x7b]) := by
    decide +kernel
  obtain ⟨batches, pushed, _, reassembled⟩ := reassembled_of_pushes allowed
  have frames : [⟨[0x31]⟩, ⟨[]⟩] = batches.flatten :=
    (congrArg Prod.fst cut).symm.trans (congrArg Prod.fst reassembled.frames)
  have first : (batches.take 1).flatten = [] := by
    have begun := reassembled.timely 1 0
    rw [← frames] at begun
    have late : ¬ 0 < (batches.take 1).flatten.length := fun early =>
      absurd ((begun (by decide)).mp early) (by decide)
    exact List.eq_nil_of_length_eq_zero (Nat.eq_zero_of_not_pos late)
  refine ⟨chunks, batches, rfl, allowed, pushed, frames.symm, first, ?_, ?_⟩
  · rw [reassembled.size, cut]
    rfl
  · apply Bool.eq_false_iff.mpr
    rw [ne_eq, reassembled.empty, cut]
    decide

end Antiphon
