import Antiphon.Proofs.Frame.Pushing
import Antiphon.Proofs.Json.Reading
import Mathlib.Data.List.Forall2

/-!
# From values to frames and back

A value is written, framed under the limit of the sender, cut out of the stream under the limit of
the receiver, and read. Each stage undoes another one: the frames of the stream are those that were
built, whatever the chunks (`feedEach_frames`), and a payload is read as the value that it was
written for (`conveys_frame`). The sender does not look at the depth of a value, so it frames some
that the receiver cannot read, and the frames around them do not notice.
-/

namespace Antiphon

/-- The frame that a value is sent in. -/
def Json.frame (value : Json) : Frame := ⟨value.render⟩

namespace Codec

/-- Every payload within the limit is framed, and a longer one is refused with its length and the
limit that it breaks first. -/
theorem encode_eq (limit : UInt32) (payload : Octets) :
    (new limit).encode (.ok payload) =
      if payload.length ≤ limit.toNat then .ok (Frame.mk payload).octets
      else .error (.payloadTooLarge payload.length
        (if Frame.absoluteLimit < payload.length then Frame.absoluteLimit else limit.toNat)) := by
  split
  · next fits => exact frameMessage_eq_ok_iff.mpr ⟨payload, rfl, fits, rfl⟩
  · next above =>
    have above : limit.toNat < payload.length := Nat.lt_of_not_le above
    simp only [encode, new, frameMessage, Frame.build, Frame.announce, Frame.checkLength, above,
      if_true]
    split <;> rfl

/-- Feeds chunks one after the other; gives every answer, and the codec that is left. -/
def feedEach (codec : Codec) : List Octets → List (Except LinkError (List Frame)) × Codec
  | [] => ([], codec)
  | chunk :: rest =>
    ((codec.feed chunk).1 :: ((codec.feed chunk).2.feedEach rest).1,
      ((codec.feed chunk).2.feedEach rest).2)

/-- The answers are those of the buffer. -/
theorem feedEach_eq (codec : Codec) (chunks : List Octets) :
    codec.feedEach chunks =
      ((codec.buffer.pushAll chunks).1.map (Except.mapError LinkError.ofIncoming),
        { codec with buffer := (codec.buffer.pushAll chunks).2 }) := by
  induction chunks generalizing codec with
  | nil => rfl
  | cons chunk rest inductionHypothesis =>
    simp only [feedEach, inductionHypothesis]
    rfl

/-- A stream of frames within the limit is answered by these frames, and nothing is left of it. -/
theorem feedEach_frames {limit : UInt32} {frames : List Frame}
    (allowed : ∀ frame ∈ frames, frame.size ≤ limit.toNat) {chunks : List Octets}
    (whole : chunks.flatten = frames.flatMap Frame.octets) :
    ∃ batches : List (List Frame), (new limit).feedEach chunks =
        (batches.map Except.ok, new limit) ∧ batches.flatten = frames := by
  have cut : Frame.cut limit chunks.flatten = (frames, []) := by
    have front := Frame.cut_frames_append allowed []
    rwa [Frame.cut_nil, List.append_nil, List.append_nil, ← whole] at front
  have fine : Frame.fatal? limit ([] ++ chunks.flatten) = none := by
    rw [List.nil_append, Frame.fatal?, cut]
    rfl
  obtain ⟨batches, pushed, counted, divided⟩ :=
    Reassembly.pushAll_holding (Frame.cut_nil limit) fine
  have all := divided chunks.length
  rw [← counted, List.take_length, counted, List.take_length, List.nil_append, cut] at all
  refine ⟨batches, ?_, all⟩
  rw [List.nil_append, cut] at pushed
  have fresh : (new limit).buffer = Reassembly.holding limit [] := rfl
  rw [feedEach_eq, fresh, pushed, List.map_map]
  rfl

/-- A frame holds the text of a value and is read as that value, unless it is too deep. -/
structure Conveys (value : Json) (frame : Frame) : Prop where
  payload : frame.payload = value.render
  read : value.depth ≤ 127 → decode Json frame = .ok value
  /-- The failure hands the payload back. -/
  refused : 127 < value.depth → ∃ place,
    decode Json frame = .error (.decode frame.payload ⟨.tooDeep, some place⟩)

/-- A plain value is conveyed by its frame. -/
theorem conveys_frame {value : Json} (plain : value.Plain) : Conveys value value.frame where
  payload := rfl
  read := by
    intro shallow
    rw [decode, decodePayload, Json.frame, Json.decodeAs_render plain shallow]
    rfl
  refused := by
    intro deep
    obtain ⟨place, stopped⟩ := Json.decodeAs_render_of_deep plain deep
    refine ⟨place, ?_⟩
    rw [decode, decodePayload, Json.frame, stopped]
    rfl

/-- The values whose text is within the limit. -/
def sendable (limit : UInt32) (values : List Json) : List Json :=
  values.filter fun value => value.render.length ≤ limit.toNat

/-- What a value is encoded as, if it is not refused. -/
def encoding? (limit : UInt32) (value : Json) : Option Octets :=
  ((new limit).encode (.ok value.render)).toOption

/-- The stream of all values that are not refused. -/
def stream (limit : UInt32) (values : List Json) : Octets :=
  (values.filterMap (encoding? limit)).flatten

/-- A value is encoded as its frame if its text is within the limit, and is refused otherwise. -/
theorem encoding?_eq (limit : UInt32) (value : Json) :
    encoding? limit value =
      if value.render.length ≤ limit.toNat then some value.frame.octets else none := by
  rw [encoding?, encode_eq]
  split <;> rfl

/-- The stream is made of the frames of the values that can be sent. -/
theorem stream_eq (limit : UInt32) (values : List Json) :
    stream limit values = ((sendable limit values).map Json.frame).flatMap Frame.octets := by
  rw [stream, sendable]
  induction values with
  | nil => rfl
  | cons value rest inductionHypothesis =>
    by_cases fits : value.render.length ≤ limit.toNat
    · rw [List.filterMap_cons_some (by rw [encoding?_eq, if_pos fits]), List.flatten_cons,
        inductionHypothesis]
      simp [fits]
    · rw [List.filterMap_cons_none (by rw [encoding?_eq, if_neg fits]), inductionHypothesis]
      simp [fits]

/-- What becomes of values between two codecs. -/
structure Conveyed (outgoing incoming : UInt32) (values : List Json) (chunks : List Octets)
    (batches : List (List Frame)) : Prop where
  /-- A value is encoded as its frame, or refused if its text is above the limit of the sender. -/
  encoded : ∀ value ∈ values, (new outgoing).encode (.ok value.render) =
    if value.render.length ≤ outgoing.toNat then .ok value.frame.octets
    else .error (.payloadTooLarge value.render.length
      (if Frame.absoluteLimit < value.render.length then Frame.absoluteLimit else outgoing.toNat))
  /-- No feed fails, and the last one leaves the receiver as it was, -/
  fed : (new incoming).feedEach chunks = (batches.map Except.ok, new incoming)
  /-- at a frame boundary. -/
  empty : ((new incoming).feedEach chunks).2.isEmpty = true
  /-- There is one frame for each value that was encoded, in their order, and it conveys its own. -/
  frames : List.Forall₂ Conveys (sendable outgoing values) batches.flatten

/-- Values without doubles survive the way from one codec to another whose limit is not lower, in
whatever chunks. -/
theorem conveyed_of_chunks {outgoing incoming : UInt32} (wider : outgoing ≤ incoming)
    {values : List Json} (plain : ∀ value ∈ values, value.Plain) {chunks : List Octets}
    (whole : chunks.flatten = stream outgoing values) :
    ∃ batches, Conveyed outgoing incoming values chunks batches := by
  have allowed : ∀ frame ∈ (sendable outgoing values).map Json.frame,
      frame.size ≤ incoming.toNat := by
    intro frame inside
    obtain ⟨value, sent, rfl⟩ := List.mem_map.mp inside
    have fits : value.render.length ≤ outgoing.toNat := by simpa using (List.mem_filter.mp sent).2
    exact Nat.le_trans fits wider
  rw [stream_eq] at whole
  obtain ⟨batches, fed, frames⟩ := feedEach_frames allowed whole
  refine ⟨batches, fun value _ => encode_eq outgoing value.render, fed, ?_, ?_⟩
  · rw [fed]
    rfl
  · rw [frames, List.forall₂_map_right_iff, List.forall₂_same]
    intro value sent
    exact conveys_frame (plain value (List.mem_filter.mp sent).1)

/-- Nothing within a number of brackets. -/
def nested : (brackets : Nat) → Json
  | 0 => .null
  | brackets + 1 => .array [nested brackets]

/-- There is nothing in nested brackets that could be read differently. -/
theorem plain_nested (brackets : Nat) : (nested brackets).Plain := by
  induction brackets with
  | zero => exact trivial
  | succ brackets inductionHypothesis => exact ⟨inductionHypothesis, trivial⟩

/-- Nested brackets are as deep as they are many. -/
theorem depth_nested (brackets : Nat) : (nested brackets).depth = brackets := by
  induction brackets with
  | zero => rfl
  | succ brackets inductionHypothesis =>
    simp [nested, Json.depth, Json.depthOfItems, inductionHypothesis]

/-- An object that is read back, 128 brackets that are not, and a text above the limit of 260. -/
theorem conveyed_of_three_values :
    ∃ (small long : Json) (chunks : List Octets) (batches : List (List Frame)),
      small = .ofMembers [("b", .array [.null]),
        ("a\n", .number (.whole ⟨-5, by decide, by decide⟩))] ∧
      long = .string (String.ofList (List.replicate 300 'x')) ∧
      (260 : UInt32) ≤ 300 ∧
      (∀ value ∈ [small, nested 128, long], value.Plain) ∧
      chunks.flatten = stream 260 [small, nested 128, long] ∧
      sendable 260 [small, nested 128, long] = [small, nested 128] ∧
      small.depth ≤ 127 ∧ 127 < (nested 128).depth ∧
      Conveyed 260 300 [small, nested 128, long] chunks batches := by
  let small : Json := .ofMembers [("b", .array [.null]),
    ("a\n", .number (.whole ⟨-5, by decide, by decide⟩))]
  let long : Json := .string (String.ofList (List.replicate 300 'x'))
  let whole := stream 260 [small, nested 128, long]
  have plain : ∀ value ∈ [small, nested 128, long], value.Plain := by
    simp only [List.forall_mem_cons]
    refine ⟨Json.plain_ofMembers ?_, plain_nested 128, trivial, by simp⟩
    simp only [List.forall_mem_cons]
    exact ⟨⟨trivial, trivial⟩, trivial, by simp⟩
  have chunked : [whole.take 3, [], whole.drop 3].flatten = whole := by simp
  obtain ⟨batches, conveyed⟩ := conveyed_of_chunks (by decide : (260 : UInt32) ≤ 300) plain chunked
  exact ⟨small, long, _, batches, rfl, rfl, by decide, plain, chunked, by decide +kernel,
    by decide +kernel, by rw [depth_nested]; decide, conveyed⟩

end Codec

end Antiphon
