import Antiphon.Proofs.Frame.Breach

/-!
# How much a buffer holds

A peer can announce any length, and the buffer keeps what it cannot use yet. What bounds it is the
loop that takes frames out: it only ends where something is missing, and then less is held than is
awaited (`Unfilled`). Since a length above the limit is never awaited, no more than the limit is
held.

`Extraction` follows the loop round by round, so that its derivations are its finite runs. Neither
the held octets nor what is awaited falls at every round. A frame without payload uses up no
octet of a payload, and a frame that was half read uses up none of a length. `burden` therefore
counts the octets of a length that has been consumed as if they were still held; every round then
takes four octets or more.
-/

namespace Antiphon.Reassembly

/-- How the loop that takes out frames runs from a buffer: the frames that it takes, one a round,
how it ends, and the buffer that it leaves. -/
inductive Extraction : Reassembly → List Frame → Except Oversized Unit → Reassembly → Prop
  | stalled {buffer after : Reassembly} (looked : buffer.next = .stalled after) :
      Extraction buffer [] (.ok ()) after
  | refused {buffer : Reassembly} {cause : Oversized} (looked : buffer.next = .refused cause) :
      Extraction buffer [] (.error cause) buffer
  | complete {buffer after last : Reassembly} {frame : Frame} {frames : List Frame}
      {ending : Except Oversized Unit} (looked : buffer.next = .complete frame after)
      (later : Extraction after frames ending last) :
      Extraction buffer (frame :: frames) ending last

/-- The loop comes to an end from every buffer. The induction is on the load, which falls at each
round. -/
theorem exists_extraction (buffer : Reassembly) :
    ∃ frames ending last, Extraction buffer frames ending last := by
  induction bound : buffer.load using Nat.strongRecOn generalizing buffer with
  | ind load inductionHypothesis =>
    cases looked : buffer.next with
    | stalled after => exact ⟨[], _, after, .stalled looked⟩
    | refused cause => exact ⟨[], _, buffer, .refused looked⟩
    | complete frame after =>
      have less : after.load < load := bound ▸ load_next looked
      obtain ⟨frames, ending, last, later⟩ := inductionHypothesis after.load less after rfl
      exact ⟨frame :: frames, ending, last, .complete looked later⟩

/-- Its frames are the answer, unless it ends with a length above the limit. -/
theorem Extraction.extract_eq {buffer last : Reassembly} {frames : List Frame}
    {ending : Except Oversized Unit} (extraction : Extraction buffer frames ending last)
    (found : List Frame) :
    extract found buffer = (ending.map fun _ => found.reverse ++ frames, last) := by
  induction extraction generalizing found with
  | stalled looked =>
    rw [extract_of_stalled looked, Except.map, List.append_nil]
  | refused looked => exact extract_of_refused looked found
  | complete looked _ inductionHypothesis =>
    rw [extract_of_complete looked, inductionHypothesis, List.reverse_cons, List.append_assoc]
    rfl

/-- The octets of the unfinished frame, those of a consumed length included. -/
def burden (buffer : Reassembly) : Nat :=
  buffer.held.length + match buffer.awaiting with
    | .length => 0
    | .payload _ => Frame.lengthSize

/-- A payload that is taken out leaves no greater burden than was held. -/
theorem burden_takePayload {buffer after : Reassembly} {size : Nat} {frame : Frame}
    (complete : buffer.takePayload size = .complete frame after) :
    after.burden ≤ buffer.held.length := by
  unfold takePayload at complete
  split at complete
  · next payload rest split =>
    obtain ⟨_, held⟩ := Octets.split?_eq_some_iff.mp split
    cases complete
    simp only [burden, held, List.length_append]
    omega
  · cases complete

/-- A frame takes the four octets of its length with it, whether or not they were still held. -/
theorem burden_next {buffer after : Reassembly} {frame : Frame}
    (complete : buffer.next = .complete frame after) :
    after.burden + Frame.lengthSize ≤ buffer.burden := by
  unfold next at complete
  split at complete
  · next awaiting =>
    -- The length was consumed before this round, and only the burden still counts it.
    have bound := burden_takePayload complete
    simp only [burden, awaiting] at bound ⊢
    omega
  · next awaiting =>
    split at complete
    · cases complete
    · next size read =>
      split at complete
      · cases complete
      · have enough : ¬ buffer.held.length < 4 := by
          intro short
          rw [Octets.ofBigEndian?_eq_none_iff.mpr short] at read
          cases read
        have bound := burden_takePayload complete
        simp only [Frame.lengthSize, List.length_drop] at bound ⊢
        simp only [burden, awaiting] at bound ⊢
        omega

/-- So there are no more rounds than the octets allow. -/
theorem Extraction.length_frames_le {buffer last : Reassembly} {frames : List Frame}
    {ending : Except Oversized Unit} (extraction : Extraction buffer frames ending last) :
    frames.length ≤ buffer.burden / Frame.lengthSize := by
  rw [Nat.le_div_iff_mul_le (by decide)]
  induction extraction with
  | stalled | refused => exact Nat.zero_le _
  | complete looked _ inductionHypothesis =>
    have taken := burden_next looked
    rw [List.length_cons, Nat.succ_mul]
    omega

/-- Less is held than is awaited, and no more is awaited than the limit allows. -/
def Unfilled (buffer : Reassembly) : Prop :=
  match buffer.awaiting with
  | .length => buffer.held.length < Frame.lengthSize
  | .payload size => size ≤ buffer.limit.toNat ∧ buffer.held.length < size

/-- A buffer that is unfilled holds three octets of a length, or all of a payload but its last
octet. -/
theorem Unfilled.size_le {buffer : Reassembly} (unfilled : buffer.Unfilled) :
    buffer.size ≤ max 3 (buffer.limit.toNat - 1) := by
  unfold Unfilled at unfilled
  unfold size
  split at unfilled
  · have short : buffer.held.length < 4 := unfilled
    omega
  · omega

/-- A payload that is not complete leaves the buffer unfilled. -/
theorem unfilled_takePayload {buffer after : Reassembly} {size : Nat}
    (fits : size ≤ buffer.limit.toNat) (stalled : buffer.takePayload size = .stalled after) :
    after.Unfilled := by
  unfold takePayload at stalled
  split at stalled
  · cases stalled
  · next short =>
    cases stalled
    exact ⟨fits, Octets.split?_eq_none_iff.mp short⟩

/-- A look that finds no frame leaves the buffer unfilled. -/
theorem unfilled_next {buffer after : Reassembly} (allowed : buffer.Allowed)
    (stalled : buffer.next = .stalled after) : after.Unfilled := by
  unfold next at stalled
  split at stalled
  · next size awaiting => exact unfilled_takePayload (allowed size awaiting) stalled
  · next awaiting =>
    split at stalled
    · next short =>
      cases stalled
      unfold Unfilled
      rw [awaiting]
      exact Octets.ofBigEndian?_eq_none_iff.mp short
    · next size read =>
      split at stalled
      · cases stalled
      · next checked =>
        have fits : size ≤ buffer.limit.toNat := by
          unfold Frame.checkLength at checked
          split at checked
          · cases checked
          · next fits => exact Nat.le_of_not_lt fits
        refine unfilled_takePayload ?_ stalled
        exact fits

/-- One that finds a frame leaves it at a frame boundary. -/
theorem allowed_next {buffer after : Reassembly} {frame : Frame}
    (complete : buffer.next = .complete frame after) : after.Allowed := by
  have boundary {buffer : Reassembly} {size : Nat}
      (taken : buffer.takePayload size = .complete frame after) : after.awaiting = .length := by
    unfold takePayload at taken
    split at taken
    · cases taken
      rfl
    · cases taken
  have here : after.awaiting = .length := by
    unfold next at complete
    split at complete
    · exact boundary complete
    · split at complete
      · cases complete
      · split at complete
        · cases complete
        · exact boundary complete
  intro size awaited
  rw [here] at awaited
  cases awaited

/-- Where the loop ends without a length above the limit the buffer is unfilled. -/
theorem Extraction.unfilled {buffer last : Reassembly} {frames : List Frame}
    (extraction : Extraction buffer frames (.ok ()) last) (allowed : buffer.Allowed) :
    last.Unfilled := by
  generalize fine : Except.ok () = ending at extraction
  induction extraction with
  | stalled looked => exact unfilled_next allowed looked
  | refused => cases fine
  | complete looked _ inductionHypothesis => exact inductionHypothesis (allowed_next looked) fine

/-- No history makes a buffer await more than its limit allows. -/
theorem allowed_of_history (limit : UInt32) (history : List Use) :
    (history.foldl after (new limit)).Allowed ∧
      (history.foldl after (new limit)).limit = limit := by
  have stands := foldl_after limit [] history
  have fresh : holding limit (Frame.cut limit []).2 = new limit := by
    rw [Frame.cut_nil]
    rfl
  rw [fresh] at stands
  rw [stands]
  exact ⟨holding_allowed limit _, limit_holding limit _⟩

/-- Memory is bounded by what was received and by the limit, whatever the peer announces. After any
history of pushes and clears, a push that succeeds leaves the buffer waiting for a length of which
it holds less than four octets, or for a payload within the limit of which not all is there; so it
never holds more than three octets or all but one of the limit. The loop of every push, whether it
succeeds or not, comes to an end after as many rounds as there are lengths in the octets, one of
which may have been consumed before; what it takes is what the push answers. -/
theorem held_bounded (limit : UInt32) (history : List Use) (chunk : Octets) :
    let buffer := history.foldl after (new limit)
    (∀ frames, (buffer.push chunk).1 = .ok frames →
      (buffer.push chunk).2.Unfilled ∧ (buffer.push chunk).2.limit = limit ∧
        (buffer.push chunk).2.size ≤ max 3 (limit.toNat - 1)) ∧
    ∃ frames ending last,
      Extraction { buffer with held := buffer.held ++ chunk } frames ending last ∧
      buffer.push chunk = (ending.map fun _ => frames, last) ∧
      frames.length ≤ (buffer.size + chunk.length + 4) / 4 := by
  intro buffer
  obtain ⟨allowed, limited⟩ := allowed_of_history limit history
  obtain ⟨frames, ending, last, extraction⟩ :=
    exists_extraction { buffer with held := buffer.held ++ chunk }
  have answer : buffer.push chunk = (ending.map fun _ => frames, last) := extraction.extract_eq []
  constructor
  · intro taken succeeded
    have same : last.limit = limit := by
      have left := congrArg (fun answer => answer.2.limit) answer
      rw [push_eq allowed, limit_holding, limited] at left
      exact left.symm
    rw [answer] at succeeded ⊢
    cases ending with
    | error cause => cases succeeded
    | ok _ =>
      have unfilled : last.Unfilled := extraction.unfilled allowed
      exact ⟨unfilled, same, same ▸ unfilled.size_le⟩
  · refine ⟨frames, ending, last, extraction, answer, ?_⟩
    refine Nat.le_trans extraction.length_frames_le (Nat.div_le_div_right ?_)
    simp only [burden, size, List.length_append, Frame.lengthSize]
    split <;> omega

/-- A payload whose length came before it, two frames without payload, and a part of a third: three
frames from ten octets and those of the consumed length. -/
theorem held_bounded_of_half_a_frame :
    ∃ (history : List Use) (chunk : Octets) (last : Reassembly),
      history = [.push [0, 0, 0, 9], .clear, .push [0, 0, 0, 1]] ∧
      chunk = [0x31, 0, 0, 0, 0, 0, 0, 0, 0, 0] ∧
      (history.foldl after (new 4)).push chunk = (.ok [⟨[0x31]⟩, ⟨[]⟩, ⟨[]⟩], last) ∧
      last = ⟨4, [0], .length⟩ ∧ last.Unfilled ∧ last.size ≤ max 3 ((4 : UInt32).toNat - 1) := by
  let history : List Use := [.push [0, 0, 0, 9], .clear, .push [0, 0, 0, 1]]
  let chunk : Octets := [0x31, 0, 0, 0, 0, 0, 0, 0, 0, 0]
  have halfway : history.foldl after (new 4) = holding 4 [0, 0, 0, 1] := by decide +kernel
  have fine : Frame.fatal? 4 ([0, 0, 0, 1] ++ chunk) = none := by decide +kernel
  have cut : Frame.cut 4 ([0, 0, 0, 1] ++ chunk) = ([⟨[0x31]⟩, ⟨[]⟩, ⟨[]⟩], [0]) := by
    decide +kernel
  have pushed : (history.foldl after (new 4)).push chunk =
      (.ok [⟨[0x31]⟩, ⟨[]⟩, ⟨[]⟩], ⟨4, [0], .length⟩) := by
    rw [halfway, push_holding, verdict_of_allowed fine, cut]
    rfl
  obtain ⟨unfilled, _, bounded⟩ := (held_bounded 4 history chunk).1 _ (congrArg Prod.fst pushed)
  have left := congrArg Prod.snd pushed
  rw [left] at unfilled bounded
  exact ⟨history, chunk, _, rfl, rfl, pushed, rfl, unfilled, bounded⟩

end Antiphon.Reassembly
