import Antiphon.Envelope.Request
import Antiphon.Envelope.Response
import Antiphon.Proofs.Session.Pairing
import Antiphon.Proofs.Shape.Coherence
import Antiphon.Session.Waiter

/-!
# Two ways to an envelope

A frame can be read as a request or a response directly. A caller that asks for one gets it in two
steps: the payload is read as a value, for which nobody needs to know the shape, and the shape is
taken from the value. The two ways agree where both succeed, and the second one succeeds without the
first only if an object in the payload repeats a key (`two_ways`): the value has forgotten that the
key was there twice, while the direct reader refuses a field that comes again.
-/

namespace Antiphon

open Json

/-! ## Envelopes are coherent -/

/-- A status is a number that is read, or taken, before it is looked up. -/
instance : Coherent Status where
  agree := by
    constructor
    · intro budget text rest behind tree status offered taken
      obtain ⟨⟨code, after⟩, number, taken⟩ := bind_eq_ok_iff.mp taken
      obtain ⟨rfl, held⟩ := Coherent.agree.sound offered number
      simp only at taken
      split at taken
      · next status looked =>
        cases taken
        refine ⟨rfl, bind_eq_ok_iff.mpr ⟨code, held, ?_⟩⟩
        simp only [looked]
      · cases taken
    · intro budget text rest tree status offered distinct taken
      obtain ⟨code, number, taken⟩ := bind_eq_ok_iff.mp taken
      refine bind_eq_ok_iff.mpr ⟨_, Coherent.agree.complete offered distinct number, ?_⟩
      split at taken
      · next status looked =>
        cases taken
        simp only [looked]
      · cases taken

/-- The path and the method of a routing make no difference to each other. -/
theorem Routing.orderly_record : Routing.record.Orderly where
  marks := by
    simp only [Routing.record, List.forall_mem_cons]
    exact ⟨Field.marks_of fun _ _ => rfl, Field.marks_of fun _ _ => rfl, by simp⟩
  apart := by
    simp only [Routing.record, List.pairwise_cons, List.forall_mem_cons]
    refine ⟨⟨?_, by simp⟩, by simp, List.Pairwise.nil⟩
    exact Field.apart_of (fun _ _ => rfl) (fun _ _ => rfl) (fun _ _ _ => rfl)

/-- The two ways agree on routings. -/
instance : Coherent Routing where
  agree := by
    refine Record.agree Routing.orderly_record ?_
    simp only [Routing.record, List.forall_mem_cons]
    exact ⟨Field.agrees_of _ _ _ _, Field.agrees_of _ _ _ _, by simp⟩

/-- No member of a request makes a difference to another one. -/
theorem Request.orderly_record : Request.record.Orderly where
  marks := by
    simp only [Request.record, List.forall_mem_cons]
    exact ⟨Field.marks_of fun _ _ => rfl, Field.marks_of fun _ _ => rfl,
      Field.marks_of fun _ _ => rfl, by simp⟩
  apart := by
    simp only [Request.record, List.pairwise_cons, List.forall_mem_cons]
    refine ⟨⟨?_, ?_, by simp⟩, ⟨?_, by simp⟩, by simp, List.Pairwise.nil⟩ <;>
      exact Field.apart_of (fun _ _ => rfl) (fun _ _ => rfl) (fun _ _ _ => rfl)

/-- The two ways agree on requests. -/
instance : Coherent Request where
  agree := by
    refine Record.agree Request.orderly_record ?_
    simp only [Request.record, List.forall_mem_cons]
    exact ⟨Field.agrees_of _ _ _ _, Field.agrees_of _ _ _ _, Field.agrees_of _ _ _ _, by simp⟩

/-- The status and the body of a response make no difference to each other. -/
theorem Response.orderly_record : Response.record.Orderly where
  marks := by
    simp only [Response.record, List.forall_mem_cons]
    exact ⟨Field.marks_of fun _ _ => rfl, Field.marks_of fun _ _ => rfl, by simp⟩
  apart := by
    simp only [Response.record, List.pairwise_cons, List.forall_mem_cons]
    refine ⟨⟨?_, by simp⟩, by simp, List.Pairwise.nil⟩
    exact Field.apart_of (fun _ _ => rfl) (fun _ _ => rfl) (fun _ _ _ => rfl)

/-- The two ways agree on responses. -/
instance : Coherent Response where
  agree := by
    refine Record.agree Response.orderly_record ?_
    simp only [Response.record, List.forall_mem_cons]
    exact ⟨Field.agrees_of _ _ _ _, Field.agrees_of _ _ _ _, by simp⟩

/-! ## Whole payloads -/

/-- A payload that is decoded as a value offers its tree to every reader. -/
theorem exists_offered {payload : Octets} {value : Json}
    (decoded : decodeAs Json payload = .ok value) :
    ∃ tree rest, Offered (.whole payload) payload tree rest ∧ finish rest = .ok () ∧
      tree.sorted = value ∧ decodeVerbatim payload = .ok tree := by
  have whole : decode payload = .ok value := decoded
  rw [decode_eq] at whole
  obtain ⟨tree, verbatim, same⟩ := map_eq_ok_iff.mp whole
  obtain ⟨rest, read, finished⟩ := readWhole_eq_ok_iff.mp verbatim
  exact ⟨tree, rest, ⟨read, Nat.le_refl _⟩, finished, same, verbatim⟩

/-- What a caller gets that asked for a shape and is answered by the frame: its payload is decoded
as a value, and the shape is taken from the value. -/
def respond (α : Type) [Shape α] (frame : Frame) : Except LinkError α :=
  (Codec.decode Json frame).bind (responseAs α)

variable {α : Type} [Shape α] {frame : Frame}

/-- A frame is decoded to what its payload is read as; only failures are worded differently. -/
theorem decode_eq_ok_iff {result : α} :
    Codec.decode α frame = .ok result ↔ decodeAs α frame.payload = .ok result :=
  mapError_eq_ok_iff

/-- A response is had in a shape if the payload has a value and the value the shape. -/
theorem respond_eq_ok_iff {result : α} :
    respond α frame = .ok result ↔
      ∃ value, decodeAs Json frame.payload = .ok value ∧ Shape.ofJson value = .ok result := by
  have split : respond α frame = .ok result ↔
      ∃ value, Codec.decode Json frame = .ok value ∧ responseAs α value = .ok result :=
    bind_eq_ok_iff
  simp only [split, decode_eq_ok_iff, responseAs, mapError_eq_ok_iff]

/-- A payload that has the shape and a value has the same shape both ways, -/
theorem respond_of_decode [Coherent α] {result : α} {value : Json}
    (direct : Codec.decode α frame = .ok result) (decoded : Codec.decode Json frame = .ok value) :
    respond α frame = .ok result := by
  rw [decode_eq_ok_iff] at direct decoded
  obtain ⟨behind, read, _⟩ := readWhole_eq_ok_iff.mp direct
  obtain ⟨tree, rest, offered, _, rfl, _⟩ := exists_offered decoded
  exact respond_eq_ok_iff.mpr ⟨_, decoded, (Coherent.agree.sound offered read).2⟩

/-- and one whose value has the shape has it itself if no key is repeated. -/
theorem decode_of_respond [Coherent α] {result : α} (responded : respond α frame = .ok result)
    (distinct : RepeatsNoKey frame.payload) : Codec.decode α frame = .ok result := by
  obtain ⟨value, decoded, taken⟩ := respond_eq_ok_iff.mp responded
  obtain ⟨tree, rest, offered, finished, rfl, verbatim⟩ := exists_offered decoded
  rw [decode_eq_ok_iff]
  exact readWhole_eq_ok_iff.mpr
    ⟨rest, Coherent.agree.complete offered (distinct tree verbatim) taken, finished⟩

/-- How reading a shape from the payload of a frame and asking for it compare. -/
structure TwoWays (α : Type) [Shape α] [Render α] (frame : Frame) : Prop where
  /-- The result of asking is what a call shows to its caller once the frame has answered it, in
  whatever session. -/
  shown : ∀ (settings : Settings) (session : Session) (place : Nat) (ticket : Ticket),
    Session.Reachable settings session → session.pairing.taken[place]? = some ticket →
      session.pairing.matched[place]? = some frame →
        (Waiter.shaped ticket (Asked.of α)).poll? session =
          some (.text ((respond α frame).map Render.render))
  /-- Two results are equal, -/
  equal : ∀ direct viaValue : α, Codec.decode α frame = .ok direct →
    respond α frame = .ok viaValue → direct = viaValue
  /-- and where asking has one and no key is repeated so has reading. -/
  direct : ∀ viaValue : α, respond α frame = .ok viaValue → RepeatsNoKey frame.payload →
    Codec.decode α frame = .ok viaValue
  /-- A payload that is no value comes back with the failure, -/
  undecodable : ∀ fault : Fault, decodeAs Json frame.payload = .error fault →
    respond α frame = .error (.decode frame.payload fault)
  /-- and otherwise the value does, if it does not have the shape. -/
  unsuitable : ∀ (value : Json) (error : LinkError), decodeAs Json frame.payload = .ok value →
    respond α frame = .error error →
      ∃ cause, (Shape.ofJson value : Except Cause α) = .error cause ∧
        error = .responseShape value ⟨cause, none⟩

/-- A coherent shape is read and asked for as `TwoWays` says. -/
theorem twoWays_of_coherent (α : Type) [Shape α] [Render α] [Coherent α] (frame : Frame) :
    TwoWays α frame where
  shown := by
    intro settings session place ticket reachable asked came
    have settled := (reachable.completion_of_matched asked came).2
    simp only [Waiter.poll?, settled, Option.map_some, respond]
    cases Codec.decode Json frame <;> rfl
  equal := by
    intro direct viaValue read responded
    obtain ⟨value, decoded, _⟩ := respond_eq_ok_iff.mp responded
    rw [respond_of_decode read (decode_eq_ok_iff.mpr decoded)] at responded
    exact Except.ok.inj responded
  direct := fun _ responded distinct => decode_of_respond responded distinct
  undecodable := by
    intro fault refused
    simp only [respond, Codec.decode, decodePayload, refused]
    rfl
  unsuitable := by
    intro value error decoded failed
    simp only [respond, decode_eq_ok_iff.mpr decoded, Except.bind, responseAs] at failed
    cases taken : (Shape.ofJson value : Except Cause α) with
    | ok result =>
      rw [taken] at failed
      cases failed
    | error cause =>
      rw [taken] at failed
      cases failed
      exact ⟨cause, rfl, rfl⟩

/-- Both ways to a request, and to a response, compare so for every payload. -/
theorem two_ways (frame : Frame) : TwoWays Request frame ∧ TwoWays Response frame :=
  ⟨twoWays_of_coherent Request frame, twoWays_of_coherent Response frame⟩

/-- A field whose key is escaped is found both ways, behind a member that nobody asked for. -/
theorem two_ways_of_escaped_key :
    ∃ frame : Frame,
      frame.payload = Octets.ofText "\x7b\"extra\":[\x7b\x7d,true],\"\\u0073tatus\":0\x7d" ∧
      RepeatsNoKey frame.payload ∧ respond Response frame = .ok ⟨.ok, .null⟩ ∧
      Codec.decode Response frame = .ok ⟨.ok, .null⟩ := by
  let frame : Frame :=
    ⟨Octets.ofText "\x7b\"extra\":[\x7b\x7d,true],\"\\u0073tatus\":0\x7d"⟩
  let tree : Json := .object [("extra", .array [.object [], .bool true]),
    ("status", .number (.whole ⟨0, by decide, by decide⟩))]
  have verbatim : (decodeVerbatim frame.payload).toOption = some tree := by decide +kernel
  have answered : (respond Response frame).toOption = some ⟨.ok, .null⟩ := by decide +kernel
  have distinct : RepeatsNoKey frame.payload := by
    intro other read
    rw [read] at verbatim
    cases verbatim
    simp [tree, Distinct, DistinctItems, DistinctMembers]
  have responded : respond Response frame = .ok ⟨.ok, .null⟩ := by
    cases result : respond Response frame with
    | error _ => simp [result, Except.toOption] at answered
    | ok response =>
      rw [result] at answered
      exact congrArg Except.ok (Option.some.inj answered)
  exact ⟨frame, rfl, distinct, responded, (two_ways frame).2.direct _ responded distinct⟩

/-- A repeated field is refused by the direct reader, and the value has only the last one. -/
example :
    let frame : Frame := ⟨Octets.ofText "\x7b\"status\":1,\"status\":0\x7d"⟩
    (respond Response frame).toOption = some ⟨.ok, .null⟩ ∧
      (Codec.decode Response frame).toOption = none := by
  decide +kernel

end Antiphon
