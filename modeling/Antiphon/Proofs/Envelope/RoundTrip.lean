import Antiphon.Envelope.Request
import Antiphon.Proofs.Codec.Pipeline
import Antiphon.Proofs.Shape.Written

/-!
# Requests there and back

A request is written with what it has: an absent body and a flag that is off are left out. Reading
puts the defaults in their place, so the request comes back as it was (`round_trip`). A body that is
null is the exception. It is written, and read as absent.
-/

namespace Antiphon

open Json

namespace Request

/-- The object that a request is written as. -/
def written (request : Request) : Json :=
  .object <|
    ("meta", .object [("path", .string request.routing.path),
      ("method", .string request.routing.method)]) ::
      (request.body.map fun body => ("body", body)).toList ++
        if request.connectionAlive then [("connectionAlive", .bool true)] else []

/-- The request that comes back: a body that is null is lost. -/
def received (request : Request) : Request :=
  { request with body := request.body.filter fun body => body ≠ .null }

/-- The text of a request is that of its object. -/
theorem render_written (request : Request) :
    Json.render request.written = Render.render request := by
  obtain ⟨routing, body, alive⟩ := request
  cases body <;> cases alive <;> rfl

/-- Nothing else is lost. -/
theorem received_eq_iff (request : Request) :
    request.received = request ↔ request.body ≠ some .null := by
  obtain ⟨routing, body, alive⟩ := request
  cases body with
  | none => simp [received]
  | some body => by_cases null : body = .null <;> simp [received, null]

/-- The routing takes one bracket, and the body stands within another one. -/
theorem depth_body_lt {request : Request} {body : Json} (present : request.body = some body) :
    body.depth < request.written.depth := by
  obtain ⟨routing, _, alive⟩ := request
  cases present
  simp only [written, Option.map_some, Option.toList_some, List.cons_append, List.nil_append,
    depth, depthOfMembers]
  omega

/-! ## Reading what was written -/

/-- A routing is read as it was written. -/
theorem yields_routing {depth size : Nat} (routing : Routing)
    (fits : (Render.render routing).length ≤ size) :
    Yields (Shape.read ⟨depth + 1, size⟩) (Render.render routing) routing := by
  have path : Routing.record.field? "path" =
      some (.of "path" false Routing.Draft.path fun draft path =>
        { draft with path := some path }) := rfl
  have method : Routing.record.field? "method" =
      some (.of "method" false Routing.Draft.method fun draft method =>
        { draft with method := some method }) := rfl
  have front : Routing.record.Fills ⟨depth, size⟩ ⟨none, none⟩ [Render.member "path" routing.path]
      ⟨some routing.path, none⟩ := .single path rfl (yields_string _ routing.path)
  have back : Routing.record.Fills ⟨depth, size⟩ ⟨some routing.path, none⟩
      [Render.member "method" routing.method] ⟨some routing.path, some routing.method⟩ :=
    .single method rfl (yields_string _ routing.method)
  exact (front.append back).yields_braced rfl fits

/-- The members that a request is written as. -/
def texts (request : Request) : List Octets :=
  Render.member "meta" request.routing ::
    (request.body.map (Render.member "body")).toList ++
      if request.connectionAlive then [Render.member "connectionAlive" true] else []

/-- What has been gathered behind the last member of a request. -/
def gathered (request : Request) : Draft where
  routing := some request.routing
  body := request.body.map fun body => if body = .null then none else some body
  connectionAlive := if request.connectionAlive then some true else none

/-- What has been gathered is finished with the defaults for what was left out. -/
theorem finish_gathered (request : Request) :
    record.finish request.gathered = .ok request.received := by
  obtain ⟨routing, body, alive⟩ := request
  have kept : (body.map fun body => if body = .null then none else some body).getD none =
      body.filter fun body => body ≠ .null := by
    cases body with
    | none => rfl
    | some body => by_cases null : body = .null <;> simp [Option.filter, null]
  have flag : (if alive then some true else none).getD false = alive := by cases alive <;> rfl
  have finished : record.finish (gathered ⟨routing, body, alive⟩) = .ok ⟨routing,
      (body.map fun body => if body = .null then none else some body).getD none,
      (if alive then some true else none).getD false⟩ := rfl
  rw [finished, kept, flag]
  rfl

/-- The members fill the draft of the request that comes back. -/
theorem fills_texts {request : Request} {depth size : Nat}
    (plain : ∀ body, request.body = some body → body.Plain)
    (shallow : ∀ body, request.body = some body → body.depth ≤ depth + 1)
    (fits : (braced request.texts).length ≤ size) :
    record.Fills ⟨depth + 1, size⟩ record.blank request.texts request.gathered := by
  have named : record.field? "meta" =
      some (.of "meta" false Draft.routing fun draft routing =>
        { draft with routing := some routing }) := rfl
  have bodied : record.field? "body" =
      some (.of "body" true Draft.body fun draft body => { draft with body := some body }) := rfl
  have kept : record.field? "connectionAlive" =
      some (.of "connectionAlive" true Draft.connectionAlive fun draft alive =>
        { draft with connectionAlive := some alive }) := rfl
  obtain ⟨routing, body, alive⟩ := request
  have within (key : String) {text : Octets}
      (inside : renderString key ++ 0x3A :: text ∈ texts ⟨routing, body, alive⟩) :
      text.length ≤ size := Nat.le_trans (Record.length_le_braced inside) fits
  -- Behind each of the three parts the draft has what the request has of it.
  let first : Draft := ⟨some routing, none, none⟩
  let second : Draft :=
    ⟨some routing, body.map fun body => if body = .null then none else some body, none⟩
  have front : record.Fills ⟨depth + 1, size⟩ record.blank [Render.member "meta" routing] first :=
    .single named rfl (yields_routing routing (within "meta" List.mem_cons_self))
  have middle : record.Fills ⟨depth + 1, size⟩ first (body.map (Render.member "body")).toList
      second := by
    cases body with
    | none => exact .nil
    | some body =>
      have short : (render body).length ≤ size :=
        within "body" (List.mem_cons_of_mem _ List.mem_cons_self)
      exact .single bodied rfl (yields_option (plain body rfl) short (shallow body rfl))
  have back : record.Fills ⟨depth + 1, size⟩ second
      (if alive then [Render.member "connectionAlive" true] else [])
      (gathered ⟨routing, body, alive⟩) := by
    cases alive with
    | false => exact .nil
    | true => exact .single kept rfl (yields_bool _ true)
  exact (front.append middle).append back

/-- The text of a request is read as the request that comes back. -/
theorem decodeAs_render {request : Request}
    (plain : ∀ body, request.body = some body → body.Plain)
    (shallow : request.written.depth ≤ 127) :
    decodeAs Request (Render.render request) = .ok request.received := by
  have inner : ∀ body, request.body = some body → body.depth ≤ 125 + 1 := by
    intro body present
    have below := depth_body_lt present
    omega
  have fills := fills_texts plain inner (Nat.le_refl (braced request.texts).length)
  have read := fills.yields_braced (finish_gathered request) (Nat.le_refl _) [] trivial
  rw [List.append_nil] at read
  exact readWhole_eq_ok_iff.mpr ⟨[], read, rfl⟩

/-- What becomes of a request that is framed, cut out of the stream again and read. -/
structure RoundTrip (request : Request) (limit : UInt32) (frame : Frame) (back : Request) :
    Prop where
  /-- It is encoded as one frame, -/
  encoded : frameMessage (.ok (Render.render request)) limit = .ok frame.octets
  /-- which is the one that a receiver cuts out of these octets, -/
  fed : (Codec.new limit).feed frame.octets = (.ok [frame], Codec.new limit)
  /-- and holds the text of the request, an object. -/
  payload : frame.payload = Render.render request ∧ frame.payload = request.written.render
  decoded : Codec.decode Request frame = .ok back
  /-- It comes back as it was unless its body is null, -/
  equal : back = request ↔ request.body ≠ some .null
  /-- and then without its body. -/
  null : request.body = some .null → back = { request with body := none }

/-- A frame within the limit is cut out of its own octets. -/
theorem feed_octets {limit : UInt32} {frame : Frame} (fits : frame.size ≤ limit.toNat) :
    (Codec.new limit).feed frame.octets = (.ok [frame], Codec.new limit) := by
  have whole : [frame.octets].flatten = [frame].flatMap Frame.octets := by simp
  obtain ⟨batches, fed, same⟩ := Codec.feedEach_frames (by simpa using fits) whole
  simp only [Codec.feedEach, Prod.mk.injEq] at fed
  obtain ⟨answers, left⟩ := fed
  obtain ⟨batch, rfl, answered⟩ := List.map_eq_singleton_iff.mp answers.symm
  rw [List.flatten_singleton] at same
  subst same
  exact Prod.ext answered.symm left

/-- A request without doubles that nests no deeper than can be read comes back from its frame,
whatever its strings, flag and body. -/
theorem round_trip (request : Request) (limit : UInt32)
    (plain : ∀ body, request.body = some body → body.Plain)
    (shallow : request.written.depth ≤ 127)
    (fits : (Render.render request).length ≤ limit.toNat) :
    ∃ frame back, RoundTrip request limit frame back := by
  refine ⟨⟨Render.render request⟩, request.received, ?_, feed_octets fits,
    ⟨rfl, (render_written request).symm⟩, ?_, received_eq_iff request, ?_⟩
  · exact frameMessage_eq_ok_iff.mpr ⟨_, rfl, fits, rfl⟩
  · exact mapError_eq_ok_iff.mpr (decodeAs_render plain shallow)
  · intro null
    simp [received, null]

/-- An empty object survives between strings that need escapes, and a null body does not. -/
theorem round_trip_of_two_bodies :
    ∃ kept lost : Request,
      kept = ⟨⟨"/\"\n", ""⟩, some (.object []), true⟩ ∧ lost = ⟨⟨"/", "GET"⟩, some .null, false⟩ ∧
      (∀ body, kept.body = some body → body.Plain) ∧ kept.written.depth ≤ 127 ∧
      (Render.render kept).length ≤ (70 : UInt32).toNat ∧
      (∀ body, lost.body = some body → body.Plain) ∧ lost.written.depth ≤ 127 ∧
      (Render.render lost).length ≤ (70 : UInt32).toNat ∧
      (∃ frame, RoundTrip kept 70 frame kept) ∧
      ∃ frame, RoundTrip lost 70 frame ⟨⟨"/", "GET"⟩, none, false⟩ := by
  let kept : Request := ⟨⟨"/\"\n", ""⟩, some (.object []), true⟩
  let lost : Request := ⟨⟨"/", "GET"⟩, some .null, false⟩
  have plain : ∀ body, kept.body = some body → body.Plain := by
    intro body present
    cases present
    exact ⟨List.Pairwise.nil, trivial⟩
  have plainToo : ∀ body, lost.body = some body → body.Plain := by
    intro body present
    cases present
    exact trivial
  have shallow : kept.written.depth ≤ 127 := by decide +kernel
  have shallowToo : lost.written.depth ≤ 127 := by decide +kernel
  have fits : (Render.render kept).length ≤ (70 : UInt32).toNat := by decide +kernel
  have fitsToo : (Render.render lost).length ≤ (70 : UInt32).toNat := by decide +kernel
  obtain ⟨frame, back, survived⟩ := round_trip kept 70 plain shallow fits
  obtain ⟨frame', back', bared⟩ := round_trip lost 70 plainToo shallowToo fitsToo
  have same : back = kept := survived.equal.mpr (by decide)
  have less : back' = ⟨⟨"/", "GET"⟩, none, false⟩ := bared.null rfl
  subst same less
  exact ⟨kept, lost, rfl, rfl, plain, shallow, fits, plainToo, shallowToo, fitsToo,
    ⟨frame, survived⟩, ⟨frame', bared⟩⟩

end Request

end Antiphon
