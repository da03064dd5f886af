import Antiphon.Envelope.Status
import Antiphon.Shape.Record

/-!
# Responses

A response is a status and a body; a body that is left out is null.
-/

namespace Antiphon

open Json

/-- An answer of the service. -/
structure Response where
  status : Status
  body : Json
deriving DecidableEq

namespace Response

/-- What has been gathered of a response. -/
structure Draft where
  status : Option Status
  body : Option Json

/-- Only the status is required. -/
def record : Record Draft Response where
  name := "struct Response"
  fields :=
    [.of "status" false Draft.status fun draft status => { draft with status := some status },
      .of "body" true Draft.body fun draft body => { draft with body := some body }]
  blank := ⟨none, none⟩
  finish draft := do
    let status ← Record.require "status" draft.status
    return ⟨status, draft.body.getD .null⟩

/-- The shape of a response is that of its record. -/
instance : Shape Response := ⟨record.read, record.ofJson⟩

/-- A response is written with its body even if this is null. -/
instance : Render Response where
  render response :=
    braced [Render.member "status" response.status, Render.member "body" response.body]

/-- The body in the shape that the caller asks for. -/
def bodyAs (α : Type) [Shape α] (response : Response) : Except Cause α :=
  Shape.ofJson response.body

end Response

end Antiphon
