import Antiphon.Json.Render
import Antiphon.Shape.Record

/-!
# Requests

A request says where it goes and how, may carry a body, and may ask that the connection
be kept. On the wire an absent body and a flag that is off are left out; a body that is
null is written, and reads back as absent.
-/

namespace Antiphon

open Json

/-- Where a request goes, and how. -/
structure Routing where
  path : String
  method : String
deriving DecidableEq, Repr

/-- A request to the service. -/
structure Request where
  routing : Routing
  body : Option Json
  connectionAlive : Bool
deriving DecidableEq

namespace Routing

/-- What has been gathered of a routing. -/
structure Draft where
  path : Option String
  method : Option String

/-- Path and method, both required. -/
def record : Record Draft Routing where
  name := "struct RequestMeta"
  fields :=
    [.of "path" false Draft.path fun draft path => { draft with path := some path },
      .of "method" false Draft.method fun draft method => { draft with method := some method }]
  blank := ⟨none, none⟩
  finish draft := do
    let path ← Record.require "path" draft.path
    let method ← Record.require "method" draft.method
    return ⟨path, method⟩

/-- The shape of a routing is that of its record. -/
instance : Shape Routing := ⟨record.read, record.ofJson⟩

/-- A routing is written as an object, path first. -/
instance : Render Routing where
  render routing :=
    braced [Render.member "path" routing.path, Render.member "method" routing.method]

end Routing

namespace Request

/-- The verbs that the service knows. -/
def methods : List String := ["GET", "POST", "DELETE"]

/-- A request without a body. -/
def new (path method : String) : Request := ⟨⟨path, method⟩, none, false⟩

/-- Asks for what is at a path. -/
def get (path : String) : Request := new path "GET"

/-- Hands something to what is at a path. -/
def post (path : String) : Request := new path "POST"

/-- Removes what is at a path. -/
def delete (path : String) : Request := new path "DELETE"

/-- The request with a body. -/
def withBody (request : Request) (body : Json) : Request := { request with body := some body }

/-- The request with the wish to keep the connection, or without it. -/
def keepAlive (request : Request) (alive : Bool) : Request :=
  { request with connectionAlive := alive }

/-- What has been gathered of a request. A body that was null has been gathered too. -/
structure Draft where
  routing : Option Routing
  body : Option (Option Json)
  connectionAlive : Option Bool

/-- Only the routing is required. -/
def record : Record Draft Request where
  name := "struct Request"
  fields :=
    [.of "meta" false Draft.routing fun draft routing => { draft with routing := some routing },
      .of "body" true Draft.body fun draft body => { draft with body := some body },
      .of "connectionAlive" true Draft.connectionAlive fun draft alive =>
        { draft with connectionAlive := some alive }]
  blank := ⟨none, none, none⟩
  finish draft := do
    let routing ← Record.require "meta" draft.routing
    return ⟨routing, draft.body.getD none, draft.connectionAlive.getD false⟩

/-- The shape of a request is that of its record. -/
instance : Shape Request := ⟨record.read, record.ofJson⟩

/-- A request is written without a body if it has none, and without the wish if it has not made
it. -/
instance : Render Request where
  render request :=
    braced <|
      Render.member "meta" request.routing ::
        (request.body.map (Render.member "body")).toList ++
          if request.connectionAlive then [Render.member "connectionAlive" true] else []

end Request

end Antiphon
