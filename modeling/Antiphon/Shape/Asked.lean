import Antiphon.Codec
import Antiphon.Json.Render

/-!
# A shape asked for, with its type forgotten

A caller that asks for a shape and wants to see what came of it needs three things: the
result of reading a payload, the result of taking a response, and the text of either.
-/

namespace Antiphon

/-- How payloads and responses look in some shape, written as JSON again. -/
structure Asked where
  /-- The shape read from a payload. -/
  fromPayload : Octets → Except LinkError Octets
  /-- The shape taken from a response. -/
  fromResponse : Json → Except LinkError Octets
  /-- The shape taken from a value that belongs to no response. -/
  fromValue : Json → Except Json.Fault Octets

/-- Asks for the shape of a type. -/
def Asked.of (α : Type) [Shape α] [Render α] : Asked where
  fromPayload payload := (decodePayload α payload).map Render.render
  fromResponse response := (responseAs α response).map Render.render
  fromValue value :=
    ((Shape.ofJson value : Except Json.Cause α).map Render.render).mapError fun cause =>
      ⟨cause, none⟩

/-- Tables are written as objects. -/
instance {α : Type} [Render α] : Render (Table α) :=
  ⟨fun table => Json.braced (table.entries.map fun entry => Render.member entry.1 entry.2)⟩

end Antiphon
