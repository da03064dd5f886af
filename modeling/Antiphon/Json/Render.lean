import Antiphon.Json.Printer

/-!
# Types that are written as JSON

Numbers, texts and containers of them are written as the values they denote.
-/

namespace Antiphon

open Json

/-- Types with a JSON text. -/
class Render (α : Type) where
  render : α → Octets

namespace Render

variable {α β : Type}

/-- A value is its own form. -/
instance : Render Json := ⟨Json.render⟩

/-- A truth value is written as a JSON one. -/
instance : Render Bool := ⟨fun value => Json.render (.bool value)⟩

/-- An octet is written as a number. -/
instance : Render UInt8 := ⟨fun value => renderInt value.toNat⟩

/-- A word of 32 bits is written as a number. -/
instance : Render UInt32 := ⟨fun value => renderInt value.toNat⟩

/-- A signed word of 64 bits is written as a number. -/
instance : Render Int64 := ⟨fun value => renderInt value.toInt⟩

/-- A double is written as a number, if it is one. -/
instance : Render Float := ⟨renderFloat⟩

/-- Text is written as a JSON string. -/
instance : Render String := ⟨renderString⟩

/-- Nothing is written as null. -/
instance : Render Unit := ⟨fun _ => Json.render .null⟩

/-- An absent value is null. -/
instance [Render α] : Render (Option α) where
  render
    | none => Json.render .null
    | some value => render value

/-- A list is written as an array. -/
instance [Render α] : Render (List α) := ⟨fun items => bracketed (items.map render)⟩

/-- A pair is written as an array of two. -/
instance [Render α] [Render β] : Render (α × β) :=
  ⟨fun pair => bracketed [render pair.1, render pair.2]⟩

/-- One member of an object: its key, a colon and its value. -/
def member [Render α] (key : String) (value : α) : Octets :=
  renderString key ++ 0x3A :: render value

end Render

end Antiphon
