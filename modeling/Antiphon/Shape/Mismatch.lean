import Antiphon.Decimal.Layout
import Antiphon.Json.Fault
import Antiphon.Json.Head
import Antiphon.Text.Quoted

/-!
# Values that do not suit what was asked for

A mismatch names what was found, by its head, and what was expected. All of these are
causes of a fault; whether one gets a place depends on where the value came from.
-/

namespace Antiphon

namespace Json.Head

/-- What was found, in the words of a message. -/
def description : Head → String
  | .null => "null"
  | .bool value => s!"boolean `{value}`"
  | .number (.whole value) => s!"integer `{value.val}`"
  | .number (.float value) => s!"floating point `{Decimal.ofFloat value}`"
  | .string value => s!"string {Text.quoted value}"
  | .array => "sequence"
  | .object => "map"

end Json.Head

namespace Mismatch

open Json

/-- A value of another kind. -/
def kind (found : Head) (expected : String) : Cause :=
  .unsuitable s!"invalid type: {found.description}, expected {expected}"

/-- A value of the right kind but out of range. -/
def range (found : Head) (expected : String) : Cause :=
  .unsuitable s!"invalid value: {found.description}, expected {expected}"

/-- An array with too few or too many items. -/
def length (found : Nat) (expected : String) : Cause :=
  .unsuitable s!"invalid length {found}, expected {expected}"

/-- An array that goes on after all that was expected of it. -/
def excess (found : Nat) : Cause := length found "fewer elements in array"

/-- A field that must be there and is not. -/
def missing (field : String) : Cause := .unsuitable s!"missing field `{field}`"

/-- A field that is there twice. -/
def duplicate (field : String) : Cause := .unsuitable s!"duplicate field `{field}`"

end Mismatch

end Antiphon
