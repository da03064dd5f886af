import Antiphon.Decimal.Layout
import Antiphon.Json.Value

/-!
# Writing JSON text

The text is compact: no blanks, members in the order the object keeps them. In a string
only the quote, the backslash and the octets below the blank are escaped, so every other
character stands for itself in UTF-8.
-/

namespace Antiphon.Json

/-- A hexadecimal digit in lower case. -/
def hexDigit (value : UInt8) : UInt8 := if value < 10 then 0x30 + value else 0x57 + value

/-- One octet of a string as it is written. -/
def escape (octet : UInt8) : Octets :=
  match octet with
  | 0x22 => [0x5C, 0x22]
  | 0x5C => [0x5C, 0x5C]
  | 0x08 => [0x5C, 0x62]
  | 0x09 => [0x5C, 0x74]
  | 0x0A => [0x5C, 0x6E]
  | 0x0C => [0x5C, 0x66]
  | 0x0D => [0x5C, 0x72]
  | _ =>
    if octet < 0x20 then [0x5C, 0x75, 0x30, 0x30, hexDigit (octet / 16), hexDigit (octet % 16)]
    else [octet]

/-- A string between quotes. -/
def renderString (text : String) : Octets :=
  0x22 :: (Octets.ofText text).flatMap escape ++ [0x22]

/-- A whole number in decimal. -/
def renderInt (value : Int) : Octets := Octets.ofText (toString value)

/-- A finite double by its shortest digits; the others have no JSON form and give `null`. -/
def renderFloat (value : Float) : Octets :=
  Octets.ofText (if value.isFinite then Decimal.ofFloat value else "null")

/-- A number. -/
def renderNumber : Number → Octets
  | .whole value => renderInt value.val
  | .float value => renderFloat value

/-- Texts with commas between them. -/
def commaSeparated : List Octets → Octets
  | [] => []
  | first :: others => first ++ others.flatMap (0x2C :: ·)

/-- Written items as an array. -/
def bracketed (items : List Octets) : Octets := 0x5B :: commaSeparated items ++ [0x5D]

/-- Written members as an object. -/
def braced (members : List Octets) : Octets := 0x7B :: commaSeparated members ++ [0x7D]

mutual

/-- The text of a value. -/
def render : Json → Octets
  | .null => [0x6E, 0x75, 0x6C, 0x6C]
  | .bool true => [0x74, 0x72, 0x75, 0x65]
  | .bool false => [0x66, 0x61, 0x6C, 0x73, 0x65]
  | .number value => renderNumber value
  | .string text => renderString text
  | .array items => bracketed (renderItems items)
  | .object members => braced (renderMembers members)

/-- The texts of the items of an array. -/
def renderItems : List Json → List Octets
  | [] => []
  | item :: rest => render item :: renderItems rest

/-- The texts of the members of an object. -/
def renderMembers : List (String × Json) → List Octets
  | [] => []
  | (key, value) :: rest => (renderString key ++ 0x3A :: render value) :: renderMembers rest

end

end Antiphon.Json
