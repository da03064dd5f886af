import Antiphon.Json.Numeral
import Antiphon.Json.Quoted

/-!
# The head of a value

Every value begins with a head: a scalar, which is read in full, or the bracket that
opens a container, which is left unread. Readers decide on the head alone whether the
value suits them, so a scalar of the wrong kind has been read when it is refused and a
container has not.
-/

namespace Antiphon.Json

/-- A scalar, or the kind of a container. -/
inductive Head
  | null
  | bool (value : Bool)
  | number (value : Number)
  | string (value : String)
  | array
  | object
deriving DecidableEq

/-- The head of a value that has been read. -/
def head : Json → Head
  | .null => .null
  | .bool value => .bool value
  | .number value => .number value
  | .string value => .string value
  | .array _ => .array
  | .object _ => .object

namespace Head

/-- Reads a head after blanks. -/
def read : Scan Head := fun rest =>
  match skipBlank rest with
  | [] => .error (.before .endOfValue [])
  | octet :: rest =>
    match octet with
    | 0x6E => (literal [0x75, 0x6C, 0x6C] rest).map fun rest => (.null, rest)
    | 0x74 => (literal [0x72, 0x75, 0x65] rest).map fun rest => (.bool true, rest)
    | 0x66 => (literal [0x61, 0x6C, 0x73, 0x65] rest).map fun rest => (.bool false, rest)
    | 0x2D => (Numeral.read true rest).map fun (value, rest) => (.number value, rest)
    | 0x22 => (Quoted.read rest).map fun (value, rest) => (.string value, rest)
    | 0x5B => .ok (.array, octet :: rest)
    | 0x7B => .ok (.object, octet :: rest)
    | _ =>
      if (digit? octet).isSome then
        (Numeral.read false (octet :: rest)).map fun (value, rest) => (.number value, rest)
      else .error (.before .expectedValue (octet :: rest))

end Head

end Antiphon.Json
