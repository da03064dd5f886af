import Antiphon.Json.Head

/-!
# Arrays and objects in JSON text

The grammar between the items of a container, apart from what the items are. Readers of
every kind share it: `nextItem` and `nextKey` step to the next item or report the end,
`items` and `members` run the loop for an item reader of the caller's choice.

A container is left through `leaveArray` or `leaveObject`. A stop without a place
receives it there: reading first goes on to the end of the container as far as that is
next, whatever it meets, and the place is where it then stands.
-/

namespace Antiphon.Json

/-- Steps to the next item of an array, or answers `none` at its closing bracket. -/
def nextItem (first : Bool) (rest : Octets) : Except Stop (Option Octets) :=
  match skipBlank rest with
  | [] => .error (.before .endOfList [])
  | 0x5D :: _ => .ok none
  | 0x2C :: rest =>
    if first then .ok (some (0x2C :: rest))
    else match skipBlank rest with
      | [] => .error (.before .endOfValue [])
      | 0x5D :: rest => .error (.before .trailingComma (0x5D :: rest))
      | rest => .ok (some rest)
  | rest => if first then .ok (some rest) else .error (.before .expectedCommaInList rest)

/-- Steps to the text of the next key of an object, behind its quote, or answers `none` at
the closing brace. -/
def nextKey (first : Bool) (rest : Octets) : Except Stop (Option Octets) :=
  match skipBlank rest with
  | [] => .error (.before .endOfObject [])
  | 0x7D :: _ => .ok none
  | 0x2C :: rest =>
    if first then .error (.before .keyNotString (0x2C :: rest))
    else match skipBlank rest with
      | [] => .error (.before .endOfValue [])
      | 0x22 :: rest => .ok (some rest)
      | 0x7D :: rest => .error (.before .trailingComma (0x7D :: rest))
      | rest => .error (.before .keyNotString rest)
  | 0x22 :: rest =>
    if first then .ok (some rest) else .error (.before .expectedCommaInObject (0x22 :: rest))
  | rest =>
    .error (.before (if first then .keyNotString else .expectedCommaInObject) rest)

/-- The colon between a key and its value. -/
def colon (rest : Octets) : Except Stop Octets :=
  match skipBlank rest with
  | [] => .error (.before .endOfObject [])
  | 0x3A :: rest => .ok rest
  | rest => .error (.before .expectedColon rest)

/-- The closing bracket of an array whose items have been read. -/
def endArray (rest : Octets) : Except Stop Octets :=
  match skipBlank rest with
  | [] => .error (.before .endOfList [])
  | 0x5D :: rest => .ok rest
  | 0x2C :: rest =>
    match skipBlank rest with
    | 0x5D :: rest => .error (.before .trailingComma (0x5D :: rest))
    | rest => .error (.before .trailingCharacters rest)
  | rest => .error (.before .trailingCharacters rest)

/-- The closing brace of an object whose members have been read. -/
def endObject (rest : Octets) : Except Stop Octets :=
  match skipBlank rest with
  | [] => .error (.before .endOfObject [])
  | 0x7D :: rest => .ok rest
  | 0x2C :: rest => .error (.before .trailingComma (0x2C :: rest))
  | rest => .error (.before .trailingCharacters rest)

/-- What is left when the end of an array has been looked for, found or not. -/
def pastArray (rest : Octets) : Octets :=
  match skipBlank rest with
  | 0x5D :: rest => rest
  | 0x2C :: rest => skipBlank rest
  | rest => rest

/-- What is left when the end of an object has been looked for, found or not. -/
def pastObject (rest : Octets) : Octets :=
  match skipBlank rest with
  | 0x7D :: rest => rest
  | rest => rest

/-- Leaves an array with what was read in it. -/
def leaveArray {α : Type} : Except Stop (α × Octets) → Except Stop (α × Octets)
  | .ok (value, rest) => (endArray rest).map fun rest => (value, rest)
  | .error (.unplaced cause rest) => .error (.after cause (pastArray rest))
  | .error stop => .error stop

/-- Leaves an object with what was read in it. -/
def leaveObject {α : Type} : Except Stop (α × Octets) → Except Stop (α × Octets)
  | .ok (value, rest) => (endObject rest).map fun rest => (value, rest)
  | .error (.unplaced cause rest) => .error (.after cause (pastObject rest))
  | .error stop => .error stop

/-- The items of an array after those in `sofar`, which are kept latest first. The loop ends
because each item takes at least an octet; `size` is a bound on their number. -/
def items {α : Type} (item : Scan α) : (size : Nat) → (sofar : List α) → Scan (List α)
  | 0, _, rest => .error (.before .endOfList rest)
  | size + 1, sofar, rest => do
    match ← nextItem sofar.isEmpty rest with
    | none => .ok (sofar.reverse, rest)
    | some rest =>
      let (value, rest) ← item rest
      items item size (value :: sofar) rest

/-- The members of an object, each added to the state of the reader. -/
def members {σ : Type} (member : σ → String → Scan σ) :
    (size : Nat) → (first : Bool) → (state : σ) → Scan σ
  | 0, _, _, rest => .error (.before .endOfObject rest)
  | size + 1, first, state, rest => do
    match ← nextKey first rest with
    | none => .ok (state, rest)
    | some rest =>
      let (key, rest) ← Quoted.read rest
      let (state, rest) ← member state key rest
      members member size false state rest

end Antiphon.Json
