import Antiphon.Json.Container

/-!
# Reading a value of any kind

Recursion is on the depth that the budget still allows, so a text that nests deeper is
refused at the bracket that goes too far. In an object the last member with a key
counts.
-/

namespace Antiphon.Json

/-- The value that a scalar head is already. -/
def Head.scalar? : Head → Option Json
  | .null => some .null
  | .bool value => some (.bool value)
  | .number value => some (.number value)
  | .string value => some (.string value)
  | .array | .object => none

/-- Reads one member of an object and adds it to those before it. -/
def readMember (value : Scan Json) (sorted : List (String × Json)) (key : String) :
    Scan (List (String × Json)) := fun rest => do
  let (value, rest) ← value (← colon rest)
  .ok (insertMember key value sorted, rest)

/-- Reads a container behind its bracket, given the reader of what stands in it. -/
def readContainer (size : Nat) (value : Scan Json) : Head → Scan Json
  | .object, rest => do
    let (sorted, rest) ← leaveObject (members (readMember value) (size + 1) true [] rest)
    .ok (.object sorted, rest)
  | _, rest => do
    let (values, rest) ← leaveArray (items value (size + 1) [] rest)
    .ok (.array values, rest)

/-- Reads a value whose containers are read by `inner`, if brackets may be opened here. -/
def readOver (size : Nat) (inner : Option (Scan Json)) : Scan Json := fun rest => do
  let (head, rest) ← Head.read rest
  match head.scalar?, inner with
  | some value, _ => .ok (value, rest)
  | none, none => .error (.before .tooDeep rest)
  | none, some inner => readContainer size inner head (rest.drop 1)

/-- Reads a value of any kind in a text of `size` octets. -/
def readAny (size : Nat) : (depth : Nat) → Scan Json
  | 0 => readOver size none
  | depth + 1 => readOver size (some (readAny size depth))

/-- The value that a whole text denotes. -/
def decode (text : Octets) : Except Fault Json :=
  readWhole (fun budget => readAny budget.size budget.depth) text

end Antiphon.Json
