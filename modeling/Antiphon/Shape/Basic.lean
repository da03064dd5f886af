import Antiphon.Json.Reader
import Antiphon.Shape.Mismatch

/-!
# Shapes that a caller can ask for

A type has a shape if it can be had from JSON in both of two ways: read straight from
text, or taken from a value that has been read already. The two are not the same
function seen twice. Text gives faults in the order of the text, with places, and shows
repeated keys; a value has its keys sorted, once each, and knows no places.

Scalars are where the two ways meet: either way the decision is on the head of the value
alone, so `ofHead` serves both.
-/

namespace Antiphon

open Json

/-- Types that can be had from JSON. -/
class Shape (α : Type) where
  /-- Reads the shape from text. -/
  read : Budget → Scan α
  /-- Takes the shape from a value. -/
  ofJson : Json → Except Cause α

namespace Shape

variable {α β : Type}

/-- A shape that is decided by the head of a value. A scalar that does not suit has been
read by then; a container has not been entered. -/
@[reducible] def ofHead (accept : Head → Except Cause α) : Shape α where
  read _ rest := do
    let (head, rest) ← Head.read rest
    match accept head with
    | .ok value => .ok (value, rest)
    | .error cause => .error (.after cause rest)
  ofJson value := accept value.head

/-- Opens a bracket, if the budget allows one more. -/
def enter (budget : Budget) (inside : Budget → Scan α) : Scan α := fun rest =>
  match budget.depth with
  | 0 => .error (.before .tooDeep rest)
  | depth + 1 => inside ⟨depth, budget.size⟩ (rest.drop 1)

/-- A whole number between bounds, as `name` calls them. -/
def wholeBetween (low high : Int) (name : String) : Head → Except Cause Int
  | .number (.whole whole) =>
    if low ≤ whole.val ∧ whole.val ≤ high then .ok whole.val
    else .error (Mismatch.range (.number (.whole whole)) name)
  | head => .error (Mismatch.kind head name)

/-- Any value suits. -/
instance : Shape Json where
  read budget := readAny budget.size budget.depth
  ofJson := .ok

/-- The two truth values suit. -/
instance : Shape Bool := ofHead fun
  | .bool value => .ok value
  | head => .error (Mismatch.kind head "a boolean")

/-- Whole numbers of one octet suit. -/
instance : Shape UInt8 :=
  ofHead fun head => (wholeBetween 0 255 "u8" head).map fun value => value.toNat.toUInt8

/-- Whole numbers of 32 bits suit. -/
instance : Shape UInt32 :=
  ofHead fun head => (wholeBetween 0 4294967295 "u32" head).map fun value => value.toNat.toUInt32

/-- Whole numbers of 64 bits with a sign suit. -/
instance : Shape Int64 :=
  ofHead fun head =>
    (wholeBetween (-9223372036854775808) 9223372036854775807 "i64" head).map Int64.ofInt

/-- A double may be written without fraction and exponent. -/
instance : Shape Float := ofHead fun
  | .number (.float value) => .ok value
  | .number (.whole whole) => .ok whole.toFloat
  | head => .error (Mismatch.kind head "f64")

/-- Any string suits. -/
instance : Shape String := ofHead fun
  | .string value => .ok value
  | head => .error (Mismatch.kind head "a string")

/-- The shape of nothing is null. -/
instance : Shape Unit := ofHead fun
  | .null => .ok ()
  | head => .error (Mismatch.kind head "unit")

/-- Null stands for absence. -/
instance [Shape α] : Shape (Option α) where
  read budget rest :=
    match skipBlank rest with
    | 0x6E :: rest => (literal [0x75, 0x6C, 0x6C] rest).map fun rest => (none, rest)
    | rest => (Shape.read budget rest).map fun (value, rest) => (some value, rest)
  ofJson
    | .null => .ok none
    | value => (Shape.ofJson value).map some

/-- The text of an array, read by a reader of what stands in it. -/
def readArray (expected : String) (inside : Budget → Scan α) (budget : Budget) : Scan α :=
  fun rest => do
    let (head, rest) ← Head.read rest
    match head with
    | .array => enter budget (fun budget rest => leaveArray (inside budget rest)) rest
    | head => .error (.after (Mismatch.kind head expected) rest)

/-- A list is an array of items that suit. -/
instance [Shape α] : Shape (List α) where
  read := readArray "a sequence" fun budget =>
    items (Shape.read budget) (budget.size + 1) []
  ofJson
    | .array items => items.mapM Shape.ofJson
    | value => .error (Mismatch.kind value.head "a sequence")

/-- A pair is an array of two. -/
instance [Shape α] [Shape β] : Shape (α × β) where
  read := readArray "a tuple of size 2" fun budget rest => do
    match ← nextItem true rest with
    | none => .error (.unplaced (Mismatch.length 0 "a tuple of size 2") rest)
    | some rest =>
      let (first, rest) ← Shape.read budget rest
      match ← nextItem false rest with
      | none => .error (.unplaced (Mismatch.length 1 "a tuple of size 2") rest)
      | some rest =>
        let (second, rest) ← Shape.read budget rest
        .ok ((first, second), rest)
  ofJson
    | .array [] => .error (Mismatch.length 0 "a tuple of size 2")
    | .array [first] => do
      let _ : α ← Shape.ofJson first
      .error (Mismatch.length 1 "a tuple of size 2")
    | .array (first :: second :: others) => do
      let first ← Shape.ofJson first
      let second ← Shape.ofJson second
      if others.isEmpty then .ok (first, second) else .error (Mismatch.excess (others.length + 2))
    | value => .error (Mismatch.kind value.head "a tuple of size 2")

end Shape

/-- A finite map from strings, its entries in ascending order of their keys. -/
structure Table (α : Type) where
  entries : List (String × α)
deriving DecidableEq

namespace Table

variable {α : Type}

/-- An entry replaces the one with its key, or takes its place in the order of keys. -/
def insertEntry (key : String) (value : α) : List (String × α) → List (String × α)
  | [] => [(key, value)]
  | (k, v) :: rest =>
    if key < k then (key, value) :: (k, v) :: rest
    else if key = k then (key, value) :: rest
    else (k, v) :: insertEntry key value rest

/-- A table is an object whose members suit. The last one with a key counts. -/
instance [Shape α] : Shape (Table α) where
  read budget rest := do
    let (head, rest) ← Head.read rest
    match head with
    | .object =>
      Shape.enter budget (fun budget rest => do
        let member (sorted : List (String × α)) (key : String) : Scan (List (String × α)) :=
          fun rest => do
            let (value, rest) ← Shape.read budget (← colon rest)
            .ok (insertEntry key value sorted, rest)
        let (entries, rest) ← leaveObject (members member (budget.size + 1) true [] rest)
        .ok (⟨entries⟩, rest)) rest
    | head => .error (.after (Mismatch.kind head "a map") rest)
  ofJson
    | .object members => do
      let entries ← members.mapM fun (key, value) => (Shape.ofJson value).map fun v => (key, v)
      .ok ⟨entries⟩
    | value => .error (Mismatch.kind value.head "a map")

end Table

/-- The shape that a whole text has. -/
def decodeAs (α : Type) [Shape α] (text : Octets) : Except Fault α := readWhole Shape.read text

end Antiphon
