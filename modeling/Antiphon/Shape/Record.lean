import Antiphon.Json.Skip
import Antiphon.Shape.Basic

/-!
# Records

A record has named fields in a fixed order. It comes from an object, whose members may
stand in any order and among members that nobody asked for, or from an array that gives
the fields by position. Fields are gathered in a draft, and the finished record is made
from the draft when the container ends.

One `Record` describes the fields; `Record.read` and `Record.ofJson` interpret that
description for text and for values.
-/

namespace Antiphon

open Json

/-- A field of a record under construction. An optional field may be absent at the end of
an array. -/
structure Field (σ : Type) where
  name : String
  optional : Bool
  taken : σ → Bool
  read : Budget → σ → Scan σ
  ofJson : σ → Json → Except Cause σ

/-- A field that holds a shape: how the draft answers it and how the draft takes it. -/
def Field.of {σ β : Type} [Shape β] (name : String) (optional : Bool) (get : σ → Option β)
    (set : σ → β → σ) : Field σ where
  name := name
  optional := optional
  taken draft := (get draft).isSome
  read budget draft rest :=
    (Shape.read budget rest).map fun (value, rest) => (set draft value, rest)
  ofJson draft value := (Shape.ofJson value).map (set draft)

/-- A record with drafts in `σ` and results in `α`. -/
structure Record (σ α : Type) where
  name : String
  fields : List (Field σ)
  blank : σ
  finish : σ → Except Cause α

namespace Record

variable {σ α : Type}

/-- The field with the given name, if the record has it. -/
def field? (record : Record σ α) (name : String) : Option (Field σ) :=
  record.fields.find? fun field => field.name = name

/-- What an array must have to be the record. -/
def arity (record : Record σ α) : String :=
  s!"{record.name} with {record.fields.length} elements"

/-- A field that a record cannot do without. -/
def require {β : Type} (name : String) : Option β → Except Cause β
  | some value => .ok value
  | none => .error (Mismatch.missing name)

/-- Reads one member of an object into the draft. A member that is no field is passed over;
a field is refused as a repetition before its value is looked at. -/
def readMember (record : Record σ α) (budget : Budget) (draft : σ) (key : String) : Scan σ :=
  fun rest =>
    match record.field? key with
    | none => do
      let rest ← skipAny budget.size (← colon rest)
      .ok (draft, rest)
    | some field =>
      if field.taken draft then .error (.unplaced (Mismatch.duplicate key) rest)
      else do field.read budget draft (← colon rest)

/-- Reads the items of an array into the draft, field by field. -/
def readFields (record : Record σ α) (budget : Budget) :
    List (Field σ) → (position : Nat) → (draft : σ) → Scan σ
  | [], _, draft, rest => .ok (draft, rest)
  | field :: fields, position, draft, rest => do
    match ← nextItem (position = 0) rest with
    | some rest =>
      let (draft, rest) ← field.read budget draft rest
      readFields record budget fields (position + 1) draft rest
    | none =>
      if field.optional then readFields record budget fields (position + 1) draft rest
      else .error (.unplaced (Mismatch.length position record.arity) rest)

/-- Finishes a draft that text gave. -/
def finishRead (record : Record σ α) : σ × Octets → Except Stop (α × Octets)
  | (draft, rest) =>
    match record.finish draft with
    | .ok value => .ok (value, rest)
    | .error cause => .error (.unplaced cause rest)

/-- Reads the record from text. -/
def read (record : Record σ α) (budget : Budget) : Scan α := fun rest => do
  let (head, rest) ← Head.read rest
  match head with
  | .object =>
    Shape.enter budget (fun budget rest => leaveObject do
      let draft ← members (record.readMember budget) (budget.size + 1) true record.blank rest
      record.finishRead draft) rest
  | .array =>
    Shape.enter budget (fun budget rest => leaveArray do
      let draft ← record.readFields budget record.fields 0 record.blank rest
      record.finishRead draft) rest
  | head => .error (.after (Mismatch.kind head record.name) rest)

/-- Takes one member of an object into the draft. -/
def takeMember (record : Record σ α) (draft : σ) (key : String) (value : Json) :
    Except Cause σ :=
  match record.field? key with
  | none => .ok draft
  | some field =>
    if field.taken draft then .error (Mismatch.duplicate key) else field.ofJson draft value

/-- Takes the items of an array into the draft, field by field; answers what is left. -/
def takeFields (record : Record σ α) :
    List (Field σ) → (position : Nat) → (draft : σ) → List Json → Except Cause (σ × List Json)
  | [], _, draft, items => .ok (draft, items)
  | field :: fields, position, draft, item :: items => do
    takeFields record fields (position + 1) (← field.ofJson draft item) items
  | field :: fields, position, draft, [] =>
    if field.optional then takeFields record fields (position + 1) draft []
    else .error (Mismatch.length position record.arity)

/-- Takes the record from a value. -/
def ofJson (record : Record σ α) : Json → Except Cause α
  | .object members => do
    let draft ← members.foldlM (fun draft member => record.takeMember draft member.1 member.2)
      record.blank
    record.finish draft
  | .array items => do
    let (draft, excess) ← record.takeFields record.fields 0 record.blank items
    let value ← record.finish draft
    if excess.isEmpty then .ok value else .error (Mismatch.excess items.length)
  | value => .error (Mismatch.kind value.head record.name)

end Record

end Antiphon
