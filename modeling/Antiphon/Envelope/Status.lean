import Antiphon.Json.Render
import Antiphon.Shape.Basic

/-!
# The status of a response

Five statuses have a code, from zero on; no other code is a status.
-/

namespace Antiphon

/-- How the service fared with a request. -/
inductive Status
  | ok
  | processing
  | notFound
  | badRequest
  | internalServerError
deriving DecidableEq, Repr

namespace Status

/-- The code on the wire. -/
def code : Status → UInt8
  | .ok => 0
  | .processing => 1
  | .notFound => 2
  | .badRequest => 3
  | .internalServerError => 4

/-- The status of a code. -/
def ofCode? : UInt8 → Option Status
  | 0 => some .ok
  | 1 => some .processing
  | 2 => some .notFound
  | 3 => some .badRequest
  | 4 => some .internalServerError
  | _ => none

/-- The name shown to people. -/
def name : Status → String
  | .ok => "OK"
  | .processing => "Processing"
  | .notFound => "Not Found"
  | .badRequest => "Bad Request"
  | .internalServerError => "Internal Server Error"

/-- Only `ok` is a success. -/
def isSuccess (status : Status) : Bool := status = .ok

/-- The wording for a code that is no status. -/
def unknownMessage (code : UInt8) : String := s!"invalid response status {code}"

/-- The status of a code, or the reason why there is none. -/
def ofCode (code : UInt8) : Except String Status :=
  match ofCode? code with
  | some status => .ok status
  | none => .error (unknownMessage code)

/-- A status is found by its code. -/
theorem ofCode?_code (status : Status) : ofCode? status.code = some status := by
  cases status <;> rfl

/-- A status is its code. A number that is no code is refused without a place: it was read
well enough. -/
instance : Shape Status where
  read budget rest := do
    let (code, rest) ← Shape.read (α := UInt8) budget rest
    match ofCode code with
    | .ok status => .ok (status, rest)
    | .error text => .error (.unplaced (.unsuitable text) rest)
  ofJson value := do
    match ofCode (← Shape.ofJson value) with
    | .ok status => .ok status
    | .error text => .error (.unsuitable text)

/-- A status is written as its code. -/
instance : Render Status := ⟨fun status => Render.render status.code⟩

end Status

end Antiphon
