import Antiphon.Json.Fault
import Antiphon.Json.Printer

/-!
# What a caller may ask to have written

A message is any data that has a JSON text, and some that has none: the keys of a table
may be of any kind, and data may refuse to be written. Entries are written in the order
given, repeated keys included. A double that is not finite is written as null, but as a
key it is refused.

Data that refuses gives its reason as a text. If the text ends in the wording of a place,
that part is the place of the fault, and the rest its cause.
-/

namespace Antiphon

open Json

/-- Data to be written as JSON. -/
inductive Message
  | absent
  | present (value : Message)
  | bool (value : Bool)
  | integer (value : Int)
  | double (value : Float)
  | single (value : Float32)
  | character (value : Char)
  | text (value : String)
  | octets (value : Octets)
  | list (items : List Message)
  | table (entries : List (Message × Message))
  /-- One of several alternatives, without data. -/
  | tag (name : String)
  /-- One of several alternatives, with data. -/
  | tagged (name : String) (value : Message)
  /-- Data that refuses to be written. -/
  | refusing (reason : String)

/-- The message without data stands for none. -/
instance : Inhabited Message := ⟨.absent⟩

namespace Json.Fault

/-- The number that digits spell, if there are digits and no other characters, and a word
can hold it. -/
def wordOfDigits? (digits : List Char) : Option Nat :=
  if digits.isEmpty || !digits.all Char.isDigit then none
  else
    let value := digits.foldl (fun value digit => value * 10 + (digit.toNat - '0'.toNat)) 0
    if value < UInt64.size then some value else none

/-- The text behind a word that it begins with. -/
def behind? : (word text : List Char) → Option (List Char)
  | [], text => some text
  | _ :: _, [] => none
  | a :: word, b :: text => if a = b then behind? word text else none

/-- The place that a text words, if it is nothing else. -/
def placeOfWording? (text : List Char) : Option Place := do
  let text ← behind? " at line ".toList text
  let (line, text) := text.span Char.isDigit
  let column ← behind? " column ".toList text
  return ⟨← wordOfDigits? line, ← wordOfDigits? column⟩

/-- Where the wording of a place may begin: at the last " at line ". -/
def lastWording? : List Char → Option (List Char × List Char)
  | [] => none
  | c :: rest =>
    match lastWording? rest with
    | some (front, back) => some (c :: front, back)
    | none => if (behind? " at line ".toList (c :: rest)).isSome then some ([], c :: rest) else none

/-- The fault of data that refuses to be written for the given reason. -/
def ofReason (reason : String) : Fault :=
  match lastWording? reason.toList with
  | none => ⟨.unsuitable reason, none⟩
  | some (front, back) =>
    match placeOfWording? back with
    | none => ⟨.unsuitable reason, none⟩
    | some place => ⟨.unsuitable (String.ofList front), some place⟩

end Json.Fault

namespace Message

/-- A text without place is the fault. -/
def refuse {α : Type} (cause : Cause) : Except Fault α := .error ⟨cause, none⟩

/-- The text of a key, without its quotes. -/
def key : Message → Except Fault String
  | .present value => key value
  | .bool value => .ok (toString value)
  | .integer value => .ok (toString value)
  | .double value =>
    if value.isFinite then .ok (Decimal.ofFloat value) else refuse .floatKeyNotFinite
  | .single value =>
    if value.isFinite then .ok (Decimal.ofFloat32 value) else refuse .floatKeyNotFinite
  | .character value => .ok (String.singleton value)
  | .text value => .ok value
  | .tag name => .ok name
  | .refusing reason => .error (.ofReason reason)
  | .absent | .octets _ | .list _ | .table _ | .tagged _ _ => refuse .keyNotString

/-- A single by its shortest digits, or null. -/
def renderSingle (value : Float32) : Octets :=
  Octets.ofText (if value.isFinite then Decimal.ofFloat32 value else "null")

mutual

/-- The text of a message. -/
def render : Message → Except Fault Octets
  | .absent => .ok (Json.render .null)
  | .present value => render value
  | .bool value => .ok (Json.render (.bool value))
  | .integer value => .ok (renderInt value)
  | .double value => .ok (renderFloat value)
  | .single value => .ok (renderSingle value)
  | .character value => .ok (renderString (String.singleton value))
  | .text value => .ok (renderString value)
  | .octets value => .ok (bracketed (value.map fun octet => renderInt octet.toNat))
  | .list items => (renderItems items).map bracketed
  | .table entries => (renderEntries entries).map braced
  | .tag name => .ok (renderString name)
  | .tagged name value => do
    let value ← render value
    .ok (braced [renderString name ++ 0x3A :: value])
  | .refusing reason => .error (.ofReason reason)

/-- The texts of the items of a list. -/
def renderItems : List Message → Except Fault (List Octets)
  | [] => .ok []
  | item :: rest => do
    let item ← render item
    let rest ← renderItems rest
    .ok (item :: rest)

/-- The texts of the entries of a table. -/
def renderEntries : List (Message × Message) → Except Fault (List Octets)
  | [] => .ok []
  | (name, value) :: rest => do
    let name ← key name
    let value ← render value
    let rest ← renderEntries rest
    .ok ((renderString name ++ 0x3A :: value) :: rest)

end

end Message

end Antiphon
