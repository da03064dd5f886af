import Antiphon.Json.Fault
import Antiphon.Json.Value

/-!
# Scanning octets of JSON text

A scanner takes what is left of the text and returns a result with what is left after
it, or stops. A stop remembers how much of the text was unread, from which the place
of the fault follows once the whole text is known; reading itself keeps no positions.
A stop without a place arises from a value that does not suit its reader; the
container that the value stands in supplies the place on the way out.

`Budget` travels with the readers of nested text: how many brackets may still be
opened, and the size of the whole text, which bounds every loop over it.
-/

namespace Antiphon.Json

/-- Where reading stopped: the octets then unread, and by how many columns the fault
lies before that point. -/
structure Spot where
  unread : Nat
  back : Nat
deriving DecidableEq, Repr

/-- Why reading stopped, and where if that is known. -/
inductive Stop
  | placed (cause : Cause) (spot : Spot)
  | unplaced (cause : Cause) (rest : Octets)
deriving DecidableEq

namespace Stop

/-- A fault in what has just been read. -/
def after (cause : Cause) (rest : Octets) : Stop := .placed cause ⟨rest.length, 0⟩

/-- A fault in the octet that comes next; the place includes it. -/
def before (cause : Cause) (rest : Octets) : Stop := .placed cause ⟨rest.length - 1, 0⟩

/-- The fault for the whole text. -/
def fault (text : Octets) : Stop → Fault
  | .unplaced cause _ => ⟨cause, none⟩
  | .placed cause spot =>
    let place := Place.after text (text.length - spot.unread)
    ⟨cause, some ⟨place.line, place.column - spot.back⟩⟩

end Stop

/-- Reads a result off the front of the text. -/
abbrev Scan (α : Type) := Octets → Except Stop (α × Octets)

/-- What bounds the reading of nested text. -/
structure Budget where
  depth : Nat
  size : Nat
deriving DecidableEq, Repr

/-- How many brackets may be open at once. -/
def maxDepth : Nat := 127

/-- The budget for a whole text. -/
def Budget.whole (text : Octets) : Budget := ⟨maxDepth, text.length⟩

/-- The blanks that JSON allows between tokens. -/
def isBlank (octet : UInt8) : Bool :=
  octet = 0x20 || octet = 0x0A || octet = 0x09 || octet = 0x0D

/-- Drops blanks. -/
def skipBlank (rest : Octets) : Octets := rest.dropWhile isBlank

/-- A decimal digit and its value. -/
def digit? (octet : UInt8) : Option Nat :=
  if 0x30 ≤ octet && octet ≤ 0x39 then some (octet.toNat - 0x30) else none

/-- The rest of a literal whose first letter has been read. -/
def literal : (letters : Octets) → Octets → Except Stop Octets
  | [], rest => .ok rest
  | _ :: _, [] => .error (.after .endOfValue [])
  | letter :: letters, octet :: rest =>
    if octet = letter then literal letters rest else .error (.after .expectedLiteral rest)

/-- Only blanks may follow the value of a whole text. -/
def finish (rest : Octets) : Except Stop Unit :=
  match skipBlank rest with
  | [] => .ok ()
  | rest => .error (.before .trailingCharacters rest)

/-- Reads a whole text, which the reader must use up but for blanks. -/
def readWhole {α : Type} (read : Budget → Scan α) (text : Octets) : Except Fault α :=
  match read (.whole text) text with
  | .error stop => .error (stop.fault text)
  | .ok (value, rest) =>
    match finish rest with
    | .error stop => .error (stop.fault text)
    | .ok () => .ok value

end Antiphon.Json
