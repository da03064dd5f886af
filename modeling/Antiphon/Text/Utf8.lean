import Antiphon.Octets

/-!
# How far octets are valid UTF-8

`validLength` counts the octets before the first that belongs to no well-formed
sequence. A sequence is well formed if its lead octet, its length and the range of
its second octet fit together, which rules out overlong forms, surrogates and code
points past the last one.
-/

namespace Antiphon.Utf8

/-- A continuation octet. -/
def isContinuation (octet : UInt8) : Bool := 0x80 ≤ octet && octet ≤ 0xBF

/-- Whether `second` may follow the lead octet of a sequence of three or four. -/
def allowsSecond (lead second : UInt8) : Bool :=
  match lead with
  | 0xE0 => 0xA0 ≤ second && second ≤ 0xBF
  | 0xED => 0x80 ≤ second && second ≤ 0x9F
  | 0xF0 => 0x90 ≤ second && second ≤ 0xBF
  | 0xF4 => 0x80 ≤ second && second ≤ 0x8F
  | _ => isContinuation second

/-- How many octets are valid when `count` valid ones came before these. -/
def validLengthFrom (count : Nat) : Octets → Nat
  | [] => count
  | a :: rest =>
    if a < 0x80 then validLengthFrom (count + 1) rest
    else if a < 0xC2 || 0xF4 < a then count
    else match rest with
      | [] => count
      | b :: rest =>
        if a < 0xE0 then
          if isContinuation b then validLengthFrom (count + 2) rest else count
        else if !allowsSecond a b then count
        else match rest with
          | [] => count
          | c :: rest =>
            if !isContinuation c then count
            else if a < 0xF0 then validLengthFrom (count + 3) rest
            else match rest with
              | [] => count
              | d :: rest => if isContinuation d then validLengthFrom (count + 4) rest else count

/-- How many octets, from the front, form well-formed sequences. -/
def validLength (octets : Octets) : Nat := validLengthFrom 0 octets

end Antiphon.Utf8
