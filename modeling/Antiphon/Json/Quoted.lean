import Antiphon.Json.Scan
import Antiphon.Text.Utf8

/-!
# Strings in JSON text

A string is read as octets: plain octets stand for themselves, escapes for the octets
of their character in UTF-8. Only when the closing quote has been read is the content
checked to be UTF-8; the fault then lies as many columns before the end as there are
octets of content from the first invalid one on.

Escapes above U+FFFF are written as two units, a high and a low surrogate. Neither may
stand alone.
-/

namespace Antiphon.Json.Quoted

/-- The quote that opens and closes a string. -/
def quote : UInt8 := 0x22

/-- The octet that opens an escape. -/
def backslash : UInt8 := 0x5C

/-- The value of a hexadecimal digit. -/
def hexDigit? (octet : UInt8) : Option Nat :=
  if 0x30 ≤ octet && octet ≤ 0x39 then some (octet.toNat - 0x30)
  else if 0x61 ≤ octet && octet ≤ 0x66 then some (octet.toNat - 0x57)
  else if 0x41 ≤ octet && octet ≤ 0x46 then some (octet.toNat - 0x37)
  else none

/-- The unit that four hexadecimal digits denote. -/
def unit? (a b c d : UInt8) : Option Nat := do
  let a ← hexDigit? a
  let b ← hexDigit? b
  let c ← hexDigit? c
  let d ← hexDigit? d
  return ((a * 16 + b) * 16 + c) * 16 + d

/-- The octet that a one-letter escape stands for. -/
def escaped? : UInt8 → Option UInt8
  | 0x22 => some 0x22
  | 0x5C => some 0x5C
  | 0x2F => some 0x2F
  | 0x62 => some 0x08
  | 0x66 => some 0x0C
  | 0x6E => some 0x0A
  | 0x72 => some 0x0D
  | 0x74 => some 0x09
  | _ => none

/-- A unit that opens a pair. -/
def isHigh (unit : Nat) : Bool := 0xD800 ≤ unit && unit ≤ 0xDBFF

/-- A unit that closes a pair. -/
def isLow (unit : Nat) : Bool := 0xDC00 ≤ unit && unit ≤ 0xDFFF

/-- The code point of a pair of units. -/
def pair (high low : Nat) : Nat := 0x10000 + (high - 0xD800) * 0x400 + (low - 0xDC00)

/-- Content with the octets of a character added; content is kept latest first. -/
def addCharacter (code : Nat) (content : List UInt8) : List UInt8 :=
  (String.utf8EncodeChar (Char.ofNat code)).reverse ++ content

/-- The content of a string whose opening quote has been read, up to and with its closing
quote; `content` holds the octets so far, latest first. -/
def content (sofar : List UInt8) : Scan Octets
  | [] => .error (.after .endOfString [])
  | octet :: rest =>
    if octet = quote then .ok (sofar.reverse, rest)
    else if octet = backslash then
      match rest with
      | [] => .error (.after .endOfString [])
      | 0x75 :: a :: b :: c :: d :: rest =>
        match unit? a b c d with
        | none => .error (.after .invalidEscape rest)
        | some unit =>
          if isLow unit then .error (.after .loneSurrogate rest)
          else if isHigh unit then
            match rest with
            | [] => .error (.after .endOfString [])
            | 0x5C :: [] => .error (.after .endOfString [])
            | 0x5C :: 0x75 :: a :: b :: c :: d :: rest =>
              match unit? a b c d with
              | none => .error (.after .invalidEscape rest)
              | some low =>
                if isLow low then content (addCharacter (pair unit low) sofar) rest
                else .error (.after .loneSurrogate rest)
            | 0x5C :: 0x75 :: _ => .error (.after .endOfString [])
            | 0x5C :: _ :: rest => .error (.after .brokenSurrogatePair rest)
            | _ :: rest => .error (.after .brokenSurrogatePair rest)
          else content (addCharacter unit sofar) rest
      | 0x75 :: _ => .error (.after .endOfString [])
      | letter :: rest =>
        match escaped? letter with
        | some octet => content (octet :: sofar) rest
        | none => .error (.after .invalidEscape rest)
    else if octet < 0x20 then .error (.after .controlCharacter rest)
    else content (octet :: sofar) rest

/-- A string whose opening quote has been read. -/
def read : Scan String := fun rest => do
  let (octets, rest) ← content [] rest
  match octets.text? with
  | some text => .ok (text, rest)
  | none =>
    .error (.placed .invalidCodePoint ⟨rest.length, octets.length - Utf8.validLength octets⟩)

/-- Passes over a string whose opening quote has been read, checking its escapes for their
form only and its octets not at all. -/
def skip : Octets → Except Stop Octets
  | [] => .error (.after .endOfString [])
  | octet :: rest =>
    if octet = quote then .ok rest
    else if octet = backslash then
      match rest with
      | [] => .error (.after .endOfString [])
      | 0x75 :: a :: b :: c :: d :: rest =>
        if (unit? a b c d).isSome then skip rest else .error (.after .invalidEscape rest)
      | 0x75 :: _ => .error (.after .endOfString [])
      | letter :: rest =>
        if (escaped? letter).isSome then skip rest else .error (.after .invalidEscape rest)
    else if octet < 0x20 then .error (.after .controlCharacter (octet :: rest))
    else skip rest

end Antiphon.Json.Quoted
