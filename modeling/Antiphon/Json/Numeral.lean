import Antiphon.Json.Scan

/-!
# Numerals

A numeral without fraction and exponent that fits the range of the whole numbers is a
whole number, except for minus zero. Every other numeral is a double, and it is not
always the nearest one: the digits are gathered in a word until the next would
overflow it, the rest only shift the decimal point, and the word is then multiplied
or divided by powers of ten in double arithmetic, which rounds each time.
-/

namespace Antiphon.Json.Numeral

/-- The largest significand that can be gathered. -/
def maxSignificand : Nat := 18446744073709551615

/-- The largest exponent that can be written. -/
def maxExponent : Nat := 2147483647

/-- The nearest double to a power of ten. -/
def powerOfTen (exponent : Nat) : Float := Float.ofScientific 1 false exponent

/-- Exponents beyond this have no power of ten among the doubles. -/
def largestPower : Nat := 308

/-- Divides by a power of ten in steps that the doubles can hold. -/
def shrink (fuel : Nat) (value : Float) (exponent : Nat) : Float :=
  match fuel with
  | 0 => value
  | fuel + 1 =>
    if exponent ≤ largestPower then value / powerOfTen exponent
    else if value == 0 then value
    else shrink fuel (value / powerOfTen largestPower) (exponent - largestPower)

/-- The significand shifted by a decimal exponent, if the result is finite. -/
def scale (significand : Nat) (exponent : Int) : Option Float :=
  let value := significand.toUInt64.toFloat
  match exponent with
  | .negSucc n => some (shrink (n / largestPower + 1) value (n + 1))
  | .ofNat n =>
    if n ≤ largestPower then
      let scaled := value * powerOfTen n
      if scaled.isInf then none else some scaled
    else if value == 0 then some value
    else none

/-- Gathers digits into the significand until one would overflow it; answers how many
were gathered. -/
def gather (significand count : Nat) : Octets → Nat × Nat × Octets
  | [] => (significand, count, [])
  | octet :: rest =>
    match digit? octet with
    | none => (significand, count, octet :: rest)
    | some digit =>
      if significand * 10 + digit ≤ maxSignificand then
        gather (significand * 10 + digit) (count + 1) rest
      else (significand, count, octet :: rest)

/-- Drops digits and counts them. -/
def skipDigits (count : Nat) : Octets → Nat × Octets
  | [] => (count, [])
  | octet :: rest =>
    match digit? octet with
    | none => (count, octet :: rest)
    | some _ => skipDigits (count + 1) rest

/-- Applies the sign. -/
def signed (negative : Bool) (value : Float) : Float := if negative then -value else value

/-- The double of a numeral that has been read in full. -/
def complete (negative : Bool) (significand : Nat) (exponent : Int) : Scan Float := fun rest =>
  match scale significand exponent with
  | some value => .ok (signed negative value, rest)
  | none => .error (.after .numberOutOfRange rest)

/-- An exponent stays within the range of written exponents. -/
def clamp (exponent : Int) : Int :=
  max (-(maxExponent : Int) - 1) (min exponent maxExponent)

/-- The further digits of a written exponent. One that is too large makes the numeral
zero if it is negative or the significand is zero, and is refused otherwise. -/
def exponentDigits (negative below : Bool) (significand : Nat) (start : Int) (written : Nat) :
    Scan Float
  | octet :: rest =>
    match digit? octet with
    | some digit =>
      if written * 10 + digit ≤ maxExponent then
        exponentDigits negative below significand start (written * 10 + digit) rest
      else if significand ≠ 0 && !below then .error (.after .numberOutOfRange rest)
      else .ok (signed negative 0, (skipDigits 0 rest).2)
    | none =>
      complete negative significand (clamp (if below then start - written else start + written))
        (octet :: rest)
  | [] =>
    complete negative significand (clamp (if below then start - written else start + written)) []

/-- The exponent part, after its letter. -/
def exponentPart (negative : Bool) (significand : Nat) (start : Int) : Scan Float := fun rest =>
  let (below, rest) := match rest with
    | 0x2B :: rest => (false, rest)
    | 0x2D :: rest => (true, rest)
    | rest => (false, rest)
  match rest with
  | [] => .error (.after .endOfValue [])
  | octet :: rest =>
    match digit? octet with
    | none => .error (.after .invalidNumber rest)
    | some digit => exponentDigits negative below significand start digit rest

/-- What may follow the digits of a double: an exponent part, or nothing. -/
def tail (negative : Bool) (significand : Nat) (exponent : Int) : Scan Float
  | 0x65 :: rest | 0x45 :: rest => exponentPart negative significand exponent rest
  | rest => complete negative significand exponent rest

/-- The fraction, after its point. It needs a digit, unless the very first one no longer
fits the significand. -/
def fraction (negative : Bool) (significand : Nat) (exponent : Int) : Scan Float := fun rest =>
  let (gathered, count, rest) := gather significand 0 rest
  match rest with
  | octet :: rest' =>
    match digit? octet with
    | some _ => tail negative gathered (exponent - count) (skipDigits 0 (octet :: rest')).2
    | none =>
      if count = 0 then .error (.before .invalidNumber (octet :: rest'))
      else tail negative gathered (exponent - count) (octet :: rest')
  | [] =>
    if count = 0 then .error (.before .endOfValue [])
    else tail negative gathered (exponent - count) []

/-- A numeral whose digits overflow the significand: the rest of its integer part only
raises the exponent. -/
def long (negative : Bool) (significand : Nat) : Scan Float := fun rest =>
  let (count, rest) := skipDigits 0 rest
  match rest with
  | 0x2E :: rest => fraction negative significand count rest
  | rest => tail negative significand count rest

/-- The whole number that an integer part denotes, if it fits; minus zero does not. -/
def whole? (negative : Bool) (significand : Nat) : Option Whole :=
  if negative then
    if h : 0 < significand ∧ significand ≤ 9223372036854775808 then
      some ⟨-(significand : Int), by omega, by omega⟩
    else none
  else if h : significand ≤ 18446744073709551615 then some ⟨significand, by omega, by omega⟩
  else none

/-- What may follow an integer part that fits the significand. -/
def afterInteger (negative : Bool) (significand : Nat) : Scan Number
  | 0x2E :: rest => (fraction negative significand 0 rest).map fun (x, rest) => (.float x, rest)
  | 0x65 :: rest | 0x45 :: rest =>
    (exponentPart negative significand 0 rest).map fun (x, rest) => (.float x, rest)
  | rest =>
    match whole? negative significand with
    | some whole => .ok (.whole whole, rest)
    | none => .ok (.float (signed negative significand.toUInt64.toFloat), rest)

/-- A numeral after its sign. -/
def read (negative : Bool) : Scan Number
  | [] => .error (.after .endOfValue [])
  | octet :: rest =>
    match digit? octet with
    | none => .error (.after .invalidNumber rest)
    | some 0 =>
      match rest with
      | next :: _ =>
        if (digit? next).isSome then .error (.before .invalidNumber rest)
        else afterInteger negative 0 rest
      | [] => afterInteger negative 0 []
    | some digit =>
      let (significand, _, rest) := gather digit 0 rest
      match rest with
      | next :: _ =>
        if (digit? next).isSome then
          (long negative significand rest).map fun (x, rest) => (.float x, rest)
        else afterInteger negative significand rest
      | [] => afterInteger negative significand []

end Antiphon.Json.Numeral
