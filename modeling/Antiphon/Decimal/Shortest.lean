/-!
# The fewest decimal digits that read back

A binary floating-point number stands for every real in the interval that rounds to it.
Of the decimals in that interval `shortest` answers one with the fewest digits, of those
the nearest to the number itself, and of two equally near the one with an even last
digit. All arithmetic is on natural numbers, so nothing is rounded on the way.

The ends of the interval lie half a step away, except that below a power of two the
steps are half as wide; they belong to the interval when the significand is even,
because a tie goes to the even neighbour.
-/

namespace Antiphon.Decimal

/-- The widths of the fraction and exponent fields of a binary format. -/
structure Format where
  fraction : Nat
  exponent : Nat
deriving DecidableEq, Repr

/-- Doubles. -/
def Format.double : Format := ⟨52, 11⟩

/-- Singles. -/
def Format.single : Format := ⟨23, 8⟩

/-- A positive number `significand * 2 ^ exponent`; `narrow` if the step below it is half
as wide as the one above. -/
structure Binary where
  significand : Nat
  exponent : Int
  narrow : Bool
deriving DecidableEq, Repr

/-- The finite number whose bits, without the sign, are given. -/
def Binary.ofBits (format : Format) (bits : Nat) : Binary :=
  let whole := Nat.pow 2 format.fraction
  let fraction := bits % whole
  let power := bits / whole % Nat.pow 2 format.exponent
  let least : Int := 2 - Nat.pow 2 (format.exponent - 1) - format.fraction
  if power = 0 then ⟨fraction, least, false⟩
  else ⟨fraction + whole, least + power - 1, fraction = 0 && 1 < power⟩

/-- The decimal `digits * 10 ^ exponent`. -/
structure Digits where
  digits : Nat
  exponent : Int
deriving DecidableEq, Repr

/-- How many decimal digits a natural number has. -/
def length (number : Nat) : Nat := (Nat.toDigits 10 number).length

/-- The greatest power of ten that is at most `numerator / denominator`. -/
def magnitude (numerator denominator : Nat) : Int :=
  if denominator ≤ numerator then (length (numerator / denominator) : Int) - 1
  else -(length ((denominator - 1) / numerator) : Int)

/-- The interval of a number, measured in some decimal unit: its centre and ends are these
numerators over a common denominator. -/
structure Window where
  low : Nat
  centre : Nat
  high : Nat
  denominator : Nat
  closed : Bool

namespace Window

/-- The interval of a number in units of one. -/
def ofBinary (number : Binary) : Window :=
  let up := Nat.pow 2 (number.exponent - 2).toNat
  let below := if number.narrow then 1 else 2
  { low := (4 * number.significand - below) * up
    centre := 4 * number.significand * up
    high := (4 * number.significand + 2) * up
    denominator := Nat.pow 2 (2 - number.exponent).toNat
    closed := number.significand % 2 = 0 }

/-- The same interval in units of `10 ^ unit`. -/
def inUnits (window : Window) (unit : Int) : Window :=
  let up := Nat.pow 10 (-unit).toNat
  { window with
    low := window.low * up
    centre := window.centre * up
    high := window.high * up
    denominator := window.denominator * Nat.pow 10 unit.toNat }

/-- Whether so many units lie in the interval. -/
def contains (window : Window) (count : Nat) : Bool :=
  let point := count * window.denominator
  if window.closed then window.low ≤ point && point ≤ window.high
  else window.low < point && point < window.high

/-- Of the two counts of units around the centre, the one in the interval, or the nearer if
both are, or the even one if both are as near. -/
def nearest? (window : Window) : Option Nat :=
  let below := window.centre / window.denominator
  let twice := 2 * (window.centre % window.denominator)
  match window.contains below, window.contains (below + 1) with
  | false, false => none
  | true, false => some below
  | false, true => some (below + 1)
  | true, true =>
    if twice < window.denominator then some below
    else if window.denominator < twice then some (below + 1)
    else if below % 2 = 0 then some below
    else some (below + 1)

end Window

/-- Seventeen digits tell any two doubles apart, and any two singles. -/
def maxDigits : Nat := 17

/-- Drops trailing zeros, at most `fuel` of them. -/
def dropZeros : (fuel : Nat) → Digits → Digits
  | 0, decimal => decimal
  | fuel + 1, decimal =>
    if decimal.digits % 10 = 0 then dropZeros fuel ⟨decimal.digits / 10, decimal.exponent + 1⟩
    else decimal

/-- The decimal with the fewest digits that reads back as the number. -/
def shortest (number : Binary) : Digits :=
  let window := Window.ofBinary number
  let top := magnitude window.centre window.denominator
  let found := (List.range maxDigits).findSome? fun (further : Nat) =>
    let unit := top - further
    (window.inUnits unit).nearest?.map fun count => Digits.mk count unit
  dropZeros maxDigits (found.getD ⟨0, 0⟩)

end Antiphon.Decimal
