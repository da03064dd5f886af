import Antiphon.Decimal.Shortest

/-!
# How a decimal is written

`Layout` holds the decisions of a written form: between which exponents a number is
written positionally. Everywhere a positional number keeps a digit on either side of its
point, and any other number has one digit before the point, none after it if there is
only one, and a signed exponent.
-/

namespace Antiphon.Decimal

/-- The least and greatest exponent, of the first digit, that is written positionally. -/
structure Layout where
  least : Int
  greatest : Int
deriving DecidableEq, Repr

/-- As many zeros. -/
def zeros (count : Nat) : List Char := List.replicate count '0'

/-- An exponent with its sign. -/
def signedExponent (exponent : Int) : List Char :=
  (if exponent < 0 then '-' else '+') :: Nat.toDigits 10 exponent.natAbs

/-- A positive decimal, its digits without trailing zeros. -/
def Layout.write (layout : Layout) (decimal : Digits) : List Char :=
  let digits := Nat.toDigits 10 decimal.digits
  let exponent := decimal.exponent + digits.length - 1
  if layout.least ≤ exponent ∧ exponent ≤ layout.greatest then
    if exponent < 0 then '0' :: '.' :: zeros (-exponent - 1).toNat ++ digits
    else
      let whole := exponent.toNat + 1
      if digits.length ≤ whole then digits ++ zeros (whole - digits.length) ++ ['.', '0']
      else digits.take whole ++ '.' :: digits.drop whole
  else
    let fraction := if digits.length = 1 then [] else '.' :: digits.drop 1
    digits.take 1 ++ fraction ++ 'e' :: signedExponent exponent

/-- A finite number given by its bits: the sign in front, and zero as `0.0`. -/
def Layout.writeBits (layout : Layout) (format : Format) (bits : Nat) : String :=
  let sign := Nat.pow 2 (format.fraction + format.exponent)
  let number := Binary.ofBits format (bits % sign)
  let body := if number.significand = 0 then ['0', '.', '0'] else layout.write (shortest number)
  String.ofList (if bits / sign = 1 then '-' :: body else body)

/-- Doubles are written positionally from 0.00001 to below 1e16. -/
def Layout.double : Layout := ⟨-5, 15⟩

/-- Singles are written positionally from 0.000001 to below 1e13. -/
def Layout.single : Layout := ⟨-6, 12⟩

/-- The text of a finite double. -/
def ofFloat (value : Float) : String := Layout.double.writeBits .double value.toBits.toNat

/-- The text of a finite single. -/
def ofFloat32 (value : Float32) : String := Layout.single.writeBits .single value.toBits.toNat

end Antiphon.Decimal
