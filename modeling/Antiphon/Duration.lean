/-!
# Durations

A duration is whole seconds and nanoseconds below one second. Its text takes the largest
unit, of s, ms, µs and ns, that leaves a whole part, and drops trailing zeros of the
fraction.
-/

namespace Antiphon

/-- A span of time. -/
structure Duration where
  seconds : Nat
  nanoseconds : Nat
deriving DecidableEq, Repr

namespace Duration

/-- Nanoseconds beyond a second count as seconds. -/
def new (seconds nanoseconds : Nat) : Duration :=
  ⟨seconds + nanoseconds / 1000000000, nanoseconds % 1000000000⟩

/-- A whole number of seconds. -/
def ofSeconds (seconds : Nat) : Duration := ⟨seconds, 0⟩

/-- A number of milliseconds. -/
def ofMilliseconds (milliseconds : Nat) : Duration :=
  ⟨milliseconds / 1000, milliseconds % 1000 * 1000000⟩

/-- The digits of a fraction of `width` places, without trailing zeros. -/
def fractionDigits (fraction width : Nat) : List Char :=
  let digits := Nat.toDigits 10 fraction
  let padded := List.replicate (width - digits.length) '0' ++ digits
  (padded.reverse.dropWhile (· = '0')).reverse

/-- A whole part and a fraction of `width` places in some unit. -/
def inUnit (whole fraction width : Nat) (unit : String) : String :=
  match fractionDigits fraction width with
  | [] => s!"{whole}{unit}"
  | digits => s!"{whole}.{String.ofList digits}{unit}"

/-- The text of a duration. -/
def text (duration : Duration) : String :=
  let nanoseconds := duration.nanoseconds
  if 0 < duration.seconds then inUnit duration.seconds nanoseconds 9 "s"
  else if 1000000 ≤ nanoseconds then inUnit (nanoseconds / 1000000) (nanoseconds % 1000000) 6 "ms"
  else if 1000 ≤ nanoseconds then inUnit (nanoseconds / 1000) (nanoseconds % 1000) 3 "µs"
  else inUnit nanoseconds 0 0 "ns"

end Duration

end Antiphon
