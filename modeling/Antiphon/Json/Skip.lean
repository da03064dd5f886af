import Antiphon.Json.Container

/-!
# Passing over a value

A value that nobody asked for is passed over by a looser grammar: brackets may nest
without limit, numbers need not fit anything, strings need not be UTF-8 nor pair their
surrogates, and a comma may be followed by a closing bracket only if a value or key
could start with one, which none can. Faults are those of this grammar.

The open brackets are a stack, innermost first. Every step uses up an octet, or is
followed by one that does, so twice the size of the text bounds the number of steps.
-/

namespace Antiphon.Json

namespace Numeral

/-- Passes over an exponent part, after its letter. -/
def skipExponent (rest : Octets) : Except Stop Octets :=
  let rest := match rest with
    | 0x2B :: rest | 0x2D :: rest => rest
    | rest => rest
  match rest with
  | [] => .error (.after .invalidNumber [])
  | octet :: rest =>
    if (digit? octet).isSome then .ok (skipDigits 0 rest).2 else .error (.after .invalidNumber rest)

/-- Passes over what may follow the digits of a numeral. -/
def skipTail : Octets → Except Stop Octets
  | 0x65 :: rest | 0x45 :: rest => skipExponent rest
  | rest => .ok rest

/-- Passes over what may follow an integer part. -/
def skipFraction : Octets → Except Stop Octets
  | 0x2E :: rest =>
    let (count, rest) := skipDigits 0 rest
    if count = 0 then .error (.before .invalidNumber rest) else skipTail rest
  | rest => skipTail rest

/-- Passes over a numeral after its sign. -/
def skip : Octets → Except Stop Octets
  | [] => .error (.after .invalidNumber [])
  | octet :: rest =>
    match digit? octet with
    | none => .error (.after .invalidNumber rest)
    | some 0 =>
      match rest with
      | next :: _ =>
        if (digit? next).isSome then .error (.before .invalidNumber rest) else skipFraction rest
      | [] => .ok []
    | some _ => skipFraction (skipDigits 0 rest).2

end Numeral

/-- The two kinds of bracket. -/
inductive Bracket
  | array
  | object
deriving DecidableEq, Repr

namespace Bracket

/-- The octet that closes it. -/
def closing : Bracket → UInt8
  | .array => 0x5D
  | .object => 0x7D

/-- The fault of a text that ends inside it. -/
def unclosed : Bracket → Cause
  | .array => .endOfList
  | .object => .endOfObject

/-- The fault of a value that neither a comma nor the closing octet follows. -/
def unseparated : Bracket → Cause
  | .array => .expectedCommaInList
  | .object => .expectedCommaInObject

/-- Passes over what stands before the value of an item: in an object its key and colon. -/
def skipLabel : Bracket → Octets → Except Stop Octets
  | .array, rest => .ok rest
  | .object, rest =>
    match skipBlank rest with
    | [] => .error (.before .endOfObject [])
    | 0x22 :: rest => do colon (← Quoted.skip rest)
    | rest => .error (.before .keyNotString rest)

end Bracket

/-- Passes over a scalar or the opening of a container, and says which bracket was opened. -/
def skipHead (rest : Octets) : Except Stop (Option Bracket × Octets) :=
  match skipBlank rest with
  | [] => .error (.before .endOfValue [])
  | octet :: rest =>
    match octet with
    | 0x6E => (literal [0x75, 0x6C, 0x6C] rest).map (none, ·)
    | 0x74 => (literal [0x72, 0x75, 0x65] rest).map (none, ·)
    | 0x66 => (literal [0x61, 0x6C, 0x73, 0x65] rest).map (none, ·)
    | 0x2D => (Numeral.skip rest).map (none, ·)
    | 0x22 => (Quoted.skip rest).map (none, ·)
    | 0x5B => .ok (some .array, rest)
    | 0x7B => .ok (some .object, rest)
    | _ =>
      if (digit? octet).isSome then (Numeral.skip (octet :: rest)).map (none, ·)
      else .error (.before .expectedValue (octet :: rest))

/-- What passing over a value expects next. -/
inductive Expecting
  | value
  | firstItem
  | nextItem
deriving DecidableEq, Repr

/-- Passes over a value and what closes the brackets that are open around it. -/
def skipOpen : (steps : Nat) → Expecting → List Bracket → Octets → Except Stop Octets
  | 0, _, _, rest => .error (.before .endOfValue rest)
  | steps + 1, .value, stack, rest => do
    match ← skipHead rest with
    | (some bracket, rest) => skipOpen steps .firstItem (bracket :: stack) rest
    | (none, rest) => skipOpen steps .nextItem stack rest
  | _ + 1, _, [], rest => .ok rest
  | steps + 1, expecting, bracket :: outer, rest => do
    match skipBlank rest with
    | [] => .error (.before bracket.unclosed [])
    | octet :: rest =>
      if octet = 0x2C && expecting = .nextItem then
        skipOpen steps .value (bracket :: outer) (← bracket.skipLabel rest)
      else if octet = bracket.closing then skipOpen steps .nextItem outer rest
      else if expecting = .nextItem then .error (.before bracket.unseparated (octet :: rest))
      else skipOpen steps .value (bracket :: outer) (← bracket.skipLabel (octet :: rest))

/-- Passes over one value in a text of `size` octets. -/
def skipAny (size : Nat) (rest : Octets) : Except Stop Octets :=
  skipOpen (2 * size + 2) .value [] rest

end Antiphon.Json
