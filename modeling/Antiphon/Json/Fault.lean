/-!
# What can be wrong with JSON text

A fault is a cause and, where reading knows it, the place in the text. The place
counts lines from one and octets within the line from zero, so the first octet read
leaves column one. A cause that arises from a value rather than from its text has no
place.
-/

namespace Antiphon.Json

/-- Why a text is refused. -/
inductive Cause
  | endOfValue
  | endOfList
  | endOfObject
  | endOfString
  | expectedValue
  | expectedLiteral
  | expectedColon
  | expectedCommaInList
  | expectedCommaInObject
  | keyNotString
  | floatKeyNotFinite
  | trailingComma
  | trailingCharacters
  | invalidNumber
  | numberOutOfRange
  | invalidEscape
  | controlCharacter
  | loneSurrogate
  | brokenSurrogatePair
  | invalidCodePoint
  | tooDeep
  /-- A value of the right syntax that is not what was asked for. -/
  | unsuitable (text : String)
deriving DecidableEq, Repr

/-- The wording of a cause. -/
def Cause.message : Cause → String
  | .endOfValue => "EOF while parsing a value"
  | .endOfList => "EOF while parsing a list"
  | .endOfObject => "EOF while parsing an object"
  | .endOfString => "EOF while parsing a string"
  | .expectedValue => "expected value"
  | .expectedLiteral => "expected ident"
  | .expectedColon => "expected `:`"
  | .expectedCommaInList => "expected `,` or `]`"
  | .expectedCommaInObject => "expected `,` or `\x7d`"
  | .keyNotString => "key must be a string"
  | .floatKeyNotFinite => "float key must be finite (got NaN or +/-inf)"
  | .trailingComma => "trailing comma"
  | .trailingCharacters => "trailing characters"
  | .invalidNumber => "invalid number"
  | .numberOutOfRange => "number out of range"
  | .invalidEscape => "invalid escape"
  | .controlCharacter => "control character (\\u0000-\\u001F) found while parsing a string"
  | .loneSurrogate => "lone leading surrogate in hex escape"
  | .brokenSurrogatePair => "unexpected end of hex escape"
  | .invalidCodePoint => "invalid unicode code point"
  | .tooDeep => "recursion limit exceeded"
  | .unsuitable text => text

/-- A place in a text: the line from one, the octets of that line already read. -/
structure Place where
  line : Nat
  column : Nat
deriving DecidableEq, Repr

/-- The place after `count` octets of the text. -/
def Place.after (text : List UInt8) (count : Nat) : Place :=
  (text.take count).foldl
    (fun place octet => if octet = 0x0A then ⟨place.line + 1, 0⟩ else ⟨place.line, place.column + 1⟩)
    ⟨1, 0⟩

/-- A cause with its place, if it has one. -/
structure Fault where
  cause : Cause
  place : Option Place
deriving DecidableEq, Repr

/-- The wording of a fault; a place on line zero is no place. -/
def Fault.message (fault : Fault) : String :=
  match fault.place with
  | none => fault.cause.message
  | some ⟨0, _⟩ => fault.cause.message
  | some ⟨line, column⟩ => s!"{fault.cause.message} at line {line} column {column}"

end Antiphon.Json
