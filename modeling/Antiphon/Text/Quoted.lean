import Antiphon.Text.Hidden

/-!
# A text quoted for a message

Between quotes every character stands for itself, except the quote, the backslash, the
controls that have a letter of their own, and the hidden ones, which are given by number
in braces.
-/

namespace Antiphon.Text

/-- One character of a quoted text. -/
def quotedCharacter (c : Char) : List Char :=
  match c with
  | '\x00' => ['\\', '0']
  | '\t' => ['\\', 't']
  | '\n' => ['\\', 'n']
  | '\r' => ['\\', 'r']
  | '"' => ['\\', '"']
  | '\\' => ['\\', '\\']
  | _ =>
    if isHidden c then ['\\', 'u', '\x7b'] ++ Nat.toDigits 16 c.toNat ++ ['\x7d']
    else [c]

/-- A text as a message quotes it. -/
def quoted (text : String) : String :=
  String.ofList ('"' :: text.toList.flatMap quotedCharacter ++ ['"'])

end Antiphon.Text
