import Antiphon.Json.Printer
import Antiphon.Json.Quoted

/-!
# Reading back what is written between quotes

A string is written octet by octet, each of them escaped or as it is, and what one octet is written
as is read back as that octet, whatever follows (`content_escape`). So a string that was written is
read up to its closing quote and no further, and its content is UTF-8 because it was a string.
-/

namespace Antiphon

namespace Octets

/-- What holds of every number below 256 holds of every octet. -/
theorem forall_octet {Holds : UInt8 → Prop} (each : ∀ number : Fin 256, Holds (.ofNat number))
    (octet : UInt8) : Holds octet := by
  have here := each ⟨octet.toNat, octet.toNat_lt⟩
  rwa [UInt8.ofNat_toNat] at here

/-- The octets of two texts are those of the one and then those of the other. -/
theorem ofText_append (one other : String) :
    ofText (one ++ other) = ofText one ++ ofText other := by
  simp [ofText]

/-- The octets of a text are its bytes. -/
theorem toByteArray_ofText (text : String) : (ofText text).toByteArray = text.toByteArray := by
  apply ByteArray.ext
  rw [List.data_toByteArray, ofText, String.toUTF8_eq_toByteArray]

/-- The octets of a text spell it. -/
theorem text?_ofText (text : String) : (ofText text).text? = some text := by
  rw [text?, toByteArray_ofText, String.fromUTF8?, dif_pos text.isValidUTF8]
  rfl

end Octets

namespace Json.Quoted

/-- The quote ends a string. -/
theorem content_quote (sofar : List UInt8) (rest : Octets) :
    content sofar (quote :: rest) = .ok (sofar.reverse, rest) := by
  unfold content
  rfl

/-- An octet that needs no escape stands for itself, -/
theorem content_plain {octet : UInt8} (unquoted : octet ≠ quote) (unescaped : octet ≠ backslash)
    (printed : ¬ octet < 0x20) (sofar : List UInt8) (rest : Octets) :
    content sofar (octet :: rest) = content (octet :: sofar) rest := by
  rw [content.eq_def]
  simp only [unquoted, unescaped, printed, if_false]

/-- a letter behind a backslash for another octet, -/
theorem content_letter {letter octet : UInt8} (short : letter ≠ 0x75)
    (stands : escaped? letter = some octet) (sofar : List UInt8) (rest : Octets) :
    content sofar (backslash :: letter :: rest) = content (octet :: sofar) rest := by
  rw [content.eq_def]
  simp only [backslash, quote]
  split
  · next same => cases same
  · split <;> simp_all

/-- and four digits for a character. -/
theorem content_unit {a b c d : UInt8} {unit : Nat} (digits : unit? a b c d = some unit)
    (alone : unit < 0xD800) (sofar : List UInt8) (rest : Octets) :
    content sofar (backslash :: 0x75 :: a :: b :: c :: d :: rest) =
      content (addCharacter unit sofar) rest := by
  have high : isHigh unit = false := by simp [isHigh]; omega
  have low : isLow unit = false := by simp [isLow]; omega
  rw [content.eq_def]
  simp [backslash, quote, digits, high, low]

/-- The hexadecimal digits of an octet denote it. -/
theorem unit?_hexDigit (octet : UInt8) :
    unit? 0x30 0x30 (hexDigit (octet / 16)) (hexDigit (octet % 16)) = some octet.toNat := by
  revert octet
  exact Octets.forall_octet (by decide +kernel)

/-- An octet below the blank is a character by itself. -/
theorem addCharacter_of_lt {octet : UInt8} (control : octet < 0x20) (sofar : List UInt8) :
    addCharacter octet.toNat sofar = octet :: sofar := by
  have single : octet < 0x20 → String.utf8EncodeChar (Char.ofNat octet.toNat) = [octet] := by
    clear control
    revert octet
    apply Octets.forall_octet
    decide +kernel
  rw [addCharacter, single control]
  rfl

/-- What an octet is written as adds it to the content. -/
theorem content_escape (sofar : List UInt8) (octet : UInt8) (rest : Octets) :
    content sofar (escape octet ++ rest) = content (octet :: sofar) rest := by
  unfold escape
  split
  · exact content_letter (by decide) rfl sofar rest
  · exact content_letter (by decide) rfl sofar rest
  · exact content_letter (by decide) rfl sofar rest
  · exact content_letter (by decide) rfl sofar rest
  · exact content_letter (by decide) rfl sofar rest
  · exact content_letter (by decide) rfl sofar rest
  · exact content_letter (by decide) rfl sofar rest
  · next unquoted unescaped _ _ _ _ _ =>
    split
    · next control =>
      have below : octet.toNat < 0x20 := control
      refine (content_unit (unit?_hexDigit octet) (by omega) sofar rest).trans ?_
      rw [addCharacter_of_lt control]
    · next printed => exact content_plain unquoted unescaped printed sofar rest

/-- Octets that are written between quotes are read up to the closing one. -/
theorem content_escapes (octets sofar : List UInt8) (rest : Octets) :
    content sofar (octets.flatMap escape ++ quote :: rest) =
      .ok (sofar.reverse ++ octets, rest) := by
  induction octets generalizing sofar with
  | nil => simp [content_quote]
  | cons octet others inductionHypothesis =>
    rw [List.flatMap_cons, List.append_assoc, content_escape, inductionHypothesis]
    simp

/-- A string that was written is read back behind its opening quote. -/
theorem read_renderString (text : String) (rest : Octets) :
    ∃ body, renderString text ++ rest = quote :: body ∧ read body = .ok (text, rest) := by
  refine ⟨(Octets.ofText text).flatMap escape ++ quote :: rest, by simp [renderString, quote], ?_⟩
  unfold read
  rw [content_escapes]
  simp [Octets.text?_ofText, bind, Except.bind]

end Json.Quoted

end Antiphon
