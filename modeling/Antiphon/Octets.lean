/-!
# Octets

Everything that crosses the stream is a list of octets. A text enters the list in
UTF-8 and leaves it only if the octets are valid UTF-8, so the two directions
cancel by the definition of a string.

Lengths are written as four octets, the most significant first. `bigEndian` and
`ofBigEndian?` are inverse on the numbers that four octets can hold; a longer list
is read by its first four octets alone.
-/

namespace Antiphon

/-- A finite string of octets, in stream order. -/
abbrev Octets := List UInt8

namespace Octets

/-- The octets of a text in UTF-8. -/
def ofText (text : String) : Octets := text.toUTF8.data.toList

/-- The text that the octets spell in UTF-8, if they spell one. -/
def text? (octets : Octets) : Option String := String.fromUTF8? octets.toByteArray

/-- A number in four octets, most significant first; higher digits are dropped. -/
def bigEndian (number : Nat) : Octets :=
  [UInt8.ofNat (number / 0x1000000), UInt8.ofNat (number / 0x10000),
    UInt8.ofNat (number / 0x100), UInt8.ofNat number]

/-- The number that the first four octets hold, if there are four. -/
def ofBigEndian? : Octets → Option Nat
  | a :: b :: c :: d :: _ =>
    some (a.toNat * 0x1000000 + b.toNat * 0x10000 + c.toNat * 0x100 + d.toNat)
  | _ => none

/-- The first `count` octets and the rest, if there are that many. -/
def split? (count : Nat) (octets : Octets) : Option (Octets × Octets) :=
  let parts := octets.splitAt count
  if parts.1.length = count then some parts else none

/-- A number takes four octets. -/
theorem bigEndian_length (number : Nat) : (bigEndian number).length = 4 := rfl

/-- A number below 2³² survives its four octets, whatever follows them. -/
theorem ofBigEndian?_bigEndian_append {number : Nat} (fits : number < UInt32.size)
    (rest : Octets) :
    ofBigEndian? (bigEndian number ++ rest) = some number := by
  simp only [bigEndian, List.cons_append, List.nil_append, ofBigEndian?, UInt8.toNat_ofNat',
    Option.some.injEq]
  rw [UInt32.size] at fits
  omega

/-- What is read never exceeds what four octets can hold. -/
theorem ofBigEndian?_lt {octets : Octets} {number : Nat}
    (read : ofBigEndian? octets = some number) : number < UInt32.size := by
  match octets, read with
  | a :: b :: c :: d :: _, read =>
    have ha := a.toNat_lt
    have hb := b.toNat_lt
    have hc := c.toNat_lt
    have hd := d.toNat_lt
    simp only [ofBigEndian?, Option.some.injEq] at read
    rw [UInt32.size]
    omega

/-- The first four octets are the ones that the number read from them is written in. -/
theorem take_eq_bigEndian_of_ofBigEndian? {octets : Octets} {number : Nat}
    (read : ofBigEndian? octets = some number) : octets.take 4 = bigEndian number := by
  match octets, read with
  | a :: b :: c :: d :: _, read =>
    have ha := a.toNat_lt
    have hb := b.toNat_lt
    have hc := c.toNat_lt
    have hd := d.toNat_lt
    simp only [ofBigEndian?, Option.some.injEq] at read
    simp only [List.take_succ_cons, List.take_zero, bigEndian, List.cons.injEq, and_true,
      ← UInt8.toNat_inj, UInt8.toNat_ofNat']
    omega

/-- Fewer than four octets are no number, and four are always one. -/
theorem ofBigEndian?_eq_none_iff {octets : Octets} :
    ofBigEndian? octets = none ↔ octets.length < 4 := by
  match octets with
  | [] | [_] | [_, _] | [_, _, _] => simp [ofBigEndian?]
  | _ :: _ :: _ :: _ :: _ => simp [ofBigEndian?]

/-- Splitting succeeds exactly when enough octets are there, and loses none. -/
theorem split?_eq_some_iff {count : Nat} {octets front back : Octets} :
    split? count octets = some (front, back) ↔ front.length = count ∧ octets = front ++ back := by
  simp only [split?, List.splitAt_eq, List.length_take]
  constructor
  · intro split
    split at split
    · next enough =>
      simp only [Option.some.injEq, Prod.mk.injEq] at split
      obtain ⟨rfl, rfl⟩ := split
      exact ⟨by simpa using enough, (List.take_append_drop count octets).symm⟩
    · contradiction
  · rintro ⟨rfl, rfl⟩
    simp

/-- Octets can be split unless there are too few. -/
theorem split?_eq_none_iff {count : Nat} {octets : Octets} :
    split? count octets = none ↔ octets.length < count := by
  simp only [split?, List.splitAt_eq, List.length_take]
  split <;> simp <;> omega

end Octets

end Antiphon
