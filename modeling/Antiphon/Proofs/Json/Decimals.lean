import Antiphon.Json.Head
import Antiphon.Proofs.Json.Quotation

/-!
# Reading back a whole number

The digits of a number arise from the last to the first and are gathered from the first to the last.
What carries the induction is therefore that they leave the significand at the number whatever
follows them (`exists_leading`). A numeral has no end of its own, so it is read back in front of a
boundary: the end of the text, or an octet that ends an item.
-/

namespace Antiphon.Json

/-- The text is over here, or the next octet ends an item. -/
def Boundary : Octets → Prop
  | [] => True
  | octet :: _ => octet = 0x2C ∨ octet = 0x5D ∨ octet = 0x7D

namespace Numeral

/-- A number in decimal digits. -/
def digits (number : Nat) : Octets := Octets.ofText number.repr

/-- A number below ten is its digit, -/
theorem digits_of_lt {number : Nat} (single : number < 10) :
    digits number = [.ofNat (0x30 + number)] := by
  have each : ∀ digit : Fin 10, digits digit = [.ofNat (0x30 + digit.val)] := by decide +kernel
  exact each ⟨number, single⟩

/-- and any other has one digit more than its tenth. -/
theorem digits_of_ge {number : Nat} (several : 10 ≤ number) :
    digits number = digits (number / 10) ++ [.ofNat (0x30 + number % 10)] := by
  rw [digits, Nat.repr_eq_repr_append_repr several, Octets.ofText_append, ← digits, ← digits,
    digits_of_lt (Nat.mod_lt number (by decide))]

/-- The ten digits denote the numbers below ten. -/
theorem digit?_ofNat {number : Nat} (single : number < 10) :
    digit? (.ofNat (0x30 + number)) = some number := by
  have each : ∀ digit : Fin 10, digit? (.ofNat (0x30 + digit.val)) = some digit.val := by
    decide +kernel
  exact each ⟨number, single⟩

/-- A number has a first digit that is not zero, and with that and the others the significand is the
number. -/
theorem exists_leading {number : Nat} (positive : 0 < number) (fits : number ≤ maxSignificand) :
    ∃ first others leading, digits number = first :: others ∧ digit? first = some (leading + 1) ∧
      ∀ count rest, gather (leading + 1) count (others ++ rest) =
        gather number (count + others.length) rest := by
  induction number using Nat.strongRecOn with
  | ind number inductionHypothesis =>
    rcases Nat.lt_or_ge number 10 with single | several
    · obtain ⟨leading, rfl⟩ := Nat.exists_eq_add_one.mpr positive
      exact ⟨_, [], leading, digits_of_lt single, digit?_ofNat single, fun _ _ => rfl⟩
    · obtain ⟨first, others, leading, written, denoted, gathered⟩ :=
        inductionHypothesis (number / 10) (by omega) (by omega) (by omega)
      refine ⟨first, others ++ [.ofNat (0x30 + number % 10)], leading, ?_, denoted, ?_⟩
      · rw [digits_of_ge several, written, List.cons_append]
      · intro count rest
        -- The others of the tenth have gathered it, with one digit to come.
        have whole : number / 10 * 10 + number % 10 = number := by omega
        rw [List.append_assoc, gathered, List.singleton_append, gather,
          digit?_ofNat (Nat.mod_lt number (by decide))]
        simp only [whole, fits, if_true, List.length_append, List.length_singleton, Nat.add_assoc]

/-- At a boundary there is no digit, -/
theorem digit?_of_boundary {rest : Octets} (boundary : Boundary rest) :
    ∀ next ∈ rest.head?, digit? next = none := by
  match rest, boundary with
  | [], _ => simp
  | _ :: _, .inl rfl | _ :: _, .inr (.inl rfl) | _ :: _, .inr (.inr rfl) => simp [digit?]

/-- so nothing more is gathered there, -/
theorem gather_of_boundary {rest : Octets} (boundary : Boundary rest) (significand count : Nat) :
    gather significand count rest = (significand, count, rest) := by
  cases rest with
  | nil => rfl
  | cons next _ => rw [gather, digit?_of_boundary boundary next rfl]

/-- and the numeral is a whole number if it is one of a word. -/
theorem afterInteger_of_boundary {rest : Octets} (boundary : Boundary rest) {negative : Bool}
    {significand : Nat} {whole : Whole} (held : whole? negative significand = some whole) :
    afterInteger negative significand rest = .ok (.whole whole, rest) := by
  match rest, boundary with
  | [], _ => simp only [afterInteger, held]
  | _ :: _, .inl rfl | _ :: _, .inr (.inl rfl) | _ :: _, .inr (.inr rfl) =>
    simp only [afterInteger, held]
    rfl

/-- The digits of a number are read as that number. -/
theorem read_digits {number : Nat} {negative : Bool} {whole : Whole}
    (held : whole? negative number = some whole) (fits : number ≤ maxSignificand)
    {rest : Octets} (boundary : Boundary rest) :
    read negative (digits number ++ rest) = .ok (.whole whole, rest) := by
  have after := afterInteger_of_boundary boundary held
  rcases Nat.eq_zero_or_pos number with rfl | positive
  · rw [digits_of_lt (by decide), List.singleton_append, read.eq_def]
    simp only [digit?_ofNat (show 0 < 10 by decide)]
    cases rest with
    | nil => exact after
    | cons next _ => simpa [digit?_of_boundary boundary next rfl] using after
  · obtain ⟨first, others, leading, written, denoted, gathered⟩ := exists_leading positive fits
    rw [written, List.cons_append, read.eq_def]
    simp only [denoted, gathered, gather_of_boundary boundary]
    cases rest with
    | nil => exact after
    | cons next _ => simpa [digit?_of_boundary boundary next rfl] using after

/-- What stands in front of a number is a digit. -/
theorem exists_digit {number : Nat} (fits : number ≤ maxSignificand) :
    ∃ first others, digits number = first :: others ∧ (digit? first).isSome := by
  rcases Nat.eq_zero_or_pos number with rfl | positive
  · exact ⟨_, [], digits_of_lt (by decide), by decide⟩
  · obtain ⟨first, others, leading, written, denoted, -⟩ := exists_leading positive fits
    exact ⟨first, others, written, by simp [denoted]⟩

/-- The digits of a whole number can be gathered, whatever its sign. -/
theorem toNat_le_maxSignificand (whole : Whole) :
    whole.val.toNat ≤ maxSignificand ∧ (-whole.val).toNat ≤ maxSignificand := by
  have low := whole.low
  have high := whole.high
  rw [maxSignificand]
  omega

/-- The digits of a whole number that is not negative are of that number, -/
theorem whole?_toNat {whole : Whole} (natural : 0 ≤ whole.val) :
    whole? false whole.val.toNat = some whole := by
  obtain ⟨value, low, high⟩ := whole
  have fits : value.toNat ≤ 18446744073709551615 := by omega
  simp [whole?, fits, Int.toNat_of_nonneg natural]

/-- and those of a negative one of the number without its sign. -/
theorem whole?_toNat_neg {whole : Whole} (negative : whole.val < 0) :
    whole? true (-whole.val).toNat = some whole := by
  obtain ⟨value, low, high⟩ := whole
  have below : value < 0 := negative
  have fits : 0 < (-value).toNat ∧ (-value).toNat ≤ 9223372036854775808 := by omega
  have back : -((-value).toNat : Int) = value := by omega
  rw [whole?, if_pos rfl, dif_pos fits]
  simp only [back]

end Numeral

/-- A negative number is written with a minus. -/
theorem renderInt_eq (value : Int) :
    renderInt value =
      if 0 ≤ value then Numeral.digits value.toNat else 0x2D :: Numeral.digits (-value).toNat := by
  rw [renderInt, Int.toString_eq_repr, Int.repr_eq_if]
  split
  · rfl
  · rw [Octets.ofText_append]
    rfl

/-- A value can begin with this octet: it is no blank, ends no item and does not separate two. -/
def Opening (octet : UInt8) : Prop := isBlank octet = false ∧ octet ≠ 0x5D ∧ octet ≠ 0x2C

/-- Whether a value can begin with an octet can be decided. -/
instance (octet : UInt8) : Decidable (Opening octet) := inferInstanceAs (Decidable (_ ∧ _ ∧ _))

/-- A value can begin with a digit. -/
theorem opening_of_digit {octet : UInt8} (digit : (digit? octet).isSome) : Opening octet := by
  revert digit octet
  apply Octets.forall_octet
  decide +kernel

/-- What a whole number begins with is a digit or the minus. -/
theorem exists_renderInt_cons (whole : Whole) :
    ∃ first others, renderInt whole.val = first :: others ∧ Opening first := by
  rw [renderInt_eq]
  split
  · obtain ⟨first, others, written, digit⟩ :=
      Numeral.exists_digit (Numeral.toNat_le_maxSignificand whole).1
    exact ⟨first, others, written, opening_of_digit digit⟩
  · exact ⟨0x2D, _, rfl, by decide⟩

namespace Head

/-- A digit is the head of a number. -/
theorem read_of_digit {octet : UInt8} (digit : (digit? octet).isSome) (rest : Octets) :
    read (octet :: rest) =
      (Numeral.read false (octet :: rest)).map fun (value, rest) => (.number value, rest) := by
  rw [read, skipBlank, List.dropWhile_cons_of_neg (by simp [(opening_of_digit digit).1])]
  split
  · next same => cases same
  · next same =>
    cases same
    split
    all_goals first | cases digit | simp only [digit, if_true]

/-- A whole number that was written is read back in front of a boundary. -/
theorem read_renderInt (whole : Whole) {rest : Octets} (boundary : Boundary rest) :
    read (renderInt whole.val ++ rest) = .ok (.number (.whole whole), rest) := by
  obtain ⟨fits, fitsBelow⟩ := Numeral.toNat_le_maxSignificand whole
  rw [renderInt_eq]
  by_cases natural : 0 ≤ whole.val
  · have taken := Numeral.read_digits (Numeral.whole?_toNat natural) fits boundary
    obtain ⟨first, others, written, digit⟩ := Numeral.exists_digit fits
    rw [if_pos natural]
    rw [written, List.cons_append] at taken ⊢
    rw [read_of_digit digit, taken]
    rfl
  · have held := Numeral.whole?_toNat_neg (Int.not_le.mp natural)
    have minus (behind : Octets) : read (0x2D :: behind) =
        (Numeral.read true behind).map fun (value, rest) => (.number value, rest) := rfl
    rw [if_neg natural, List.cons_append, minus, Numeral.read_digits held fitsBelow boundary]
    rfl

end Head

end Antiphon.Json
