import Antiphon.Json.Skip

/-!
# What is read can be passed over

A value that nobody asked for is passed over by a looser grammar than the one that values are read
by. Looser means that whatever can be read can be passed over as well, and that both then stop at
the same place (`skipHead_of_read`). Numerals and strings are what needs a proof, since each of them
is passed over by a function of its own.

What has been passed over was at least one octet (`length_of_skipHead`), and this is why every loop
over a text ends.
-/

namespace Antiphon

section Results

variable {ε α β : Type} {result : Except ε α}

/-- A result of two steps is a result of each. -/
theorem bind_eq_ok_iff {next : α → Except ε β} {value : β} :
    (result >>= next) = .ok value ↔ ∃ first, result = .ok first ∧ next first = .ok value := by
  cases result with
  | error stop => simp [bind, Except.bind]
  | ok first => simp [bind, Except.bind]

/-- A mapped result is a success if the result is one. -/
theorem map_eq_ok_iff {change : α → β} {value : β} :
    result.map change = .ok value ↔ ∃ first, result = .ok first ∧ change first = value := by
  cases result with
  | error stop => simp [Except.map]
  | ok first => simp [Except.map]

/-- Renaming the failures of a result keeps its successes. -/
theorem mapError_eq_ok_iff {δ : Type} {change : ε → δ} {value : α} :
    result.mapError change = .ok value ↔ result = .ok value := by
  constructor
  · intro changed
    cases result with
    | error stop => cases changed
    | ok first =>
      cases changed
      rfl
  · rintro rfl
    rfl

end Results

namespace Json

/-! ## Numerals -/

namespace Numeral

/-- What is behind the digits that a text begins with. -/
def pastDigits (text : Octets) : Octets := text.dropWhile fun octet => (digit? octet).isSome

/-- A digit at the front is passed over. -/
theorem pastDigits_of_digit {octet : UInt8} {digit : Nat} (denoted : digit? octet = some digit)
    (rest : Octets) : pastDigits (octet :: rest) = pastDigits rest := by
  rw [pastDigits, List.dropWhile_cons_of_pos (by simp [denoted])]
  rfl

/-- Anything but a digit stays where it is. -/
theorem pastDigits_of_other {octet : UInt8} (other : digit? octet = none) (rest : Octets) :
    pastDigits (octet :: rest) = octet :: rest := by
  rw [pastDigits, List.dropWhile_cons_of_neg (by simp [other])]

/-- Passing over digits makes no text longer. -/
theorem length_pastDigits_le (text : Octets) : (pastDigits text).length ≤ text.length :=
  (List.dropWhile_suffix _).length_le

/-- Digits that are skipped are counted. -/
theorem skipDigits_eq (count : Nat) (text : Octets) :
    skipDigits count text =
      (count + (text.takeWhile fun octet => (digit? octet).isSome).length, pastDigits text) := by
  induction text generalizing count with
  | nil => rfl
  | cons octet rest inductionHypothesis =>
    cases denoted : digit? octet with
    | none => simp [skipDigits, denoted, pastDigits_of_other denoted]
    | some digit =>
      simp [skipDigits, denoted, pastDigits_of_digit denoted, inductionHypothesis]
      omega

/-- Gathering digits stops in front of the same octet as skipping them, sooner or later. -/
theorem pastDigits_gather (significand count : Nat) (text : Octets) :
    pastDigits (gather significand count text).2.2 = pastDigits text := by
  induction text generalizing significand count with
  | nil => rfl
  | cons octet rest inductionHypothesis =>
    cases denoted : digit? octet with
    | none => simp only [gather, denoted]
    | some digit =>
      simp only [gather, denoted, pastDigits_of_digit denoted]
      split
      · exact inductionHypothesis _ _
      -- The significand is full: the digit is left to whoever skips the ones that no longer fit.
      · exact pastDigits_of_digit denoted rest

variable {negative : Bool} {significand : Nat} {text rest : Octets} {value : Float}

/-- A number that is complete is read up to here. -/
theorem eq_of_complete {exponent : Int}
    (read : complete negative significand exponent text = .ok (value, rest)) : rest = text := by
  unfold complete at read
  split at read
  · cases read
    rfl
  · cases read

/-- However large an exponent is, its digits are all used up. -/
theorem eq_of_exponentDigits {below : Bool} {written : Nat} {start : Int}
    (read : exponentDigits negative below significand start written text = .ok (value, rest)) :
    rest = pastDigits text := by
  induction text generalizing written with
  | nil => exact eq_of_complete read
  | cons octet others inductionHypothesis =>
    rw [exponentDigits] at read
    cases denoted : digit? octet with
    | none =>
      rw [denoted] at read
      rw [pastDigits_of_other denoted]
      exact eq_of_complete read
    | some digit =>
      simp only [denoted, skipDigits_eq] at read
      rw [pastDigits_of_digit denoted]
      split at read
      · exact inductionHypothesis read
      · split at read
        · cases read
        · cases read
          rfl

/-- An exponent without its sign. -/
def pastSign : Octets → Octets
  | 0x2B :: rest | 0x2D :: rest => rest
  | rest => rest

/-- An exponent is read behind its sign, whatever the sign is. -/
theorem exponentPart_eq (negative : Bool) (significand : Nat) (start : Int) (text : Octets) :
    ∃ below, exponentPart negative significand start text =
      match pastSign text with
      | [] => .error (.after .endOfValue [])
      | octet :: others =>
        match digit? octet with
        | none => .error (.after .invalidNumber others)
        | some digit => exponentDigits negative below significand start digit others := by
  fun_cases pastSign text with
  | case1 others => exact ⟨false, rfl⟩
  | case2 others => exact ⟨true, rfl⟩
  | case3 =>
    refine ⟨false, ?_⟩
    simp only [exponentPart]
    rfl

/-- An exponent is passed over behind its sign, whatever the sign is. -/
theorem skipExponent_eq (text : Octets) :
    skipExponent text =
      match pastSign text with
      | [] => .error (.after .invalidNumber [])
      | octet :: others =>
        if (digit? octet).isSome then .ok (pastDigits others)
        else .error (.after .invalidNumber others) := by
  fun_cases pastSign text with
  | case1 others | case2 others =>
    simp only [skipExponent, skipDigits_eq]
    rfl
  | case3 =>
    simp only [skipExponent, skipDigits_eq]
    rfl

/-- An exponent that is read can be passed over. -/
theorem skipExponent_of_exponentPart {start : Int}
    (read : exponentPart negative significand start text = .ok (value, rest)) :
    skipExponent text = .ok rest := by
  obtain ⟨below, divided⟩ := exponentPart_eq negative significand start text
  rw [divided] at read
  rw [skipExponent_eq]
  cases unsigned : pastSign text with
  | nil =>
    rw [unsigned] at read
    cases read
  | cons octet others =>
    simp only [unsigned] at read
    cases denoted : digit? octet with
    | none =>
      rw [denoted] at read
      cases read
    | some digit =>
      simp only [denoted] at read
      simp [denoted, eq_of_exponentDigits read]

/-- Without an exponent there is nothing to pass over, -/
theorem skipTail_of_other (small : ∀ others, text = 0x65 :: others → False)
    (large : ∀ others, text = 0x45 :: others → False) : skipTail text = .ok text := by
  unfold skipTail
  split
  · exact (small _ rfl).elim
  · exact (large _ rfl).elim
  · rfl

/-- and without a point no fraction. -/
theorem skipFraction_of_other (point : ∀ others, text = 0x2E :: others → False) :
    skipFraction text = skipTail text := by
  unfold skipFraction
  split
  · exact (point _ rfl).elim
  · rfl

/-- The tail of a number that is read can be passed over. -/
theorem skipTail_of_tail {exponent : Int}
    (read : tail negative significand exponent text = .ok (value, rest)) :
    skipTail text = .ok rest := by
  unfold tail at read
  split at read
  · exact skipExponent_of_exponentPart read
  · exact skipExponent_of_exponentPart read
  · next small large =>
    rw [eq_of_complete read]
    exact skipTail_of_other small large

/-- What no longer fits the significand of a fraction is skipped in front of its tail. -/
theorem exists_tail_of_fraction {exponent : Int}
    (read : fraction negative significand exponent text = .ok (value, rest)) :
    ∃ gathered shifted, tail negative gathered shifted (pastDigits text) = .ok (value, rest) := by
  have same := pastDigits_gather significand 0 text
  rcases divided : gather significand 0 text with ⟨gathered, count, _ | ⟨next, others⟩⟩
  · simp only [fraction, divided] at read
    split at read
    · cases read
    · rw [← same, divided]
      exact ⟨_, _, read⟩
  · simp only [fraction, divided, skipDigits_eq] at read
    rw [← same, divided]
    split at read
    · exact ⟨_, _, read⟩
    · next other =>
      rw [pastDigits_of_other other]
      split at read
      · cases read
      · exact ⟨_, _, read⟩

/-- A fraction that is read can be passed over, with its point. -/
theorem skipFraction_of_fraction {exponent : Int}
    (read : fraction negative significand exponent text = .ok (value, rest)) :
    skipFraction (0x2E :: text) = .ok rest := by
  obtain ⟨gathered, shifted, tailed⟩ := exists_tail_of_fraction read
  have skipped := skipTail_of_tail tailed
  cases text with
  | nil => cases read
  | cons octet others =>
    cases denoted : digit? octet with
    | none => simp [fraction, gather, denoted] at read
    | some digit => simp [skipFraction, skipDigits_eq, denoted, skipped]

/-- An integer too long for its significand can be passed over with what is read behind it. -/
theorem skipFraction_of_long (read : long negative significand text = .ok (value, rest)) :
    skipFraction (pastDigits text) = .ok rest := by
  simp only [long, skipDigits_eq] at read
  split at read
  · next others point =>
    rw [point]
    exact skipFraction_of_fraction read
  · next point =>
    rw [skipFraction_of_other point]
    exact skipTail_of_tail read

/-- What is read behind an integer can be passed over. -/
theorem skipFraction_of_afterInteger {number : Number}
    (read : afterInteger negative significand text = .ok (number, rest)) :
    skipFraction text = .ok rest := by
  unfold afterInteger at read
  split at read
  · obtain ⟨taken, behind, same⟩ := map_eq_ok_iff.mp read
    cases same
    exact skipFraction_of_fraction behind
  · obtain ⟨taken, behind, same⟩ := map_eq_ok_iff.mp read
    cases same
    exact skipExponent_of_exponentPart behind
  · obtain ⟨taken, behind, same⟩ := map_eq_ok_iff.mp read
    cases same
    exact skipExponent_of_exponentPart behind
  · next point small large =>
    rw [skipFraction_of_other point, skipTail_of_other small large]
    split at read <;> cases read <;> rfl

/-- A numeral that can be read can be passed over. -/
theorem skip_of_read {number : Number} (read : Numeral.read negative text = .ok (number, rest)) :
    skip text = .ok rest := by
  cases text with
  | nil => cases read
  | cons octet others =>
    cases denoted : digit? octet with
    | none => simp [Numeral.read, denoted] at read
    | some digit =>
      rcases Nat.eq_zero_or_pos digit with rfl | positive
      · simp only [Numeral.read, denoted] at read
        simp only [skip, denoted]
        cases others with
        | nil => exact skipFraction_of_afterInteger read
        | cons next behind =>
          cases another : digit? next with
          | none =>
            simp only [another, Option.isSome_none, Bool.false_eq_true, if_false] at read ⊢
            exact skipFraction_of_afterInteger read
          | some _ => simp [another] at read
      · obtain ⟨below, rfl⟩ := Nat.exists_eq_add_one.mpr positive
        have same := pastDigits_gather (below + 1) 0 others
        simp only [skip, denoted, skipDigits_eq]
        rw [← same]
        rcases divided : gather (below + 1) 0 others with ⟨gathered, count, _ | ⟨next, behind⟩⟩
        · simp only [Numeral.read, denoted, divided] at read
          exact skipFraction_of_afterInteger read
        · simp only [Numeral.read, denoted, divided] at read
          split at read
          · obtain ⟨taken, behind, same⟩ := map_eq_ok_iff.mp read
            cases same
            exact skipFraction_of_long behind
          · next other =>
            rw [pastDigits_of_other (by simpa using other)]
            exact skipFraction_of_afterInteger read

/-! What has been passed over is no longer there. -/

/-- Passing over an exponent takes at least one octet. -/
theorem length_of_skipExponent (skipped : skipExponent text = .ok rest) :
    rest.length < text.length := by
  have shorter : (pastSign text).length ≤ text.length := by
    unfold pastSign
    split <;> simp
  rw [skipExponent_eq] at skipped
  cases unsigned : pastSign text with
  | nil => simp [unsigned] at skipped
  | cons octet others =>
    simp only [unsigned] at skipped
    rw [unsigned, List.length_cons] at shorter
    split at skipped
    · cases skipped
      have fewer := length_pastDigits_le others
      omega
    · cases skipped

/-- Passing over the tail of a number makes no text longer. -/
theorem length_of_skipTail (skipped : skipTail text = .ok rest) : rest.length ≤ text.length := by
  unfold skipTail at skipped
  split at skipped
  · exact Nat.le_of_lt (Nat.lt_succ_of_lt (length_of_skipExponent skipped))
  · exact Nat.le_of_lt (Nat.lt_succ_of_lt (length_of_skipExponent skipped))
  · cases skipped
    exact Nat.le_refl _

/-- Passing over a fraction makes no text longer. -/
theorem length_of_skipFraction (skipped : skipFraction text = .ok rest) :
    rest.length ≤ text.length := by
  unfold skipFraction at skipped
  split at skipped
  · next others =>
    simp only [skipDigits_eq] at skipped
    split at skipped
    · cases skipped
    · have fewer := length_pastDigits_le others
      have shorter := length_of_skipTail skipped
      rw [List.length_cons]
      omega
  · exact length_of_skipTail skipped

/-- Passing over a number takes at least one octet. -/
theorem length_of_skip (skipped : skip text = .ok rest) : rest.length < text.length := by
  cases text with
  | nil => cases skipped
  | cons octet others =>
    rw [List.length_cons, Nat.lt_succ_iff]
    simp only [skip, skipDigits_eq] at skipped
    split at skipped
    · cases skipped
    · split at skipped
      · split at skipped
        · cases skipped
        · exact length_of_skipFraction skipped
      · cases skipped
        exact Nat.zero_le _
    · exact Nat.le_trans (length_of_skipFraction skipped) (length_pastDigits_le others)

end Numeral

/-! ## Strings -/

namespace Quoted

variable {text rest : Octets}

/-- Four digits are passed over for what they are, -/
theorem skip_unit {a b c d : UInt8} {unit : Nat} (digits : unit? a b c d = some unit)
    (rest : Octets) : skip (backslash :: 0x75 :: a :: b :: c :: d :: rest) = skip rest := by
  rw [skip.eq_def]
  simp [backslash, quote, digits]

/-- another letter if it stands for an octet, -/
theorem skip_letter {letter octet : UInt8} (short : letter ≠ 0x75)
    (stands : escaped? letter = some octet) (rest : Octets) :
    skip (backslash :: letter :: rest) = skip rest := by
  rw [skip.eq_def]
  simp [backslash, quote, short, stands]

/-- and an octet by itself if it may be printed. -/
theorem skip_plain {octet : UInt8} (unquoted : octet ≠ quote) (unescaped : octet ≠ backslash)
    (printed : ¬ octet < 0x20) (rest : Octets) : skip (octet :: rest) = skip rest := by
  rw [skip.eq_def]
  simp only [unquoted, unescaped, printed, if_false]

/-- The content of a string can be passed over if it can be read: a pair of units as two of them. -/
theorem skip_of_content {sofar : List UInt8} {octets : Octets}
    (read : content sofar text = .ok (octets, rest)) : skip text = .ok rest := by
  fun_induction content sofar text with
  | case2 sofar others =>
    cases read
    rw [skip.eq_def]
    rfl
  | case9 sofar a b c d high digits _ _ a' b' c' d' others low pair _ _ inductionHypothesis =>
    have second : skip (0x5C :: 0x75 :: a' :: b' :: c' :: d' :: others) = skip others :=
      skip_unit pair others
    rw [skip_unit digits, second]
    exact inductionHypothesis read
  | case14 sofar a b c d others unit digits _ _ _ inductionHypothesis =>
    rw [skip_unit digits]
    exact inductionHypothesis read
  | case16 sofar letter others _ short octet stands _ inductionHypothesis =>
    rw [skip_letter short stands]
    exact inductionHypothesis read
  | case19 sofar octet others unquoted unescaped printed inductionHypothesis =>
    rw [skip_plain unquoted unescaped printed]
    exact inductionHypothesis read
  | _ => cases read

/-- A string that can be read can be passed over. -/
theorem skip_of_read {key : String} (read : Quoted.read text = .ok (key, rest)) :
    skip text = .ok rest := by
  obtain ⟨⟨octets, behind⟩, inside, spelled⟩ := bind_eq_ok_iff.mp read
  simp only at spelled
  split at spelled
  · cases spelled
    exact skip_of_content inside
  · cases spelled

/-- Passing over a string takes at least the quote that ends it. -/
theorem length_of_skip (skipped : skip text = .ok rest) : rest.length < text.length := by
  fun_induction skip text with
  | case2 others =>
    cases skipped
    exact Nat.lt_succ_self _
  | case4 | case7 | case10 =>
    next inductionHypothesis =>
      have shorter := inductionHypothesis skipped
      simp only [List.length_cons]
      omega
  | _ => cases skipped

end Quoted

/-! ## Heads -/

/-- The bracket that a head opens. -/
def Head.bracket? : Head → Option Bracket
  | .array => some .array
  | .object => some .object
  | .null | .bool _ | .number _ | .string _ => none

/-- What is left behind a head with its bracket, if it has one. -/
def Head.inside (head : Head) (rest : Octets) : Octets :=
  if head.bracket?.isSome then rest.drop 1 else rest

variable {text rest : Octets}

/-- Passing over blanks makes no text longer. -/
theorem length_skipBlank_le (text : Octets) : (skipBlank text).length ≤ text.length :=
  (List.dropWhile_suffix _).length_le

/-- Reading a literal makes no text longer. -/
theorem length_of_literal {letters : Octets} (read : literal letters text = .ok rest) :
    rest.length ≤ text.length := by
  fun_induction literal letters text with
  | case1 =>
    cases read
    exact Nat.le_refl _
  | case3 letter octet others inductionHypothesis =>
    exact Nat.le_succ_of_le (inductionHypothesis read)
  | _ => cases read

/-- The machine passes over a number where it finds a digit. -/
theorem skipHead_of_digit {octet : UInt8} (found : skipBlank text = octet :: rest)
    (digit : (digit? octet).isSome) :
    skipHead text = (Numeral.skip (octet :: rest)).map (none, ·) := by
  simp only [skipHead, found]
  split
  case h_8 => rw [if_pos digit]
  all_goals cases digit

/-- A head that can be read can be passed over, with the bracket that it opens. -/
theorem skipHead_of_read {head : Head} (read : Head.read text = .ok (head, rest)) :
    skipHead text = .ok (head.bracket?, head.inside rest) := by
  cases found : skipBlank text with
  | nil => simp [Head.read, found] at read
  | cons octet others =>
    simp only [Head.read, found] at read
    split at read
    case h_1 | h_2 | h_3 =>
      obtain ⟨behind, spelled, same⟩ := map_eq_ok_iff.mp read
      cases same
      simp only [skipHead, found, spelled]
      rfl
    case h_4 =>
      obtain ⟨behind, spelled, same⟩ := map_eq_ok_iff.mp read
      cases same
      simp only [skipHead, found, Numeral.skip_of_read spelled]
      rfl
    case h_5 =>
      obtain ⟨behind, spelled, same⟩ := map_eq_ok_iff.mp read
      cases same
      simp only [skipHead, found, Quoted.skip_of_read spelled]
      rfl
    case h_6 | h_7 =>
      cases read
      simp only [skipHead, found]
      rfl
    case h_8 =>
      split at read
      · next digit =>
        obtain ⟨behind, spelled, same⟩ := map_eq_ok_iff.mp read
        cases same
        rw [skipHead_of_digit found digit, Numeral.skip_of_read spelled]
        rfl
      · cases read

/-- What has been passed over of a head was there. -/
theorem length_of_skipHead {bracket : Option Bracket}
    (skipped : skipHead text = .ok (bracket, rest)) : rest.length < text.length := by
  have unblanked := length_skipBlank_le text
  unfold skipHead at skipped
  split at skipped
  · cases skipped
  · next octet others opened =>
    rw [opened, List.length_cons] at unblanked
    refine Nat.lt_of_lt_of_le (Nat.lt_succ_of_le ?_) unblanked
    split at skipped
    case h_1 | h_2 | h_3 =>
      obtain ⟨behind, spelled, same⟩ := map_eq_ok_iff.mp skipped
      cases same
      exact length_of_literal spelled
    case h_4 =>
      obtain ⟨behind, spelled, same⟩ := map_eq_ok_iff.mp skipped
      cases same
      exact Nat.le_of_lt (Numeral.length_of_skip spelled)
    case h_5 =>
      obtain ⟨behind, spelled, same⟩ := map_eq_ok_iff.mp skipped
      cases same
      exact Nat.le_of_lt (Quoted.length_of_skip spelled)
    case h_6 | h_7 =>
      cases skipped
      exact Nat.le_refl _
    case h_8 =>
      split at skipped
      · obtain ⟨behind, spelled, same⟩ := map_eq_ok_iff.mp skipped
        cases same
        exact Nat.lt_succ_iff.mp (Numeral.length_of_skip spelled)
      · cases skipped

end Json

end Antiphon
