import Antiphon.Proofs.Json.Verbatim
import Mathlib.Data.List.DropRight

/-!
# A value that can be read can be passed over

The machine that passes over values keeps the open brackets on a stack, where the reader recurses.
`Leads` compares the two: from the state in front of a value it leads to the state behind it, with
the same brackets open. The induction is on the depth of the reader, and the number of steps is
bounded all along by twice the octets that they use up, so no value needs more steps than
`skipAny` has (`skipAny_of_readVerbatim`).
-/

namespace Antiphon.Json

/-! ## Where the items of a container stand -/

section Places

variable {first : Bool} {text start rest : Octets}

/-- Behind blanks there are no more blanks. -/
theorem skipBlank_skipBlank (text : Octets) : skipBlank (skipBlank text) = skipBlank text :=
  List.dropWhile_idempotent ..

/-- The first item of an array stands behind blanks, -/
theorem skipBlank_of_nextItem_first (next : nextItem true text = .ok (some start)) :
    skipBlank text = start ∧ ∃ octet others, start = octet :: others ∧ octet ≠ 0x5D := by
  unfold nextItem at next
  split at next
  · cases next
  · cases next
  · next others behind =>
    cases next
    exact ⟨behind, _, _, rfl, by decide⟩
  · next filled unclosed _ =>
    cases next
    refine ⟨rfl, ?_⟩
    cases behind : skipBlank text with
    | nil => exact absurd behind filled
    | cons octet others => exact ⟨octet, others, rfl, fun same => unclosed others (same ▸ behind)⟩

/-- and any other behind a comma. -/
theorem skipBlank_of_nextItem_other (next : nextItem false text = .ok (some start)) :
    ∃ others, skipBlank text = 0x2C :: others ∧ start = skipBlank others := by
  unfold nextItem at next
  split at next
  · cases next
  · cases next
  · next others behind =>
    refine ⟨others, behind, ?_⟩
    simp only [Bool.false_eq_true, if_false] at next
    split at next
    · cases next
    · cases next
    · cases next
      rfl
  · cases next

/-- So does the first key of an object, behind its quote, -/
theorem skipBlank_of_nextKey_first (next : nextKey true text = .ok (some start)) :
    skipBlank text = Quoted.quote :: start := by
  unfold nextKey at next
  split at next
  · cases next
  · cases next
  · cases next
  · next others behind =>
    cases next
    exact behind
  · cases next

/-- and any other key. -/
theorem skipBlank_of_nextKey_other (next : nextKey false text = .ok (some start)) :
    ∃ others, skipBlank text = 0x2C :: others ∧ skipBlank others = Quoted.quote :: start := by
  unfold nextKey at next
  split at next
  · cases next
  · cases next
  · next others behind =>
    refine ⟨others, behind, ?_⟩
    simp only [Bool.false_eq_true, if_false] at next
    split at next
    · cases next
    · next inside opened =>
      cases next
      exact opened
    · cases next
    · cases next
  · cases next
  · cases next

/-- The bracket that ends an array stands behind blanks, -/
theorem skipBlank_of_endArray (ends : endArray text = .ok rest) :
    skipBlank text = 0x5D :: rest := by
  unfold endArray at ends
  split at ends
  · cases ends
  · next closed =>
    cases ends
    exact closed
  · split at ends <;> cases ends
  · cases ends

/-- and so does the brace that ends an object. -/
theorem skipBlank_of_endObject (ends : endObject text = .ok rest) :
    skipBlank text = 0x7D :: rest := by
  unfold endObject at ends
  split at ends
  · cases ends
  · next closed =>
    cases ends
    exact closed
  · cases ends
  · cases ends

/-- Where a colon is read, it is the first octet behind blanks. -/
theorem skipBlank_of_colon (divided : colon text = .ok rest) : skipBlank text = 0x3A :: rest := by
  unfold colon at divided
  split at divided
  · cases divided
  · next found =>
    cases divided
    exact found
  · cases divided

/-- What follows the first octet behind blanks is shorter than the text. -/
theorem length_of_skipBlank {octet : UInt8} (found : skipBlank text = octet :: rest) :
    rest.length < text.length := by
  have shorter := length_skipBlank_le text
  rw [found, List.length_cons] at shorter
  exact shorter

/-- An item is no longer than the text that it is the next of, and shorter behind a comma. -/
theorem length_of_nextItem (next : nextItem first text = .ok (some start)) :
    start.length + (if first then 0 else 1) ≤ text.length := by
  cases first with
  | true =>
    obtain ⟨found, _⟩ := skipBlank_of_nextItem_first next
    rw [← found]
    exact length_skipBlank_le text
  | false =>
    obtain ⟨others, found, rfl⟩ := skipBlank_of_nextItem_other next
    have shorter := length_of_skipBlank found
    have unblanked := length_skipBlank_le others
    simp only [Bool.false_eq_true, if_false]
    omega

/-- What follows the quote of a key is shorter than the text. -/
theorem length_of_nextKey (next : nextKey first text = .ok (some start)) :
    start.length < text.length := by
  cases first with
  | true => exact length_of_skipBlank (skipBlank_of_nextKey_first next)
  | false =>
    obtain ⟨others, found, opened⟩ := skipBlank_of_nextKey_other next
    exact Nat.lt_trans (length_of_skipBlank opened) (length_of_skipBlank found)

end Places

/-! ## Steps of the machine -/

/-- A state of the machine that passes over values. -/
structure Passage where
  expecting : Expecting
  stack : List Bracket
  text : Octets

/-- What the machine does from a state. -/
def Passage.run (steps : Nat) (passage : Passage) : Except Stop Octets :=
  skipOpen steps passage.expecting passage.stack passage.text

/-- The machine comes from one state to another in `count` steps. -/
def Leads (count : Nat) (origin target : Passage) : Prop :=
  ∀ steps, origin.run (steps + count) = target.run steps

/-- The machine comes from state to state, and the steps add up. -/
theorem Leads.trans {count more : Nat} {origin middle target : Passage}
    (front : Leads count origin middle) (back : Leads more middle target) :
    Leads (count + more) origin target := by
  intro steps
  rw [Nat.add_comm count more, ← Nat.add_assoc, front, back]

/-- What the machine expects inside a bracket. -/
def awaiting (first : Bool) : Expecting := if first then .firstItem else .nextItem

section Steps

variable {text start rest : Octets} {bracket : Bracket} (outer : List Bracket)

/-- A closing octet takes its bracket off the stack. -/
theorem leads_of_closing (closed : skipBlank text = bracket.closing :: rest) (first : Bool) :
    Leads 1 ⟨awaiting first, bracket :: outer, text⟩ ⟨.nextItem, outer, rest⟩ := by
  intro steps
  have parting : bracket.closing ≠ 0x2C := by cases bracket <;> decide
  cases first <;> simp [Passage.run, awaiting, skipOpen, closed, parting]

/-- The first item stands where it is expected, -/
theorem leads_of_first {octet : UInt8} {others : Octets} (found : skipBlank text = octet :: others)
    (unclosed : octet ≠ bracket.closing)
    (labelled : bracket.skipLabel (octet :: others) = .ok start) :
    Leads 1 ⟨awaiting true, bracket :: outer, text⟩ ⟨.value, bracket :: outer, start⟩ := by
  intro steps
  simp [Passage.run, awaiting, skipOpen, found, unclosed, labelled, bind, Except.bind]

/-- and every other one behind a comma. -/
theorem leads_of_other {others : Octets} (found : skipBlank text = 0x2C :: others)
    (labelled : bracket.skipLabel others = .ok start) :
    Leads 1 ⟨awaiting false, bracket :: outer, text⟩ ⟨.value, bracket :: outer, start⟩ := by
  intro steps
  simp [Passage.run, awaiting, skipOpen, found, labelled, bind, Except.bind]

/-- Blanks in front of a value are passed over with it. -/
theorem Leads.of_skipBlank {count : Nat} {stack : List Bracket} {target : Passage}
    (leads : Leads (count + 1) ⟨.value, stack, skipBlank text⟩ target) :
    Leads (count + 1) ⟨.value, stack, text⟩ target := by
  intro steps
  have same : skipHead (skipBlank text) = skipHead text := by
    simp only [skipHead, skipBlank_skipBlank]
  rw [← leads steps]
  simp only [Passage.run, skipOpen, same]

/-- What leads over a value leads over it as the next item of an array, -/
theorem leads_of_nextItem {first : Bool} (next : nextItem first text = .ok (some start))
    {count : Nat} {target : Passage}
    (leads : Leads (count + 1) ⟨.value, .array :: outer, start⟩ target) :
    Leads (1 + (count + 1)) ⟨awaiting first, .array :: outer, text⟩ target := by
  cases first with
  | true =>
    obtain ⟨found, octet, others, rfl, unclosed⟩ := skipBlank_of_nextItem_first next
    have other : octet ≠ Bracket.closing .array := unclosed
    exact (leads_of_first outer found other rfl).trans leads
  | false =>
    obtain ⟨others, found, rfl⟩ := skipBlank_of_nextItem_other next
    exact (leads_of_other outer found rfl).trans leads.of_skipBlank

/-- and as the value of the next member of an object. -/
theorem leads_of_nextKey {first : Bool} {inside label : Octets} {key : String}
    (next : nextKey first text = .ok (some inside)) (named : Quoted.read inside = .ok (key, label))
    (divided : colon label = .ok start) {count : Nat} {target : Passage}
    (leads : Leads count ⟨.value, .object :: outer, start⟩ target) :
    Leads (1 + count) ⟨awaiting first, .object :: outer, text⟩ target := by
  have labelled {others : Octets} (opened : skipBlank others = Quoted.quote :: inside) :
      Bracket.skipLabel .object others = .ok start := by
    simp only [Quoted.quote] at opened
    simp only [Bracket.skipLabel, opened, Quoted.skip_of_read named, bind, Except.bind, divided]
  cases first with
  | true =>
    have found := skipBlank_of_nextKey_first next
    refine (leads_of_first outer found (by decide) (labelled ?_)).trans leads
    rfl
  | false =>
    obtain ⟨others, found, opened⟩ := skipBlank_of_nextKey_other next
    exact (leads_of_other outer found (labelled opened)).trans leads

end Steps

/-! ## Over a value -/

/-- The machine comes over whatever the reader reads, in steps that the octets pay for: two each. -/
def Passes (scan : Scan Json) : Prop :=
  ∀ text tree rest, scan text = .ok (tree, rest) →
    ∃ count, count + 1 + 2 * rest.length ≤ 2 * text.length ∧
      ∀ stack, Leads (count + 1) ⟨.value, stack, text⟩ ⟨.nextItem, stack, rest⟩

variable {scan : Scan Json} {first : Bool} {text closing rest : Octets}

/-- It comes over the items of an array and its bracket if it comes over each item. -/
theorem Passes.items (passes : Passes scan) {values : List Json}
    (run : ItemsRun scan first text values closing) (ends : endArray closing = .ok rest) :
    ∃ count, count + 2 * rest.length ≤ 2 * text.length + (if first then 1 else 0) ∧
      ∀ outer, Leads count ⟨awaiting first, .array :: outer, text⟩ ⟨.nextItem, outer, rest⟩ := by
  induction run with
  | nil closes =>
    have closed := skipBlank_of_endArray ends
    have shorter := length_of_skipBlank closed
    exact ⟨1, by omega, fun outer => leads_of_closing outer closed _⟩
  | @cons first text start behind rest item others next read run inductionHypothesis =>
    obtain ⟨count, paid, leads⟩ := passes _ _ _ read
    obtain ⟨more, paidBehind, leadsBehind⟩ := inductionHypothesis ends
    have shorter := length_of_nextItem next
    refine ⟨1 + (count + 1) + more, ?_, fun outer => ?_⟩
    -- The step to the first item uses up nothing, but the bracket before it is still unpaid for.
    · cases first <;>
        simp only [Bool.false_eq_true, if_false, if_true] at paidBehind shorter ⊢ <;> omega
    · exact (leads_of_nextItem outer next (leads _)).trans (leadsBehind outer)

/-- It comes over the members of an object and its brace if it comes over each value. -/
theorem Passes.members (passes : Passes scan) {entries : List (String × Json)}
    (run : MembersRun scan first text entries closing) (ends : endObject closing = .ok rest) :
    ∃ count, count + 2 * rest.length ≤ 2 * text.length ∧
      ∀ outer, Leads count ⟨awaiting first, .object :: outer, text⟩ ⟨.nextItem, outer, rest⟩ := by
  induction run with
  | nil closes =>
    have closed := skipBlank_of_endObject ends
    have shorter := length_of_skipBlank closed
    exact ⟨1, by omega, fun outer => leads_of_closing outer closed _⟩
  | cons next named divided read run inductionHypothesis =>
    obtain ⟨count, paid, leads⟩ := passes _ _ _ read
    obtain ⟨more, paidBehind, leadsBehind⟩ := inductionHypothesis ends
    have opened := length_of_nextKey next
    have spelled := Quoted.length_of_skip (Quoted.skip_of_read named)
    have parted := length_of_skipBlank (skipBlank_of_colon divided)
    refine ⟨1 + (count + 1) + more, by omega, fun outer => ?_⟩
    exact (leads_of_nextKey outer next named divided (leads _)).trans (leadsBehind outer)

/-- A head that opens a bracket leaves it open. -/
theorem leads_of_container {head : Head} {opened : Octets} {bracket : Bracket}
    (begins : Head.read text = .ok (head, opened)) (opens : head.bracket? = some bracket)
    (stack : List Bracket) :
    Leads 1 ⟨.value, stack, text⟩ ⟨awaiting true, bracket :: stack, opened.drop 1⟩ := by
  intro steps
  have passed := skipHead_of_read begins
  simp only [Head.inside, opens] at passed
  simp only [Passage.run, skipOpen, passed]
  rfl

/-- What is left behind a head and its bracket is shorter than the text. -/
theorem length_of_head {head : Head} (begins : Head.read text = .ok (head, rest)) :
    (head.inside rest).length < text.length := length_of_skipHead (skipHead_of_read begins)

/-- A scalar is passed over in one step. -/
theorem passes_of_scalar {head : Head} {tree : Json} (begins : Head.read text = .ok (head, rest))
    (scalar : head.scalar? = some tree) :
    ∃ count, count + 1 + 2 * rest.length ≤ 2 * text.length ∧
      ∀ stack, Leads (count + 1) ⟨.value, stack, text⟩ ⟨.nextItem, stack, rest⟩ := by
  have flat : head.bracket? = none := by
    cases head with
    | array | object => cases scalar
    | null | bool | number | string => rfl
  have passed := skipHead_of_read begins
  have shorter := length_of_head begins
  simp only [Head.inside, flat] at passed shorter
  simp only [Option.isSome_none, Bool.false_eq_true, if_false] at passed shorter
  refine ⟨0, by omega, fun stack steps => ?_⟩
  simp only [Passage.run, skipOpen, passed]
  rfl

/-- Whatever can be read can be passed over. -/
theorem passes_readVerbatim (size depth : Nat) : Passes (readVerbatim size depth) := by
  induction depth with
  | zero =>
    intro text tree rest read
    cases reading_of_readVerbatim read with
    | scalar begins scalar => exact passes_of_scalar begins scalar
  | succ depth inductionHypothesis =>
    intro text tree rest read
    cases reading_of_readVerbatim read with
    | scalar begins scalar => exact passes_of_scalar begins scalar
    | array begins _ run ends =>
      obtain ⟨count, paid, leads⟩ := inductionHypothesis.items run ends
      have shorter : (_ : Octets).length < text.length := length_of_head begins
      refine ⟨count, ?_, fun stack => ?_⟩
      · simp only [Head.inside, Head.bracket?, Option.isSome_some, if_true] at shorter paid
        omega
      · rw [Nat.add_comm]
        exact (leads_of_container begins rfl stack).trans (leads stack)
    | object begins _ run ends =>
      obtain ⟨count, paid, leads⟩ := inductionHypothesis.members run ends
      have shorter : (_ : Octets).length < text.length := length_of_head begins
      refine ⟨count, ?_, fun stack => ?_⟩
      · simp only [Head.inside, Head.bracket?, Option.isSome_some, if_true] at shorter
        omega
      · rw [Nat.add_comm]
        exact (leads_of_container begins rfl stack).trans (leads stack)

/-- A text that can be read is passed over up to the same place. -/
theorem skipAny_of_readVerbatim {size depth : Nat} {tree : Json}
    (read : readVerbatim size depth text = .ok (tree, rest)) (fits : text.length ≤ size) :
    skipAny size text = .ok rest := by
  obtain ⟨count, paid, leads⟩ := passes_readVerbatim size depth text tree rest read
  obtain ⟨spare, enough⟩ := Nat.exists_eq_add_of_le (show count + 2 ≤ 2 * size + 2 by omega)
  have ended := leads [] (spare + 1)
  have steps : spare + 1 + (count + 1) = 2 * size + 2 := by omega
  rw [steps] at ended
  exact ended

/-- What is left behind a tree is shorter than the text. -/
theorem length_of_readVerbatim {size depth : Nat} {tree : Json}
    (read : readVerbatim size depth text = .ok (tree, rest)) : rest.length < text.length := by
  obtain ⟨count, paid, _⟩ := passes_readVerbatim size depth text tree rest read
  omega

end Antiphon.Json
