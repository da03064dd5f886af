import Antiphon.Json.Render
import Antiphon.Proofs.Json.Reading
import Antiphon.Proofs.Shape.Coherence

/-!
# Reading back a record

A record that was written as an object is read member by member. Each of them is a field that is
still free, and takes the draft one step further (`Fills`), so the record is read if its fields are
(`Record.yields_braced`). What is read from a field need not be what was written: a value that may
be absent and is null is read as absent.
-/

namespace Antiphon

open Json

variable {α β σ : Type}

/-- A text that ends an item is read as a result and no further. -/
def Yields (read : Scan α) (text : Octets) (result : α) : Prop :=
  ∀ rest, Boundary rest → read (text ++ rest) = .ok (result, rest)

/-! ## Values -/

/-- A written string is read as what it was. -/
theorem yields_string (budget : Budget) (text : String) :
    Yields (Shape.read budget) (renderString text) text := by
  intro rest boundary
  have scalar : (Json.string text).head.scalar? = some (.string text) := rfl
  have begins : Head.read (renderString text ++ rest) = .ok (.string text, rest) :=
    Head.read_render scalar trivial boundary
  simp only [Shape.read, begins, bind, Except.bind]

/-- A written truth value is read as what it was. -/
theorem yields_bool (budget : Budget) (value : Bool) :
    Yields (Shape.read budget) (render (.bool value)) value := by
  intro rest boundary
  have scalar : (Json.bool value).head.scalar? = some (.bool value) := rfl
  have begins : Head.read (render (.bool value) ++ rest) = .ok (.bool value, rest) :=
    Head.read_render scalar trivial boundary
  simp only [Shape.read, begins, bind, Except.bind]

/-- A value within the budget is read as it was written. -/
theorem yields_json {budget : Budget} {value : Json} (plain : value.Plain)
    (fits : (render value).length ≤ budget.size) (shallow : value.depth ≤ budget.depth) :
    Yields (Shape.read budget) (render value) value :=
  (reads_readAny plain fits budget.depth).takes shallow

/-- The text of a value begins with its head. -/
theorem Json.exists_read_render {value : Json} (plain : value.Plain) {rest : Octets}
    (boundary : Boundary rest) :
    ∃ behind, Head.read (render value ++ rest) = .ok (value.head, behind) ∧
      (value = .null → behind = rest) := by
  cases value with
  | array items => exact ⟨_, by rw [render_array_append]; rfl, fun same => by cases same⟩
  | object members => exact ⟨_, by rw [render_object_append]; rfl, fun same => by cases same⟩
  | null | bool | number | string =>
    exact ⟨rest, Head.read_render rfl plain boundary, fun _ => rfl⟩

/-- Null is read as absent, and every other value as it was written. -/
theorem yields_option {budget : Budget} {value : Json} (plain : value.Plain)
    (fits : (render value).length ≤ budget.size) (shallow : value.depth ≤ budget.depth) :
    Yields (Shape.read budget) (render value) (if value = .null then none else some value) := by
  intro rest boundary
  obtain ⟨behind, begins, whole⟩ := exists_read_render plain boundary
  obtain ⟨start, others, written, opening⟩ := exists_render_cons plain
  have unblanked : skipBlank (render value ++ rest) = render value ++ rest := by
    rw [written, List.cons_append, skipBlank, List.dropWhile_cons_of_neg (by simp [opening.1])]
  have null : value.head = .null ↔ value = .null := by cases value <;> simp [head]
  rw [read_option_eq begins]
  simp only [null]
  split
  · next absent => rw [whole absent]
  · rw [unblanked, yields_json plain fits shallow rest boundary]
    rfl

/-! ## Members and records -/

namespace Record

variable {record : Record σ α} {budget : Budget}

/-- A member that is a field still free is read into the draft. -/
theorem yields_readMember [Shape β] {key : String} {optional : Bool} {get : σ → Option β}
    {set : σ → β → σ} (found : record.field? key = some (.of key optional get set)) {draft : σ}
    (free : get draft = none) {text : Octets} {value : β}
    (yields : Yields (Shape.read budget) text value) :
    Yields (record.readMember budget draft key) (0x3A :: text) (set draft value) := by
  intro rest boundary
  have divided : colon (0x3A :: (text ++ rest)) = .ok (text ++ rest) := rfl
  simp only [readMember, found, Field.of, free, Option.isSome_none, Bool.false_eq_true, if_false,
    List.cons_append, divided, bind, Except.bind, yields rest boundary]
  rfl

/-- Members that are read one after the other, from one draft to another. -/
inductive Fills (record : Record σ α) (budget : Budget) : σ → List Octets → σ → Prop
  | nil {draft : σ} : Fills record budget draft [] draft
  | cons {draft middle next : σ} {key : String} {text : Octets} {others : List Octets}
      (read : Yields (record.readMember budget draft key) (0x3A :: text) middle)
      (behind : Fills record budget middle others next) :
      Fills record budget draft ((renderString key ++ 0x3A :: text) :: others) next

/-- One member that is a field still free. -/
theorem Fills.single [Shape β] {key : String} {optional : Bool} {get : σ → Option β}
    {set : σ → β → σ} (found : record.field? key = some (.of key optional get set)) {draft : σ}
    (free : get draft = none) {text : Octets} {value : β}
    (yields : Yields (Shape.read budget) text value) :
    Fills record budget draft [renderString key ++ 0x3A :: text] (set draft value) :=
  .cons (yields_readMember found free yields) .nil

/-- Members can be read in two parts. -/
theorem Fills.append {draft middle next : σ} {front back : List Octets}
    (fills : Fills record budget draft front middle)
    (others : Fills record budget middle back next) :
    Fills record budget draft (front ++ back) next := by
  induction fills with
  | nil => exact others
  | cons read _ inductionHypothesis => exact .cons read (inductionHypothesis others)

/-- An object of such members is read up to its brace. -/
theorem Fills.members {draft next : σ} {texts : List Octets}
    (fills : Fills record budget draft texts next) {bound : Nat} (enough : texts.length < bound)
    (first : Bool) (rest : Octets) :
    members (record.readMember budget) bound first draft (listed first texts ++ 0x7D :: rest) =
      .ok (next, 0x7D :: rest) := by
  induction fills generalizing bound first with
  | nil =>
    obtain ⟨bound, rfl⟩ := Nat.exists_eq_add_one.mpr enough
    rfl
  | @cons draft middle next key text others read behind inductionHypothesis =>
    obtain ⟨bound, rfl⟩ := Nat.exists_eq_add_one.mpr (Nat.zero_lt_of_lt enough)
    have taken := read _ (boundary_listed others (.inr rfl) rest)
    rw [List.cons_append] at taken
    rw [members_listed, taken]
    exact inductionHypothesis (Nat.lt_of_succ_lt_succ enough) false

/-- A record is read back if its members fill a draft that can be finished. -/
theorem Fills.yields_braced {depth size : Nat} {texts : List Octets} {draft : σ} {result : α}
    (fills : Fills record ⟨depth, size⟩ record.blank texts draft)
    (finished : record.finish draft = .ok result) (fits : (braced texts).length ≤ size) :
    Yields (record.read ⟨depth + 1, size⟩) (braced texts) result := by
  intro rest _
  have text : braced texts ++ rest = 0x7B :: (listed true texts ++ 0x7D :: rest) := by
    simp [braced, commaSeparated_eq_listed]
  have begins : Head.read (braced texts ++ rest) = .ok (.object, braced texts ++ rest) := by
    rw [text]
    rfl
  have counted : texts.length < size + 1 := by
    have bound := length_le_length_listed texts
    simp only [braced, commaSeparated_eq_listed, List.length_append, List.length_cons,
      List.length_nil] at fits
    omega
  refine (read_object_eq_ok_iff begins).mpr ⟨0x7D :: rest, ⟨draft, ?_, finished⟩, rfl⟩
  rw [text]
  exact fills.members counted true rest

/-- The text of a member's value is no longer than the object. -/
theorem length_le_braced {key : String} {text : Octets} {texts : List Octets}
    (inside : renderString key ++ 0x3A :: text ∈ texts) :
    text.length ≤ (braced texts).length := by
  have bound := length_le_listed true inside
  simp only [List.length_append, List.length_cons] at bound
  simp only [braced, commaSeparated_eq_listed, List.length_append, List.length_cons,
    List.length_nil]
  omega

end Record

end Antiphon
