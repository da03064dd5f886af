import Antiphon.Proofs.Json.Passing
import Antiphon.Proofs.Shape.Members

/-!
# The two ways to a shape

A shape is read from a text, or taken from the value that the text denotes. The second way forgets
which members came in which order and which of them came twice, the first one passes over what
nobody asked for. They agree as far as they can (`Agree`): what is read is also taken, and what is
taken is also read if no object in the text repeats a key.

Agreement is shown shape by shape. A scalar is decided by its head either way. A record goes over
the members of an object, or the items of an array, step by step with the reader of the tree, which
has the same text in front of it after every step.
-/

namespace Antiphon

open Json

variable {α β : Type}

/-- A tree stands at the front of a text, within the budget for reading it. -/
structure Offered (budget : Budget) (text : Octets) (tree : Json) (rest : Octets) : Prop where
  read : readVerbatim budget.size budget.depth text = .ok (tree, rest)
  fits : text.length ≤ budget.size

/-- What a reader makes of a text and what a taker makes of the value of the text. -/
structure Agree (read : Budget → Scan α) (take : Json → Except Cause α) : Prop where
  /-- What is read is also taken, and all of the text has been read for it. -/
  sound {budget : Budget} {text rest behind : Octets} {tree : Json} {result : α}
    (offered : Offered budget text tree rest) (taken : read budget text = .ok (result, behind)) :
    behind = rest ∧ take tree.sorted = .ok result
  /-- What is taken is also read, if no key is repeated. -/
  complete {budget : Budget} {text rest : Octets} {tree : Json} {result : α}
    (offered : Offered budget text tree rest) (distinct : tree.Distinct)
    (taken : take tree.sorted = .ok result) : read budget text = .ok (result, rest)

/-- Shapes to which the two ways agree. -/
class Coherent (α : Type) [Shape α] : Prop where
  agree : Agree (Shape.read (α := α)) Shape.ofJson

/-- A result that is changed in the same way on both ways is still the same result. -/
theorem Agree.map {read : Budget → Scan α} {take : Json → Except Cause α} (agree : Agree read take)
    (change : α → β) :
    Agree (fun budget text => (read budget text).map fun taken => (change taken.1, taken.2))
      (fun value => (take value).map change) where
  sound offered taken := by
    obtain ⟨⟨result, behind⟩, read, same⟩ := map_eq_ok_iff.mp taken
    cases same
    obtain ⟨rfl, held⟩ := agree.sound offered read
    exact ⟨rfl, map_eq_ok_iff.mpr ⟨result, held, rfl⟩⟩
  complete offered distinct taken := by
    obtain ⟨result, held, rfl⟩ := map_eq_ok_iff.mp taken
    exact map_eq_ok_iff.mpr ⟨_, agree.complete offered distinct held, rfl⟩

/-! ## Scalars -/

section Scalars

variable {budget : Budget} {text rest : Octets} {tree : Json}

/-- A text that is offered begins with the head of its tree, which is all of it unless the head is a
bracket. -/
theorem Offered.begins (offered : Offered budget text tree rest) :
    ∃ opened, Head.read text = .ok (tree.head, opened) ∧
      (tree.head.bracket? = none → opened = rest) := by
  obtain ⟨depth, size⟩ := budget
  have reading : Reading size depth text tree rest := reading_of_readVerbatim offered.read
  cases reading with
  | scalar begins scalar =>
    rw [(sorted_of_scalar scalar).2]
    exact ⟨rest, begins, fun _ => rfl⟩
  | array begins => exact ⟨_, begins, fun flat => by cases flat⟩
  | object begins => exact ⟨_, begins, fun flat => by cases flat⟩

/-- What a head has decided, behind that head. -/
def settle (rest : Octets) : Except Cause α → Except Stop (α × Octets)
  | .ok value => .ok (value, rest)
  | .error cause => .error (.after cause rest)

/-- The two ways agree to a shape that is decided by the head alone, if only scalars have it. -/
theorem coherent_of_head [Shape α]
    (decided : ∀ (budget : Budget) (text rest : Octets) (value : Json),
      Head.read text = .ok (value.head, rest) →
        (Shape.read budget text : Except Stop (α × Octets)) = settle rest (Shape.ofJson value))
    (scalar : ∀ (value : Json) (result : α), Shape.ofJson value = .ok result →
      value.head.bracket? = none) : Coherent α := by
  constructor
  constructor
  · intro budget text rest behind tree result offered taken
    obtain ⟨opened, begins, whole⟩ := offered.begins
    rw [← head_sorted] at begins whole
    rw [decided budget text opened tree.sorted begins] at taken
    cases held : (Shape.ofJson tree.sorted : Except Cause α) with
    | error cause =>
      rw [held] at taken
      cases taken
    | ok value =>
      rw [held] at taken
      cases taken
      exact ⟨whole (scalar _ _ held), rfl⟩
  · intro budget text rest tree result offered _ taken
    obtain ⟨opened, begins, whole⟩ := offered.begins
    rw [← head_sorted] at begins whole
    rw [decided budget text opened tree.sorted begins, taken, whole (scalar _ _ taken)]
    rfl

/-- The two ways agree on truth values. -/
instance : Coherent Bool := by
  refine coherent_of_head (fun budget text rest value begins => ?_) (fun value result taken => ?_)
  · simp only [Shape.read, begins, bind, Except.bind]
    rfl
  · cases value <;> first | rfl | cases taken

/-- The two ways agree on strings. -/
instance : Coherent String := by
  refine coherent_of_head (fun budget text rest value begins => ?_) (fun value result taken => ?_)
  · simp only [Shape.read, begins, bind, Except.bind]
    rfl
  · cases value <;> first | rfl | cases taken

/-- The two ways agree on octets. -/
instance : Coherent UInt8 := by
  refine coherent_of_head (fun budget text rest value begins => ?_) (fun value result taken => ?_)
  · simp only [Shape.read, begins, bind, Except.bind]
    rfl
  · cases value <;> first | rfl | cases taken

/-- Any value is its own shape. -/
instance : Coherent Json where
  agree := by
    constructor
    · intro budget text rest behind tree result offered taken
      have value : Shape.read budget text = .ok (tree.sorted, rest) :=
        (readAny_eq _ _ text).trans (by rw [offered.read]; rfl)
      rw [value] at taken
      cases taken
      exact ⟨rfl, rfl⟩
    · intro budget text rest tree result offered _ taken
      cases taken
      exact (readAny_eq _ _ text).trans (by rw [offered.read]; rfl)

/-- Blanks in front of a tree are no part of it. -/
theorem Offered.skipBlank (offered : Offered budget text tree rest) :
    Offered budget (skipBlank text) tree rest := by
  refine ⟨?_, Nat.le_trans (length_skipBlank_le text) offered.fits⟩
  rw [← offered.read]
  have same : Head.read (Json.skipBlank text) = Head.read text := by
    simp only [Head.read, skipBlank_skipBlank]
  cases budget.depth with
  | zero => simp only [readVerbatim, keepOver, same]
  | succ depth => simp only [readVerbatim, keepOver, same]

/-- What begins with the first letter of the literal is null, and nothing else is. -/
theorem head_null_iff {head : Head} (begins : Head.read text = .ok (head, rest)) :
    head = .null ↔ ∃ others, skipBlank text = 0x6E :: others := by
  constructor
  · rintro rfl
    unfold Head.read at begins
    split at begins
    · cases begins
    · next octet others found =>
      split at begins
      case h_1 => exact ⟨_, found⟩
      case h_6 | h_7 => cases begins
      case h_8 =>
        split at begins
        · obtain ⟨_, _, same⟩ := map_eq_ok_iff.mp begins
          cases same
        · cases begins
      all_goals
        obtain ⟨_, _, same⟩ := map_eq_ok_iff.mp begins
        cases same
  · rintro ⟨others, found⟩
    simp only [Head.read, found] at begins
    obtain ⟨_, _, same⟩ := map_eq_ok_iff.mp begins
    cases same
    rfl

/-- A value that may be absent is absent where the literal is, and read behind the blanks where it
is not. -/
theorem read_option_eq [Shape α] {head : Head} (begins : Head.read text = .ok (head, rest)) :
    (Shape.read budget text : Except Stop (Option α × Octets)) =
      if head = .null then .ok (none, rest)
      else (Shape.read budget (skipBlank text)).map fun taken => (some taken.1, taken.2) := by
  simp only [Shape.read]
  split
  · next others found =>
    rw [if_pos ((head_null_iff begins).mpr ⟨others, found⟩)]
    simp only [Head.read, found] at begins
    obtain ⟨behind, spelled, same⟩ := map_eq_ok_iff.mp begins
    cases same
    rw [spelled]
    rfl
  · next filled =>
    rw [if_neg fun absent => filled _ ((head_null_iff begins).mp absent).choose_spec]

/-- Null is taken as absence, and any other value as it would be without the option. -/
theorem ofJson_option_eq [Shape α] (value : Json) :
    (Shape.ofJson value : Except Cause (Option α)) =
      if value.head = .null then .ok none else (Shape.ofJson value).map some := by
  cases value <;> rfl

/-- The two ways agree on what may be absent. -/
instance [Shape α] [Coherent α] : Coherent (Option α) where
  agree := by
    constructor
    · intro budget text rest behind tree result offered taken
      obtain ⟨opened, begins, whole⟩ := offered.begins
      rw [ofJson_option_eq, head_sorted]
      rw [read_option_eq begins] at taken
      split at taken
      · next absent =>
        cases taken
        rw [if_pos absent]
        exact ⟨whole (by rw [absent]; rfl), rfl⟩
      · next present =>
        rw [if_neg present]
        exact (Coherent.agree.map some).sound offered.skipBlank taken
    · intro budget text rest tree result offered distinct taken
      obtain ⟨opened, begins, whole⟩ := offered.begins
      rw [ofJson_option_eq, head_sorted] at taken
      rw [read_option_eq begins]
      split at taken
      · next absent =>
        cases taken
        rw [if_pos absent, whole (by rw [absent]; rfl)]
      · next present =>
        rw [if_neg present]
        exact (Coherent.agree.map some).complete offered.skipBlank distinct taken

end Scalars

/-! ## Records -/

/-- The two ways agree to what a field is given. -/
def Field.Agrees {σ : Type} (field : Field σ) : Prop :=
  ∀ draft, Agree (fun budget => field.read budget draft) (field.ofJson draft)

/-- A field is as coherent as the shape that it holds. -/
theorem Field.agrees_of {σ : Type} [Shape β] [Coherent β] (name : String) (optional : Bool)
    (get : σ → Option β) (set : σ → β → σ) : (Field.of name optional get set).Agrees :=
  fun draft => Coherent.agree.map (set draft)

namespace Record

variable {σ : Type} {record : Record σ α} {depth size : Nat} {text closing rest : Octets}

/-! ### From an array -/

section Arrays

/-- Where an item comes next no array ends, -/
theorem endArray_ne_ok_of_nextItem {first : Bool} {start : Octets}
    (next : nextItem first text = .ok (some start)) : endArray text ≠ .ok rest := by
  intro ends
  have closed := skipBlank_of_endArray ends
  cases first with
  | true =>
    obtain ⟨found, octet, others, rfl, unclosed⟩ := skipBlank_of_nextItem_first next
    rw [closed] at found
    cases found
    exact unclosed rfl
  | false =>
    obtain ⟨others, found, _⟩ := skipBlank_of_nextItem_other next
    rw [closed] at found
    cases found

/-- and where none comes it does not matter whether there was one before. -/
theorem nextItem_of_none {first : Bool} (closes : nextItem first text = .ok none) (later : Bool) :
    nextItem later text = .ok none := by
  unfold nextItem at closes ⊢
  split at closes
  · cases closes
  · rfl
  · split at closes
    · cases closes
    · split at closes <;> cases closes
  · split at closes <;> cases closes

variable {fields : List (Field σ)} (agrees : ∀ field ∈ fields, field.Agrees)

include agrees

/-- The items that are read as fields are taken as fields, and there are no more of them if the
array ends behind them. -/
theorem takeFields_of_readFields {position : Nat} {draft next : σ} {behind : Octets}
    {values : List Json}
    (run : ItemsRun (readVerbatim size depth) (decide (position = 0)) text values closing)
    (fits : text.length ≤ size)
    (read : record.readFields ⟨depth, size⟩ fields position draft text = .ok (next, behind))
    (ends : endArray behind = .ok rest) :
    behind = closing ∧
      record.takeFields fields position draft (sortedItems values) = .ok (next, []) := by
  induction fields generalizing position draft text values with
  | nil =>
    cases read
    cases run with
    | nil closes => exact ⟨rfl, rfl⟩
    -- An item that no field is left for would stand where the array ends.
    | cons following => exact absurd ends (endArray_ne_ok_of_nextItem following)
  | cons field fields inductionHypothesis =>
    rw [List.forall_mem_cons] at agrees
    obtain ⟨step, following, read⟩ := bind_eq_ok_iff.mp read
    cases run with
    | nil closes =>
      rw [closes] at following
      cases following
      simp only at read
      split at read
      · next optional =>
        have others := inductionHypothesis agrees.2 (.nil (nextItem_of_none closes _)) fits read
        rw [sortedItems, takeFields, if_pos optional]
        exact others
      · cases read
    | @cons _ _ start middle _ item others following' taken run =>
      rw [following'] at following
      cases following
      obtain ⟨⟨filled, after⟩, given, read⟩ := bind_eq_ok_iff.mp read
      have unread := length_of_nextItem following'
      have shorter := length_of_readVerbatim taken
      have offered : Offered ⟨depth, size⟩ start item middle := ⟨taken, by simp only; omega⟩
      obtain ⟨rfl, held⟩ := (agrees.1 draft).sound offered given
      have later : ItemsRun _ (decide (position + 1 = 0)) _ others closing := run
      obtain ⟨rfl, heldBehind⟩ := inductionHypothesis agrees.2 later (by omega) read
      refine ⟨rfl, ?_⟩
      rw [sortedItems, takeFields]
      exact bind_eq_ok_iff.mpr ⟨filled, held, heldBehind⟩

/-- The items that are taken as fields are read as fields, if there are no more of them. -/
theorem readFields_of_takeFields {position : Nat} {draft next : σ} {values : List Json}
    (run : ItemsRun (readVerbatim size depth) (decide (position = 0)) text values closing)
    (fits : text.length ≤ size) (distinct : DistinctItems values)
    (taken : record.takeFields fields position draft (sortedItems values) = .ok (next, [])) :
    record.readFields ⟨depth, size⟩ fields position draft text = .ok (next, closing) := by
  induction fields generalizing position draft text values with
  | nil =>
    rw [takeFields] at taken
    cases run with
    | nil closes =>
      cases taken
      rfl
    | cons => cases taken
  | cons field fields inductionHypothesis =>
    rw [List.forall_mem_cons] at agrees
    rw [readFields]
    cases run with
    | nil closes =>
      rw [sortedItems, takeFields] at taken
      refine bind_eq_ok_iff.mpr ⟨none, closes, ?_⟩
      simp only
      split at taken
      · next optional =>
        rw [if_pos optional]
        exact inductionHypothesis agrees.2 (.nil (nextItem_of_none closes _)) fits distinct taken
      · cases taken
    | @cons _ _ start middle _ item others following read run =>
      rw [sortedItems, takeFields] at taken
      obtain ⟨filled, held, heldBehind⟩ := bind_eq_ok_iff.mp taken
      have unread := length_of_nextItem following
      have shorter := length_of_readVerbatim read
      have offered : Offered ⟨depth, size⟩ start item middle := ⟨read, by simp only; omega⟩
      have given := (agrees.1 draft).complete offered distinct.1 held
      have later : ItemsRun _ (decide (position + 1 = 0)) _ others closing := run
      refine bind_eq_ok_iff.mpr ⟨some start, following, bind_eq_ok_iff.mpr ⟨_, given, ?_⟩⟩
      exact inductionHypothesis agrees.2 later (by omega) distinct.2 heldBehind

end Arrays

/-! ### From an object -/

section Objects

variable (agrees : ∀ field ∈ record.fields, field.Agrees) {draft next : σ} {key : String}

include agrees

/-- A member that is read into the draft is taken into it, -/
theorem takeMember_of_readMember {label start behind after : Octets} {value : Json}
    (divided : colon label = .ok start) (offered : Offered ⟨depth, size⟩ start value behind)
    (read : record.readMember ⟨depth, size⟩ draft key label = .ok (next, after)) :
    after = behind ∧ record.takeMember draft key value.sorted = .ok next := by
  cases found : record.field? key with
  | none =>
    simp only [readMember, found] at read
    obtain ⟨start', divided', read⟩ := bind_eq_ok_iff.mp read
    rw [divided] at divided'
    cases divided'
    obtain ⟨passed, skipped, same⟩ := bind_eq_ok_iff.mp read
    rw [skipAny_of_readVerbatim offered.read offered.fits] at skipped
    cases skipped
    cases same
    exact ⟨rfl, takeMember_of_unknown (by simp [knows, found]) _ _⟩
  | some field =>
    simp only [readMember, found] at read
    split at read
    · cases read
    · next free =>
      obtain ⟨start', divided', read⟩ := bind_eq_ok_iff.mp read
      rw [divided] at divided'
      cases divided'
      obtain ⟨rfl, held⟩ := (agrees field (field?_eq_some found).1 draft).sound offered read
      exact ⟨rfl, (takeMember_eq_ok_iff found).mpr ⟨by simpa using free, held⟩⟩

/-- and the other way round. -/
theorem readMember_of_takeMember {label start behind : Octets} {value : Json}
    (divided : colon label = .ok start) (offered : Offered ⟨depth, size⟩ start value behind)
    (distinct : value.Distinct) (taken : record.takeMember draft key value.sorted = .ok next) :
    record.readMember ⟨depth, size⟩ draft key label = .ok (next, behind) := by
  cases found : record.field? key with
  | none =>
    rw [takeMember_of_unknown (by simp [knows, found])] at taken
    cases taken
    simp only [readMember, found, divided, bind, Except.bind,
      skipAny_of_readVerbatim offered.read offered.fits]
  | some field =>
    obtain ⟨free, held⟩ := (takeMember_eq_ok_iff found).mp taken
    have given := (agrees field (field?_eq_some found).1 draft).complete offered distinct held
    simp only [readMember, found, free, Bool.false_eq_true, if_false, divided, bind, Except.bind]
    exact given

variable {first : Bool} {entries : List (String × Json)}

omit agrees in
/-- The value of a member is shorter than the text with its key. -/
theorem length_of_member {inside label start : Octets}
    (following : nextKey first text = .ok (some inside))
    (named : Quoted.read inside = .ok (key, label)) (divided : colon label = .ok start) :
    start.length < text.length := by
  have opened := length_of_nextKey following
  have spelled := Quoted.length_of_skip (Quoted.skip_of_read named)
  have parted := length_of_skipBlank (skipBlank_of_colon divided)
  omega

/-- The members that are read are taken, in the order of the text. -/
theorem takeMembers_of_members {bound : Nat} {behind : Octets}
    (run : MembersRun (readVerbatim size depth) first text entries closing)
    (fits : text.length ≤ size)
    (read : members (record.readMember ⟨depth, size⟩) bound first draft text = .ok (next, behind)) :
    behind = closing ∧ record.takeMembers draft (sortedMembers entries) = .ok next := by
  induction run generalizing bound draft with
  | nil closes =>
    cases bound with
    | zero => cases read
    | succ bound =>
      obtain ⟨step, following, read⟩ := bind_eq_ok_iff.mp read
      rw [closes] at following
      cases following
      cases read
      exact ⟨rfl, rfl⟩
  | @cons first text inside label start middle closing key value others following named divided
      taken run inductionHypothesis =>
    cases bound with
    | zero => cases read
    | succ bound =>
      -- Both loops have the same text in front of them, so they find the same key and value.
      obtain ⟨step, following', read⟩ := bind_eq_ok_iff.mp read
      rw [following] at following'
      cases following'
      obtain ⟨⟨key', label'⟩, named', read⟩ := bind_eq_ok_iff.mp read
      rw [named] at named'
      cases named'
      obtain ⟨⟨filled, after⟩, given, read⟩ := bind_eq_ok_iff.mp read
      have bounded := length_of_member following named divided
      have shorter := length_of_readVerbatim taken
      have offered : Offered ⟨depth, size⟩ start value middle := ⟨taken, by simp only; omega⟩
      obtain ⟨rfl, held⟩ := takeMember_of_readMember agrees divided offered given
      obtain ⟨rfl, heldBehind⟩ := inductionHypothesis (by omega) read
      rw [sortedMembers, takeMembers_cons]
      exact ⟨rfl, bind_eq_ok_iff.mpr ⟨filled, held, heldBehind⟩⟩

/-- The members that are taken in the order of the text are read. -/
theorem members_of_takeMembers {bound : Nat}
    (run : MembersRun (readVerbatim size depth) first text entries closing)
    (fits : text.length ≤ size) (enough : entries.length < bound)
    (distinct : DistinctMembers entries)
    (taken : record.takeMembers draft (sortedMembers entries) = .ok next) :
    members (record.readMember ⟨depth, size⟩) bound first draft text = .ok (next, closing) := by
  induction run generalizing bound draft with
  | nil closes =>
    obtain ⟨bound, rfl⟩ := Nat.exists_eq_add_one.mpr enough
    cases taken
    exact bind_eq_ok_iff.mpr ⟨none, closes, rfl⟩
  | @cons first text inside label start middle closing key value others following named divided
      read run inductionHypothesis =>
    obtain ⟨bound, rfl⟩ := Nat.exists_eq_add_one.mpr (Nat.zero_lt_of_lt enough)
    rw [sortedMembers, takeMembers_cons] at taken
    obtain ⟨filled, held, heldBehind⟩ := bind_eq_ok_iff.mp taken
    have bounded := length_of_member following named divided
    have shorter := length_of_readVerbatim read
    have offered : Offered ⟨depth, size⟩ start value middle := ⟨read, by simp only; omega⟩
    have given := readMember_of_takeMember agrees divided offered distinct.1 held
    refine bind_eq_ok_iff.mpr ⟨_, following, bind_eq_ok_iff.mpr ⟨_, named, bind_eq_ok_iff.mpr
      ⟨_, given, ?_⟩⟩⟩
    exact inductionHypothesis (by omega) (Nat.lt_of_succ_lt_succ enough) distinct.2 heldBehind

end Objects

/-! ### From either -/

/-- What has been gathered is a result if the draft can be finished. -/
theorem finishRead_eq_ok_iff {gathered : Except Stop (σ × Octets)} {result : α} :
    (gathered >>= record.finishRead) = .ok (result, rest) ↔
      ∃ draft, gathered = .ok (draft, rest) ∧ record.finish draft = .ok result := by
  have finish (draft : σ) (behind : Octets) : record.finishRead (draft, behind) =
      .ok (result, rest) ↔ record.finish draft = .ok result ∧ behind = rest := by
    simp only [finishRead]
    cases record.finish draft <;> simp
  simp only [bind_eq_ok_iff, Prod.exists, finish]
  constructor
  · rintro ⟨draft, _, read, finished, rfl⟩
    exact ⟨draft, read, finished⟩
  · rintro ⟨draft, read, finished⟩
    exact ⟨draft, rest, read, finished, rfl⟩

/-- A record is read from an object if its members give a draft that can be finished, -/
theorem read_object_eq_ok_iff {opened : Octets} {result : α}
    (begins : Head.read text = .ok (.object, opened)) :
    record.read ⟨depth + 1, size⟩ text = .ok (result, rest) ↔
      ∃ closing, (∃ draft,
        members (record.readMember ⟨depth, size⟩) (size + 1) true record.blank (opened.drop 1) =
            .ok (draft, closing) ∧
          record.finish draft = .ok result) ∧ endObject closing = .ok rest := by
  simp only [read, begins, bind_eq_ok_iff, Except.ok.injEq, exists_eq_left', Shape.enter,
    leaveObject_eq_ok_iff, ← finishRead_eq_ok_iff]

/-- and from an array if its items do. -/
theorem read_array_eq_ok_iff {opened : Octets} {result : α}
    (begins : Head.read text = .ok (.array, opened)) :
    record.read ⟨depth + 1, size⟩ text = .ok (result, rest) ↔
      ∃ closing, (∃ draft,
        record.readFields ⟨depth, size⟩ record.fields 0 record.blank (opened.drop 1) =
            .ok (draft, closing) ∧
          record.finish draft = .ok result) ∧ endArray closing = .ok rest := by
  simp only [read, begins, bind_eq_ok_iff, Except.ok.injEq, exists_eq_left', Shape.enter,
    leaveArray_eq_ok_iff, ← finishRead_eq_ok_iff]

/-- No scalar is read as a record. -/
theorem read_scalar_ne_ok {budget : Budget} {head : Head} {tree : Json} {result : α}
    {behind : Octets} (begins : Head.read text = .ok (head, rest))
    (scalar : head.scalar? = some tree) : record.read budget text ≠ .ok (result, behind) := by
  intro taken
  simp only [read, begins, bind, Except.bind] at taken
  cases head with
  | array | object => cases scalar
  | null | bool | number | string => cases taken

/-- What is taken from an array is all of it. -/
theorem ofJson_array_eq_ok_iff {values : List Json} {result : α} :
    record.ofJson (.array values) = .ok result ↔
      ∃ draft, record.takeFields record.fields 0 record.blank values = .ok (draft, []) ∧
        record.finish draft = .ok result := by
  simp only [ofJson, bind_eq_ok_iff, Prod.exists]
  constructor
  · rintro ⟨draft, excess, held, value, finished, whole⟩
    cases excess with
    | nil =>
      cases whole
      exact ⟨draft, held, finished⟩
    | cons => cases whole
  · rintro ⟨draft, held, finished⟩
    exact ⟨draft, [], held, result, finished, rfl⟩

/-- The two ways agree to a record if they agree to its fields and these are apart. -/
theorem agree (orderly : record.Orderly) (agrees : ∀ field ∈ record.fields, field.Agrees) :
    Agree record.read record.ofJson where
  sound {budget text rest behind tree result} offered taken := by
    obtain ⟨depth, size⟩ := budget
    have fits : text.length ≤ size := offered.fits
    have reading : Reading size depth text tree rest := reading_of_readVerbatim offered.read
    cases reading with
    | scalar begins scalar => exact absurd taken (read_scalar_ne_ok begins scalar)
    | @array _ _ opened _ _ _ begins count run ends =>
      have shorter : (opened.drop 1).length < text.length := length_of_head begins
      obtain ⟨closing, ⟨draft, read, finished⟩, closed⟩ := (read_array_eq_ok_iff begins).mp taken
      obtain ⟨rfl, held⟩ := takeFields_of_readFields agrees run (by omega) read closed
      rw [ends] at closed
      cases closed
      exact ⟨rfl, ofJson_array_eq_ok_iff.mpr ⟨draft, held, finished⟩⟩
    | @object _ _ opened _ _ _ begins count run ends =>
      have shorter : (opened.drop 1).length < text.length := length_of_head begins
      obtain ⟨closing, ⟨draft, read, finished⟩, closed⟩ := (read_object_eq_ok_iff begins).mp taken
      obtain ⟨rfl, held⟩ := takeMembers_of_members agrees run (by omega) read
      rw [ends] at closed
      cases closed
      -- No field came twice, since the text was read; so the order makes no difference.
      have inserted :=
        (orderly.takeMembers_insertMembers_iff (orderly.nodup_of_takeMembers held)).mpr held
      rw [sorted_object, ofJson_object]
      exact ⟨rfl, bind_eq_ok_iff.mpr ⟨draft, inserted, finished⟩⟩
  complete {budget text rest tree result} offered distinct taken := by
    obtain ⟨depth, size⟩ := budget
    have fits : text.length ≤ size := offered.fits
    have reading : Reading size depth text tree rest := reading_of_readVerbatim offered.read
    cases reading with
    | @scalar _ _ _ head _ begins scalar =>
      cases head with
      | array | object => cases scalar
      | null | bool | number | string =>
        cases scalar
        cases taken
    | @array _ _ opened _ _ _ begins count run ends =>
      have shorter : (opened.drop 1).length < text.length := length_of_head begins
      obtain ⟨draft, held, finished⟩ := ofJson_array_eq_ok_iff.mp taken
      have read := readFields_of_takeFields agrees run (by omega) distinct held
      exact (read_array_eq_ok_iff begins).mpr ⟨_, ⟨draft, read, finished⟩, ends⟩
    | @object _ _ opened _ _ entries begins count run ends =>
      have shorter : (opened.drop 1).length < text.length := length_of_head begins
      rw [sorted_object, ofJson_object] at taken
      obtain ⟨draft, inserted, finished⟩ := bind_eq_ok_iff.mp taken
      have once : ((record.known (sortedMembers entries)).map Prod.fst).Nodup := by
        refine List.Nodup.sublist (List.filter_sublist.map Prod.fst) ?_
        rw [map_fst_sortedMembers]
        exact distinct.1
      have held := (orderly.takeMembers_insertMembers_iff once).mp inserted
      have read := members_of_takeMembers agrees run (by omega) (Nat.lt_succ_of_le count)
        distinct.2 held
      exact (read_object_eq_ok_iff begins).mpr ⟨_, ⟨draft, read, finished⟩, ends⟩

end Record

end Antiphon
