import Antiphon.Proofs.Json.Decimals
import Antiphon.Proofs.Json.Plain
import Antiphon.Shape.Basic

/-!
# Reading back a value

A value that was written is read back as it was if it nests no deeper than the reader allows, and is
refused as too deep otherwise (`reads_readAny`). This holds of every value without doubles, and the
induction is over the value: a container hands each of its items to the reader in front of a comma
or of its own bracket, where the reader of the item stops.

The loops over arrays and objects have the same shape. One step takes the next item off the texts
that are still listed (`items_listed`, `members_listed`). So a container is read if all of its items
are, and the first one that is refused refuses the container.
-/

namespace Antiphon.Json

/-! ## One scalar -/

/-- A scalar is its head, and is read back as that in front of a boundary. -/
theorem Head.read_render {value : Json} (scalar : value.head.scalar? = some value)
    (plain : value.Plain) {rest : Octets} (boundary : Boundary rest) :
    Head.read (render value ++ rest) = .ok (value.head, rest) := by
  cases value with
  | null => rfl
  | bool value => cases value <;> rfl
  | number value =>
    cases value with
    | whole value => exact read_renderInt value boundary
    | float value => exact absurd plain (by simp [Plain])
  | string text =>
    obtain ⟨body, written, taken⟩ := Quoted.read_renderString text rest
    have opened : Head.read (Quoted.quote :: body) =
        (Quoted.read body).map fun taken => (.string taken.1, taken.2) := rfl
    rw [render, written, opened, taken]
    rfl
  | array items => cases scalar
  | object members => cases scalar

/-- What a value begins with says nothing about the list that it is in. -/
theorem exists_render_cons {value : Json} (plain : value.Plain) :
    ∃ first others, render value = first :: others ∧ Opening first := by
  cases value with
  | null => exact ⟨_, _, by rw [render], by decide⟩
  | bool value =>
    cases value
    · exact ⟨_, _, by rw [render], by decide⟩
    · exact ⟨_, _, by rw [render], by decide⟩
  | number value =>
    cases value with
    | whole value => exact exists_renderInt_cons value
    | float value => exact absurd plain (by simp [Plain])
  | string text => exact ⟨_, _, by rw [render, renderString]; rfl, by decide⟩
  | array items => exact ⟨_, _, by rw [render, bracketed]; rfl, by decide⟩
  | object members => exact ⟨_, _, by rw [render, braced]; rfl, by decide⟩

/-! ## What is listed -/

/-- Texts with commas between them, and one in front if they are not the first. -/
def listed : (first : Bool) → List Octets → Octets
  | _, [] => []
  | first, text :: others => (if first then [] else [0x2C]) ++ text ++ listed false others

/-- Texts separated by commas are listed from the first. -/
theorem commaSeparated_eq_listed (texts : List Octets) :
    commaSeparated texts = listed true texts := by
  have behind (others : List Octets) : others.flatMap (0x2C :: ·) = listed false others := by
    induction others with
    | nil => rfl
    | cons text others inductionHypothesis =>
      rw [List.flatMap_cons, inductionHypothesis]
      rfl
  cases texts with
  | nil => rfl
  | cons text others => rw [commaSeparated, behind]; rfl

/-- Every text between commas has another one or the closing octet behind it. -/
theorem boundary_listed (texts : List Octets) {closing : UInt8}
    (closes : closing = 0x5D ∨ closing = 0x7D) (rest : Octets) :
    Boundary (listed false texts ++ closing :: rest) := by
  cases texts with
  | nil => exact .inr closes
  | cons text others => exact .inl rfl

/-- No text is longer than the list, -/
theorem length_le_listed (first : Bool) {texts : List Octets} {text : Octets}
    (inside : text ∈ texts) : text.length ≤ (listed first texts).length := by
  induction texts generalizing first with
  | nil => cases inside
  | cons head others inductionHypothesis =>
    simp only [listed, List.length_append]
    rcases List.mem_cons.mp inside with rfl | later
    · omega
    · have bound := inductionHypothesis false later
      omega

/-- and there is an octet for each of them but the first. -/
theorem length_le_length_listed (texts : List Octets) :
    texts.length ≤ (listed true texts).length + 1 := by
  have behind (others : List Octets) : others.length ≤ (listed false others).length := by
    induction others with
    | nil => exact Nat.le_refl 0
    | cons text others inductionHypothesis =>
      simp [listed]
      omega
  cases texts with
  | nil => exact Nat.zero_le _
  | cons text others =>
    have bound := behind others
    simp only [listed, List.length_append, List.length_cons]
    omega

/-- The next item of an array is what stands behind the comma. -/
theorem nextItem_listed {first : Bool} {start : UInt8} (opening : Opening start)
    (behind : Octets) :
    nextItem first ((if first then [] else [0x2C]) ++ start :: behind) =
      .ok (some (start :: behind)) := by
  obtain ⟨printed, opens, separates⟩ := opening
  have nonblank : skipBlank (start :: behind) = start :: behind := by
    rw [skipBlank, List.dropWhile_cons_of_neg (by simp [printed])]
  cases first with
  | false =>
    have comma : skipBlank (0x2C :: start :: behind) = 0x2C :: start :: behind := rfl
    simp only [nextItem, Bool.false_eq_true, if_false, List.cons_append, List.nil_append, comma,
      nonblank]
    split
    · next same => cases same
    · next same =>
      cases same
      exact absurd rfl opens
    · rfl
  | true =>
    simp only [nextItem, if_true, List.nil_append, nonblank]
    split
    · next same => cases same
    · next same =>
      cases same
      exact absurd rfl opens
    · next same =>
      cases same
      exact absurd rfl separates
    · rfl

/-- The next key of an object is what stands behind the comma and its quote. -/
theorem nextKey_listed (first : Bool) (behind : Octets) :
    nextKey first ((if first then [] else [0x2C]) ++ Quoted.quote :: behind) =
      .ok (some behind) := by
  cases first <;> rfl

/-! ## One step of a loop -/

variable {scan : Scan Json}

/-- An item is taken off what is listed, whatever the reader makes of it, -/
theorem items_listed {value : Json} (plain : value.Plain) (size : Nat) (sofar : List Json)
    (others : List Octets) (rest : Octets) :
    items scan (size + 1) sofar (listed sofar.isEmpty (render value :: others) ++ rest) =
      (scan (render value ++ (listed false others ++ rest))).bind fun (taken, behind) =>
        items scan size (taken :: sofar) behind := by
  obtain ⟨start, body, written, opening⟩ := exists_render_cons plain
  rw [listed, written, List.append_assoc, List.append_assoc, List.cons_append, items,
    nextItem_listed opening]
  rfl

/-- and a member as well, behind its key. -/
theorem members_listed {σ : Type} (member : σ → String → Scan σ) (size : Nat) (first : Bool)
    (state : σ) (key : String) (text : Octets) (others : List Octets) (rest : Octets) :
    members member (size + 1) first state
        (listed first ((renderString key ++ 0x3A :: text) :: others) ++ rest) =
      (member state key (0x3A :: (text ++ (listed false others ++ rest)))).bind
        fun (state, behind) => members member size false state behind := by
  obtain ⟨body, written, taken⟩ :=
    Quoted.read_renderString key (0x3A :: (text ++ (listed false others ++ rest)))
  have opened : listed first ((renderString key ++ 0x3A :: text) :: others) ++ rest =
      (if first then [] else [0x2C]) ++ Quoted.quote :: body := by
    rw [← written, listed]
    simp
  rw [opened, members, nextKey_listed]
  simp only [bind, Except.bind, taken]

/-- A member that ascends beyond the others is the last one. -/
theorem insertMember_of_forall_lt {sorted : List (String × Json)} {key : String}
    (ascending : ∀ member ∈ sorted, member.1 < key) (value : Json) :
    insertMember key value sorted = sorted ++ [(key, value)] := by
  induction sorted with
  | nil => rfl
  | cons member rest inductionHypothesis =>
    simp only [List.forall_mem_cons] at ascending
    obtain ⟨below, others⟩ := ascending
    have distinct : key ≠ member.1 := fun same => String.lt_irrefl _ (same ▸ below)
    rw [insertMember, if_neg (String.lt_asymm below), if_neg distinct, inductionHypothesis others]
    rfl

/-! ## Whole containers -/

/-- The reader gives a written value back. -/
def Takes (scan : Scan Json) (value : Json) : Prop :=
  ∀ rest, Boundary rest → scan (render value ++ rest) = .ok (value, rest)

/-- The reader finds a written value too deep. -/
def Refuses (scan : Scan Json) (value : Json) : Prop :=
  ∀ rest, Boundary rest → ∃ spot, scan (render value ++ rest) = .error (.placed .tooDeep spot)

/-- The reader gives a written value back if it nests no deeper than allowed, and not otherwise. -/
structure Reads (scan : Scan Json) (allowed : Nat) (value : Json) : Prop where
  takes : value.depth ≤ allowed → Takes scan value
  refuses : allowed < value.depth → Refuses scan value

/-- A written value is given back or found too deep. -/
theorem Reads.either {allowed : Nat} {value : Json} (reads : Reads scan allowed value) :
    Takes scan value ∨ Refuses scan value :=
  (Nat.lt_or_ge allowed value.depth).symm.imp reads.takes reads.refuses

/-- An array is read up to its bracket if all of its items are, -/
theorem items_of_takes {values : List Json} (plain : ∀ value ∈ values, value.Plain)
    (takes : ∀ value ∈ values, Takes scan value) {size : Nat} (enough : values.length < size)
    (sofar : List Json) (rest : Octets) :
    items scan size sofar (listed sofar.isEmpty (renderItems values) ++ 0x5D :: rest) =
      .ok (sofar.reverse ++ values, 0x5D :: rest) := by
  induction values generalizing size sofar with
  | nil =>
    obtain ⟨size, rfl⟩ := Nat.exists_eq_add_one.mpr enough
    rw [List.append_nil]
    rfl
  | cons value others inductionHypothesis =>
    obtain ⟨size, rfl⟩ := Nat.exists_eq_add_one.mpr (Nat.zero_lt_of_lt enough)
    simp only [List.forall_mem_cons] at plain takes
    have taken := takes.1 _ (boundary_listed (renderItems others) (.inl rfl) rest)
    have later := inductionHypothesis plain.2 takes.2 (Nat.lt_of_succ_lt_succ enough)
      (value :: sofar)
    rw [renderItems, items_listed plain.1, taken]
    simpa [Except.bind] using later

/-- and the first item that is too deep is the end of it. -/
theorem items_of_refuses {values : List Json} (plain : ∀ value ∈ values, value.Plain)
    (either : ∀ value ∈ values, Takes scan value ∨ Refuses scan value)
    (refused : ∃ value ∈ values, Refuses scan value) {size : Nat} (enough : values.length < size)
    (sofar : List Json) (rest : Octets) :
    ∃ spot, items scan size sofar (listed sofar.isEmpty (renderItems values) ++ 0x5D :: rest) =
      .error (.placed .tooDeep spot) := by
  induction values generalizing size sofar with
  | nil =>
    obtain ⟨value, inside, _⟩ := refused
    cases inside
  | cons value others inductionHypothesis =>
    obtain ⟨size, rfl⟩ := Nat.exists_eq_add_one.mpr (Nat.zero_lt_of_lt enough)
    simp only [List.forall_mem_cons] at plain either
    have boundary := boundary_listed (renderItems others) (.inl rfl) rest
    rw [renderItems, items_listed plain.1]
    by_cases deep : Refuses scan value
    · obtain ⟨spot, stopped⟩ := deep _ boundary
      exact ⟨spot, by rw [stopped]; rfl⟩
    · have later : ∃ value ∈ others, Refuses scan value := by simpa [deep] using refused
      rw [either.1.resolve_right deep _ boundary]
      exact inductionHypothesis plain.2 either.2 later (Nat.lt_of_succ_lt_succ enough)
        (value :: sofar)

/-- A member is read behind its colon. -/
theorem readMember_colon (sorted : List (String × Json)) (key : String) (rest : Octets) :
    readMember scan sorted key (0x3A :: rest) =
      (scan rest).map fun (value, rest) => (insertMember key value sorted, rest) := by
  have behind : colon (0x3A :: rest) = .ok rest := rfl
  simp only [readMember, behind, bind, Except.bind]
  cases scan rest <;> rfl

/-- Members that ascend are kept in their order, -/
theorem members_of_takes {entries : List (String × Json)} (sorted : List (String × Json))
    (ascending : Ascending (sorted ++ entries))
    (takes : ∀ member ∈ entries, Takes scan member.2) {size : Nat}
    (enough : entries.length < size) (first : Bool) (rest : Octets) :
    members (readMember scan) size first sorted
        (listed first (renderMembers entries) ++ 0x7D :: rest) =
      .ok (sorted ++ entries, 0x7D :: rest) := by
  induction entries generalizing size sorted first with
  | nil =>
    obtain ⟨size, rfl⟩ := Nat.exists_eq_add_one.mpr enough
    rw [List.append_nil]
    rfl
  | cons member others inductionHypothesis =>
    obtain ⟨size, rfl⟩ := Nat.exists_eq_add_one.mpr (Nat.zero_lt_of_lt enough)
    obtain ⟨key, value⟩ := member
    simp only [List.forall_mem_cons] at takes
    have last : ∀ member ∈ sorted, member.1 < key := by
      intro member inside
      rw [Ascending, List.map_append, List.pairwise_append] at ascending
      exact ascending.2.2 _ (List.mem_map_of_mem inside) _ (by simp)
    have taken := takes.1 _ (boundary_listed (renderMembers others) (.inr rfl) rest)
    have later := inductionHypothesis (sorted ++ [(key, value)]) (by simpa using ascending) takes.2
      (Nat.lt_of_succ_lt_succ enough) false
    rw [renderMembers, members_listed, readMember_colon, taken]
    simpa [Except.bind, Except.map, insertMember_of_forall_lt last] using later

/-- and the first member that is too deep is the end of their object. -/
theorem members_of_refuses {entries : List (String × Json)}
    (either : ∀ member ∈ entries, Takes scan member.2 ∨ Refuses scan member.2)
    (refused : ∃ member ∈ entries, Refuses scan member.2) {size : Nat}
    (enough : entries.length < size) (first : Bool) (sorted : List (String × Json))
    (rest : Octets) :
    ∃ spot, members (readMember scan) size first sorted
        (listed first (renderMembers entries) ++ 0x7D :: rest) =
      .error (.placed .tooDeep spot) := by
  induction entries generalizing size sorted first with
  | nil =>
    obtain ⟨member, inside, _⟩ := refused
    cases inside
  | cons member others inductionHypothesis =>
    obtain ⟨size, rfl⟩ := Nat.exists_eq_add_one.mpr (Nat.zero_lt_of_lt enough)
    obtain ⟨key, value⟩ := member
    simp only [List.forall_mem_cons] at either
    have boundary := boundary_listed (renderMembers others) (.inr rfl) rest
    rw [renderMembers, members_listed, readMember_colon]
    by_cases deep : Refuses scan value
    · obtain ⟨spot, stopped⟩ := deep _ boundary
      exact ⟨spot, by rw [stopped]; rfl⟩
    · have later : ∃ member ∈ others, Refuses scan member.2 := by simpa [deep] using refused
      rw [either.1.resolve_right deep _ boundary]
      exact inductionHypothesis either.2 later (Nat.lt_of_succ_lt_succ enough) false _

/-! ## Every value -/

/-- The items of an array are written one by one. -/
theorem renderItems_eq_map (items : List Json) : renderItems items = items.map render := by
  induction items with
  | nil => rfl
  | cons item rest inductionHypothesis => rw [renderItems, inductionHypothesis, List.map_cons]

/-- The members of an object are written one by one, each behind its key and a colon. -/
theorem renderMembers_eq_map (members : List (String × Json)) :
    renderMembers members =
      members.map fun member => renderString member.1 ++ 0x3A :: render member.2 := by
  induction members with
  | nil => rfl
  | cons member rest inductionHypothesis =>
    rw [renderMembers, inductionHypothesis, List.map_cons]

/-- An array is written as a bracket, its items and a bracket. -/
theorem render_array_append (values : List Json) (rest : Octets) :
    render (.array values) ++ rest =
      0x5B :: (listed true (renderItems values) ++ 0x5D :: rest) := by
  simp [render, bracketed, commaSeparated_eq_listed]

/-- An object is written as a brace, its members and a brace. -/
theorem render_object_append (entries : List (String × Json)) (rest : Octets) :
    render (.object entries) ++ rest =
      0x7B :: (listed true (renderMembers entries) ++ 0x7D :: rest) := by
  simp [render, braced, commaSeparated_eq_listed]

/-- A scalar is read at any depth. -/
theorem readOver_of_scalar {value : Json} (scalar : value.head.scalar? = some value)
    (plain : value.Plain) (size : Nat) (inner : Option (Scan Json)) :
    Takes (readOver size inner) value := by
  intro rest boundary
  rw [readOver, Head.read_render scalar plain boundary]
  simp only [bind, Except.bind, scalar]

/-- Where no bracket may be opened a container is too deep, -/
theorem readOver_none {value : Json} (container : value.head.scalar? = none) (size : Nat) :
    Refuses (readOver size none) value := by
  intro rest _
  cases value with
  | array values => exact ⟨_, by rw [render_array_append]; rfl⟩
  | object entries => exact ⟨_, by rw [render_object_append]; rfl⟩
  | null | bool | number | string => cases container

/-- and elsewhere what stands behind its bracket is read. -/
theorem readOver_array (size : Nat) (values : List Json) (rest : Octets) :
    readOver size (some scan) (render (.array values) ++ rest) =
      (leaveArray (items scan (size + 1) [] (listed true (renderItems values) ++ 0x5D :: rest))).map
        fun (values, rest) => (.array values, rest) := by
  have opened (behind : Octets) : Head.read (0x5B :: behind) = .ok (.array, 0x5B :: behind) := rfl
  rw [render_array_append, readOver, opened]
  simp only [bind, Except.bind, Head.scalar?, readContainer, List.drop_succ_cons, List.drop_zero]
  cases leaveArray _ <;> rfl

/-- A written object is read member by member. -/
theorem readOver_object (size : Nat) (entries : List (String × Json)) (rest : Octets) :
    readOver size (some scan) (render (.object entries) ++ rest) =
      (leaveObject (members (readMember scan) (size + 1) true []
        (listed true (renderMembers entries) ++ 0x7D :: rest))).map
        fun (entries, rest) => (.object entries, rest) := by
  have opened (behind : Octets) : Head.read (0x7B :: behind) = .ok (.object, 0x7B :: behind) := rfl
  rw [render_object_append, readOver, opened]
  simp only [bind, Except.bind, Head.scalar?, readContainer, List.drop_succ_cons, List.drop_zero]
  cases leaveObject _ <;> rfl

/-- A reader of the items makes a reader of the array. -/
theorem reads_array {values : List Json} {allowed size : Nat}
    (plain : ∀ value ∈ values, value.Plain) (reads : ∀ value ∈ values, Reads scan allowed value)
    (enough : values.length < size + 1) :
    Reads (readOver size (some scan)) (allowed + 1) (.array values) where
  takes := by
    intro shallow rest _
    have inner := depthOfItems_le_iff.mp (Nat.le_of_succ_le_succ shallow)
    have taken := items_of_takes plain
      (fun value inside => (reads value inside).takes (inner value inside)) enough [] rest
    rw [List.isEmpty_nil] at taken
    rw [readOver_array, taken]
    rfl
  refuses := by
    intro deep rest _
    obtain ⟨value, inside, below⟩ := lt_depthOfItems_iff.mp (Nat.lt_of_succ_lt_succ deep)
    obtain ⟨spot, stopped⟩ := items_of_refuses plain
      (fun value inside => (reads value inside).either)
      ⟨value, inside, (reads value inside).refuses below⟩ enough [] rest
    rw [List.isEmpty_nil] at stopped
    exact ⟨spot, by rw [readOver_array, stopped]; rfl⟩

/-- A reader of the values makes a reader of the object. -/
theorem reads_object {entries : List (String × Json)} {allowed size : Nat}
    (ascending : Ascending entries)
    (reads : ∀ member ∈ entries, Reads scan allowed member.2)
    (enough : entries.length < size + 1) :
    Reads (readOver size (some scan)) (allowed + 1) (.object entries) where
  takes := by
    intro shallow rest _
    have inner := depthOfMembers_le_iff.mp (Nat.le_of_succ_le_succ shallow)
    have taken := members_of_takes [] ascending
      (fun member inside => (reads member inside).takes (inner member inside)) enough true rest
    rw [readOver_object, taken]
    rfl
  refuses := by
    intro deep rest _
    obtain ⟨member, inside, below⟩ := lt_depthOfMembers_iff.mp (Nat.lt_of_succ_lt_succ deep)
    obtain ⟨spot, stopped⟩ := members_of_refuses (fun member inside => (reads member inside).either)
      ⟨member, inside, (reads member inside).refuses below⟩ enough true [] rest
    exact ⟨spot, by rw [readOver_object, stopped]; rfl⟩

/-- Neither the items of an array nor their texts exceed its text. -/
theorem length_render_array (values : List Json) :
    values.length < (render (.array values)).length ∧
      ∀ value ∈ values, (render value).length ≤ (render (.array values)).length := by
  have text : (render (.array values)).length = (listed true (values.map render)).length + 2 := by
    simp [render, bracketed, commaSeparated_eq_listed, renderItems_eq_map]
  have count := length_le_length_listed (values.map render)
  rw [List.length_map] at count
  refine ⟨by omega, fun value inside => ?_⟩
  have bound := length_le_listed true (List.mem_map_of_mem (f := render) inside)
  omega

/-- Neither the members of an object nor the texts of their values exceed its text. -/
theorem length_render_object (entries : List (String × Json)) :
    entries.length < (render (.object entries)).length ∧
      ∀ member ∈ entries, (render member.2).length ≤ (render (.object entries)).length := by
  let written := fun member : String × Json => renderString member.1 ++ 0x3A :: render member.2
  have text : (render (.object entries)).length =
      (listed true (entries.map written)).length + 2 := by
    simp [render, braced, commaSeparated_eq_listed, renderMembers_eq_map, written]
  have count := length_le_length_listed (entries.map written)
  rw [List.length_map] at count
  refine ⟨by omega, fun member inside => ?_⟩
  have bound := length_le_listed true (List.mem_map_of_mem (f := written) inside)
  have part : (render member.2).length ≤ (written member).length := by
    simp [written]
    omega
  omega

/-- A reader that may open as many brackets as a value nests gives the value back, and one that may
not finds it too deep. -/
theorem reads_readAny {value : Json} (plain : value.Plain) {size : Nat}
    (fits : (render value).length ≤ size) (allowed : Nat) :
    Reads (readAny size allowed) allowed value := by
  induction value using contentInduction generalizing allowed with
  | scalar value scalar =>
    have flat : value.depth = 0 := by
      cases value with
      | array | object => cases scalar
      | null | bool | number | string => rfl
    refine ⟨fun _ => ?_, fun deep => by omega⟩
    -- A scalar is read before anybody asks whether a bracket may be opened.
    cases allowed with
    | zero => exact readOver_of_scalar scalar plain size none
    | succ allowed => exact readOver_of_scalar scalar plain size _
  | array values inductionHypothesis =>
    cases allowed with
    | zero => exact ⟨fun shallow => by simp [depth] at shallow, fun _ => readOver_none rfl size⟩
    | succ allowed =>
      -- The size bounds the loop over the items, and their own texts.
      obtain ⟨count, texts⟩ := length_render_array values
      have plain := plainItems_iff.mp plain
      refine reads_array plain (fun value inside => ?_) (by omega)
      exact inductionHypothesis value inside (plain value inside)
        (Nat.le_trans (texts value inside) fits) allowed
  | object entries inductionHypothesis =>
    cases allowed with
    | zero => exact ⟨fun shallow => by simp [depth] at shallow, fun _ => readOver_none rfl size⟩
    | succ allowed =>
      obtain ⟨count, texts⟩ := length_render_object entries
      obtain ⟨ascending, values⟩ := plain
      refine reads_object ascending (fun member inside => ?_) (by omega)
      exact inductionHypothesis member inside (plainMembers_iff.mp values member inside)
        (Nat.le_trans (texts member inside) fits) allowed

/-- A whole text gives back the value that it was written for, -/
theorem decodeAs_render {value : Json} (plain : value.Plain) (shallow : value.depth ≤ maxDepth) :
    decodeAs Json (render value) = .ok value := by
  have taken := (reads_readAny plain (Nat.le_refl _) maxDepth).takes shallow [] trivial
  rw [List.append_nil] at taken
  simp only [decodeAs, readWhole, Shape.read, Budget.whole, taken]
  rfl

/-- unless that is too deep. -/
theorem decodeAs_render_of_deep {value : Json} (plain : value.Plain)
    (deep : maxDepth < value.depth) :
    ∃ place, decodeAs Json (render value) = .error ⟨.tooDeep, some place⟩ := by
  obtain ⟨spot, stopped⟩ :=
    (reads_readAny plain (Nat.le_refl _) maxDepth).refuses deep [] trivial
  rw [List.append_nil] at stopped
  exact ⟨_, by simp only [decodeAs, readWhole, Shape.read, Budget.whole, stopped]; rfl⟩

end Antiphon.Json
