import Antiphon.Json.Reader
import Antiphon.Proofs.Json.Leniency

/-!
# Values as a text has them

A value keeps the members of an object in order and of those with one key only the last. In a text
they stand in any order, and a key may come again. `readVerbatim` reads what the text has, so what
it answers is the syntax tree of the text, and a value is that tree with its objects sorted
(`readAny_eq`).

Readers of other kinds are compared with the tree step by step. `Reading` says what a text that was
read consists of, and `ItemsRun` and `MembersRun` how its loops went.
-/

namespace Antiphon.Json

/-! ## Reading without sorting -/

/-- Reads one member of an object and keeps it behind those before it. -/
def keepMember (value : Scan Json) (kept : List (String × Json)) (key : String) :
    Scan (List (String × Json)) := fun rest => do
  let (value, rest) ← value (← colon rest)
  .ok (kept ++ [(key, value)], rest)

/-- Reads a container behind its bracket, with the members of an object as they stand. -/
def keepContainer (size : Nat) (value : Scan Json) : Head → Scan Json
  | .object, rest => do
    let (entries, rest) ← leaveObject (members (keepMember value) (size + 1) true [] rest)
    .ok (.object entries, rest)
  | _, rest => do
    let (values, rest) ← leaveArray (items value (size + 1) [] rest)
    .ok (.array values, rest)

/-- Reads a tree whose containers are read by `inner`, if brackets may be opened here. -/
def keepOver (size : Nat) (inner : Option (Scan Json)) : Scan Json := fun rest => do
  let (head, rest) ← Head.read rest
  match head.scalar?, inner with
  | some value, _ => .ok (value, rest)
  | none, none => .error (.before .tooDeep rest)
  | none, some inner => keepContainer size inner head (rest.drop 1)

/-- Reads the tree of a text of `size` octets. -/
def readVerbatim (size : Nat) : (depth : Nat) → Scan Json
  | 0 => keepOver size none
  | depth + 1 => keepOver size (some (readVerbatim size depth))

/-- The tree of a whole text. -/
def decodeVerbatim (text : Octets) : Except Fault Json :=
  readWhole (fun budget => readVerbatim budget.size budget.depth) text

mutual

/-- The value of a tree: the members of its objects are sorted, and of those with one key the last
counts. -/
def sorted : Json → Json
  | .null => .null
  | .bool value => .bool value
  | .number value => .number value
  | .string text => .string text
  | .array items => .array (sortedItems items)
  | .object members => ofMembers (sortedMembers members)

/-- The values of the items of an array. -/
def sortedItems : List Json → List Json
  | [] => []
  | item :: rest => sorted item :: sortedItems rest

/-- The values of the members of an object, in the order of the text. -/
def sortedMembers : List (String × Json) → List (String × Json)
  | [] => []
  | (key, value) :: rest => (key, sorted value) :: sortedMembers rest

end

mutual

/-- No object in a tree repeats a key. -/
def Distinct : Json → Prop
  | .null | .bool _ | .number _ | .string _ => True
  | .array items => DistinctItems items
  | .object members => (members.map Prod.fst).Nodup ∧ DistinctMembers members

/-- No object in an item of an array repeats a key. -/
def DistinctItems : List Json → Prop
  | [] => True
  | item :: rest => Distinct item ∧ DistinctItems rest

/-- No object in the value of a member repeats a key. -/
def DistinctMembers : List (String × Json) → Prop
  | [] => True
  | (_, value) :: rest => Distinct value ∧ DistinctMembers rest

end

/-- No object in a text repeats a key, after its escapes have been read. -/
def RepeatsNoKey (text : Octets) : Prop := ∀ tree, decodeVerbatim text = .ok tree → tree.Distinct

/-- The items of an array are sorted one by one. -/
theorem sortedItems_eq_map (items : List Json) : sortedItems items = items.map sorted := by
  induction items with
  | nil => rfl
  | cons item rest inductionHypothesis => rw [sortedItems, inductionHypothesis, List.map_cons]

/-- The values of members are sorted one by one, and the members keep their places. -/
theorem sortedMembers_eq_map (members : List (String × Json)) :
    sortedMembers members = members.map (Prod.map id sorted) := by
  induction members with
  | nil => rfl
  | cons member rest inductionHypothesis =>
    rw [sortedMembers, inductionHypothesis, List.map_cons]
    rfl

/-- Sorting changes nothing about the keys of the members. -/
theorem map_fst_sortedMembers (members : List (String × Json)) :
    (sortedMembers members).map Prod.fst = members.map Prod.fst := by
  rw [sortedMembers_eq_map, List.map_map]
  rfl

/-- What a tree begins with is what its value begins with. -/
theorem head_sorted (tree : Json) : tree.sorted.head = tree.head := by
  cases tree <;> rfl

/-- A scalar is its own value. -/
theorem sorted_of_scalar {tree : Json} {head : Head} (scalar : head.scalar? = some tree) :
    tree.sorted = tree ∧ tree.head = head := by
  cases head with
  | array | object => cases scalar
  | null | bool | number | string =>
    cases scalar
    exact ⟨rfl, rfl⟩

/-! ## A value is its tree, sorted -/

section Loops

variable {α β : Type} (change : α → β)

/-- If the items that two readers read are related by a function then so are the lists of them, -/
theorem items_map {scan : Scan α} {other : Scan β}
    (related : ∀ text, other text = (scan text).map (Prod.map change id)) (size : Nat)
    (sofar : List α) (text : Octets) :
    items other size (sofar.map change) text =
      (items scan size sofar text).map (Prod.map (List.map change) id) := by
  induction size generalizing sofar text with
  | zero => rfl
  | succ size inductionHypothesis =>
    rw [items, items, List.isEmpty_map]
    rcases nextItem sofar.isEmpty text with stop | _ | start
    · rfl
    · simp [bind, Except.bind, Except.map]
    · simp only [bind, Except.bind, related]
      rcases scan start with stop | ⟨item, behind⟩
      · rfl
      · exact inductionHypothesis (item :: sofar) behind

/-- and likewise what two readers have gathered from the members of an object. -/
theorem members_map {member : α → String → Scan α} {other : β → String → Scan β}
    (related : ∀ state key text,
      other (change state) key text = (member state key text).map (Prod.map change id))
    (size : Nat) (first : Bool) (state : α) (text : Octets) :
    members other size first (change state) text =
      (members member size first state text).map (Prod.map change id) := by
  induction size generalizing first state text with
  | zero => rfl
  | succ size inductionHypothesis =>
    rw [members, members]
    rcases nextKey first text with stop | _ | inside
    · rfl
    · rfl
    · simp only [bind, Except.bind]
      rcases Quoted.read inside with stop | ⟨key, behind⟩
      · rfl
      · simp only [related]
        rcases member state key behind with stop | ⟨state, behind⟩
        · rfl
        · exact inductionHypothesis false state behind

/-- A container of either kind is left alike. -/
def leaveBy (ends : Octets → Except Stop Octets) (past : Octets → Octets) :
    Except Stop (α × Octets) → Except Stop (α × Octets)
  | .ok (value, rest) => (ends rest).map fun rest => (value, rest)
  | .error (.unplaced cause rest) => .error (.after cause (past rest))
  | .error stop => .error stop

/-- An array is left as any container is. -/
theorem leaveArray_eq (result : Except Stop (α × Octets)) :
    leaveArray result = leaveBy endArray pastArray result := by
  rcases result with stop | ⟨value, rest⟩
  · cases stop <;> rfl
  · rfl

/-- An object is left as any container is. -/
theorem leaveObject_eq (result : Except Stop (α × Octets)) :
    leaveObject result = leaveBy endObject pastObject result := by
  rcases result with stop | ⟨value, rest⟩
  · cases stop <;> rfl
  · rfl

variable {ends : Octets → Except Stop Octets} {past : Octets → Octets}

/-- How a container is left does not depend on what was read in it. -/
theorem leaveBy_map (result : Except Stop (α × Octets)) :
    leaveBy ends past (result.map (Prod.map change id)) =
      (leaveBy ends past result).map (Prod.map change id) := by
  rcases result with stop | ⟨value, rest⟩
  · cases stop <;> rfl
  · simp only [leaveBy, Except.map, Prod.map, id]
    cases ends rest <;> rfl

/-- A container is left with a result if it was read and its end is there. -/
theorem leaveBy_eq_ok_iff {result : Except Stop (α × Octets)} {value : α} {rest : Octets} :
    leaveBy ends past result = .ok (value, rest) ↔
      ∃ closing, result = .ok (value, closing) ∧ ends closing = .ok rest := by
  rcases result with stop | ⟨inner, closing⟩
  · cases stop <;> simp [leaveBy]
  · simp only [leaveBy, map_eq_ok_iff, Prod.mk.injEq, Except.ok.injEq]
    constructor
    · rintro ⟨behind, ends, rfl, rfl⟩
      exact ⟨closing, ⟨rfl, rfl⟩, ends⟩
    · rintro ⟨_, ⟨rfl, rfl⟩, ends⟩
      exact ⟨rest, ends, rfl, rfl⟩

/-- An array is left behind the bracket that ends it. -/
theorem leaveArray_eq_ok_iff {result : Except Stop (α × Octets)} {value : α} {rest : Octets} :
    leaveArray result = .ok (value, rest) ↔
      ∃ closing, result = .ok (value, closing) ∧ endArray closing = .ok rest := by
  rw [leaveArray_eq, leaveBy_eq_ok_iff]

/-- An object is left behind the brace that ends it. -/
theorem leaveObject_eq_ok_iff {result : Except Stop (α × Octets)} {value : α} {rest : Octets} :
    leaveObject result = .ok (value, rest) ↔
      ∃ closing, result = .ok (value, closing) ∧ endObject closing = .ok rest := by
  rw [leaveObject_eq, leaveBy_eq_ok_iff]

end Loops

/-- Inserts members one after the other where they belong. -/
def insertMembers (sorted members : List (String × Json)) : List (String × Json) :=
  members.foldl (fun sorted member => insertMember member.1 member.2 sorted) sorted

/-- An object is sorted by inserting its members, each with its value sorted. -/
theorem sorted_object (entries : List (String × Json)) :
    sorted (.object entries) = .object (insertMembers [] (sortedMembers entries)) := rfl

/-- The members that have been kept, with each inserted where it belongs. -/
def insertAll (kept : List (String × Json)) : List (String × Json) :=
  insertMembers [] (sortedMembers kept)

/-- The member that is kept last is inserted last. -/
theorem insertAll_append (kept : List (String × Json)) (key : String) (value : Json) :
    insertAll (kept ++ [(key, value)]) = insertMember key value.sorted (insertAll kept) := by
  simp [insertAll, insertMembers, sortedMembers_eq_map]

/-- A member can be inserted as soon as it is read or be kept and inserted later. -/
theorem readMember_insertAll {scan other : Scan Json}
    (related : ∀ text, other text = (scan text).map (Prod.map sorted id))
    (kept : List (String × Json)) (key : String) (text : Octets) :
    readMember other (insertAll kept) key text =
      (keepMember scan kept key text).map (Prod.map insertAll id) := by
  simp only [readMember, keepMember, bind, Except.bind, related]
  rcases colon text with stop | start
  · rfl
  · simp only
    rcases scan start with stop | ⟨value, behind⟩
    · rfl
    · simp only [Except.map, Prod.map, insertAll_append, id]

/-- A container can be sorted while it is read or be read as it stands and sorted later. -/
theorem readContainer_eq {scan other : Scan Json}
    (related : ∀ text, other text = (scan text).map (Prod.map sorted id)) (size : Nat)
    {head : Head} (container : head.scalar? = none) (text : Octets) :
    readContainer size other head text =
      (keepContainer size scan head text).map (Prod.map sorted id) := by
  cases head with
  | null | bool | number | string => cases container
  | array =>
    have run := items_map sorted related (size + 1) [] text
    rw [List.map_nil] at run
    simp only [readContainer, keepContainer, bind, Except.bind, run, leaveArray_eq, leaveBy_map]
    rcases leaveBy endArray pastArray (items scan (size + 1) [] text) with stop | ⟨values, rest⟩
    · rfl
    · simp only [Except.map, Prod.map, sorted, sortedItems_eq_map]
  | object =>
    have run := members_map insertAll (readMember_insertAll related) (size + 1) true [] text
    have none : insertAll [] = [] := rfl
    rw [none] at run
    simp only [readContainer, keepContainer, bind, Except.bind, run, leaveObject_eq,
      leaveBy_map]
    rcases leaveBy endObject pastObject (members (keepMember scan) (size + 1) true [] text) with
      stop | ⟨entries, rest⟩
    · rfl
    · rfl

/-- A text is read as the value of its tree, and refused for the same fault. -/
theorem readAny_eq (size depth : Nat) (text : Octets) :
    readAny size depth text = (readVerbatim size depth text).map (Prod.map sorted id) := by
  -- A scalar is read alike at any depth.
  have scalar (value : Json) (head : Head) (rest : Octets) (held : head.scalar? = some value) :
      (.ok (value, rest) : Except Stop _) =
        (Except.ok (value, rest)).map (Prod.map sorted id) := by
    simp [Except.map, (sorted_of_scalar held).1]
  induction depth generalizing text with
  | zero =>
    simp only [readAny, readVerbatim, readOver, keepOver, bind, Except.bind]
    rcases Head.read text with stop | ⟨head, rest⟩
    · rfl
    · cases held : head.scalar? with
      | none => simp only [held]; rfl
      | some value => simpa only [held] using scalar value head rest held
  | succ depth inductionHypothesis =>
    simp only [readAny, readVerbatim, readOver, keepOver, bind, Except.bind]
    rcases Head.read text with stop | ⟨head, rest⟩
    · rfl
    · cases held : head.scalar? with
      | none => simpa only [held] using readContainer_eq inductionHypothesis size held _
      | some value => simpa only [held] using scalar value head rest held

/-- A whole text is read if nothing but blanks is left behind the result. -/
theorem readWhole_eq_ok_iff {α : Type} {read : Budget → Scan α} {text : Octets} {result : α} :
    readWhole read text = .ok result ↔
      ∃ rest, read (.whole text) text = .ok (result, rest) ∧ finish rest = .ok () := by
  simp only [readWhole]
  rcases read (.whole text) text with stop | ⟨value, rest⟩
  · simp
  · constructor
    · intro whole
      cases finished : finish rest with
      | error stop => simp [finished] at whole
      | ok =>
        simp only [finished, Except.ok.injEq] at whole
        exact ⟨rest, by rw [whole], finished⟩
    · rintro ⟨behind, taken, finished⟩
      cases taken
      simp only [finished]

/-- A whole text denotes the value of its tree. -/
theorem decode_eq (text : Octets) : decode text = (decodeVerbatim text).map sorted := by
  simp only [decode, decodeVerbatim, readWhole, readAny_eq]
  rcases readVerbatim (Budget.whole text).size (Budget.whole text).depth text with
    stop | ⟨tree, rest⟩
  · rfl
  · simp only [Except.map, Prod.map, id]
    cases finish rest <;> rfl

/-! ## What a text consists of -/

/-- The items of an array as they are read one after the other, up to the closing bracket. -/
inductive ItemsRun (scan : Scan Json) : (first : Bool) → Octets → List Json → Octets → Prop
  | nil {first : Bool} {text : Octets} (closes : nextItem first text = .ok none) :
      ItemsRun scan first text [] text
  | cons {first : Bool} {text start behind rest : Octets} {item : Json} {others : List Json}
      (next : nextItem first text = .ok (some start)) (read : scan start = .ok (item, behind))
      (run : ItemsRun scan false behind others rest) :
      ItemsRun scan first text (item :: others) rest

/-- The members of an object as they are read one after the other, up to the closing brace. -/
inductive MembersRun (scan : Scan Json) :
    (first : Bool) → Octets → List (String × Json) → Octets → Prop
  | nil {first : Bool} {text : Octets} (closes : nextKey first text = .ok none) :
      MembersRun scan first text [] text
  | cons {first : Bool} {text inside label start behind rest : Octets} {key : String} {value : Json}
      {others : List (String × Json)} (next : nextKey first text = .ok (some inside))
      (named : Quoted.read inside = .ok (key, label)) (divided : colon label = .ok start)
      (read : scan start = .ok (value, behind)) (run : MembersRun scan false behind others rest) :
      MembersRun scan first text ((key, value) :: others) rest

/-- A text that was read is a scalar, or an array or object with its brackets. -/
inductive Reading (size : Nat) : (depth : Nat) → Octets → Json → Octets → Prop
  | scalar {depth : Nat} {text rest : Octets} {head : Head} {tree : Json}
      (begins : Head.read text = .ok (head, rest)) (scalar : head.scalar? = some tree) :
      Reading size depth text tree rest
  | array {depth : Nat} {text opened closing rest : Octets} {values : List Json}
      (begins : Head.read text = .ok (.array, opened)) (count : values.length ≤ size)
      (run : ItemsRun (readVerbatim size depth) true (opened.drop 1) values closing)
      (ends : endArray closing = .ok rest) : Reading size (depth + 1) text (.array values) rest
  | object {depth : Nat} {text opened closing rest : Octets} {entries : List (String × Json)}
      (begins : Head.read text = .ok (.object, opened)) (count : entries.length ≤ size)
      (run : MembersRun (readVerbatim size depth) true (opened.drop 1) entries closing)
      (ends : endObject closing = .ok rest) : Reading size (depth + 1) text (.object entries) rest

section Inversion

variable {scan : Scan Json} {text rest : Octets}

/-- A loop that read the items of an array ran over them. -/
theorem itemsRun_of_items {size : Nat} {sofar values : List Json}
    (read : items scan size sofar text = .ok (values, rest)) :
    ∃ more, values = sofar.reverse ++ more ∧ more.length < size ∧
      ItemsRun scan sofar.isEmpty text more rest := by
  induction size generalizing sofar text with
  | zero => cases read
  | succ size inductionHypothesis =>
    obtain ⟨next, stepped, read⟩ := bind_eq_ok_iff.mp read
    cases next with
    | none =>
      cases read
      exact ⟨[], (List.append_nil _).symm, Nat.succ_pos _, .nil stepped⟩
    | some start =>
      obtain ⟨⟨item, behind⟩, taken, read⟩ := bind_eq_ok_iff.mp read
      obtain ⟨more, rfl, count, run⟩ := inductionHypothesis read
      exact ⟨item :: more, by simp, Nat.succ_lt_succ count, .cons stepped taken run⟩

/-- A loop that kept the members of an object ran over them. -/
theorem membersRun_of_members {size : Nat} {first : Bool} {kept entries : List (String × Json)}
    (read : members (keepMember scan) size first kept text = .ok (entries, rest)) :
    ∃ more, entries = kept ++ more ∧ more.length < size ∧
      MembersRun scan first text more rest := by
  induction size generalizing first kept text with
  | zero => cases read
  | succ size inductionHypothesis =>
    obtain ⟨next, stepped, read⟩ := bind_eq_ok_iff.mp read
    cases next with
    | none =>
      cases read
      exact ⟨[], (List.append_nil _).symm, Nat.succ_pos _, .nil stepped⟩
    | some inside =>
      obtain ⟨⟨key, label⟩, named, read⟩ := bind_eq_ok_iff.mp read
      obtain ⟨⟨grown, behind⟩, member, read⟩ := bind_eq_ok_iff.mp read
      obtain ⟨start, divided, member⟩ := bind_eq_ok_iff.mp member
      obtain ⟨⟨value, behind⟩, taken, member⟩ := bind_eq_ok_iff.mp member
      cases member
      obtain ⟨more, rfl, count, run⟩ := inductionHypothesis read
      exact ⟨(key, value) :: more, by simp, Nat.succ_lt_succ count,
        .cons stepped named divided taken run⟩

/-- What a text consists of that was read. -/
theorem reading_of_readVerbatim {size depth : Nat} {tree : Json}
    (read : readVerbatim size depth text = .ok (tree, rest)) :
    Reading size depth text tree rest := by
  cases depth with
  | zero =>
    obtain ⟨⟨head, opened⟩, begins, read⟩ := bind_eq_ok_iff.mp read
    simp only at read
    split at read
    · next value held =>
      cases read
      exact .scalar begins held
    · cases read
    · next same => cases same
  | succ depth =>
    obtain ⟨⟨head, opened⟩, begins, read⟩ := bind_eq_ok_iff.mp read
    simp only at read
    split at read
    · next value held =>
      cases read
      exact .scalar begins held
    · next same => cases same
    · next same =>
      cases same
      cases head with
      | null | bool | number | string => contradiction
      | array =>
        obtain ⟨⟨values, behind⟩, left, read⟩ := bind_eq_ok_iff.mp read
        cases read
        obtain ⟨closing, looped, ends⟩ := leaveArray_eq_ok_iff.mp left
        obtain ⟨more, same, count, run⟩ := itemsRun_of_items looped
        rw [List.reverse_nil, List.nil_append] at same
        subst same
        exact .array begins (Nat.le_of_lt_succ count) run ends
      | object =>
        obtain ⟨⟨entries, behind⟩, left, read⟩ := bind_eq_ok_iff.mp read
        cases read
        obtain ⟨closing, looped, ends⟩ := leaveObject_eq_ok_iff.mp left
        obtain ⟨more, same, count, run⟩ := membersRun_of_members looped
        rw [List.nil_append] at same
        subst same
        exact .object begins (Nat.le_of_lt_succ count) run ends

end Inversion

end Antiphon.Json
