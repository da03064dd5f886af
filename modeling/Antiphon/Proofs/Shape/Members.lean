import Antiphon.Proofs.Json.Plain
import Antiphon.Proofs.Json.Verbatim
import Antiphon.Shape.Record
import Mathlib.Data.List.Pairwise
import Mathlib.Data.List.Perm.Basic

/-!
# The order of members

A record takes the members of an object one after the other, and those that are no fields leave its
draft as it was. Different fields have nothing to do with one another (`Orderly`), so the order in
which they are taken does not matter (`takeMembers_of_perm`), and a field that comes again is
refused (`nodup_of_takeMembers`).

An object keeps its members sorted and of those with one key the last. What a record takes from that
is what it takes in the order of the text, if no field comes again
(`takeMembers_insertMembers_iff`).
-/

namespace Antiphon

open Json

variable {σ α : Type}

/-! ## Fields that have nothing to do with one another -/

/-- What one field is given makes no difference to another one. -/
structure Field.Spares (one other : Field σ) : Prop where
  taken {draft next : σ} {value : Json} (filled : one.ofJson draft value = .ok next) :
    other.taken next = other.taken draft
  exchange {draft middle next : σ} {value second : Json}
    (filled : one.ofJson draft value = .ok middle)
    (another : other.ofJson middle second = .ok next) :
    ∃ turned, other.ofJson draft second = .ok turned ∧ one.ofJson turned value = .ok next

/-- Neither of two fields makes a difference to the other. -/
def Field.Apart (one other : Field σ) : Prop := one.Spares other ∧ other.Spares one

/-- If one field is apart from another, this is apart from the one. -/
instance : Std.Symm (Field.Apart (σ := σ)) := ⟨fun _ _ apart => ⟨apart.2, apart.1⟩⟩

/-- A field says so once it has been taken. -/
def Field.Marks (field : Field σ) : Prop :=
  ∀ (draft next : σ) (value : Json), field.ofJson draft value = .ok next → field.taken next = true

/-- A record whose fields are apart, and of which each says when it has been taken. -/
structure Record.Orderly (record : Record σ α) : Prop where
  marks : ∀ field ∈ record.fields, field.Marks
  apart : record.fields.Pairwise Field.Apart

section Shapes

variable {β γ : Type} [Shape β] [Shape γ] {name other : String} {optional free : Bool}
  {get : σ → Option β} {set : σ → β → σ} {get' : σ → Option γ} {set' : σ → γ → σ}

/-- A field takes a value that has its shape. -/
theorem Field.of_ofJson_eq_ok_iff {draft next : σ} {value : Json} :
    (Field.of name optional get set).ofJson draft value = .ok next ↔
      ∃ held, Shape.ofJson value = .ok held ∧ set draft held = next := map_eq_ok_iff

/-- A field has been taken once it is set, -/
theorem Field.marks_of (held : ∀ draft value, get (set draft value) = some value) :
    (Field.of name optional get set).Marks := by
  intro draft next value filled
  obtain ⟨value, _, rfl⟩ := Field.of_ofJson_eq_ok_iff.mp filled
  simp [Field.of, held]

/-- and makes no difference to another one if setting it makes none. -/
theorem Field.spares_of (held : ∀ draft value, get' (set draft value) = get' draft)
    (exchanged : ∀ draft value second,
      set' (set draft value) second = set (set' draft second) value) :
    (Field.of name optional get set).Spares (Field.of other free get' set') where
  taken filled := by
    obtain ⟨value, _, rfl⟩ := Field.of_ofJson_eq_ok_iff.mp filled
    simp only [Field.of, held]
  exchange filled another := by
    obtain ⟨value, taken, rfl⟩ := Field.of_ofJson_eq_ok_iff.mp filled
    obtain ⟨second, takenToo, rfl⟩ := Field.of_ofJson_eq_ok_iff.mp another
    refine ⟨_, Field.of_ofJson_eq_ok_iff.mpr ⟨second, takenToo, rfl⟩, ?_⟩
    exact Field.of_ofJson_eq_ok_iff.mpr ⟨value, taken, (exchanged _ _ _).symm⟩

/-- Fields that set different parts of a draft are apart. -/
theorem Field.apart_of (held : ∀ draft value, get' (set draft value) = get' draft)
    (heldToo : ∀ draft value, get (set' draft value) = get draft)
    (exchanged : ∀ draft value second,
      set' (set draft value) second = set (set' draft second) value) :
    (Field.of name optional get set).Apart (Field.of other free get' set') :=
  ⟨Field.spares_of held exchanged, Field.spares_of heldToo fun _ _ _ => (exchanged _ _ _).symm⟩

end Shapes

/-! ## Members one after the other -/

namespace Record

variable {record : Record σ α}

/-- Takes members into the draft in the order in which they stand. -/
def takeMembers (record : Record σ α) (draft : σ) (members : List (String × Json)) :
    Except Cause σ :=
  members.foldlM (fun draft member => record.takeMember draft member.1 member.2) draft

/-- The record has a field of this name. -/
def knows (record : Record σ α) (key : String) : Bool := (record.field? key).isSome

/-- The members that are fields of the record. -/
def known (record : Record σ α) (members : List (String × Json)) : List (String × Json) :=
  members.filter fun member => record.knows member.1

/-- An object is taken into a blank draft member by member, and the draft is finished. -/
theorem ofJson_object (record : Record σ α) (members : List (String × Json)) :
    record.ofJson (.object members) =
      (record.takeMembers record.blank members >>= record.finish) := rfl

/-- Members are taken from the first on. -/
theorem takeMembers_cons (draft : σ) (member : String × Json) (rest : List (String × Json)) :
    record.takeMembers draft (member :: rest) =
      (record.takeMember draft member.1 member.2 >>= fun draft =>
        record.takeMembers draft rest) := rfl

/-- A field that is found by its name is one of the record and has the name. -/
theorem field?_eq_some {key : String} {field : Field σ} (found : record.field? key = some field) :
    field ∈ record.fields ∧ field.name = key :=
  ⟨List.mem_of_find?_eq_some found, by simpa using List.find?_some found⟩

/-- A member that is no field leaves the draft as it was. -/
theorem takeMember_of_unknown {key : String} (unknown : record.knows key = false) (draft : σ)
    (value : Json) : record.takeMember draft key value = .ok draft := by
  have absent : record.field? key = none := by simpa [knows] using unknown
  simp only [takeMember, absent]

/-- A member is taken if its field has not been taken and takes the value. -/
theorem takeMember_eq_ok_iff {key : String} {field : Field σ}
    (found : record.field? key = some field) {draft next : σ} {value : Json} :
    record.takeMember draft key value = .ok next ↔
      field.taken draft = false ∧ field.ofJson draft value = .ok next := by
  simp only [takeMember, found]
  cases field.taken draft <;> simp

/-- Known members are picked out in two parts. -/
theorem known_append (front back : List (String × Json)) :
    record.known (front ++ back) = record.known front ++ record.known back := List.filter_append ..

/-- Known members are picked out from the first on. -/
theorem known_cons (member : String × Json) (rest : List (String × Json)) :
    record.known (member :: rest) =
      if record.knows member.1 then member :: record.known rest else record.known rest :=
  List.filter_cons

/-- Only the fields among the members count. -/
theorem takeMembers_known (draft : σ) (members : List (String × Json)) :
    record.takeMembers draft (record.known members) = record.takeMembers draft members := by
  induction members generalizing draft with
  | nil => rfl
  | cons member rest inductionHypothesis =>
    cases knows : record.knows member.1 with
    | true =>
      rw [known_cons, if_pos knows, takeMembers_cons, takeMembers_cons]
      simp only [inductionHypothesis]
    | false =>
      rw [known_cons, if_neg (by simp [knows]), takeMembers_cons, takeMember_of_unknown knows]
      exact inductionHypothesis draft

variable (orderly : record.Orderly)

include orderly

/-- Fields of different names are apart. -/
theorem Orderly.apart_of_ne {key other : String} {field second : Field σ} (distinct : key ≠ other)
    (found : record.field? key = some field) (foundToo : record.field? other = some second) :
    field.Apart second := by
  obtain ⟨inside, named⟩ := field?_eq_some found
  obtain ⟨insideToo, namedToo⟩ := field?_eq_some foundToo
  refine orderly.apart.forall inside insideToo fun same => distinct ?_
  rw [← named, ← namedToo, same]

/-- Two members of different names can be taken in either order. -/
theorem Orderly.exchange {one other : String × Json} (distinct : one.1 ≠ other.1)
    {draft middle next : σ} (first : record.takeMember draft one.1 one.2 = .ok middle)
    (second : record.takeMember middle other.1 other.2 = .ok next) :
    ∃ turned, record.takeMember draft other.1 other.2 = .ok turned ∧
      record.takeMember turned one.1 one.2 = .ok next := by
  cases knows : record.field? one.1 with
  | none =>
    have unknown : record.knows one.1 = false := by simp [Record.knows, knows]
    rw [takeMember_of_unknown unknown] at first
    cases first
    exact ⟨next, second, takeMember_of_unknown unknown next _⟩
  | some field =>
    cases knowsToo : record.field? other.1 with
    | none =>
      have unknown : record.knows other.1 = false := by simp [Record.knows, knowsToo]
      rw [takeMember_of_unknown unknown] at second
      cases second
      exact ⟨draft, takeMember_of_unknown unknown draft _, first⟩
    | some field' =>
      obtain ⟨spares, sparesBack⟩ := orderly.apart_of_ne distinct knows knowsToo
      rw [takeMember_eq_ok_iff knows] at first
      rw [takeMember_eq_ok_iff knowsToo] at second
      obtain ⟨turned, filled, another⟩ := spares.exchange first.2 second.2
      refine ⟨turned, (takeMember_eq_ok_iff knowsToo).mpr ⟨?_, filled⟩,
        (takeMember_eq_ok_iff knows).mpr ⟨?_, another⟩⟩
      · rw [← spares.taken first.2]
        exact second.1
      · rw [sparesBack.taken filled]
        exact first.1

/-- So what is taken does not depend on the order of the members. -/
theorem Orderly.takeMembers_of_perm {members others : List (String × Json)}
    (reordered : members.Perm others) (distinct : (members.map Prod.fst).Nodup) {draft next : σ}
    (taken : record.takeMembers draft members = .ok next) :
    record.takeMembers draft others = .ok next := by
  induction reordered generalizing draft with
  | nil => exact taken
  | cons member _ inductionHypothesis =>
    rw [List.map_cons, List.nodup_cons] at distinct
    rw [takeMembers_cons] at taken ⊢
    obtain ⟨middle, first, rest⟩ := bind_eq_ok_iff.mp taken
    exact bind_eq_ok_iff.mpr ⟨middle, first, inductionHypothesis distinct.2 rest⟩
  | swap one other rest =>
    simp only [List.map_cons, List.nodup_cons, List.mem_cons, not_or] at distinct
    simp only [takeMembers_cons, bind_eq_ok_iff] at taken ⊢
    obtain ⟨middle, first, behind, second, rest⟩ := taken
    obtain ⟨turned, firstToo, secondToo⟩ := orderly.exchange distinct.1.1 first second
    exact ⟨turned, firstToo, behind, secondToo, rest⟩
  | trans reordered _ front back =>
    exact back ((reordered.map Prod.fst).nodup_iff.mp distinct) (front distinct taken)

/-- A field that has been taken does not come again, -/
theorem Orderly.not_mem_of_taken {members : List (String × Json)} {key : String} {field : Field σ}
    (found : record.field? key = some field) {draft next : σ} (before : field.taken draft = true)
    (taken : record.takeMembers draft members = .ok next) : key ∉ members.map Prod.fst := by
  induction members generalizing draft with
  | nil => simp
  | cons member rest inductionHypothesis =>
    rw [takeMembers_cons] at taken
    obtain ⟨middle, first, rest⟩ := bind_eq_ok_iff.mp taken
    rw [List.map_cons, List.mem_cons, not_or]
    have other : key ≠ member.1 := by
      rintro rfl
      rw [takeMember_eq_ok_iff found, before] at first
      cases first.1
    refine ⟨other, inductionHypothesis ?_ rest⟩
    -- The member is another field or none, and the field that came before stays taken.
    cases knows : record.field? member.1 with
    | none =>
      rw [takeMember_of_unknown (by simp [Record.knows, knows])] at first
      cases first
      exact before
    | some field' =>
      rw [takeMember_eq_ok_iff knows] at first
      rw [(orderly.apart_of_ne other found knows).2.taken first.2]
      exact before

/-- so no two members that are taken are the same field. -/
theorem Orderly.nodup_of_takeMembers {members : List (String × Json)} {draft next : σ}
    (taken : record.takeMembers draft members = .ok next) :
    ((record.known members).map Prod.fst).Nodup := by
  induction members generalizing draft with
  | nil => exact List.nodup_nil
  | cons member rest inductionHypothesis =>
    rw [takeMembers_cons] at taken
    obtain ⟨middle, first, later⟩ := bind_eq_ok_iff.mp taken
    have others := inductionHypothesis later
    cases knows : record.field? member.1 with
    | none => rwa [known_cons, if_neg (by simp [Record.knows, knows])]
    | some field =>
      rw [known_cons, if_pos (by simp [Record.knows, knows]), List.map_cons, List.nodup_cons]
      rw [takeMember_eq_ok_iff knows] at first
      have filled := orderly.marks field (field?_eq_some knows).1 _ _ _ first.2
      refine ⟨fun again => ?_, others⟩
      exact orderly.not_mem_of_taken knows filled later
        ((List.filter_sublist.map Prod.fst).subset again)

end Record

/-! ## Members that are sorted -/

/-- A member with a new key is inserted and nothing else happens, -/
theorem Json.insertMember_perm {key : String} {sorted : List (String × Json)}
    (new : key ∉ sorted.map Prod.fst) (value : Json) :
    (insertMember key value sorted).Perm ((key, value) :: sorted) := by
  induction sorted with
  | nil => exact .refl _
  | cons member rest inductionHypothesis =>
    rw [List.map_cons, List.mem_cons, not_or] at new
    rw [insertMember]
    split
    · exact .refl _
    · rw [if_neg new.1]
      exact ((inductionHypothesis new.2).cons member).trans (.swap _ _ _)

namespace Record

variable {record : Record σ α}

/-- and one that is no field makes no difference to those that are. -/
theorem known_insertMember_of_unknown {key : String} (unknown : record.knows key = false)
    (value : Json) (sorted : List (String × Json)) :
    record.known (insertMember key value sorted) = record.known sorted := by
  induction sorted with
  | nil => simp [known, insertMember, unknown]
  | cons member rest inductionHypothesis =>
    rw [insertMember]
    split
    · simp [known, unknown]
    · split
      · next same =>
        subst same
        simp [known, unknown]
      · simp only [known, List.filter_cons] at inductionHypothesis ⊢
        rw [inductionHypothesis]

/-- What is inserted of fields that come once each is these fields. -/
theorem known_insertMembers_perm (sorted : List (String × Json)) {members : List (String × Json)}
    (distinct : ((record.known (sorted ++ members)).map Prod.fst).Nodup) :
    (record.known (insertMembers sorted members)).Perm (record.known (sorted ++ members)) := by
  induction members generalizing sorted with
  | nil =>
    rw [List.append_nil]
    exact .refl _
  | cons member rest inductionHypothesis =>
    have stepped : insertMembers sorted (member :: rest) =
        insertMembers (insertMember member.1 member.2 sorted) rest := rfl
    have front : (record.known (insertMember member.1 member.2 sorted ++ rest)).Perm
        (record.known (sorted ++ member :: rest)) := by
      cases knows : record.knows member.1 with
      | false =>
        rw [known_append, known_append, known_insertMember_of_unknown knows, known_cons, knows]
        exact .refl _
      | true =>
        -- The same key has not been inserted before, so this member replaces none.
        have new : member.1 ∉ sorted.map Prod.fst := by
          intro again
          obtain ⟨other, inside, same⟩ := List.mem_map.mp again
          rw [known_append, known_cons, knows, List.map_append, List.nodup_append] at distinct
          refine distinct.2.2 other.1 (List.mem_map_of_mem (List.mem_filter.mpr ⟨inside, ?_⟩))
            member.1 List.mem_cons_self same
          rw [same, knows]
        rw [known_append, known_append, known_cons, knows]
        refine .trans (.append_right _ ((insertMember_perm new member.2).filter _)) ?_
        rw [List.filter_cons_of_pos (by exact knows)]
        exact List.perm_middle.symm
    rw [stepped]
    exact (inductionHypothesis _ ((front.map Prod.fst).nodup_iff.mpr distinct)).trans front

/-- What a record takes from sorted members is what it takes from them in the order of the text. -/
theorem Orderly.takeMembers_insertMembers_iff (orderly : record.Orderly)
    {members : List (String × Json)} (distinct : ((record.known members).map Prod.fst).Nodup)
    {draft next : σ} :
    record.takeMembers draft (insertMembers [] members) = .ok next ↔
      record.takeMembers draft members = .ok next := by
  have same : (record.known (insertMembers [] members)).Perm (record.known members) :=
    known_insertMembers_perm [] distinct
  rw [← takeMembers_known draft members, ← takeMembers_known draft (insertMembers [] members)]
  constructor
  · exact orderly.takeMembers_of_perm same ((same.map Prod.fst).nodup_iff.mpr distinct)
  · exact orderly.takeMembers_of_perm same.symm distinct

end Record

end Antiphon
