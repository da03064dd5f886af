import Antiphon.Json.Reader

/-!
# Values that can be read back

A double is written by its shortest digits and read with rounding, so reading back is a question of
its own. Every other value can be read back as it was: `Plain` leaves the doubles out, and says that
objects are in the order that `insertMember` keeps (`plain_ofMembers`). What also counts is how deep
the brackets of a value are nested.
-/

namespace Antiphon.Json

mutual

/-- How many brackets are open around the deepest place of a value. -/
def depth : Json → Nat
  | .array items => depthOfItems items + 1
  | .object members => depthOfMembers members + 1
  | .null | .bool _ | .number _ | .string _ => 0

/-- The depth of the deepest item of an array. -/
def depthOfItems : List Json → Nat
  | [] => 0
  | item :: rest => max (depth item) (depthOfItems rest)

/-- The depth of the deepest member of an object. -/
def depthOfMembers : List (String × Json) → Nat
  | [] => 0
  | (_, value) :: rest => max (depth value) (depthOfMembers rest)

end

/-- The keys of the members ascend, so none occurs twice. -/
def Ascending (members : List (String × Json)) : Prop := (members.map Prod.fst).Pairwise (· < ·)

mutual

/-- No number is a double, and the members of every object ascend. -/
def Plain : Json → Prop
  | .number (.float _) => False
  | .array items => PlainItems items
  | .object members => Ascending members ∧ PlainMembers members
  | .null | .bool _ | .number (.whole _) | .string _ => True

/-- Every item of an array is plain. -/
def PlainItems : List Json → Prop
  | [] => True
  | item :: rest => Plain item ∧ PlainItems rest

/-- The value of every member of an object is plain. -/
def PlainMembers : List (String × Json) → Prop
  | [] => True
  | (_, value) :: rest => Plain value ∧ PlainMembers rest

end

/-- Items are no deeper than a bound if and only if none of them is. -/
theorem depthOfItems_le_iff {items : List Json} {bound : Nat} :
    depthOfItems items ≤ bound ↔ ∀ item ∈ items, item.depth ≤ bound := by
  induction items with
  | nil => simp [depthOfItems]
  | cons item rest inductionHypothesis =>
    rw [depthOfItems, Nat.max_le, inductionHypothesis, List.forall_mem_cons]

/-- Members are no deeper than a bound if and only if none of their values is. -/
theorem depthOfMembers_le_iff {members : List (String × Json)} {bound : Nat} :
    depthOfMembers members ≤ bound ↔ ∀ member ∈ members, member.2.depth ≤ bound := by
  induction members with
  | nil => simp [depthOfMembers]
  | cons member rest inductionHypothesis =>
    rw [depthOfMembers, Nat.max_le, inductionHypothesis, List.forall_mem_cons]

/-- Items are deeper than a bound if and only if one of them is. -/
theorem lt_depthOfItems_iff {items : List Json} {bound : Nat} :
    bound < depthOfItems items ↔ ∃ item ∈ items, bound < item.depth := by
  rw [← Nat.not_le, depthOfItems_le_iff]
  simp

/-- Members are deeper than a bound if and only if one of their values is. -/
theorem lt_depthOfMembers_iff {members : List (String × Json)} {bound : Nat} :
    bound < depthOfMembers members ↔ ∃ member ∈ members, bound < member.2.depth := by
  rw [← Nat.not_le, depthOfMembers_le_iff]
  simp

/-- Items are plain if and only if each of them is. -/
theorem plainItems_iff {items : List Json} :
    PlainItems items ↔ ∀ item ∈ items, item.Plain := by
  induction items with
  | nil => simp [PlainItems]
  | cons item rest inductionHypothesis => simp [PlainItems, inductionHypothesis]

/-- Members are plain if and only if each of their values is. -/
theorem plainMembers_iff {members : List (String × Json)} :
    PlainMembers members ↔ ∀ member ∈ members, member.2.Plain := by
  induction members with
  | nil => simp [PlainMembers]
  | cons member rest inductionHypothesis =>
    rw [PlainMembers, inductionHypothesis, List.forall_mem_cons]

/-- What holds of the scalars, and of a container if it holds of what stands in it, holds of every
value. -/
@[elab_as_elim]
theorem contentInduction {motive : Json → Prop}
    (scalar : ∀ value, value.head.scalar? = some value → motive value)
    (array : ∀ items, (∀ item ∈ items, motive item) → motive (.array items))
    (object : ∀ members, (∀ member ∈ members, motive member.2) → motive (.object members))
    (value : Json) : motive value := by
  refine @Json.rec motive (fun items => ∀ item ∈ items, motive item)
    (fun members => ∀ member ∈ members, motive member.2) (fun member => motive member.2)
    (scalar .null rfl) (fun value => scalar (.bool value) rfl)
    (fun value => scalar (.number value) rfl) (fun text => scalar (.string text) rfl)
    array object (by simp) ?_ (by simp) ?_ (fun _ _ held => held) value
  · intro item rest held others
    exact List.forall_mem_cons.mpr ⟨held, others⟩
  · intro member rest held others
    exact List.forall_mem_cons.mpr ⟨held, others⟩

/-! ## Objects ascend -/

/-- Members ascend if the first is below the others and these ascend. -/
theorem ascending_cons {first : String × Json} {rest : List (String × Json)} :
    Ascending (first :: rest) ↔ (∀ member ∈ rest, first.1 < member.1) ∧ Ascending rest := by
  simp [Ascending]

/-- A member that is inserted is there, and nothing else is new. -/
theorem of_mem_insertMember {key : String} {value : Json} {members : List (String × Json)}
    {member : String × Json} (inside : member ∈ insertMember key value members) :
    member = (key, value) ∨ member ∈ members := by
  induction members with
  | nil => exact .inl (List.mem_singleton.mp inside)
  | cons first rest inductionHypothesis =>
    rw [insertMember] at inside
    split at inside
    · exact List.mem_cons.mp inside
    · split at inside
      · exact (List.mem_cons.mp inside).imp_right (List.mem_cons_of_mem first)
      · rcases List.mem_cons.mp inside with rfl | inside
        · exact .inr List.mem_cons_self
        · exact (inductionHypothesis inside).imp_right (List.mem_cons_of_mem first)

/-- Members that ascend do so with one more. -/
theorem ascending_insertMember {members : List (String × Json)} (ascending : Ascending members)
    (key : String) (value : Json) : Ascending (insertMember key value members) := by
  induction members with
  | nil => exact List.pairwise_singleton _ _
  | cons first rest inductionHypothesis =>
    obtain ⟨least, others⟩ := ascending_cons.mp ascending
    rw [insertMember]
    split
    · next below =>
      refine ascending_cons.mpr ⟨fun member inside => ?_, ascending⟩
      rcases List.mem_cons.mp inside with rfl | inside
      · exact below
      · exact String.lt_trans below (least member inside)
    · next above =>
      split
      · next same =>
        subst same
        exact ascending_cons.mpr ⟨least, others⟩
      · next distinct =>
        refine ascending_cons.mpr ⟨fun member inside => ?_, inductionHypothesis others⟩
        rcases of_mem_insertMember inside with rfl | inside
        · apply Decidable.byContradiction
          intro beyond
          exact distinct (String.le_antisymm (String.not_lt.mp beyond) (String.not_lt.mp above))
        · exact least member inside

/-- Members stay plain while others are inserted. -/
theorem plain_foldl_insertMember {members sorted : List (String × Json)}
    (plain : ∀ member ∈ members, member.2.Plain) (ascending : Ascending sorted)
    (before : ∀ member ∈ sorted, member.2.Plain) :
    (Json.object (members.foldl
      (fun sorted member => insertMember member.1 member.2 sorted) sorted)).Plain := by
  induction members generalizing sorted with
  | nil => exact ⟨ascending, plainMembers_iff.mpr before⟩
  | cons member rest inductionHypothesis =>
    simp only [List.forall_mem_cons] at plain
    refine inductionHypothesis plain.2 (ascending_insertMember ascending _ _) ?_
    intro other inside
    rcases of_mem_insertMember inside with rfl | inside
    · exact plain.1
    · exact before other inside

/-- An object from members in any order is plain if their values are. -/
theorem plain_ofMembers {members : List (String × Json)}
    (plain : ∀ member ∈ members, member.2.Plain) : (ofMembers members).Plain :=
  plain_foldl_insertMember plain List.Pairwise.nil (by simp)

end Antiphon.Json
