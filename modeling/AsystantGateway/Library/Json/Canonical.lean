import AsystantGateway.Library.Json.Edit
import AsystantGateway.Library.Json.Read
import Mathlib.Data.String.Basic

/-!
# Objects in key order

A reader hands out objects as they stand in the text. A value that is kept has
one member for each key, the last one given, in key order, at every level.
-/

namespace AsystantGateway
namespace Json

/-- Members in key order, the last one of each key. -/
def sortMembers (members : List (String × Value)) : List (String × Value) :=
  members.foldl (fun held member => assignMember member.1 member.2 held) []

mutual

/-- A value as it is kept. -/
def Value.sorted : Value → Value
  | .null => .null
  | .bool value => .bool value
  | .number value => .number value
  | .string text => .string text
  | .array items => .array (sortedItems items)
  | .object members => .object (sortMembers (sortedMembers members))

def sortedItems : List Value → List Value
  | [] => []
  | item :: rest => item.sorted :: sortedItems rest

def sortedMembers : List (String × Value) → List (String × Value)
  | [] => []
  | (key, value) :: rest => (key, value.sorted) :: sortedMembers rest

end

/-- A value whose objects are in key order, with one member a key. -/
inductive Value.Sorted : Value → Prop
  | null : Value.Sorted .null
  | bool (value : Bool) : Value.Sorted (.bool value)
  | number (value : Number) : Value.Sorted (.number value)
  | string (text : String) : Value.Sorted (.string text)
  | array (items : List Value)
      (sorted : ∀ item ∈ items, Value.Sorted item) :
      Value.Sorted (.array items)
  | object (members : List (String × Value))
      (ordered : (members.map Prod.fst).Pairwise (· < ·))
      (sorted : ∀ member ∈ members, Value.Sorted member.2) :
      Value.Sorted (.object members)

theorem sortedItems_eq_map (items : List Value) :
    sortedItems items = items.map Value.sorted := by
  induction items with
  | nil => rfl
  | cons item rest inductionHypothesis =>
      rw [sortedItems, inductionHypothesis, List.map_cons]

theorem sortedMembers_eq_map (members : List (String × Value)) :
    sortedMembers members =
      members.map fun member => (member.1, member.2.sorted) := by
  induction members with
  | nil => rfl
  | cons member rest inductionHypothesis =>
      rw [sortedMembers, inductionHypothesis, List.map_cons]

/-- An assignment leaves no other member than those there and its own. -/
theorem mem_assignMember
    {key : String}
    {value : Value}
    {members : List (String × Value)}
    {member : String × Value}
    (present : member ∈ assignMember key value members) :
    member = (key, value) ∨ member ∈ members := by
  induction members with
  | nil => exact .inl (List.mem_singleton.mp present)
  | cons first rest inductionHypothesis =>
      unfold assignMember at present
      split at present
      · rcases List.mem_cons.mp present with same | inRest
        · exact .inl same
        · exact .inr (List.mem_cons_of_mem _ inRest)
      · split at present
        · exact List.mem_cons.mp present
        · rcases List.mem_cons.mp present with same | later
          · exact .inr (same ▸ List.mem_cons_self)
          · rcases inductionHypothesis later with isNew | inRest
            · exact .inl isNew
            · exact .inr (List.mem_cons_of_mem _ inRest)

theorem mem_keys_assignMember
    {key wanted : String}
    {value : Value}
    {members : List (String × Value)}
    (present : wanted ∈ (assignMember key value members).map Prod.fst) :
    wanted = key ∨ wanted ∈ members.map Prod.fst := by
  obtain ⟨member, isMember, rfl⟩ := List.mem_map.mp present
  rcases mem_assignMember isMember with rfl | before
  · exact .inl rfl
  · exact .inr (List.mem_map_of_mem before)

theorem pairwise_assignMember
    {members : List (String × Value)}
    (ordered : (members.map Prod.fst).Pairwise (· < ·))
    (key : String)
    (value : Value) :
    ((assignMember key value members).map Prod.fst).Pairwise (· < ·) := by
  induction members with
  | nil => exact List.pairwise_singleton _ _
  | cons first rest inductionHypothesis =>
      rw [List.map_cons, List.pairwise_cons] at ordered
      obtain ⟨below, ordered⟩ := ordered
      unfold assignMember
      split
      · rename_i isKey
        subst isKey
        exact List.pairwise_cons.mpr ⟨below, ordered⟩
      · rename_i isOther
        split
        · rename_i before
          refine List.pairwise_cons.mpr ⟨?_, List.pairwise_cons.mpr
            ⟨below, ordered⟩⟩
          intro other present
          rcases List.mem_cons.mp present with rfl | later
          · exact before
          · exact lt_trans before (below other later)
        · rename_i notBefore
          refine List.pairwise_cons.mpr ⟨?_, inductionHypothesis ordered⟩
          intro other present
          rcases mem_keys_assignMember present with rfl | later
          · exact lt_of_le_of_ne (not_lt.mp notBefore) (Ne.symm isOther)
          · exact below other later

/-- A member with a larger key than all is put at the end. -/
theorem assignMember_of_lt
    {key : String}
    {members : List (String × Value)}
    (last : ∀ other ∈ members.map Prod.fst, other < key)
    (value : Value) :
    assignMember key value members = members ++ [(key, value)] := by
  induction members with
  | nil => rfl
  | cons first rest inductionHypothesis =>
      rw [List.map_cons, List.forall_mem_cons] at last
      obtain ⟨before, last⟩ := last
      rw [assignMember, if_neg before.ne', if_neg (lt_asymm before),
        inductionHypothesis last, List.cons_append]

private theorem foldl_assignMember_mem
    {members held : List (String × Value)}
    {member : String × Value}
    (present : member ∈ members.foldl
      (fun held member => assignMember member.1 member.2 held) held) :
    member ∈ members ∨ member ∈ held := by
  induction members generalizing held with
  | nil => exact .inr present
  | cons first rest inductionHypothesis =>
      rcases inductionHypothesis present with inRest | assigned
      · exact .inl (List.mem_cons_of_mem _ inRest)
      · rcases mem_assignMember assigned with rfl | before
        · exact .inl List.mem_cons_self
        · exact .inr before

/-- What is kept was given. -/
theorem mem_of_mem_sortMembers
    {members : List (String × Value)}
    {member : String × Value}
    (present : member ∈ sortMembers members) :
    member ∈ members :=
  (foldl_assignMember_mem present).resolve_right List.not_mem_nil

private theorem pairwise_foldl_assignMember
    (members : List (String × Value))
    {held : List (String × Value)}
    (ordered : (held.map Prod.fst).Pairwise (· < ·)) :
    ((members.foldl
      (fun held member => assignMember member.1 member.2 held) held).map
        Prod.fst).Pairwise (· < ·) := by
  induction members generalizing held with
  | nil => exact ordered
  | cons first rest inductionHypothesis =>
      exact inductionHypothesis (pairwise_assignMember ordered _ _)

theorem pairwise_sortMembers (members : List (String × Value)) :
    ((sortMembers members).map Prod.fst).Pairwise (· < ·) :=
  pairwise_foldl_assignMember members List.Pairwise.nil

private theorem foldl_assignMember_of_pairwise
    (members held : List (String × Value))
    (ordered : ((held ++ members).map Prod.fst).Pairwise (· < ·)) :
    members.foldl (fun held member => assignMember member.1 member.2 held)
      held = held ++ members := by
  induction members generalizing held with
  | nil => exact (List.append_nil held).symm
  | cons first rest inductionHypothesis =>
      have last : ∀ other ∈ held.map Prod.fst, other < first.1 := by
        intro other present
        rw [List.map_append, List.pairwise_append] at ordered
        exact ordered.2.2 other present first.1 List.mem_cons_self
      have shifted : held ++ first :: rest = (held ++ [first]) ++ rest := by
        rw [List.append_assoc, List.singleton_append]
      rw [List.foldl_cons, assignMember_of_lt last]
      rw [shifted] at ordered ⊢
      exact inductionHypothesis (held ++ [first]) ordered

theorem sortMembers_of_pairwise
    {members : List (String × Value)}
    (ordered : (members.map Prod.fst).Pairwise (· < ·)) :
    sortMembers members = members :=
  foldl_assignMember_of_pairwise members [] ordered

/-- An object whose members are in order keeps them in place. -/
theorem Value.sorted_object_of_pairwise
    {members : List (String × Value)}
    (ordered : (members.map Prod.fst).Pairwise (· < ·)) :
    (Value.object members).sorted =
      .object (members.map fun member => (member.1, member.2.sorted)) := by
  have sameKeys : (members.map fun member =>
      (member.1, member.2.sorted)).map Prod.fst = members.map Prod.fst := by
    rw [List.map_map]
    rfl
  rw [Value.sorted, sortedMembers_eq_map,
    sortMembers_of_pairwise (by rwa [sameKeys])]

/-- To prove something of every value, prove it of an array and of an object
from what holds of all they contain. -/
@[elab_as_elim]
theorem Value.content_induction
    {motive : Value → Prop}
    (value : Value)
    (null : motive .null)
    (bool : ∀ value, motive (.bool value))
    (number : ∀ value, motive (.number value))
    (string : ∀ text, motive (.string text))
    (array : ∀ items, (∀ item ∈ items, motive item) → motive (.array items))
    (object : ∀ members, (∀ member ∈ members, motive member.2) →
      motive (.object members)) :
    motive value := by
  refine Value.rec (motive_1 := motive)
    (motive_2 := fun items => ∀ item ∈ items, motive item)
    (motive_3 := fun members => ∀ member ∈ members, motive member.2)
    (motive_4 := fun member => motive member.2)
    null bool number string array object ?_ ?_ ?_ ?_ ?_ value
  · exact fun _ absent => absurd absent List.not_mem_nil
  · exact fun _ _ first others => List.forall_mem_cons.mpr ⟨first, others⟩
  · exact fun _ absent => absurd absent List.not_mem_nil
  · exact fun _ _ first others => List.forall_mem_cons.mpr ⟨first, others⟩
  · exact fun _ _ held => held

/-- A value that is in order is kept as it is. -/
theorem Value.Sorted.sorted_eq
    {value : Value}
    (isSorted : value.Sorted) :
    value.sorted = value := by
  induction isSorted with
  | null => rfl
  | bool => rfl
  | number => rfl
  | string => rfl
  | array items _ inductionHypothesis =>
      rw [Value.sorted, sortedItems_eq_map,
        List.map_congr_left inductionHypothesis, List.map_id']
  | object members ordered _ inductionHypothesis =>
      have same : sortedMembers members = members := by
        rw [sortedMembers_eq_map]
        conv_rhs => rw [← List.map_id' members]
        exact List.map_congr_left fun member present =>
          Prod.ext rfl (inductionHypothesis member present)
      rw [Value.sorted, same, sortMembers_of_pairwise ordered]

/-- What is kept is in order. -/
theorem Value.sorted_sorted (value : Value) : value.sorted.Sorted := by
  induction value using Value.content_induction with
  | null => exact .null
  | bool value => exact .bool value
  | number value => exact .number value
  | string text => exact .string text
  | array items inductionHypothesis =>
      refine .array _ fun item present => ?_
      rw [sortedItems_eq_map] at present
      obtain ⟨source, isSource, rfl⟩ := List.mem_map.mp present
      exact inductionHypothesis source isSource
  | object members inductionHypothesis =>
      refine .object _ (pairwise_sortMembers _) fun member present => ?_
      have kept := mem_of_mem_sortMembers present
      rw [sortedMembers_eq_map] at kept
      obtain ⟨source, isSource, rfl⟩ := List.mem_map.mp kept
      exact inductionHypothesis source isSource

/-- Sorting leaves how deep a value is nested and which numbers it has. -/
theorem Value.Nested.sorted
    {fit : Number → Prop}
    {depth : Nat}
    {value : Value}
    (nested : value.Nested fit depth) :
    value.sorted.Nested fit depth := by
  induction nested with
  | null depth => exact .null depth
  | bool depth value => exact .bool depth value
  | number depth value isFit => exact .number depth value isFit
  | string depth text => exact .string depth text
  | array depth items _ inductionHypothesis =>
      refine .array depth _ fun item present => ?_
      rw [sortedItems_eq_map] at present
      obtain ⟨source, isSource, rfl⟩ := List.mem_map.mp present
      exact inductionHypothesis source isSource
  | object depth members _ inductionHypothesis =>
      refine .object depth _ fun member present => ?_
      have kept := mem_of_mem_sortMembers present
      rw [sortedMembers_eq_map] at kept
      obtain ⟨source, isSource, rfl⟩ := List.mem_map.mp kept
      exact inductionHypothesis source isSource

/-- A value whose numbers are read as they were written, however deep it is. -/
def Value.Stable (round : String → Option String) (value : Value) : Prop :=
  ∃ depth, value.Readable round depth

/-- A value as it is kept, with at most some levels of containers, whose numbers
are read as they were written. -/
structure Value.Kept
    (round : String → Option String)
    (depth : Nat)
    (value : Value) : Prop where
  sorted : value.Sorted
  readable : value.Readable round depth

end Json
end AsystantGateway
