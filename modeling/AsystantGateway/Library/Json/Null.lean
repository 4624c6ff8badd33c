import AsystantGateway.Library.Json.Edit
import Mathlib.Data.List.Forall2

/-!
# Members that are null

A reader that indexes objects, and asks for a text, an array or a word in the
end, cannot tell a member that is `null` from one that is not there. So a value
reads like the value with a `null` added anywhere in it.
-/

namespace AsystantGateway
namespace Json

/-- The second value is the first with one more member, which is `null`, in the
value itself or in any of its parts. -/
inductive AddsNull : Value → Value → Prop
  | member
      {members : List (String × Value)}
      {key : String}
      (absent : members.lookup key = none) :
      AddsNull (.object members) (.object (assignMember key .null members))
  | inMember
      {members : List (String × Value)}
      {key : String}
      {value added : Value}
      (present : members.lookup key = some value)
      (adds : AddsNull value added) :
      AddsNull (.object members) (.object (assignMember key added members))
  | inItem
      {before after : List Value}
      {item added : Value}
      (adds : AddsNull item added) :
      AddsNull (.array (before ++ item :: after))
        (.array (before ++ added :: after))

/-- Values that no reader of indexed members, items, texts and words tells
apart. -/
inductive ReadsAlike : Value → Value → Prop
  | same (value : Value) : ReadsAlike value value
  | objects
      {members others : List (String × Value)}
      (alike : ∀ key, ReadsAlike ((Value.object members).index key)
        ((Value.object others).index key)) :
      ReadsAlike (.object members) (.object others)
  | arrays
      {items others : List Value}
      (alike : List.Forall₂ ReadsAlike items others) :
      ReadsAlike (.array items) (.array others)

namespace ReadsAlike

variable {value other : Value}

theorem asStr (alike : ReadsAlike value other) :
    value.asStr = other.asStr := by
  cases alike <;> rfl

theorem asU64 (alike : ReadsAlike value other) :
    value.asU64 = other.asU64 := by
  cases alike <;> rfl

theorem index (alike : ReadsAlike value other) (key : String) :
    ReadsAlike (value.index key) (other.index key) := by
  cases alike with
  | same => exact .same _
  | objects alike => exact alike key
  | arrays _ => exact .same _

theorem forall₂_same (items : List Value) :
    List.Forall₂ ReadsAlike items items :=
  List.forall₂_same.mpr fun item _ => .same item

/-- Both are arrays of items that read alike, or neither is an array. -/
theorem asArray (alike : ReadsAlike value other) :
    (value.asArray = none ∧ other.asArray = none) ∨
      ∃ items others, value.asArray = some items ∧
        other.asArray = some others ∧
        List.Forall₂ ReadsAlike items others := by
  cases alike with
  | same =>
      cases isArray : value.asArray with
      | none => exact .inl ⟨rfl, rfl⟩
      | some items => exact .inr ⟨items, items, rfl, rfl, forall₂_same items⟩
  | objects _ => exact .inl ⟨rfl, rfl⟩
  | arrays alike => exact .inr ⟨_, _, rfl, rfl, alike⟩

end ReadsAlike

/-- A value reads like the value with a `null` added. -/
theorem AddsNull.readsAlike
    {value added : Value}
    (adds : AddsNull value added) :
    ReadsAlike value added := by
  induction adds with
  | @member members key absent =>
      apply ReadsAlike.objects
      intro wanted
      by_cases isKey : wanted = key
      · subst isKey
        rw [Value.index_assignMember_self, Value.index_object, absent]
        exact .same _
      · rw [Value.index_assignMember_of_ne _ _ _ isKey]
        exact .same _
  | @inMember members key value added present _ alike =>
      apply ReadsAlike.objects
      intro wanted
      by_cases isKey : wanted = key
      · subst isKey
        rw [Value.index_assignMember_self, Value.index_object, present]
        exact alike
      · rw [Value.index_assignMember_of_ne _ _ _ isKey]
        exact .same _
  | @inItem before after item added _ alike =>
      apply ReadsAlike.arrays
      apply List.rel_append (ReadsAlike.forall₂_same before)
      exact .cons alike (ReadsAlike.forall₂_same after)

end Json
end AsystantGateway
