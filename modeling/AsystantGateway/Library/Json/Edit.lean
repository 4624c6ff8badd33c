import AsystantGateway.Library.Json.Value

/-!
# Assigning a member

An assignment to a member replaces it, or inserts it in key order. It makes an
object of `null`, and it fails on every other value that is not an object.
-/

namespace AsystantGateway
namespace Json

/-- Replace the member with a key, or insert it before the first larger key. -/
def assignMember
    (key : String)
    (value : Value) : List (String × Value) → List (String × Value)
  | [] => [(key, value)]
  | (other, held) :: rest =>
      if key = other then
        (key, value) :: rest
      else if key < other then
        (key, value) :: (other, held) :: rest
      else
        (other, held) :: assignMember key value rest

/-- Assign to the member with a key. -/
def Value.assign
    (target : Value)
    (key : String)
    (value : Value) : Option Value :=
  match target with
  | .object members => some (.object (assignMember key value members))
  | .null => some (.object [(key, value)])
  | _ => none

theorem lookup_assignMember_self
    (key : String)
    (value : Value)
    (members : List (String × Value)) :
    (assignMember key value members).lookup key = some value := by
  induction members with
  | nil => exact List.lookup_cons_self
  | cons member rest inductionHypothesis =>
      unfold assignMember
      split
      · exact List.lookup_cons_self
      · rename_i isOther
        split
        · exact List.lookup_cons_self
        · rw [List.lookup_cons, beq_false_of_ne isOther]
          exact inductionHypothesis

theorem lookup_assignMember_of_ne
    {key other : String}
    (different : other ≠ key)
    (value : Value)
    (members : List (String × Value)) :
    (assignMember key value members).lookup other = members.lookup other := by
  have skip : ∀ rest : List (String × Value),
      ((key, value) :: rest).lookup other = rest.lookup other := by
    intro rest
    rw [List.lookup_cons, beq_false_of_ne different]
  induction members with
  | nil => exact skip []
  | cons member rest inductionHypothesis =>
      unfold assignMember
      split
      · rename_i isKey
        subst isKey
        rw [skip, List.lookup_cons, beq_false_of_ne different]
      · split
        · exact skip _
        · rw [List.lookup_cons, List.lookup_cons, inductionHypothesis]

namespace Value

variable (key : String) (value : Value) (members : List (String × Value))

@[simp] theorem index_object (wanted : String) :
    (object members).index wanted = (members.lookup wanted).getD null := rfl

/-- An assignment to a member of an object succeeds. -/
@[simp] theorem assign_object :
    (object members).assign key value =
      some (object (assignMember key value members)) := rfl

/-- An assigned member is read back. -/
theorem index_assignMember_self :
    (object (assignMember key value members)).index key = value := by
  rw [index_object, lookup_assignMember_self, Option.getD_some]

/-- The other members are as they were. -/
theorem index_assignMember_of_ne
    {other : String}
    (different : other ≠ key) :
    (object (assignMember key value members)).index other =
      (object members).index other := by
  rw [index_object, lookup_assignMember_of_ne different, index_object]

end Value

end Json
end AsystantGateway
