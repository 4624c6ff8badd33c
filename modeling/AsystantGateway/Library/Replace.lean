import Mathlib.Algebra.Order.Ring.Int
import Mathlib.Data.List.Forall2
import Mathlib.Tactic.Common

/-!
# Replacing one element of a list

A list of participants changes at one place at a time. What is found, what is
in the list and what a weight sums to after such a change is said in terms of
the list before it.
-/

namespace AsystantGateway

namespace Replace

variable {α : Type u}

/-- What is found in a list after one of its elements was replaced. -/
theorem getElem?_set_eq_some_iff
    {items : List α}
    {index other : Nat}
    {item replacement found : α}
    (present : items[index]? = some item) :
    (items.set index replacement)[other]? = some found ↔
      other = index ∧ found = replacement ∨
        other ≠ index ∧ items[other]? = some found := by
  obtain ⟨inside, -⟩ := List.getElem?_eq_some_iff.mp present
  rw [List.getElem?_set]
  by_cases same : index = other
  · subst same
    simp [inside, eq_comm]
  · simp [same, Ne.symm same]

theorem mem_set_iff
    {items : List α}
    {index : Nat}
    {item replacement found : α}
    (present : items[index]? = some item) :
    found ∈ items.set index replacement ↔
      found = replacement ∨
        ∃ other, other ≠ index ∧ items[other]? = some found := by
  simp only [List.mem_iff_getElem?, getElem?_set_eq_some_iff present]
  constructor
  · rintro ⟨other, ⟨-, isReplacement⟩ | elsewhere⟩
    · exact .inl isReplacement
    · exact .inr ⟨other, elsewhere⟩
  · rintro (isReplacement | ⟨other, elsewhere⟩)
    · exact ⟨index, .inl ⟨rfl, isReplacement⟩⟩
    · exact ⟨other, .inr elsewhere⟩

/-- What holds of every element and of the replacement holds afterwards. -/
theorem forall_mem_set
    {items : List α}
    {holds : α → Prop}
    {replacement : α}
    (ofItems : ∀ item ∈ items, holds item)
    (ofReplacement : holds replacement)
    (index : Nat) :
    ∀ item ∈ items.set index replacement, holds item := by
  intro item member
  rcases List.mem_or_eq_of_mem_set member with inItems | rfl
  · exact ofItems item inItems
  · exact ofReplacement

/-- A sum after one of its terms was replaced. -/
theorem sum_map_set
    {items : List α}
    {index : Nat}
    {item : α}
    (present : items[index]? = some item)
    (weight : α → Nat)
    (replacement : α) :
    ((items.set index replacement).map weight).sum + weight item =
      (items.map weight).sum + weight replacement := by
  induction items generalizing index with
  | nil => simp at present
  | cons head tail inductionHypothesis =>
      cases index with
      | zero =>
          obtain rfl : head = item := by simpa using present
          simp only [List.set_cons_zero, List.map_cons, List.sum_cons]
          omega
      | succ index =>
          have onTail := inductionHypothesis (by simpa using present)
          simp only [List.set_cons_succ, List.map_cons, List.sum_cons]
          omega

theorem set_eq_self
    {items : List α}
    {index : Nat}
    {item : α}
    (present : items[index]? = some item) :
    items.set index item = items := by
  obtain ⟨inside, rfl⟩ := List.getElem?_eq_some_iff.mp present
  exact List.set_getElem_self inside

/-- The partners of a list around one of its items. -/
theorem forall₂_append_cons_iff
    {related : α → β → Prop}
    {before after : List α}
    {item : α}
    {others : List β} :
    List.Forall₂ related (before ++ item :: after) others ↔
      ∃ first other second, others = first ++ other :: second ∧
        List.Forall₂ related before first ∧ related item other ∧
        List.Forall₂ related after second := by
  induction before generalizing others with
  | nil =>
      rw [List.nil_append, List.forall₂_cons_left_iff]
      constructor
      · rintro ⟨other, second, isOther, areSecond, rfl⟩
        exact ⟨[], other, second, rfl, .nil, isOther, areSecond⟩
      · rintro ⟨first, other, second, rfl, noFirst, isOther, areSecond⟩
        cases noFirst
        exact ⟨other, second, isOther, areSecond, rfl⟩
  | cons head before inductionHypothesis =>
      rw [List.cons_append, List.forall₂_cons_left_iff]
      constructor
      · rintro ⟨image, rest, isImage, areRest, rfl⟩
        obtain ⟨first, other, second, rfl, areFirst, isOther, areSecond⟩ :=
          inductionHypothesis.mp areRest
        exact ⟨image :: first, other, second, rfl, .cons isImage areFirst,
          isOther, areSecond⟩
      · rintro ⟨first, other, second, rfl, areFirst, isOther, areSecond⟩
        cases areFirst with
        | cons isImage areFirst =>
            exact ⟨_, _, isImage, inductionHypothesis.mpr
              ⟨_, other, second, rfl, areFirst, isOther, areSecond⟩, rfl⟩

/-- Every item of a list has its partner in a list of partners. -/
theorem exists_related
    {related : α → β → Prop}
    {items : List α}
    {others : List β}
    (partners : List.Forall₂ related items others)
    {item : α}
    (member : item ∈ items) :
    ∃ other ∈ others, related item other := by
  obtain ⟨before, after, rfl⟩ := List.append_of_mem member
  obtain ⟨first, other, second, rfl, -, isOther, -⟩ :=
    forall₂_append_cons_iff.mp partners
  exact ⟨other, by simp, isOther⟩

end Replace

end AsystantGateway
