import Mathlib.Data.List.Find
import Mathlib.Data.List.Nodup
import Mathlib.Logic.Function.Basic

/-!
# First matches by key

A list of records is read by searching it for the first one with a key. While
no two records share a key the list stands for a partial function of the keys:
the order does not matter, and taking the record of a key out, or putting a new
one in its place at the end, updates the function at that key alone.
-/

namespace AsystantGateway

namespace KeyedList

variable {α : Type u} {κ : Type v} [DecidableEq κ]

/-- The first record with a key. -/
def lookup (key : α → κ) (items : List α) (wanted : κ) : Option α :=
  items.find? fun item => key item = wanted

variable
  {key : α → κ}
  {items others : List α}
  {item : α}
  {wanted : κ}

theorem mem_of_lookup_eq_some
    (found : lookup key items wanted = some item) :
    item ∈ items ∧ key item = wanted :=
  ⟨List.mem_of_find?_eq_some found, by simpa using List.find?_some found⟩

theorem lookup_eq_none_iff :
    lookup key items wanted = none ↔ ∀ item ∈ items, key item ≠ wanted := by
  simp [lookup, List.find?_eq_none]

/-- Records with distinct keys are found by their keys. -/
theorem lookup_eq_some_iff
    (nodup : (items.map key).Nodup) :
    lookup key items wanted = some item ↔
      item ∈ items ∧ key item = wanted := by
  refine ⟨mem_of_lookup_eq_some, ?_⟩
  rintro ⟨member, rfl⟩
  induction items with
  | nil => cases member
  | cons head tail inductionHypothesis =>
      obtain ⟨headFresh, tailNodup⟩ := List.nodup_cons.mp nodup
      rcases List.mem_cons.mp member with rfl | inTail
      · simp [lookup]
      · have different : key head ≠ key item := by
          intro same
          exact headFresh (same ▸ List.mem_map_of_mem inTail)
        unfold lookup
        rw [List.find?_cons_of_neg (by simpa using different)]
        exact inductionHypothesis tailNodup inTail

/-- The order of records with distinct keys does not matter. -/
theorem lookup_perm
    (nodup : (items.map key).Nodup)
    (reordered : others.Perm items) :
    lookup key others = lookup key items := by
  have othersNodup : (others.map key).Nodup :=
    (reordered.map key).nodup_iff.mpr nodup
  funext wanted
  apply Option.ext
  intro item
  rw [lookup_eq_some_iff othersNodup, lookup_eq_some_iff nodup,
    reordered.mem_iff]

/-- A search looks only at records that pass a test which all records with the
wanted key pass. -/
theorem lookup_filter_of_forall
    {keep : α → Bool}
    (kept : ∀ item, key item = wanted → keep item = true) :
    lookup key (items.filter keep) wanted = lookup key items wanted := by
  unfold lookup
  rw [List.find?_filter]
  congr 1
  funext item
  by_cases isWanted : key item = wanted
  · simp [isWanted, kept item isWanted]
  · simp [isWanted]

/-- Taking the records of a key out leaves every other key as it was. -/
theorem lookup_filter_ne
    (removed : κ) :
    lookup key (items.filter fun item => key item ≠ removed) =
      Function.update (lookup key items) removed none := by
  funext wanted
  by_cases same : wanted = removed
  · subst same
    rw [Function.update_self, lookup_eq_none_iff]
    simp
  · rw [Function.update_of_ne same]
    apply lookup_filter_of_forall
    rintro item rfl
    simpa using same

/-- Putting a record in place of those with its key leaves every other key as
it was. -/
theorem lookup_replace
    (item : α) :
    lookup key ((items.filter fun other => key other ≠ key item) ++ [item]) =
      Function.update (lookup key items) (key item) (some item) := by
  have rest : lookup key (items.filter fun other => key other ≠ key item) =
      Function.update (lookup key items) (key item) none :=
    lookup_filter_ne (key item)
  funext wanted
  unfold lookup at rest ⊢
  rw [List.find?_append, congrFun rest wanted]
  by_cases same : wanted = key item
  · simp [same]
  · simp [Function.update_of_ne same, Ne.symm same]

end KeyedList

end AsystantGateway
