import Mathlib.Data.List.Forall2
import Mathlib.Data.List.Nodup

/-!
# Sequences of checks

A validator refuses at the first check that fails. Its success is a conjunction
of the conditions it checks: one lemma for a single refusal, one for a sequence
and one for a loop that also refuses a key it has met before.
-/

namespace AsystantGateway

namespace Checks

variable {ε α β κ : Type}

/-- Refuse when a condition holds. -/
def refuse
    (condition : Prop)
    [Decidable condition]
    (error : ε) : Except ε Unit :=
  if condition then .error error else .ok ()

@[simp] theorem refuse_eq_ok_iff
    {condition : Prop}
    [Decidable condition]
    {error : ε}
    {value : Unit} :
    refuse condition error = .ok value ↔ ¬ condition := by
  unfold refuse
  split <;> simp_all

/-- A sequence succeeds when both of its parts do. -/
theorem bind_eq_ok_iff
    {first : Except ε α}
    {next : α → Except ε β}
    {result : β} :
    (first >>= next) = .ok result ↔
      ∃ value, first = .ok value ∧ next value = .ok result := by
  cases first with
  | error error => simp [bind, Except.bind]
  | ok value => simp [bind, Except.bind]

/-- A sequence of unit checks succeeds when all of them do. -/
theorem seq_eq_ok_iff
    {first : Except ε Unit}
    {next : Except ε α}
    {result : α} :
    (first >>= fun _ => next) = .ok result ↔
      first = .ok () ∧ next = .ok result := by
  rw [bind_eq_ok_iff]
  exact ⟨fun ⟨_, both⟩ => both, fun both => ⟨(), both⟩⟩

/-- A loop collects what it makes of each element. -/
theorem mapM_eq_ok
    {body : α → Except ε β}
    {items : List α}
    {results : List β}
    (made : List.Forall₂
      (fun item result => body item = .ok result) items results) :
    items.mapM body = .ok results := by
  induction made with
  | nil => rfl
  | cons isFirst _ isRest =>
      rw [List.mapM_cons, isFirst, isRest]
      rfl

/-- A loop that succeeds made something of each element. -/
theorem mapM_eq_ok_iff
    {body : α → Except ε β}
    {items : List α}
    {results : List β} :
    items.mapM body = .ok results ↔
      List.Forall₂ (fun item result => body item = .ok result) items
        results := by
  refine ⟨?_, mapM_eq_ok⟩
  intro made
  induction items generalizing results with
  | nil =>
      cases made
      exact .nil
  | cons item rest inductionHypothesis =>
      rw [List.mapM_cons] at made
      obtain ⟨result, isResult, made⟩ := bind_eq_ok_iff.mp made
      obtain ⟨others, areOthers, made⟩ := bind_eq_ok_iff.mp made
      cases made
      exact .cons isResult (inductionHypothesis areOthers)

/-- A loop fails with the error of one of its elements. -/
theorem mapM_eq_error
    {body : α → Except ε β}
    {items : List α}
    {error : ε}
    (failed : items.mapM body = .error error) :
    ∃ item ∈ items, body item = .error error := by
  induction items with
  | nil => cases failed
  | cons item rest inductionHypothesis =>
      rw [List.mapM_cons] at failed
      cases made : body item with
      | error other =>
          rw [made] at failed
          cases failed
          exact ⟨item, List.mem_cons_self, made⟩
      | ok result =>
          cases restMade : rest.mapM body with
          | error other =>
              rw [made, restMade] at failed
              cases failed
              obtain ⟨failing, member, isError⟩ := inductionHypothesis restMade
              exact ⟨failing, List.mem_cons_of_mem item member, isError⟩
          | ok results =>
              rw [made, restMade] at failed
              cases failed

/-- A loop that adds something for each element goes on as long as the elements
have something to add. -/
theorem foldlM_eq_ok_iff
    {σ : Type}
    {add : σ → α → Except ε σ}
    {append : σ → β → σ}
    {Has : α → β → Prop}
    (adds : ∀ item piece, Has item piece →
      ∀ state, add state item = .ok (append state piece))
    (goesOn : ∀ state item next, add state item = .ok next →
      ∃ piece, Has item piece)
    {items : List α}
    {start finish : σ} :
    items.foldlM add start = .ok finish ↔
      ∃ pieces, List.Forall₂ Has items pieces ∧
        finish = pieces.foldl append start := by
  induction items generalizing start with
  | nil =>
      constructor
      · intro isStart
        cases isStart
        exact ⟨[], .nil, rfl⟩
      · rintro ⟨pieces, has, rfl⟩
        cases has
        rfl
  | cons item rest inductionHypothesis =>
      rw [List.foldlM_cons, bind_eq_ok_iff]
      constructor
      · rintro ⟨next, isNext, restAdded⟩
        obtain ⟨piece, hasPiece⟩ := goesOn _ _ _ isNext
        rw [adds _ _ hasPiece] at isNext
        cases isNext
        obtain ⟨pieces, has, rfl⟩ := inductionHypothesis.mp restAdded
        exact ⟨piece :: pieces, .cons hasPiece has, rfl⟩
      · rintro ⟨pieces, has, rfl⟩
        cases has with
        | cons hasPiece hasRest =>
            exact ⟨_, adds _ _ hasPiece start,
              inductionHypothesis.mpr ⟨_, hasRest, rfl⟩⟩

/-- Read the elements of a list in turn, and collect what they say. -/
def collect (read : α → Option (List β)) : List α → Option (List β)
  | [] => some []
  | item :: rest => do
      let first ← read item
      let others ← collect read rest
      return first ++ others

theorem collect_cons_eq_some
    {read : α → Option (List β)}
    {item : α}
    {rest : List α}
    {first others : List β}
    (isFirst : read item = some first)
    (areOthers : collect read rest = some others) :
    collect read (item :: rest) = some (first ++ others) := by
  rw [collect, isFirst, areOthers]
  rfl

theorem collect_singleton_eq_some
    {read : α → Option (List β)}
    {item : α}
    {said : List β}
    (isSaid : read item = some said) :
    collect read [item] = some said := by
  have single := collect_cons_eq_some isSaid
    (rfl : collect read [] = some [])
  rwa [List.append_nil] at single

theorem collect_append_eq_some
    {read : α → Option (List β)}
    {items rest : List α}
    {first others : List β}
    (areFirst : collect read items = some first)
    (areOthers : collect read rest = some others) :
    collect read (items ++ rest) = some (first ++ others) := by
  induction items generalizing first with
  | nil =>
      cases areFirst
      exact areOthers
  | cons item items inductionHypothesis =>
      rw [collect, Option.bind_eq_bind, Option.bind_eq_some_iff] at areFirst
      obtain ⟨said, isSaid, areFirst⟩ := areFirst
      obtain ⟨later, areLater, whole⟩ := Option.bind_eq_some_iff.mp areFirst
      cases whole
      rw [List.cons_append, List.append_assoc]
      exact collect_cons_eq_some isSaid (inductionHypothesis areLater)

/-- What is written for each element in turn is read element by element. -/
theorem collect_flatMap
    {read : α → Option (List β)}
    {write : κ → List α}
    {said : κ → List β}
    {items : List κ}
    (reads : ∀ item ∈ items, collect read (write item) = some (said item)) :
    collect read (items.flatMap write) = some (items.flatMap said) := by
  induction items with
  | nil => rfl
  | cons item rest inductionHypothesis =>
      have ⟨readsItem, readsRest⟩ := List.forall_mem_cons.mp reads
      rw [List.flatMap_cons, List.flatMap_cons]
      exact collect_append_eq_some readsItem (inductionHypothesis readsRest)

theorem collect_map
    {read : α → Option (List β)}
    {write : κ → α}
    {said : κ → List β}
    {items : List κ}
    (reads : ∀ item ∈ items, read (write item) = some (said item)) :
    collect read (items.map write) = some (items.flatMap said) := by
  rw [List.map_eq_flatMap]
  apply collect_flatMap
  intro item isItem
  exact collect_singleton_eq_some (reads item isItem)

variable [DecidableEq κ]

/-- Check the elements of a list in turn, refusing also an element whose key
was met before. The keys met are returned. -/
def distinctBy
    (key : α → κ)
    (check : α → Except ε Unit)
    (repeated : ε)
    (seen : List κ) : List α → Except ε (List κ)
  | [] => .ok seen
  | item :: rest => do
      check item
      refuse (key item ∈ seen) repeated
      distinctBy key check repeated (key item :: seen) rest

/-- The loop succeeds exactly when every element passes its check and no key
occurs twice. -/
theorem distinctBy_eq_ok_iff
    {key : α → κ}
    {check : α → Except ε Unit}
    {repeated : ε}
    {seen keys : List κ}
    {items : List α} :
    distinctBy key check repeated seen items = .ok keys ↔
      (∀ item ∈ items, check item = .ok ()) ∧ (items.map key).Nodup ∧
        (∀ item ∈ items, key item ∉ seen) ∧
          keys = (items.map key).reverse ++ seen := by
  induction items generalizing seen with
  | nil => simp [distinctBy, eq_comm]
  | cons item rest inductionHypothesis =>
      unfold distinctBy
      rw [seq_eq_ok_iff, seq_eq_ok_iff, refuse_eq_ok_iff,
        inductionHypothesis, List.forall_mem_cons, List.forall_mem_cons]
      simp only [List.map_cons, List.nodup_cons,
        List.mem_map, List.mem_cons, List.reverse_cons, List.append_assoc,
        List.singleton_append, not_exists, not_and, not_or]
      constructor
      · rintro ⟨passed, fresh, restPassed, nodup, others, equal⟩
        exact ⟨⟨passed, restPassed⟩,
          ⟨fun other member same => (others other member).1 same, nodup⟩,
          ⟨fresh, fun other member => (others other member).2⟩, equal⟩
      · rintro ⟨⟨passed, restPassed⟩, ⟨headFresh, nodup⟩,
          ⟨fresh, others⟩, equal⟩
        exact ⟨passed, fresh, restPassed, nodup,
          fun other member =>
            ⟨fun same => headFresh other member same, others other member⟩,
          equal⟩

end Checks

end AsystantGateway
