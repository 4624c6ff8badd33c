import AsystantGateway.Library.History
import AsystantGateway.Library.Machine

/-!
# What the steps of a run have led to

`Passed` says that some step of a run stands in a relation to the actions before
it and to the states around it. A run that goes on keeps it, so a fact that is
traced to an earlier step stays traced to it.
-/

namespace AsystantGateway
namespace Machine

variable {σ : Type u} {α : Type v}

/-- Some step of the run that a list of actions is, with the actions before it
and the states around it, stands in a relation. -/
def Passed
    (machine : Machine σ α)
    (event : List α → σ → α → σ → Prop) : List α → Prop :=
  Earlier fun before action => ∃ state next,
    machine.run before = some state ∧
      machine.step state action = some next ∧ event before state action next

namespace Passed

variable
  {machine : Machine σ α}
  {event other : List α → σ → α → σ → Prop}
  {actions : List α}

theorem last
    {action : α}
    {state next : σ}
    (reached : machine.run actions = some state)
    (taken : machine.step state action = some next)
    (held : event actions state action next) :
    machine.Passed event (actions ++ [action]) :=
  Earlier.last ⟨state, next, reached, taken, held⟩

theorem concat
    (passed : machine.Passed event actions)
    (action : α) :
    machine.Passed event (actions ++ [action]) :=
  Earlier.append passed [action]

theorem of_prefix
    {later : List α}
    (isPrefix : actions <+: later)
    (passed : machine.Passed event actions) :
    machine.Passed event later := by
  obtain ⟨rest, rfl⟩ := isPrefix
  exact Earlier.append passed rest

/-- What has passed when a run goes on had passed before, or is its last
step. -/
theorem concat_cases
    {action : α}
    {state next : σ}
    (passed : machine.Passed event (actions ++ [action]))
    (reached : machine.run actions = some state)
    (taken : machine.step state action = some next) :
    machine.Passed event actions ∨ event actions state action next := by
  obtain ⟨before, entry, after, split, other, otherNext, otherReached,
    otherTaken, held⟩ := passed
  rcases List.eq_nil_or_concat after with rfl | ⟨later, last, rfl⟩
  · obtain ⟨rfl, same⟩ := List.append_inj' split rfl
    cases same
    obtain rfl := Option.some.inj (reached.symm.trans otherReached)
    obtain rfl := Option.some.inj (taken.symm.trans otherTaken)
    exact .inr held
  · rw [List.concat_eq_append, ← List.cons_append, ← List.append_assoc]
      at split
    obtain ⟨rfl, -⟩ := List.append_inj' split rfl
    exact .inl ⟨before, entry, later, rfl, other, otherNext, otherReached,
      otherTaken, held⟩

/-- The step that has passed, between two states that the run has reached. -/
theorem exists_step
    (passed : machine.Passed event actions) :
    ∃ before action state next,
      before ++ [action] <+: actions ∧ machine.run before = some state ∧
        machine.run (before ++ [action]) = some next ∧
          event before state action next := by
  obtain ⟨before, action, after, rfl, state, next, reached, taken, held⟩ :=
    passed
  refine ⟨before, action, state, next, ⟨after, ?_⟩, reached,
    run_concat_eq_some.mpr ⟨state, reached, taken⟩, held⟩
  rw [List.append_assoc, List.singleton_append]

/-- What had passed before a step that has passed has passed. -/
theorem earlier
    (passed : machine.Passed event actions)
    (traced : ∀ before state action next,
      event before state action next → machine.Passed other before) :
    machine.Passed other actions := by
  obtain ⟨before, action, after, rfl, state, next, -, -, held⟩ := passed
  exact Earlier.append (traced before state action next held)
    (action :: after)

/-- The relation may be weakened. -/
theorem imp
    (passed : machine.Passed event actions)
    (weakens : ∀ before state action next,
      event before state action next → other before state action next) :
    machine.Passed other actions := by
  refine Earlier.imp passed fun before action _ _ held => ?_
  obtain ⟨state, next, reached, taken, held⟩ := held
  exact ⟨state, next, reached, taken,
    weakens before state action next held⟩

end Passed

end Machine
end AsystantGateway
