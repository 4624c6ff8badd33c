import AsystantGateway.Library.Machine

/-!
# What is recorded of a run

A recorder sees every step that a run takes, with the state before it, and adds
to what it has recorded. The machine does not see the record, so it can hold
what no state holds: the calls that succeeded, or what has happened since some
kind of step.
-/

namespace AsystantGateway
namespace Machine

variable {σ : Type u} {α : Type v} {γ : Type w}

/-- What is recorded along the steps from a state. -/
def recordFrom
    (machine : Machine σ α)
    (record : γ → σ → α → γ)
    (recorded : γ)
    (state : σ) : List α → γ
  | [] => recorded
  | action :: rest =>
      match machine.step state action with
      | none => recorded
      | some next =>
          machine.recordFrom record (record recorded state action) next rest

/-- What is recorded of a run. -/
def recordOf
    (machine : Machine σ α)
    (record : γ → σ → α → γ)
    (empty : γ)
    (actions : List α) : γ :=
  machine.recordFrom record empty machine.start actions

section Record

variable
  {machine : Machine σ α}
  {record : γ → σ → α → γ}
  {empty : γ}
  {actions : List α}

@[simp] theorem recordOf_nil :
    machine.recordOf record empty [] = empty := rfl

theorem recordFrom_concat
    {recorded : γ}
    {state last next : σ}
    {action : α}
    (reached : machine.runFrom state actions = some last)
    (taken : machine.step last action = some next) :
    machine.recordFrom record recorded state (actions ++ [action]) =
      record (machine.recordFrom record recorded state actions) last
        action := by
  induction actions generalizing recorded state with
  | nil =>
      obtain rfl := Option.some.inj reached
      simp [recordFrom, taken]
  | cons head rest inductionHypothesis =>
      obtain ⟨middle, first, rest⟩ := Option.bind_eq_some_iff.mp reached
      simp only [List.cons_append, recordFrom, first]
      exact inductionHypothesis rest

/-- The last step of a run is recorded last. -/
theorem recordOf_concat
    {last next : σ}
    {action : α}
    (reached : machine.run actions = some last)
    (taken : machine.step last action = some next) :
    machine.recordOf record empty (actions ++ [action]) =
      record (machine.recordOf record empty actions) last action :=
  recordFrom_concat reached taken

/-- What holds of the record and of the state at the start, and is kept by every
step with its recording, holds of every run. -/
theorem record_induction
    {motive : γ → σ → Prop}
    (start : motive empty machine.start)
    (step : ∀ recorded state action next,
      machine.Reachable state → machine.step state action = some next →
        motive recorded state → motive (record recorded state action) next)
    {state : σ}
    (reached : machine.run actions = some state) :
    motive (machine.recordOf record empty actions) state := by
  refine run_induction (motive := fun actions state =>
    motive (machine.recordOf record empty actions) state) start ?_ reached
  intro actions state action next prior held taken
  rw [recordOf_concat prior taken]
  exact step _ _ _ _ ⟨actions, prior⟩ taken held

end Record

end Machine
end AsystantGateway
