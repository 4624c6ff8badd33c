import AsystantGateway.Library.Machine

/-!
# Simulation

One machine answers like another when a relation between their states holds at
the start and every call, made in related states, is answered alike and leaves
related states. One machine refines another when what is seen of each of its
steps is a run of the other. Both are properties of single steps, and carry over
to every run.
-/

namespace AsystantGateway

namespace Mealy

variable {σ : Type u} {τ : Type v} {α : Type w} {ρ : Type x}

/-- Calls in related states are answered alike and leave related states. -/
structure Simulates
    (concrete : Mealy σ α ρ)
    (abstract : Mealy τ α ρ)
    (related : σ → τ → Prop) : Prop where
  start : related concrete.start abstract.start
  answer : ∀ state other call, related state other →
    (concrete.respond state call).1 = (abstract.respond other call).1
  step : ∀ state other call, related state other →
    related (concrete.respond state call).2 (abstract.respond other call).2

namespace Simulates

variable
  {concrete : Mealy σ α ρ}
  {abstract : Mealy τ α ρ}
  {related : σ → τ → Prop}

/-- Every run of one machine is, call by call, a run of the other. -/
theorem run
    (simulates : Simulates concrete abstract related)
    (calls : List α) :
    concrete.journal calls = abstract.journal calls ∧
      related (concrete.state calls) (abstract.state calls) := by
  induction calls using List.reverseRecOn with
  | nil => exact ⟨rfl, simulates.start⟩
  | append_singleton prior call inductionHypothesis =>
      obtain ⟨sameJournal, areRelated⟩ := inductionHypothesis
      rw [journal_concat, journal_concat, state_concat, state_concat,
        sameJournal, simulates.answer _ _ call areRelated]
      exact ⟨rfl, simulates.step _ _ call areRelated⟩

end Simulates

end Mealy

namespace Machine

variable {σ : Type u} {τ : Type v} {α : Type w} {β : Type x}

/-- What is seen of every step is a run. -/
structure Refines
    (concrete : Machine σ α)
    (abstract : Machine τ β)
    (seen : σ → τ) : Prop where
  start : seen concrete.start = abstract.start
  step : ∀ state action next, concrete.step state action = some next →
    ∃ actions, abstract.runFrom (seen state) actions = some (seen next)

namespace Refines

variable
  {concrete : Machine σ α}
  {abstract : Machine τ β}
  {seen : σ → τ}

/-- What is seen of a reachable state is reachable. -/
theorem reachable
    (refines : Refines concrete abstract seen)
    {state : σ}
    (isReachable : concrete.Reachable state) :
    abstract.Reachable (seen state) := by
  obtain ⟨actions, reached⟩ := isReachable
  refine run_induction (motive := fun _ state =>
    abstract.Reachable (seen state)) ⟨[], ?_⟩ ?_ reached
  · exact congrArg some refines.start.symm
  · rintro _ prior action next - ⟨actions, reached⟩ taken
    obtain ⟨more, onward⟩ := refines.step prior action next taken
    exact ⟨actions ++ more, (run_append_of_run reached more).trans onward⟩

end Refines

end Machine

end AsystantGateway
