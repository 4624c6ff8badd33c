import Mathlib.Logic.Basic

/-!
# Bodies that stop at the first failure

A fallible body is a state transformer over `Except`. Two judgements about such
bodies are developed here. `Keeps` is about one run: what held of the state
before holds after a run that succeeds. `Agrees` is about two runs from states
that look alike: they fail alike, or they return the same value and leave
states that look alike. Both compose along `bind`, so a body is judged from its
statements.
-/

namespace AsystantGateway

/-- State transformers that can stop with a failure. -/
abbrev Fallible (σ ε α : Type) := StateT σ (Except ε) α

namespace Fallible

variable {σ ε α β : Type}

theorem run_bind_of_ok
    {first : Fallible σ ε α}
    {next : α → Fallible σ ε β}
    {state middle : σ}
    {value : α}
    (ran : first.run state = .ok (value, middle)) :
    (first >>= next).run state = (next value).run middle := by
  rw [StateT.run_bind, ran]
  rfl

theorem run_bind_of_error
    {first : Fallible σ ε α}
    {next : α → Fallible σ ε β}
    {state : σ}
    {failure : ε}
    (stopped : first.run state = .error failure) :
    (first >>= next).run state = .error failure := by
  rw [StateT.run_bind, stopped]
  rfl

/-- A loop over two elements is its two iterations. -/
theorem forM_pair
    (body : α → Fallible σ ε Unit)
    (first second : α) :
    [first, second].forM body = (do body first; body second) := by
  simp only [List.forM, bind_pure_unit]

/-- What holds before a successful run holds after it, and its value is as
`good` says. -/
def Keeps
    (holds : σ → Prop)
    (good : α → Prop)
    (body : Fallible σ ε α) : Prop :=
  ∀ state value after, holds state →
    body.run state = .ok (value, after) → holds after ∧ good value

namespace Keeps

variable {holds : σ → Prop} {good : α → Prop} {better : β → Prop}

theorem throw (failure : ε) :
    Keeps holds good (throw failure : Fallible σ ε α) := by
  intro state value after _ ran
  cases ran

theorem bind
    {first : Fallible σ ε α}
    {next : α → Fallible σ ε β}
    (firstKeeps : Keeps holds good first)
    (nextKeeps : ∀ value, good value → Keeps holds better (next value)) :
    Keeps holds better (first >>= next) := by
  intro state value after held ran
  cases firstRan : first.run state with
  | error failure =>
      rw [run_bind_of_error firstRan] at ran
      cases ran
  | ok result =>
      rw [run_bind_of_ok firstRan] at ran
      have firstResult := firstKeeps state result.1 result.2 held firstRan
      exact nextKeeps result.1 firstResult.2 result.2 value after
        firstResult.1 ran

end Keeps

/-- A successful run leaves what a view shows of the state. -/
def Leaves
    (view : σ → β)
    (body : Fallible σ ε α) : Prop :=
  ∀ state value after,
    body.run state = .ok (value, after) → view after = view state

namespace Leaves

variable {γ : Type} {view : σ → γ}

theorem throw (failure : ε) :
    Leaves view (throw failure : Fallible σ ε α) := by
  intro state value after ran
  cases ran

theorem bind
    {first : Fallible σ ε α}
    {next : α → Fallible σ ε β}
    (firstLeaves : Leaves view first)
    (nextLeaves : ∀ value, Leaves view (next value)) :
    Leaves view (first >>= next) := by
  intro state value after ran
  cases firstRan : first.run state with
  | error failure =>
      rw [run_bind_of_error firstRan] at ran
      cases ran
  | ok result =>
      rw [run_bind_of_ok firstRan] at ran
      exact (nextLeaves result.1 result.2 value after ran).trans
        (firstLeaves state result.1 result.2 firstRan)

end Leaves

/-- Runs from states that look alike stop with the same failure, or return the
same value, as `good` says, in states that look alike. -/
def Agrees
    (alike : σ → σ → Prop)
    (good : α → Prop)
    (body : Fallible σ ε α) : Prop :=
  ∀ first second, alike first second →
    (∃ failure, body.run first = .error failure ∧
      body.run second = .error failure) ∨
    ∃ value firstAfter secondAfter,
      body.run first = .ok (value, firstAfter) ∧
        body.run second = .ok (value, secondAfter) ∧
          alike firstAfter secondAfter ∧ good value

namespace Agrees

variable {alike : σ → σ → Prop} {good : α → Prop} {better : β → Prop}

theorem throw (failure : ε) :
    Agrees alike good (throw failure : Fallible σ ε α) :=
  fun _ _ _ => .inl ⟨failure, rfl, rfl⟩

theorem bind
    {first : Fallible σ ε α}
    {next : α → Fallible σ ε β}
    (firstAgrees : Agrees alike good first)
    (nextAgrees : ∀ value, good value → Agrees alike better (next value)) :
    Agrees alike better (first >>= next) := by
  intro left right before
  rcases firstAgrees left right before with
    ⟨failure, leftStops, rightStops⟩ |
    ⟨value, leftMiddle, rightMiddle, leftRan, rightRan, middle, valueGood⟩
  · exact .inl ⟨failure, run_bind_of_error leftStops,
      run_bind_of_error rightStops⟩
  · rw [run_bind_of_ok leftRan, run_bind_of_ok rightRan]
    exact nextAgrees value valueGood leftMiddle rightMiddle middle

end Agrees

end Fallible

end AsystantGateway
