import Mathlib.Data.List.Induction

/-!
# Runs of partial and of responding machines

A `Machine` is a deterministic transition system whose actions carry every
choice of the environment; an action that is not possible in a state has no
successor. A `Mealy` machine answers every call with a result and a next state.
Interleavings are lists: a statement about every order of steps is a statement
about every list of actions.

Each induction over a run is made once here. An invariant needs its starting
case and its step case, and a stable property needs its step case only.
-/

namespace AsystantGateway

/-- A transition system whose step is defined on the possible actions. -/
structure Machine (σ : Type u) (α : Type v) where
  /-- The state in which every run begins. -/
  start : σ
  /-- The successor, when the action is possible. -/
  step : σ → α → Option σ

namespace Machine

variable {σ : Type u} {α : Type v}

/-- Perform a list of actions, failing at the first impossible one. -/
def runFrom
    (machine : Machine σ α)
    (state : σ) : List α → Option σ
  | [] => some state
  | action :: rest =>
      (machine.step state action).bind fun next => machine.runFrom next rest

/-- The state a list of actions leads to from the start. -/
def run (machine : Machine σ α) (actions : List α) : Option σ :=
  machine.runFrom machine.start actions

/-- A state that some list of actions leads to. -/
def Reachable (machine : Machine σ α) (state : σ) : Prop :=
  ∃ actions, machine.run actions = some state

@[simp] theorem runFrom_nil
    (machine : Machine σ α)
    (state : σ) :
    machine.runFrom state [] = some state := rfl

@[simp] theorem runFrom_cons
    (machine : Machine σ α)
    (state : σ)
    (action : α)
    (rest : List α) :
    machine.runFrom state (action :: rest) =
      (machine.step state action).bind fun next =>
        machine.runFrom next rest := rfl

theorem runFrom_cons_of_step
    {machine : Machine σ α}
    {state next : σ}
    {action : α}
    (taken : machine.step state action = some next)
    (rest : List α) :
    machine.runFrom state (action :: rest) = machine.runFrom next rest := by
  rw [runFrom_cons, taken, Option.bind_some]

/-- A run of a concatenation is a run of its parts. -/
theorem runFrom_append
    (machine : Machine σ α)
    (first second : List α)
    (state : σ) :
    machine.runFrom state (first ++ second) =
      (machine.runFrom state first).bind fun middle =>
        machine.runFrom middle second := by
  induction first generalizing state with
  | nil => rfl
  | cons action rest inductionHypothesis =>
      simp only [List.cons_append, runFrom_cons, Option.bind_assoc,
        inductionHypothesis]

/-- The last action of a run is a step from a state reached by the others. -/
theorem run_concat_eq_some
    {machine : Machine σ α}
    {actions : List α}
    {action : α}
    {state : σ} :
    machine.run (actions ++ [action]) = some state ↔
      ∃ prior, machine.run actions = some prior ∧
        machine.step prior action = some state := by
  unfold run
  rw [runFrom_append]
  simp [Option.bind_eq_some_iff]

/-- A run goes on from the state that its first actions lead to. -/
theorem run_append_of_run
    {machine : Machine σ α}
    {first : List α}
    {middle : σ}
    (reached : machine.run first = some middle)
    (second : List α) :
    machine.run (first ++ second) = machine.runFrom middle second := by
  unfold run at reached ⊢
  rw [runFrom_append, reached, Option.bind_some]

/-- A run from a state goes on from where its first actions lead. -/
theorem runFrom_append_of_runFrom
    {machine : Machine σ α}
    {state middle : σ}
    {first : List α}
    (reached : machine.runFrom state first = some middle)
    (second : List α) :
    machine.runFrom state (first ++ second) =
      machine.runFrom middle second := by
  rw [runFrom_append, reached, Option.bind_some]

/-- What follows one step of a run, from the state that the step led to. -/
theorem runFrom_of_run_append_cons
    {machine : Machine σ α}
    {before later : List α}
    {action : α}
    {first next last : σ}
    (reached : machine.run (before ++ action :: later) = some last)
    (prior : machine.run before = some first)
    (taken : machine.step first action = some next) :
    machine.runFrom next later = some last := by
  rw [run_append_of_run prior, runFrom_cons_of_step taken] at reached
  exact reached

/-- A relation between the actions performed and the state reached holds of
every run when it holds at the start and every step extends it. -/
theorem run_induction
    {machine : Machine σ α}
    {motive : List α → σ → Prop}
    (start : motive [] machine.start)
    (step : ∀ actions state action next,
      machine.run actions = some state → motive actions state →
        machine.step state action = some next →
          motive (actions ++ [action]) next)
    {actions : List α}
    {state : σ}
    (reached : machine.run actions = some state) :
    motive actions state := by
  induction actions using List.reverseRecOn generalizing state with
  | nil =>
      obtain rfl : machine.start = state := by simpa [run] using reached
      exact start
  | append_singleton prior action inductionHypothesis =>
      obtain ⟨middle, before, taken⟩ := run_concat_eq_some.mp reached
      exact step prior middle action state before
        (inductionHypothesis before) taken

/-- An inductive invariant holds in every reachable state. -/
theorem invariant
    {machine : Machine σ α}
    {holds : σ → Prop}
    (start : holds machine.start)
    (step : ∀ state action next, holds state →
      machine.step state action = some next → holds next)
    {state : σ}
    (reachable : machine.Reachable state) :
    holds state := by
  obtain ⟨actions, reached⟩ := reachable
  exact run_induction (motive := fun _ state => holds state) start
    (fun _ state action next _ held taken =>
      step state action next held taken) reached

/-- Every step that a list of actions takes from a state meets a condition on
the state before it. -/
def EveryStep
    (machine : Machine σ α)
    (meets : σ → α → Prop)
    (state : σ) : List α → Prop
  | [] => True
  | action :: rest =>
      meets state action ∧
        ∀ next, machine.step state action = some next →
          machine.EveryStep meets next rest

theorem everyStep_cons_of_step
    {machine : Machine σ α}
    {meets : σ → α → Prop}
    {action : α}
    {rest : List α}
    {state next : σ}
    (met : meets state action)
    (taken : machine.step state action = some next)
    (others : machine.EveryStep meets next rest) :
    machine.EveryStep meets state (action :: rest) := by
  refine ⟨met, fun other isOther => ?_⟩
  obtain rfl := Option.some.inj (taken.symm.trans isOther)
  exact others

/-- The last step of a run meets the condition in the state before it. -/
theorem everyStep_concat_iff
    {machine : Machine σ α}
    {meets : σ → α → Prop}
    {actions : List α}
    {action : α}
    {first last : σ}
    (reached : machine.runFrom first actions = some last) :
    machine.EveryStep meets first (actions ++ [action]) ↔
      machine.EveryStep meets first actions ∧ meets last action := by
  induction actions generalizing first with
  | nil =>
      obtain rfl : first = last := by simpa using reached
      simp [EveryStep]
  | cons other rest inductionHypothesis =>
      obtain ⟨middle, taken, onward⟩ := Option.bind_eq_some_iff.mp reached
      simp only [List.cons_append, EveryStep, taken, Option.some.injEq,
        forall_eq', inductionHypothesis onward, and_assoc]

/-- A property that every step meeting the condition keeps holds after a run
all of whose steps meet it. -/
theorem stable_of_everyStep
    {machine : Machine σ α}
    {meets : σ → α → Prop}
    {motive : σ → Prop}
    (step : ∀ state action next, motive state → meets state action →
      machine.step state action = some next → motive next)
    {actions : List α}
    {first last : σ}
    (held : motive first)
    (every : machine.EveryStep meets first actions)
    (reached : machine.runFrom first actions = some last) :
    motive last := by
  induction actions generalizing first with
  | nil =>
      obtain rfl : first = last := by simpa using reached
      exact held
  | cons action rest inductionHypothesis =>
      obtain ⟨middle, taken, onward⟩ := Option.bind_eq_some_iff.mp reached
      obtain ⟨met, others⟩ := every
      exact inductionHypothesis (step first action middle held met taken)
        (others middle taken) onward

/-- A property that every step keeps holds for the rest of a run. -/
theorem stable
    {machine : Machine σ α}
    {motive : σ → Prop}
    (step : ∀ state action next, motive state →
      machine.step state action = some next → motive next)
    {actions : List α}
    {first last : σ}
    (held : motive first)
    (reached : machine.runFrom first actions = some last) :
    motive last := by
  induction actions generalizing first with
  | nil =>
      obtain rfl : first = last := by simpa using reached
      exact held
  | cons action rest inductionHypothesis =>
      obtain ⟨middle, taken, onward⟩ := Option.bind_eq_some_iff.mp reached
      exact inductionHypothesis (step first action middle held taken) onward

end Machine

/-- A machine that answers every call with a result and a next state. -/
structure Mealy (σ : Type u) (α : Type v) (ρ : Type w) where
  /-- The state before the first call. -/
  start : σ
  /-- The result of a call and the state it leaves. -/
  respond : σ → α → ρ × σ

namespace Mealy

variable {σ : Type u} {α : Type v} {ρ : Type w}

/-- The state after a list of calls. -/
def stateFrom
    (mealy : Mealy σ α ρ)
    (state : σ) : List α → σ
  | [] => state
  | call :: rest => mealy.stateFrom (mealy.respond state call).2 rest

/-- The calls of a run, each with the result it received. -/
def journalFrom
    (mealy : Mealy σ α ρ)
    (state : σ) : List α → List (α × ρ)
  | [] => []
  | call :: rest =>
      (call, (mealy.respond state call).1) ::
        mealy.journalFrom (mealy.respond state call).2 rest

/-- The state after a run from the start. -/
def state (mealy : Mealy σ α ρ) (calls : List α) : σ :=
  mealy.stateFrom mealy.start calls

/-- The journal of a run from the start. -/
def journal (mealy : Mealy σ α ρ) (calls : List α) : List (α × ρ) :=
  mealy.journalFrom mealy.start calls

theorem stateFrom_append
    (mealy : Mealy σ α ρ)
    (first second : List α)
    (state : σ) :
    mealy.stateFrom state (first ++ second) =
      mealy.stateFrom (mealy.stateFrom state first) second := by
  induction first generalizing state with
  | nil => rfl
  | cons call rest inductionHypothesis =>
      exact inductionHypothesis (mealy.respond state call).2

theorem journalFrom_append
    (mealy : Mealy σ α ρ)
    (first second : List α)
    (state : σ) :
    mealy.journalFrom state (first ++ second) =
      mealy.journalFrom state first ++
        mealy.journalFrom (mealy.stateFrom state first) second := by
  induction first generalizing state with
  | nil => rfl
  | cons call rest inductionHypothesis =>
      simp only [List.cons_append, journalFrom, stateFrom,
        inductionHypothesis]

/-- A run that goes on starts over from the state it has reached. -/
theorem state_append
    (mealy : Mealy σ α ρ)
    (first second : List α) :
    mealy.state (first ++ second) =
      mealy.stateFrom (mealy.state first) second :=
  mealy.stateFrom_append first second mealy.start

theorem journal_append
    (mealy : Mealy σ α ρ)
    (first second : List α) :
    mealy.journal (first ++ second) =
      mealy.journal first ++ mealy.journalFrom (mealy.state first) second :=
  mealy.journalFrom_append first second mealy.start

@[simp] theorem state_nil (mealy : Mealy σ α ρ) :
    mealy.state [] = mealy.start := rfl

@[simp] theorem journal_nil (mealy : Mealy σ α ρ) :
    mealy.journal [] = [] := rfl

@[simp] theorem state_concat
    (mealy : Mealy σ α ρ)
    (calls : List α)
    (call : α) :
    mealy.state (calls ++ [call]) =
      (mealy.respond (mealy.state calls) call).2 := by
  simp [state, stateFrom_append, stateFrom]

@[simp] theorem journal_concat
    (mealy : Mealy σ α ρ)
    (calls : List α)
    (call : α) :
    mealy.journal (calls ++ [call]) =
      mealy.journal calls ++
        [(call, (mealy.respond (mealy.state calls) call).1)] := by
  simp [journal, state, journalFrom_append, journalFrom]

/-- A relation between the journal and the state holds of every run when it
holds at the start and every call extends it. -/
theorem run_induction
    {mealy : Mealy σ α ρ}
    {motive : List (α × ρ) → σ → Prop}
    (start : motive [] mealy.start)
    (step : ∀ calls call,
      motive (mealy.journal calls) (mealy.state calls) →
        motive
          (mealy.journal calls ++
            [(call, (mealy.respond (mealy.state calls) call).1)])
          (mealy.respond (mealy.state calls) call).2)
    (calls : List α) :
    motive (mealy.journal calls) (mealy.state calls) := by
  induction calls using List.reverseRecOn with
  | nil => exact start
  | append_singleton prior call inductionHypothesis =>
      rw [journal_concat, state_concat]
      exact step prior call inductionHypothesis

/-- An inductive invariant holds after every run. -/
theorem invariant
    {mealy : Mealy σ α ρ}
    {holds : σ → Prop}
    (start : holds mealy.start)
    (step : ∀ state call, holds state → holds (mealy.respond state call).2)
    (calls : List α) :
    holds (mealy.state calls) :=
  run_induction (motive := fun _ state => holds state) start
    (fun calls call held => step (mealy.state calls) call held) calls

/-- Every entry of a journal is the answer to its call in the state that the
calls before it led to. -/
theorem exists_of_mem_journal
    {mealy : Mealy σ α ρ}
    {calls : List α}
    {entry : α × ρ}
    (member : entry ∈ mealy.journal calls) :
    ∃ before after, calls = before ++ entry.1 :: after ∧
      entry.2 = (mealy.respond (mealy.state before) entry.1).1 := by
  induction calls using List.reverseRecOn with
  | nil => simp at member
  | append_singleton prior call inductionHypothesis =>
      rw [journal_concat, List.mem_append, List.mem_singleton] at member
      rcases member with earlier | rfl
      · obtain ⟨before, after, split, answer⟩ := inductionHypothesis earlier
        exact ⟨before, after ++ [call], by simp [split], answer⟩
      · exact ⟨prior, [], rfl, rfl⟩

/-- A journal is about the calls of its run. -/
theorem mem_of_mem_journalFrom
    {mealy : Mealy σ α ρ}
    {state : σ}
    {calls : List α}
    {entry : α × ρ}
    (member : entry ∈ mealy.journalFrom state calls) :
    entry.1 ∈ calls := by
  induction calls generalizing state with
  | nil => cases member
  | cons call rest inductionHypothesis =>
      rcases List.mem_cons.mp member with rfl | inRest
      · exact List.mem_cons_self
      · exact List.mem_cons_of_mem _ (inductionHypothesis inRest)

/-- What one group of callers sees does not depend on the calls of the others.
The state of a run looks, to that group, like the state of the run of its own
calls, when its own calls keep the likeness and answer alike and every other
call keeps it. -/
theorem purge
    {mealy : Mealy σ α ρ}
    (mine : α → Bool)
    (alike : σ → σ → Prop)
    {calls : List α}
    (own : ∀ call ∈ calls, mine call = true → ∀ first second,
      alike first second →
        (mealy.respond first call).1 = (mealy.respond second call).1 ∧
          alike (mealy.respond first call).2 (mealy.respond second call).2)
    (foreign : ∀ call ∈ calls, mine call = false → ∀ first second,
      alike first second → alike (mealy.respond first call).2 second)
    {first second : σ}
    (before : alike first second) :
    ((mealy.journalFrom first calls).filter fun entry => mine entry.1) =
        mealy.journalFrom second (calls.filter mine) ∧
      alike (mealy.stateFrom first calls)
        (mealy.stateFrom second (calls.filter mine)) := by
  induction calls generalizing first second with
  | nil => exact ⟨rfl, before⟩
  | cons call rest inductionHypothesis =>
      have onward := @inductionHypothesis
        (fun other member => own other (List.mem_cons_of_mem _ member))
        (fun other member => foreign other (List.mem_cons_of_mem _ member))
      cases isMine : mine call with
      | true =>
          obtain ⟨sameAnswer, after⟩ :=
            own call List.mem_cons_self isMine first second before
          obtain ⟨sameJournal, last⟩ := onward after
          simp [journalFrom, stateFrom, isMine, sameAnswer, sameJournal, last]
      | false =>
          have after := foreign call List.mem_cons_self isMine first second
            before
          obtain ⟨sameJournal, last⟩ := onward after
          simp [journalFrom, stateFrom, isMine, sameJournal, last]

end Mealy

end AsystantGateway
