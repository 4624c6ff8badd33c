import Mathlib.Data.List.Forall2

/-!
# Bodies that keep their effects when they fail

A stateful body changes a state and can stop with an error, and what it did
before the error stays done. Judgements about such bodies compose along
sequences and loops, so a body is judged from its statements. `Follows` says
that the state after a body, failed or not, is related to the state before it
by a preorder. `Commutes` says that a body neither reads nor writes what a
change of the state touches. `Throws` says which errors it can stop with, and
`Does` that it stops with none and makes one change. `Fails` says that a body
stops with an error in every state.

`MadeOf` says which changes a body is made of, and the first three judgements
follow from what they say of these.
-/

namespace AsystantGateway

/-- State transformers that can stop with an error and keep the state. -/
abbrev Stateful (σ ε α : Type) := ExceptT ε (StateM σ) α

namespace Stateful

variable {σ ε α β : Type}

/-- The state that a body leaves. -/
def after (body : Stateful σ ε α) (state : σ) : σ :=
  (body.run.run state).2

/-- What a body answers. -/
def answer (body : Stateful σ ε α) (state : σ) : Except ε α :=
  (body.run.run state).1

/-- The state after a body is related to the state before it. -/
def Follows
    (relation : σ → σ → Prop)
    (body : Stateful σ ε α) : Prop :=
  ∀ state, relation state (after body state)

theorem after_bind
    (first : Stateful σ ε α)
    (next : α → Stateful σ ε β)
    (state : σ) :
    after (first >>= next) state =
      match answer first state with
      | .ok value => after (next value) (after first state)
      | .error _ => after first state := by
  unfold after answer
  rw [ExceptT.run_bind, StateT.run_bind]
  rcases first.run.run state with ⟨_ | _, middle⟩
  · rfl
  · rfl

theorem answer_bind
    (first : Stateful σ ε α)
    (next : α → Stateful σ ε β)
    (state : σ) :
    answer (first >>= next) state =
      match answer first state with
      | .ok value => answer (next value) (after first state)
      | .error error => .error error := by
  unfold after answer
  rw [ExceptT.run_bind, StateT.run_bind]
  rcases first.run.run state with ⟨_ | _, middle⟩
  · rfl
  · rfl

theorem run_modify_bind
    (change : σ → σ)
    (next : PUnit → Stateful σ ε β)
    (state : σ) :
    (modify change >>= next).run.run state =
      (next PUnit.unit).run.run (change state) := rfl

theorem run_get_bind
    (next : σ → Stateful σ ε β)
    (state : σ) :
    (get >>= next).run.run state = (next state).run.run state := rfl

namespace Follows

variable {relation : σ → σ → Prop}

theorem modify
    {change : σ → σ}
    (related : ∀ state, relation state (change state)) :
    Follows relation (modify change : Stateful σ ε PUnit) :=
  related

section Preorder

variable (reflexive : ∀ state, relation state state)

include reflexive

theorem pure (value : α) :
    Follows relation (Pure.pure value : Stateful σ ε α) :=
  reflexive

theorem get :
    Follows relation (MonadState.get : Stateful σ ε σ) :=
  reflexive

theorem throw (error : ε) :
    Follows relation (MonadExcept.throw error : Stateful σ ε α) :=
  reflexive

end Preorder

section Composition

variable
  (transitive : ∀ first second third, relation first second →
    relation second third → relation first third)

include transitive

theorem bind
    {first : Stateful σ ε α}
    {next : α → Stateful σ ε β}
    (firstFollows : Follows relation first)
    (nextFollows : ∀ value, Follows relation (next value)) :
    Follows relation (first >>= next) := by
  intro state
  rw [after_bind]
  cases answer first state with
  | error _ => exact firstFollows state
  | ok value =>
      exact transitive _ _ _ (firstFollows state)
        (nextFollows value (after first state))

end Composition

end Follows

/-- A body answers the same after a change of the state, and leaves the state
it would have left, changed. -/
def Commutes
    (change : σ → σ)
    (body : Stateful σ ε α) : Prop :=
  ∀ state, answer body (change state) = answer body state ∧
    after body (change state) = change (after body state)

namespace Commutes

variable {change : σ → σ}

theorem pure (value : α) :
    Commutes change (Pure.pure value : Stateful σ ε α) :=
  fun _ => ⟨rfl, rfl⟩

theorem throw (error : ε) :
    Commutes change (MonadExcept.throw error : Stateful σ ε α) :=
  fun _ => ⟨rfl, rfl⟩

theorem modify
    {other : σ → σ}
    (commute : ∀ state, other (change state) = change (other state)) :
    Commutes change (modify other : Stateful σ ε PUnit) :=
  fun state => ⟨rfl, commute state⟩

theorem bind
    {first : Stateful σ ε α}
    {next : α → Stateful σ ε β}
    (firstCommutes : Commutes change first)
    (nextCommutes : ∀ value, Commutes change (next value)) :
    Commutes change (first >>= next) := by
  intro state
  have ⟨sameAnswer, sameState⟩ := firstCommutes state
  rw [answer_bind, answer_bind, after_bind, after_bind, sameAnswer, sameState]
  cases answer first state with
  | error _ => exact ⟨rfl, rfl⟩
  | ok value => exact nextCommutes value (after first state)

end Commutes

/-- Every error that a body stops with is of one kind. -/
def Throws
    (kind : ε → Prop)
    (body : Stateful σ ε α) : Prop :=
  ∀ state error, answer body state = .error error → kind error

namespace Throws

variable {kind : ε → Prop}

theorem pure (value : α) :
    Throws kind (Pure.pure value : Stateful σ ε α) :=
  fun _ _ stopped => nomatch stopped

theorem modify (change : σ → σ) :
    Throws kind (modify change : Stateful σ ε PUnit) :=
  fun _ _ stopped => nomatch stopped

theorem throw
    {error : ε}
    (isKind : kind error) :
    Throws kind (MonadExcept.throw error : Stateful σ ε α) := by
  intro state other stopped
  cases stopped
  exact isKind

theorem bind
    {first : Stateful σ ε α}
    {next : α → Stateful σ ε β}
    (firstThrows : Throws kind first)
    (nextThrows : ∀ value, Throws kind (next value)) :
    Throws kind (first >>= next) := by
  intro state error stopped
  rw [answer_bind] at stopped
  split at stopped
  · exact nextThrows _ _ error stopped
  · rename_i isFirst
    cases stopped
    exact firstThrows state error isFirst

end Throws

/-- A body succeeds and makes exactly one change. -/
def Does
    (change : σ → σ)
    (body : Stateful σ ε PUnit) : Prop :=
  ∀ state, body.run.run state = (.ok PUnit.unit, change state)

namespace Does

theorem pure :
    Does id (Pure.pure PUnit.unit : Stateful σ ε PUnit) :=
  fun _ => rfl

theorem modify (change : σ → σ) :
    Does change (modify change : Stateful σ ε PUnit) :=
  fun _ => rfl

theorem bind
    {change other : σ → σ}
    {first second : Stateful σ ε PUnit}
    (firstDoes : Does change first)
    (secondDoes : Does other second) :
    Does (other ∘ change) (first >>= fun _ => second) := by
  intro state
  rw [ExceptT.run_bind, StateT.run_bind, firstDoes state]
  exact secondDoes (change state)

/-- A loop makes the changes of its items in order. -/
theorem forM
    {change : α → σ → σ}
    {body : β → Stateful σ ε PUnit}
    {changes : List α}
    {items : List β}
    (bodyDoes : List.Forall₂
      (fun index item => Does (change index) (body item)) changes items) :
    Does (fun state => changes.foldl (fun state index => change index state)
      state) (items.forM body) := by
  induction bodyDoes with
  | nil => exact pure
  | cons firstDoes _ restDoes => exact firstDoes.bind restDoes

theorem answer_eq
    {change : σ → σ}
    {body : Stateful σ ε PUnit}
    (does : Does change body)
    (state : σ) :
    answer body state = .ok PUnit.unit :=
  congrArg Prod.fst (does state)

theorem after_eq
    {change : σ → σ}
    {body : Stateful σ ε PUnit}
    (does : Does change body)
    (state : σ) :
    after body state = change state :=
  congrArg Prod.snd (does state)

end Does

/-- A body stops with one error, whatever the state. -/
def Fails
    (error : ε)
    (body : Stateful σ ε α) : Prop :=
  ∀ state, answer body state = .error error

namespace Fails

variable {error : ε}

theorem throw : Fails error (MonadExcept.throw error : Stateful σ ε α) :=
  fun _ => rfl

/-- What would come after an error does not matter. -/
theorem bind
    {first : Stateful σ ε α}
    (fails : Fails error first)
    (next : α → Stateful σ ε β) :
    Fails error (first >>= next) := by
  intro state
  rw [answer_bind, fails state]

/-- An error after a change. -/
theorem bind_of_does
    {change : σ → σ}
    {first second : Stateful σ ε PUnit}
    (does : Does change first)
    (fails : Fails error second) :
    Fails error (first >>= fun _ => second) := by
  intro state
  rw [answer_bind, does.answer_eq]
  exact fails (after first state)

/-- Either the items of a loop are all of a kind that succeeds, or the loop
fails at the first that is not. -/
theorem forM_cases
    {kind : β → α → Prop}
    {change : α → σ → σ}
    {body : β → Stateful σ ε PUnit}
    (does : ∀ item index, kind item index → Does (change index) (body item))
    (succeeds : ∀ item,
      (∃ index, kind item index) ∨ Fails error (body item))
    (items : List β) :
    (∃ indices, List.Forall₂ kind items indices) ∨
      Fails error (items.forM body) := by
  induction items with
  | nil => exact .inl ⟨[], .nil⟩
  | cons item rest inductionHypothesis =>
      rcases succeeds item with ⟨index, isKind⟩ | fails
      · rcases inductionHypothesis with ⟨indices, areKinds⟩ | restFails
        · exact .inl ⟨index :: indices, .cons isKind areKinds⟩
        · exact .inr (bind_of_does (does item index isKind) restFails)
      · exact .inr (fails.bind _)

end Fails

/-- A body is made of changes of one kind and stops with errors of one kind.
Which change comes next may depend on the values of the body, not on the
state. -/
inductive MadeOf
    (changes : (σ → σ) → Prop)
    (errors : ε → Prop) : ∀ {α : Type}, Stateful σ ε α → Prop
  | pure {α : Type} (value : α) :
      MadeOf changes errors (Pure.pure value : Stateful σ ε α)
  | throw {α : Type} {error : ε} (isError : errors error) :
      MadeOf changes errors (MonadExcept.throw error : Stateful σ ε α)
  | modify {change : σ → σ} (isChange : changes change) :
      MadeOf changes errors (modify change : Stateful σ ε PUnit)
  | bind {α β : Type}
      {first : Stateful σ ε α}
      {next : α → Stateful σ ε β}
      (firstMade : MadeOf changes errors first)
      (nextMade : ∀ value, MadeOf changes errors (next value)) :
      MadeOf changes errors (first >>= next)

namespace MadeOf

variable {changes : (σ → σ) → Prop} {errors : ε → Prop}

theorem forM
    {body : α → Stateful σ ε PUnit}
    (bodyMade : ∀ item, MadeOf changes errors (body item))
    (items : List α) :
    MadeOf changes errors (items.forM body) := by
  induction items with
  | nil => exact .pure PUnit.unit
  | cons item rest inductionHypothesis =>
      exact (bodyMade item).bind fun _ => inductionHypothesis

theorem follows
    {relation : σ → σ → Prop}
    (reflexive : ∀ state, relation state state)
    (transitive : ∀ first second third, relation first second →
      relation second third → relation first third)
    (related : ∀ change, changes change →
      ∀ state, relation state (change state))
    {body : Stateful σ ε α}
    (made : MadeOf changes errors body) :
    Follows relation body := by
  induction made with
  | pure value => exact .pure reflexive value
  | throw isError => exact .throw reflexive _
  | modify isChange => exact .modify (related _ isChange)
  | bind _ _ firstFollows nextFollows =>
      exact .bind transitive firstFollows nextFollows

theorem commutes
    {other : σ → σ}
    (commute : ∀ change, changes change →
      ∀ state, change (other state) = other (change state))
    {body : Stateful σ ε α}
    (made : MadeOf changes errors body) :
    Commutes other body := by
  induction made with
  | pure value => exact .pure value
  | throw isError => exact .throw _
  | modify isChange => exact .modify (commute _ isChange)
  | bind _ _ firstCommutes nextCommutes =>
      exact firstCommutes.bind nextCommutes

theorem throws
    {body : Stateful σ ε α}
    (made : MadeOf changes errors body) :
    Throws errors body := by
  induction made with
  | pure value => exact .pure value
  | throw isError => exact .throw isError
  | modify isChange => exact .modify _
  | bind _ _ firstThrows nextThrows => exact firstThrows.bind nextThrows

end MadeOf

end Stateful

end AsystantGateway
