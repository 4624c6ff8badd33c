import AsystantGateway.Library.Table

/-!
# Books of holds

A hold keeps an amount on some accounts until it is closed with a charge, which
may be smaller or larger than the amount. A book is its holds and nothing else:
what is held on an account is a sum over them. A hold is placed when its id is
new and every account stays within a limit; it is closed once, when every
account stays below a capacity.
-/

namespace AsystantGateway

/-- An amount on some accounts, and the charge it was closed with. -/
structure Hold (κ : Type u) (α : Type v) where
  id : κ
  accounts : List α
  amount : Int
  charge : Option Int

namespace Hold

variable {κ : Type u} {α : Type v}

/-- What a hold keeps: its charge once it is closed, its amount until then. -/
def stake (hold : Hold κ α) : Int :=
  hold.charge.getD hold.amount

/-- What a hold keeps on one account. -/
def stakeOn [DecidableEq α] (account : α) (hold : Hold κ α) : Int :=
  if account ∈ hold.accounts then hold.stake else 0

/-- The hold closed with a charge. -/
def close (charge : Int) (hold : Hold κ α) : Hold κ α :=
  { hold with charge := some charge }

theorem id_close (charge : Int) (hold : Hold κ α) :
    (hold.close charge).id = hold.id := rfl

end Hold

/-- Holds with distinct ids. -/
abbrev Book (κ : Type u) (α : Type v) := Table (Hold.id : Hold κ α → κ)

namespace Book

variable {κ : Type u} {α : Type v} [DecidableEq α]

/-- What is held on an account. -/
def held (book : Book κ α) (account : α) : Int :=
  book.total (Hold.stakeOn account)

/-- Why a hold is not placed. -/
inductive NotPlaced
  | known
  | exceeded

/-- Why a hold is not closed. -/
inductive NotClosed
  | unknown
  | closed
  | exceeded

variable [DecidableEq κ]

/-- Place a hold, keeping some accounts within limits. -/
def place
    (book : Book κ α)
    (hold : Hold κ α)
    (limits : List (α × Int)) : Except NotPlaced (Book κ α) :=
  match book.insert hold with
  | none => .error .known
  | some after =>
      if ∀ limit ∈ limits, held after limit.1 ≤ limit.2 then .ok after
      else .error .exceeded

/-- Close a hold with a charge, keeping its accounts below a capacity. -/
def close
    (book : Book κ α)
    (id : κ)
    (charge capacity : Int) : Except NotClosed (Book κ α) :=
  match book.find id with
  | none => .error .unknown
  | some hold =>
      if hold.charge.isSome then .error .closed
      else
        let after := book.update id (Hold.close charge) (Hold.id_close charge)
        if ∀ account ∈ hold.accounts, held after account < capacity then
          .ok after
        else
          .error .exceeded

variable {book after : Book κ α}

/-- An open hold raises its accounts by its amount. -/
theorem held_insert
    {hold : Hold κ α}
    (isOpen : hold.charge = none)
    (inserted : book.insert hold = some after)
    (account : α) :
    held after account = held book account +
      if account ∈ hold.accounts then hold.amount else 0 := by
  unfold held
  rw [Table.total_insert inserted, Int.add_comm]
  simp [Hold.stakeOn, Hold.stake, isOpen]

/-- Closing an open hold replaces its amount by the charge. -/
theorem held_update_close
    {hold : Hold κ α}
    {id : κ}
    (found : book.find id = some hold)
    (isOpen : hold.charge = none)
    (charge : Int)
    (account : α) :
    held (book.update id (Hold.close charge) (Hold.id_close charge)) account =
      held book account +
        if account ∈ hold.accounts then charge - hold.amount else 0 := by
  unfold held
  rw [Table.total_update found]
  simp only [Hold.stakeOn, Hold.stake, Hold.close, isOpen, Option.getD_none,
    Option.getD_some]
  by_cases member : account ∈ hold.accounts
  · simp only [member, if_true]
    omega
  · simp only [member, if_false]
    omega

/-- A hold with a known id is not placed. -/
theorem place_of_known
    {hold : Hold κ α}
    (known : book.find hold.id ≠ none)
    (limits : List (α × Int)) :
    book.place hold limits = .error .known := by
  unfold place
  rw [Table.insert_eq_none_iff.mpr known]

/-- A new hold is placed exactly when no limit of its accounts is exceeded. -/
theorem place_of_new
    {hold : Hold κ α}
    (isOpen : hold.charge = none)
    (inserted : book.insert hold = some after)
    {limits : List (α × Int)}
    (named : ∀ limit ∈ limits, limit.1 ∈ hold.accounts) :
    book.place hold limits =
      if ∀ limit ∈ limits, held book limit.1 + hold.amount ≤ limit.2 then
        .ok after
      else
        .error .exceeded := by
  have sameBound : (∀ limit ∈ limits, held after limit.1 ≤ limit.2) ↔
      ∀ limit ∈ limits, held book limit.1 + hold.amount ≤ limit.2 := by
    apply forall₂_congr
    intro limit member
    rw [held_insert isOpen inserted, if_pos (named limit member)]
  unfold place
  simp only [inserted, sameBound]

/-- A hold that is not known is not closed. -/
theorem close_of_unknown
    {id : κ}
    (unknown : book.find id = none)
    (charge capacity : Int) :
    book.close id charge capacity = .error .unknown := by
  unfold close
  rw [unknown]

/-- A hold is closed once. -/
theorem close_of_closed
    {hold : Hold κ α}
    {id : κ}
    (found : book.find id = some hold)
    (isClosed : hold.charge.isSome = true)
    (charge capacity : Int) :
    book.close id charge capacity = .error .closed := by
  unfold close
  simp only [found, isClosed, if_true]

/-- An open hold is closed exactly when its accounts have the capacity. -/
theorem close_of_open
    {hold : Hold κ α}
    {id : κ}
    (found : book.find id = some hold)
    (isOpen : hold.charge = none)
    (charge capacity : Int) :
    book.close id charge capacity =
      if ∀ account ∈ hold.accounts,
          held book account + (charge - hold.amount) < capacity
      then .ok (book.update id (Hold.close charge) (Hold.id_close charge))
      else .error .exceeded := by
  have sameBound : (∀ account ∈ hold.accounts,
      held (book.update id (Hold.close charge) (Hold.id_close charge))
        account < capacity) ↔
      ∀ account ∈ hold.accounts,
        held book account + (charge - hold.amount) < capacity := by
    apply forall₂_congr
    intro account member
    rw [held_update_close found isOpen, if_pos member]
  unfold close
  simp only [found, isOpen, Option.isSome_none, Bool.false_eq_true, if_false,
    sameBound]

end Book

end AsystantGateway
