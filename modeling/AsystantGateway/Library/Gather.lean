import Mathlib.Data.List.Basic
import Mathlib.Data.List.Sort

/-!
# Pieces gathered by key

Pieces arrive for several keys, in any interleaving, and each one is appended
to what has arrived for its key. What is gathered for a key is made of its own
pieces in their order, whatever arrives for other keys between them.
-/

namespace AsystantGateway
namespace Gather

variable {κ α : Type} [DecidableEq κ] (append : α → α → α) (empty : α)

/-- Append a piece to what has arrived for its key. -/
def add
    (table : κ → Option α)
    (piece : κ × α) : κ → Option α :=
  Function.update table piece.1
    (some (append ((table piece.1).getD empty) piece.2))

/-- Append pieces in order. -/
def addAll
    (table : κ → Option α)
    (pieces : List (κ × α)) : κ → Option α :=
  pieces.foldl (add append empty) table

/-- The pieces for one key, in order. -/
def piecesOf
    (key : κ)
    (pieces : List (κ × α)) : List α :=
  (pieces.filter fun piece => piece.1 = key).map Prod.snd

theorem piecesOf_cons_self
    (key : κ)
    (piece : α)
    (rest : List (κ × α)) :
    piecesOf key ((key, piece) :: rest) = piece :: piecesOf key rest := by
  simp [piecesOf]

theorem piecesOf_cons_of_ne
    {key other : κ}
    (different : other ≠ key)
    (piece : α)
    (rest : List (κ × α)) :
    piecesOf key ((other, piece) :: rest) = piecesOf key rest := by
  simp [piecesOf, different]

theorem addAll_cons
    (table : κ → Option α)
    (piece : κ × α)
    (rest : List (κ × α)) :
    addAll append empty table (piece :: rest) =
      addAll append empty (add append empty table piece) rest := rfl

theorem addAll_append
    (table : κ → Option α)
    (first second : List (κ × α)) :
    addAll append empty table (first ++ second) =
      addAll append empty (addAll append empty table first) second :=
  List.foldl_append

/-- A key for which pieces arrive holds these, after what it held before; the
others hold what they held. -/
theorem addAll_apply
    (table : κ → Option α)
    (pieces : List (κ × α))
    (key : κ) :
    addAll append empty table pieces key =
      if piecesOf key pieces = [] then
        table key
      else
        some ((piecesOf key pieces).foldl append ((table key).getD empty)) := by
  induction pieces generalizing table with
  | nil => rfl
  | cons piece rest inductionHypothesis =>
      obtain ⟨other, value⟩ := piece
      rw [addAll_cons, inductionHypothesis]
      by_cases isKey : other = key
      · subst isKey
        rw [piecesOf_cons_self, add, Function.update_self,
          if_neg (List.cons_ne_nil _ _), List.foldl_cons, Option.getD_some]
        split
        · rename_i noMore
          rw [noMore, List.foldl_nil]
        · rfl
      · rw [piecesOf_cons_of_ne isKey, add,
          Function.update_of_ne (Ne.symm isKey)]

end Gather

/-- The items at increasing positions are in the order of the positions. -/
theorem filterMap_finRange
    {count : Nat}
    {table : Fin count → Option α}
    {items : Fin count → α}
    {indices : List (Fin count)}
    (increasing : indices.Pairwise (· < ·))
    (isTable : ∀ index, table index =
      if index ∈ indices then some (items index) else none) :
    (List.finRange count).filterMap table = indices.map items := by
  have kept : (List.finRange count).filter (· ∈ indices) = indices := by
    apply List.Pairwise.eq_of_mem_iff
      ((List.pairwise_lt_finRange count).filter _) increasing
    intro index
    simp
  have isChoice : table = fun index =>
      if index ∈ indices then some (items index) else none := by
    funext index
    exact isTable index
  calc (List.finRange count).filterMap table
      = ((List.finRange count).filter (· ∈ indices)).map items := by
        rw [isChoice]
        induction List.finRange count with
        | nil => rfl
        | cons index rest inductionHypothesis =>
            by_cases isIndex : index ∈ indices
            · simp [isIndex, inductionHypothesis]
            · simp [isIndex, inductionHypothesis]
    _ = indices.map items := by rw [kept]

end AsystantGateway
