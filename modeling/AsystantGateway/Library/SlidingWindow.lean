import Mathlib.Data.List.Induction
import Mathlib.Algebra.Order.Ring.Int

/-!
# Events of a sliding window

An event counts for a fixed width of time. A list of their ends is kept, from
which ended ones are dropped now and then, and an event is let happen only
while few of those kept still count. Then few events happen in any interval of
that width, because all of them but the last still count when the last one
happens.
-/

namespace AsystantGateway
namespace SlidingWindow

/-- The events that still count at a time. -/
def liveAt (width now : Int) (events : List Int) : Nat :=
  events.countP fun event => now < event + width

/-- The events of an interval of one width. -/
def within (width begin_ : Int) (events : List Int) : Nat :=
  events.countP fun event => begin_ ≤ event ∧ event < begin_ + width

/-- Every event came while fewer than a number of the earlier ones still
counted. -/
inductive Sparse (width : Int) (limit : Nat) : List Int → Prop
  | nil : Sparse width limit []
  | concat
      {events : List Int}
      {event : Int}
      (earlier : Sparse width limit events)
      (few : liveAt width event events < limit) :
      Sparse width limit (events ++ [event])

variable
  {width last now : Int}
  {limit : Nat}
  {events kept : List Int}

/-- An interval of one width has no more events than the limit. -/
theorem within_le
    (sparse : Sparse width limit events)
    (begin_ : Int) :
    within width begin_ events ≤ limit := by
  induction sparse with
  | nil => exact Nat.zero_le limit
  | @concat events event earlier few inductionHypothesis =>
      unfold within at inductionHypothesis ⊢
      rw [List.countP_append, List.countP_singleton]
      split
      case isTrue inside =>
        -- What is in the interval so far still counts at its last event.
        have counted : within width begin_ events ≤
            liveAt width event events := by
          apply List.countP_mono_left
          intro other _ isInside
          simp only [decide_eq_true_eq] at isInside inside ⊢
          omega
        unfold within at counted
        omega
      case isFalse => exact inductionHypothesis

/-- What is kept of the events at a time: ends of some of them, among them
those of all that still count then or later. -/
structure Remembers
    (width last : Int)
    (events kept : List Int) : Prop where
  sublist : kept.Sublist (events.map (· + width))
  complete : ∀ now, last ≤ now →
    liveAt width now events = kept.countP fun end_ => now < end_

namespace Remembers

theorem start (width last : Int) : Remembers width last [] [] :=
  ⟨.refl _, fun _ _ => rfl⟩

/-- Ends that have passed can be dropped. -/
theorem drop
    {fewer : List Int}
    (remembers : Remembers width last events kept)
    (later : last ≤ now)
    (sublist : fewer.Sublist kept)
    (keeps : ∀ time, now ≤ time →
      (fewer.countP fun end_ => time < end_) =
        kept.countP fun end_ => time < end_) :
    Remembers width now events fewer where
  sublist := sublist.trans remembers.sublist
  complete time isLater := by
    rw [keeps time isLater]
    exact remembers.complete time (later.trans isLater)

/-- An event is added with its end. -/
theorem add
    (remembers : Remembers width last events kept)
    (event : Int) :
    Remembers width last (events ++ [event]) (kept ++ [event + width]) where
  sublist := by
    rw [List.map_append]
    exact remembers.sublist.append_right _
  complete time isLater := by
    unfold liveAt
    rw [List.countP_append, List.countP_append, List.countP_singleton,
      List.countP_singleton]
    have complete := remembers.complete time isLater
    unfold liveAt at complete
    rw [complete]

/-- No more events still count than are kept. -/
theorem liveAt_le
    (remembers : Remembers width last events kept)
    (later : last ≤ now) :
    liveAt width now events ≤ kept.length := by
  rw [remembers.complete now later]
  exact List.countP_le_length

/-- When all that is kept still counted at a time, no more is kept than the
events that did. -/
theorem length_le
    (remembers : Remembers width last events kept)
    (live : ∀ end_ ∈ kept, now < end_) :
    kept.length ≤ liveAt width now events := by
  have all : kept.length = kept.countP fun end_ => now < end_ := by
    symm
    rw [List.countP_eq_length]
    simpa using live
  rw [all]
  refine (remembers.sublist.countP_le).trans ?_
  rw [List.countP_map]
  exact Nat.le_refl _

end Remembers

end SlidingWindow
end AsystantGateway
