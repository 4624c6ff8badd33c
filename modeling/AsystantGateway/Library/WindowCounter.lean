import Mathlib.Data.List.Induction
import Mathlib.Order.Basic

/-!
# Counters of fixed windows

A limiter gives every caller a window of a fixed width that begins with an
admitted request, and admits a bounded number of requests in it. Seen from one
caller, whatever else the limiter does at a time leaves the caller's window
alone until it has expired.

Two things follow for any run. In a window the first requests are admitted and
no others. And an interval of one width meets at most two windows, of which the
earlier one was opened before the interval, so fewer than twice the limit are
admitted in it.
-/

namespace AsystantGateway

/-- The window of one caller. -/
structure WindowCounter where
  start : Nat
  count : Nat
  deriving DecidableEq

namespace WindowCounter

/-- The window that is left of one at a time. -/
def live
    (width now : Nat)
    (window : Option WindowCounter) : Option WindowCounter :=
  window.filter fun window => now - window.start < width

/-- What can happen at a time, seen from one caller: something that is not its
request, or a request of its that is admitted or refused. -/
inductive Step
    (width limit now : Nat)
    (before : Option WindowCounter) :
    Option Bool → Option WindowCounter → Prop
  /-- Another caller's request. -/
  | foreign : Step width limit now before none (live width now before)
  /-- The first request of a window. -/
  | opened
      (closed : live width now before = none) :
      Step width limit now before (some true) (some ⟨now, 1⟩)
  /-- A request while there is no room for another window. -/
  | crowded
      (closed : live width now before = none) :
      Step width limit now before (some false) none
  /-- A further request of a window. -/
  | counted
      (window : WindowCounter)
      (isLive : live width now before = some window)
      (room : window.count < limit) :
      Step width limit now before (some true)
        (some ⟨window.start, window.count + 1⟩)
  /-- A request of a window that is full. -/
  | full
      (window : WindowCounter)
      (isLive : live width now before = some window)
      (noRoom : limit ≤ window.count) :
      Step width limit now before (some false) (some window)

/-- A list of timed happenings that takes one window to another. -/
inductive Run
    (width limit : Nat) :
    Option WindowCounter → List (Nat × Option Bool) →
      Option WindowCounter → Prop
  | nil
      (window : Option WindowCounter) :
      Run width limit window [] window
  | cons
      {before middle after : Option WindowCounter}
      {now : Nat}
      {outcome : Option Bool}
      {rest : List (Nat × Option Bool)}
      (first : Step width limit now before outcome middle)
      (others : Run width limit middle rest after) :
      Run width limit before ((now, outcome) :: rest) after

variable
  {width limit : Nat}
  {before after : Option WindowCounter}
  {window : WindowCounter}
  {events : List (Nat × Option Bool)}

theorem live_of_lt
    {now : Nat}
    (fresh : now - window.start < width) :
    live width now (some window) = some window := by
  simp [live, fresh]

theorem live_eq_some_iff
    {now : Nat} :
    live width now before = some window ↔
      before = some window ∧ now - window.start < width := by
  simp [live, Option.filter_eq_some_iff]

/-- The answers to the caller's own requests. -/
def answers (events : List (Nat × Option Bool)) : List Bool :=
  events.filterMap Prod.snd

/-- The answers of a window with a number of requests left. -/
def firstAdmitted (left requests : Nat) : List Bool :=
  List.replicate (min left requests) true ++
    List.replicate (requests - left) false

theorem firstAdmitted_succ_of_pos
    {left : Nat}
    (positive : 0 < left)
    (requests : Nat) :
    firstAdmitted left (requests + 1) =
      true :: firstAdmitted (left - 1) requests := by
  obtain ⟨rest, rfl⟩ := Nat.exists_eq_succ_of_ne_zero (by omega : left ≠ 0)
  simp [firstAdmitted, List.replicate_succ]

theorem firstAdmitted_zero_succ (requests : Nat) :
    firstAdmitted 0 (requests + 1) = false :: firstAdmitted 0 requests := by
  simp [firstAdmitted, List.replicate_succ]

/-- Within a window the caller's first requests are admitted, as many as are
left of the limit, and no others, whatever happens in between. -/
theorem answers_eq_firstAdmitted
    (positive : 0 < width)
    (run : Run width limit (some window) events after)
    (within : ∀ event ∈ events, event.1 < window.start + width) :
    answers events =
      firstAdmitted (limit - window.count) (answers events).length := by
  generalize isBefore : some window = before at run
  induction run generalizing window with
  | nil => simp [answers, firstAdmitted]
  | @cons before middle after now outcome rest first others
      inductionHypothesis =>
      subst isBefore
      obtain ⟨isFirst, restWithin⟩ := List.forall_mem_cons.mp within
      have isLive : live width now (some window) = some window :=
        live_of_lt (by simp only at isFirst; omega)
      cases first with
      | foreign =>
          simpa [answers] using inductionHypothesis restWithin isLive.symm
      | opened closed =>
          rw [isLive] at closed
          cases closed
      | crowded closed =>
          rw [isLive] at closed
          cases closed
      | counted other isOther room =>
          obtain rfl := Option.some.inj (isLive.symm.trans isOther)
          have onward := @inductionHypothesis
            ⟨window.start, window.count + 1⟩ restWithin rfl
          simp only [answers, List.filterMap_cons_some (f := Prod.snd)
            (a := (now, some true)) rfl, List.length_cons] at onward ⊢
          rw [firstAdmitted_succ_of_pos (by omega), Nat.sub_sub, ← onward]
      | full other isOther noRoom =>
          obtain rfl := Option.some.inj (isLive.symm.trans isOther)
          have onward := inductionHypothesis restWithin rfl
          have none : limit - window.count = 0 := by omega
          simp only [answers, List.filterMap_cons_some (f := Prod.snd)
            (a := (now, some false)) rfl, List.length_cons, none] at onward ⊢
          rw [firstAdmitted_zero_succ, ← onward]

/-- The admitted requests of the interval of one width that begins at a
time. -/
def admittedIn
    (width begin_ : Nat)
    (events : List (Nat × Option Bool)) : Nat :=
  events.countP fun event =>
    event.2 = some true ∧ begin_ ≤ event.1 ∧ event.1 < begin_ + width

theorem admittedIn_singleton
    (width begin_ now : Nat)
    (outcome : Option Bool) :
    admittedIn width begin_ [(now, outcome)] ≤ 1 ∧
      (admittedIn width begin_ [(now, outcome)] ≠ 0 →
        begin_ ≤ now ∧ now < begin_ + width) := by
  unfold admittedIn
  rw [List.countP_singleton]
  split
  case isTrue admitted => exact ⟨Nat.le_refl 1, fun _ => by simp_all⟩
  case isFalse => exact ⟨Nat.zero_le 1, fun some => absurd rfl some⟩

/-- What is known of the requests admitted in an interval so far, at the time
of the last of all happenings. The first request of a window that was opened
before the interval is not among them. -/
structure Bounded
    (width limit begin_ admitted last : Nat)
    (window : Option WindowCounter) : Prop where
  total : admitted ≤ 2 * limit - 1
  early : last < begin_ → admitted = 0
  open_ : ∀ opened, window = some opened →
    opened.start ≤ last ∧ opened.count ≤ limit ∧
      (opened.start < begin_ → admitted < opened.count) ∧
      (begin_ ≤ opened.start → opened.start < begin_ + width →
        admitted ≤ limit - 1 + opened.count)
  closed : window = none → last < begin_ + width → admitted ≤ limit - 1

namespace Bounded

variable {begin_ admitted last now : Nat}

/-- Time passes. -/
theorem wait
    (bounded : Bounded width limit begin_ admitted last before)
    (later : last ≤ now) :
    Bounded width limit begin_ admitted now (live width now before) where
  total := bounded.total
  early isEarly := bounded.early (Nat.lt_of_le_of_lt later isEarly)
  open_ opened isOpen := by
    obtain ⟨isBefore, -⟩ := live_eq_some_iff.mp isOpen
    obtain ⟨started, counted⟩ := bounded.open_ opened isBefore
    exact ⟨Nat.le_trans started later, counted⟩
  closed isClosed within := by
    cases before with
    | none => exact bounded.closed rfl (Nat.lt_of_le_of_lt later within)
    | some opened =>
        obtain ⟨started, few, outside, -⟩ := bounded.open_ opened rfl
        have expired : width ≤ now - opened.start := by
          by_contra fresh
          rw [live_of_lt (Nat.not_le.mp fresh)] at isClosed
          cases isClosed
        have := outside (by omega)
        omega

/-- One happening keeps the bound. -/
theorem step
    (positive : 0 < limit)
    {outcome : Option Bool}
    (bounded : Bounded width limit begin_ admitted last before)
    (later : last ≤ now)
    (taken : Step width limit now before outcome after) :
    Bounded width limit begin_
      (admitted + admittedIn width begin_ [(now, outcome)]) now after := by
  have waited := bounded.wait later
  have early := waited.early
  obtain ⟨atMostOne, onlyWithin⟩ :=
    admittedIn_singleton width begin_ now outcome
  cases taken with
  | foreign => simpa [admittedIn] using waited
  | crowded isClosed =>
      rw [isClosed] at waited
      simpa [admittedIn] using waited
  | full window isLive noRoom =>
      rw [isLive] at waited
      simpa [admittedIn] using waited
  | opened isClosed =>
      have few := waited.closed isClosed
      have total := waited.total
      refine ⟨by omega, by omega, ?_, fun absent => nomatch absent⟩
      rintro opened ⟨⟩
      exact ⟨Nat.le_refl now, positive, by simp only; omega,
        by simp only; omega⟩
  | counted window isLive room =>
      obtain ⟨started, few, outside, inside⟩ := waited.open_ window isLive
      have total := waited.total
      refine ⟨by omega, by omega, ?_, fun absent => nomatch absent⟩
      rintro opened ⟨⟩
      exact ⟨started, room, by simp only; omega, by simp only; omega⟩

end Bounded

/-- Fewer than twice the limit are admitted in any interval of one width. -/
theorem admittedIn_le
    (positive : 0 < limit)
    (run : Run width limit none events after)
    (ordered : events.Pairwise fun first second => first.1 ≤ second.1)
    (begin_ : Nat) :
    admittedIn width begin_ events ≤ 2 * limit - 1 := by
  suffices general : ∀ {window admitted last},
      Bounded width limit begin_ admitted last window →
        (∀ event ∈ events, last ≤ event.1) →
          Run width limit window events after →
            admitted + admittedIn width begin_ events ≤ 2 * limit - 1 by
    have start : Bounded width limit begin_ 0 0 none := {
      total := Nat.zero_le _
      early := fun _ => rfl
      open_ := fun _ absent => nomatch absent
      closed := fun _ _ => Nat.zero_le _ }
    simpa using general start (fun _ _ => Nat.zero_le _) run
  clear run
  induction events with
  | nil =>
      intro window admitted last bounded _ _
      exact bounded.total
  | cons event rest inductionHypothesis =>
      intro window admitted last bounded later run
      obtain ⟨firstBefore, restOrdered⟩ := List.pairwise_cons.mp ordered
      cases run with
      | cons first others =>
          have onward := bounded.step positive
            (later _ List.mem_cons_self) first
          have whole := inductionHypothesis restOrdered onward firstBefore
            others
          rw [Nat.add_assoc] at whole
          simpa [admittedIn, List.countP_cons, Nat.add_comm] using whole

end WindowCounter

end AsystantGateway
