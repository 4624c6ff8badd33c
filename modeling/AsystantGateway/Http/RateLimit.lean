import AsystantGateway.Http.Admission
import AsystantGateway.Library.Machine
import AsystantGateway.Library.WindowCounter

/-!
# The rate limit of a peer

The guard keeps one table for all peers, drops windows while serving others and
refuses peers when the table is full. Seen from one peer and kind it is a
counter of windows: `step_windowOf` says that every call, whoever makes it, is
a step of that counter. So what the counter guarantees holds of every run of
calls, and a peer's answers in a window depend on its own calls alone.
-/

namespace AsystantGateway

/-- A call of the guard, with the time it reads. -/
structure AdmissionCall where
  now : Nat
  peer : IpAddr
  exchange : Bool
  deriving DecidableEq

/-- What the call is counted by. -/
def AdmissionCall.key (call : AdmissionCall) : IpAddr × Bool :=
  (call.peer, call.exchange)

/-- The guard as a machine that answers calls. -/
def admissionGuard :
    Mealy Admission AdmissionCall (Except AppError Unit) where
  start := ⟨Table.empty⟩
  respond admission call :=
    admission.check call.now call.peer call.exchange

/-- A window with one more request. -/
def Window.next (window : Window) : Window :=
  { window with count := window.count + 1 }

theorem Window.next_key (window : Window) : window.next.key = window.key := rfl

namespace Admission

/-- The windows that are left at a time. -/
def live (now : Nat) (admission : Admission) : Table Window.key :=
  admission.windows.retain fun window => now - window.start < Window.nanos

/-- The ways in which a call is answered. -/
inductive Answered
    (admission : Admission)
    (call : AdmissionCall) : Except AppError Unit × Admission → Prop
  | crowded
      (absent : (admission.live call.now).find call.key = none)
      (noRoom : maxWindows ≤ (admission.live call.now).rows.length) :
      Answered admission call (.error .limited, ⟨admission.live call.now⟩)
  | opened
      (absent : (admission.live call.now).find call.key = none)
      (room : (admission.live call.now).rows.length < maxWindows)
      (after : Table Window.key)
      (grown : after.rows.length =
        (admission.live call.now).rows.length + 1)
      (finds : ∀ key, after.find key =
        if key = call.key then some {
          peer := call.peer
          exchange := call.exchange
          start := call.now
          count := 1 }
        else (admission.live call.now).find key) :
      Answered admission call (.ok (), ⟨after⟩)
  | full
      (window : Window)
      (present : (admission.live call.now).find call.key = some window)
      (noRoom : limit call.exchange ≤ window.count) :
      Answered admission call (.error .limited, ⟨admission.live call.now⟩)
  | counted
      (window : Window)
      (present : (admission.live call.now).find call.key = some window)
      (room : window.count < limit call.exchange)
      (after : Table Window.key)
      (same : after.rows.length = (admission.live call.now).rows.length)
      (finds : ∀ key, after.find key =
        if key = call.key then some window.next
        else (admission.live call.now).find key) :
      Answered admission call (.ok (), ⟨after⟩)

theorem limit_pos (exchange : Bool) : 0 < limit exchange := by
  cases exchange <;> decide

/-- Every call is answered in one of the ways. -/
theorem answered
    (admission : Admission)
    (call : AdmissionCall) :
    admission.Answered call (admissionGuard.respond admission call) := by
  let fresh : Window := {
    peer := call.peer
    exchange := call.exchange
    start := call.now
    count := 0 }
  have freshKey : Window.key fresh = call.key := rfl
  have computed : admissionGuard.respond admission call =
      if (admission.live call.now).find call.key = none ∧
          (admission.live call.now).rows.length ≥ maxWindows then
        (.error .limited, ⟨admission.live call.now⟩)
      else if (((admission.live call.now).find call.key).getD fresh).count ≥
          limit call.exchange then
        (.error .limited,
          ⟨(admission.live call.now).insertOrIgnore fresh⟩)
      else
        (.ok (), ⟨((admission.live call.now).insertOrIgnore fresh).update
          call.key Window.next Window.next_key⟩) := rfl
  rw [computed]
  cases found : (admission.live call.now).find call.key with
  | none =>
      split
      case isTrue crowds => exact .crowded found crowds.2
      case isFalse fits =>
        have room : (admission.live call.now).rows.length < maxWindows :=
          Nat.not_le.mp fun crowds => fits ⟨rfl, crowds⟩
        rw [Option.getD_none, if_neg (UInt32.not_le.mpr (limit_pos _))]
        refine .opened found room _ ?_ fun key => ?_
        · rw [Table.length_update, Table.length_insertOrIgnore found]
        · rw [Table.find_update, Table.find_insertOrIgnore, freshKey]
          by_cases isKey : key = call.key
          · subst isKey
            simp [found, fresh, Window.next]
          · rw [if_neg isKey, if_neg isKey, if_neg (Ne.symm isKey)]
  | some window =>
      have present : (admission.live call.now).find (Window.key fresh) ≠
          none := by
        rw [freshKey, found]
        exact Option.some_ne_none window
      rw [Table.insertOrIgnore_of_present present, Option.getD_some,
        if_neg (by simp)]
      split
      case isTrue isFull => exact .full window found isFull
      case isFalse room =>
        refine .counted window found (UInt32.not_le.mp room) _ ?_ fun key => ?_
        · rw [Table.length_update]
        · rw [Table.find_update]
          by_cases isKey : key = call.key
          · subst isKey
            simp [found]
          · rw [if_neg isKey, if_neg isKey]

/-! ## One peer's counter -/

/-- The counter of one peer and kind. -/
def windowOf
    (admission : Admission)
    (key : IpAddr × Bool) : Option WindowCounter :=
  (admission.windows.find key).map fun window =>
    ⟨window.start, window.count.toNat⟩

theorem live_windowOf
    (admission : Admission)
    (now : Nat)
    (key : IpAddr × Bool) :
    WindowCounter.live Window.nanos now (admission.windowOf key) =
      ((admission.live now).find key).map fun window =>
        ⟨window.start, window.count.toNat⟩ := by
  unfold windowOf live WindowCounter.live
  rw [Table.find_retain]
  cases admission.windows.find key with
  | none => rfl
  | some window =>
      by_cases fresh : now - window.start < Window.nanos
      · simp [Option.filter, fresh]
      · simp [Option.filter, fresh]

end Admission

/-- What an answered call is to one peer and kind. -/
def outcomeFor
    (key : IpAddr × Bool)
    (entry : AdmissionCall × Except AppError Unit) : Option Bool :=
  if entry.1.key = key then some entry.2.isOk else none

/-- The most requests that a window of a key admits. -/
def limitOf (key : IpAddr × Bool) : Nat :=
  (Admission.limit key.2).toNat

theorem limitOf_pos (key : IpAddr × Bool) : 0 < limitOf key :=
  UInt32.lt_iff_toNat_lt.mp (Admission.limit_pos key.2)

theorem toNat_next_count
    {window : Window}
    {exchange : Bool}
    (room : window.count < Admission.limit exchange) :
    window.next.count.toNat = window.count.toNat + 1 := by
  have few : (Admission.limit exchange).toNat ≤ 120 := by
    cases exchange <;> decide
  have less := UInt32.lt_iff_toNat_lt.mp room
  unfold Window.next
  rw [UInt32.toNat_add]
  change (window.count.toNat + 1) % 2 ^ 32 = _
  omega

/-- Every call is a step of every counter. -/
theorem step_windowOf
    (admission : Admission)
    (call : AdmissionCall)
    (key : IpAddr × Bool) :
    WindowCounter.Step Window.nanos (limitOf key) call.now
      (admission.windowOf key)
      (outcomeFor key (call, (admissionGuard.respond admission call).1))
      ((admissionGuard.respond admission call).2.windowOf key) := by
  have isLive := admission.live_windowOf call.now key
  have unchanged :
      (Admission.mk (admission.live call.now)).windowOf key =
        WindowCounter.live Window.nanos call.now (admission.windowOf key) :=
    isLive.symm
  generalize computed : admissionGuard.respond admission call = answer
  have answered := admission.answered call
  rw [computed] at answered
  unfold outcomeFor
  by_cases isOwn : call.key = key
  · subst isOwn
    simp only [if_true]
    cases answered with
    | crowded absent noRoom =>
        rw [absent] at isLive
        rw [unchanged, isLive]
        exact .crowded isLive
    | opened absent room after grown finds =>
        rw [absent] at isLive
        have opened := finds call.key
        rw [if_pos rfl] at opened
        simp only [Admission.windowOf, opened]
        exact .opened isLive
    | full window present noRoom =>
        rw [present] at isLive
        rw [unchanged, isLive]
        exact .full _ isLive (UInt32.le_iff_toNat_le.mp noRoom)
    | counted window present room after same finds =>
        rw [present] at isLive
        have counted := finds call.key
        rw [if_pos rfl] at counted
        simp only [Admission.windowOf, counted, Option.map_some,
          toNat_next_count room]
        exact .counted _ isLive (UInt32.lt_iff_toNat_lt.mp room)
  · simp only [isOwn, if_false]
    have foreign (after : Table Window.key)
        (finds : after.find key = (admission.live call.now).find key) :
        WindowCounter.Step Window.nanos (limitOf key) call.now
          (admission.windowOf key) none
          ((Admission.mk after).windowOf key) := by
      have same : (Admission.mk after).windowOf key =
          WindowCounter.live Window.nanos call.now
            (admission.windowOf key) := by
        rw [isLive, ← finds]
        rfl
      rw [same]
      exact .foreign
    cases answered with
    | crowded => exact foreign _ rfl
    | full => exact foreign _ rfl
    | opened absent room after grown finds =>
        exact foreign after (by rw [finds, if_neg (Ne.symm isOwn)])
    | counted window present room after same finds =>
        exact foreign after (by rw [finds, if_neg (Ne.symm isOwn)])

/-- What a run of calls is to one peer and kind. -/
def happenings
    (key : IpAddr × Bool)
    (journal : List (AdmissionCall × Except AppError Unit)) :
    List (Nat × Option Bool) :=
  journal.map fun entry => (entry.1.now, outcomeFor key entry)

/-- Every run of calls is a run of every counter. -/
theorem run_windowOf
    (key : IpAddr × Bool)
    (admission : Admission)
    (calls : List AdmissionCall) :
    WindowCounter.Run Window.nanos (limitOf key) (admission.windowOf key)
      (happenings key (admissionGuard.journalFrom admission calls))
      ((admissionGuard.stateFrom admission calls).windowOf key) := by
  induction calls generalizing admission with
  | nil => exact .nil _
  | cons call rest inductionHypothesis =>
      exact .cons (step_windowOf admission call key) (inductionHypothesis _)

/-! ## What a peer is answered -/

/-- The answers to the calls of one peer and kind. -/
def ownAnswers
    (key : IpAddr × Bool)
    (journal : List (AdmissionCall × Except AppError Unit)) :
    List (Except AppError Unit) :=
  (journal.filter fun entry => entry.1.key = key).map Prod.snd

/-- The calls of one peer and kind. -/
def ownCalls
    (key : IpAddr × Bool)
    (calls : List AdmissionCall) : List AdmissionCall :=
  calls.filter fun call => call.key = key

/-- The first calls are admitted, as many as are left, and no others. -/
def firstAnswers (left requests : Nat) : List (Except AppError Unit) :=
  List.replicate (min left requests) (.ok ()) ++
    List.replicate (requests - left) (.error .limited)

/-- The requests of one peer and kind that are admitted from a time on for the
width of a window. -/
def admittedFrom
    (key : IpAddr × Bool)
    (begin_ : Nat)
    (journal : List (AdmissionCall × Except AppError Unit)) : Nat :=
  journal.countP fun entry =>
    entry.1.key = key ∧ entry.2.isOk ∧
      begin_ ≤ entry.1.now ∧ entry.1.now < begin_ + Window.nanos

/-- An answer by what it is to the caller's counter. -/
def verdict (admitted : Bool) : Except AppError Unit :=
  if admitted then .ok () else .error .limited

/-- A refusal is always the same. -/
theorem verdict_isOk
    (admission : Admission)
    (call : AdmissionCall) :
    verdict (admissionGuard.respond admission call).1.isOk =
      (admissionGuard.respond admission call).1 := by
  generalize computed : admissionGuard.respond admission call = answer
  have answered := admission.answered call
  rw [computed] at answered
  cases answered with
  | crowded => rfl
  | opened => rfl
  | full => rfl
  | counted => rfl

theorem ownAnswers_eq_map_answers
    (key : IpAddr × Bool)
    (admission : Admission)
    (calls : List AdmissionCall) :
    ownAnswers key (admissionGuard.journalFrom admission calls) =
      (WindowCounter.answers (happenings key
        (admissionGuard.journalFrom admission calls))).map verdict := by
  induction calls generalizing admission with
  | nil => rfl
  | cons call rest inductionHypothesis =>
      have others :=
        inductionHypothesis (admissionGuard.respond admission call).2
      unfold ownAnswers WindowCounter.answers happenings at others ⊢
      by_cases isOwn : call.key = key
      · simpa [Mealy.journalFrom, outcomeFor, isOwn, verdict_isOk] using others
      · simpa [Mealy.journalFrom, outcomeFor, isOwn] using others

theorem length_ownAnswers
    (key : IpAddr × Bool)
    (admission : Admission)
    (calls : List AdmissionCall) :
    (ownAnswers key (admissionGuard.journalFrom admission calls)).length =
      (ownCalls key calls).length := by
  induction calls generalizing admission with
  | nil => rfl
  | cons call rest inductionHypothesis =>
      have others :=
        inductionHypothesis (admissionGuard.respond admission call).2
      unfold ownAnswers ownCalls at others ⊢
      by_cases isOwn : call.key = key
      · simpa [Mealy.journalFrom, isOwn] using others
      · simpa [Mealy.journalFrom, isOwn] using others

/-- While the window of a peer lasts its answers are told by the count it
stands at and the number of its own calls. -/
theorem ownAnswers_eq_firstAnswers
    {key : IpAddr × Bool}
    {admission : Admission}
    {window : WindowCounter}
    {calls : List AdmissionCall}
    (present : admission.windowOf key = some window)
    (within : ∀ call ∈ calls, call.now < window.start + Window.nanos) :
    ownAnswers key (admissionGuard.journalFrom admission calls) =
      firstAnswers (limitOf key - window.count)
        (ownCalls key calls).length := by
  have run := run_windowOf key admission calls
  rw [present] at run
  have positive : 0 < Window.nanos := by decide
  have eventsWithin : ∀ event ∈ happenings key
      (admissionGuard.journalFrom admission calls),
        event.1 < window.start + Window.nanos := by
    intro event isEvent
    obtain ⟨entry, isEntry, rfl⟩ := List.mem_map.mp isEvent
    exact within entry.1 (Mealy.mem_of_mem_journalFrom isEntry)
  have told := WindowCounter.answers_eq_firstAdmitted positive run
    eventsWithin
  have length := length_ownAnswers key admission calls
  rw [ownAnswers_eq_map_answers, List.length_map] at length
  rw [ownAnswers_eq_map_answers, told, length]
  simp [WindowCounter.firstAdmitted, firstAnswers, verdict]

theorem admittedIn_happenings
    (key : IpAddr × Bool)
    (begin_ : Nat)
    (journal : List (AdmissionCall × Except AppError Unit)) :
    WindowCounter.admittedIn Window.nanos begin_ (happenings key journal) =
      admittedFrom key begin_ journal := by
  unfold WindowCounter.admittedIn happenings admittedFrom
  rw [List.countP_map]
  congr 1
  funext entry
  unfold outcomeFor
  by_cases isOwn : entry.1.key = key
  · simp [isOwn]
  · simp [isOwn]

/-- The times of a journal are in order when those of its calls are. -/
theorem happenings_ordered
    (key : IpAddr × Bool)
    (admission : Admission)
    {calls : List AdmissionCall}
    (ordered : calls.Pairwise fun first second => first.now ≤ second.now) :
    (happenings key (admissionGuard.journalFrom admission calls)).Pairwise
      fun first second => first.1 ≤ second.1 := by
  induction calls generalizing admission with
  | nil => exact .nil
  | cons call rest inductionHypothesis =>
      obtain ⟨firstBefore, restOrdered⟩ := List.pairwise_cons.mp ordered
      refine .cons ?_ (inductionHypothesis _ restOrdered)
      intro event isEvent
      obtain ⟨entry, isEntry, rfl⟩ := List.mem_map.mp isEvent
      exact firstBefore entry.1 (Mealy.mem_of_mem_journalFrom isEntry)

/-- No call makes the table outgrow its bound. -/
theorem length_respond_le
    {admission : Admission}
    {call : AdmissionCall}
    (few : admission.windows.rows.length ≤ Admission.maxWindows) :
    (admissionGuard.respond admission call).2.windows.rows.length ≤
      Admission.maxWindows := by
  have fewLive : (admission.live call.now).rows.length ≤
      Admission.maxWindows :=
    (Table.sublist_retain _ _).length_le.trans few
  generalize computed : admissionGuard.respond admission call = answer
  have answered := admission.answered call
  rw [computed] at answered
  cases answered with
  | crowded => exact fewLive
  | full => exact fewLive
  | opened absent room after grown =>
      change after.rows.length ≤ _
      omega
  | counted window present room after same =>
      change after.rows.length ≤ _
      omega

/-- The table never outgrows its bound. -/
theorem length_windows_le (calls : List AdmissionCall) :
    (admissionGuard.state calls).windows.rows.length ≤
      Admission.maxWindows := by
  let fits (admission : Admission) : Prop :=
    admission.windows.rows.length ≤ Admission.maxWindows
  have every : fits (admissionGuard.state calls) := by
    apply Mealy.invariant
    · exact Nat.zero_le _
    · exact fun admission call => length_respond_le
  exact every

/-- What a call that is refused means: its window is full, or there is none and
no room for one. It changes no counter. -/
structure Refused
    (admission : Admission)
    (call : AdmissionCall)
    (after : Admission) : Prop where
  unchanged : after.windows = admission.live call.now
  reason :
    ((admission.live call.now).find call.key = none ∧
        (admission.live call.now).rows.length = Admission.maxWindows) ∨
      ∃ window, (admission.live call.now).find call.key = some window ∧
        Admission.limit call.exchange ≤ window.count

theorem refused_of_error
    {before : List AdmissionCall}
    {call : AdmissionCall}
    {error : AppError}
    (answer : (admissionGuard.respond (admissionGuard.state before) call).1 =
      .error error) :
    error = .limited ∧
      Refused (admissionGuard.state before) call
        (admissionGuard.state (before ++ [call])) := by
  rw [Mealy.state_concat]
  have few := length_windows_le before
  have fewLive := ((admissionGuard.state before).windows.sublist_retain
    fun window => call.now - window.start < Window.nanos).length_le.trans few
  generalize admissionGuard.state before = admission at answer fewLive ⊢
  generalize computed : admissionGuard.respond admission call = response
  have answered := admission.answered call
  rw [computed] at answered answer
  cases answered with
  | crowded absent noRoom =>
      cases answer
      exact ⟨rfl, rfl, .inl ⟨absent, Nat.le_antisymm fewLive noRoom⟩⟩
  | full window present noRoom =>
      cases answer
      exact ⟨rfl, rfl, .inr ⟨window, present, noRoom⟩⟩
  | opened => cases answer
  | counted => cases answer

/-- A call that is admitted without a window opens one. -/
theorem windowOf_opened
    {admission : Admission}
    {call : AdmissionCall}
    (closed : (admission.live call.now).find call.key = none)
    (admitted : (admissionGuard.respond admission call).1 = .ok ()) :
    (admissionGuard.respond admission call).2.windowOf call.key =
      some ⟨call.now, 1⟩ := by
  have isLive := admission.live_windowOf call.now call.key
  rw [closed] at isLive
  have step := step_windowOf admission call call.key
  rw [outcomeFor, if_pos rfl, admitted] at step
  generalize (admissionGuard.respond admission call).2.windowOf call.key =
    after at step ⊢
  change WindowCounter.Step _ _ _ _ (some true) _ at step
  cases step with
  | opened => rfl
  | counted window isOther room =>
      rw [isLive] at isOther
      cases isOther

/-- The guard's bounds, for every run of calls in the order of their times: the
size of the table, the first requests of each window, the requests of each
interval, and what a refusal means. While the window of a peer lasts, two runs
with the same calls of its own answer them alike, whatever others do. -/
theorem admissionGuard_bounds
    {calls : List AdmissionCall}
    (ordered : calls.Pairwise fun first second => first.now ≤ second.now) :
    (admissionGuard.state calls).windows.rows.length ≤ 10000 ∧
    (∀ key begin_, admittedFrom key begin_ (admissionGuard.journal calls) ≤
      2 * limitOf key - 1) ∧
    (∀ before call after, calls = before ++ call :: after →
      (((admissionGuard.state before).live call.now).find call.key = none →
        (admissionGuard.respond (admissionGuard.state before) call).1 =
          .ok () →
        ∀ within later, after = within ++ later →
          (∀ other ∈ within, other.now < call.now + Window.nanos) →
          ownAnswers call.key
              (admissionGuard.journalFrom
                (admissionGuard.state (before ++ [call])) within) =
            firstAnswers (limitOf call.key - 1)
              (ownCalls call.key within).length) ∧
      ∀ error,
        (admissionGuard.respond (admissionGuard.state before) call).1 =
          .error error →
        error = .limited ∧
          Refused (admissionGuard.state before) call
            (admissionGuard.state (before ++ [call]))) ∧
    ∀ (key : IpAddr × Bool) (window : Window) (first second : Admission)
        (firstCalls secondCalls : List AdmissionCall),
      first.windows.find key = some window →
      second.windows.find key = some window →
      (∀ call ∈ firstCalls, call.now < window.start + Window.nanos) →
      (∀ call ∈ secondCalls, call.now < window.start + Window.nanos) →
      ownCalls key firstCalls = ownCalls key secondCalls →
      ownAnswers key (admissionGuard.journalFrom first firstCalls) =
        ownAnswers key (admissionGuard.journalFrom second secondCalls) := by
  refine ⟨length_windows_le calls, ?_, ?_, ?_⟩
  · intro key begin_
    have run := run_windowOf key admissionGuard.start calls
    have fresh : admissionGuard.start.windowOf key = none := rfl
    rw [fresh] at run
    rw [← admittedIn_happenings]
    exact WindowCounter.admittedIn_le (limitOf_pos key) run
      (happenings_ordered key _ ordered) begin_
  · rintro before call after rfl
    refine ⟨fun closed admitted within later _ soon => ?_,
      fun error answer => refused_of_error answer⟩
    rw [Mealy.state_concat]
    exact ownAnswers_eq_firstAnswers (windowOf_opened closed admitted) soon
  · intro key window first second firstCalls secondCalls inFirst inSecond
      firstSoon secondSoon same
    have firstPresent : first.windowOf key =
        some ⟨window.start, window.count.toNat⟩ := by
      rw [Admission.windowOf, inFirst]
      rfl
    have secondPresent : second.windowOf key =
        some ⟨window.start, window.count.toNat⟩ := by
      rw [Admission.windowOf, inSecond]
      rfl
    rw [ownAnswers_eq_firstAnswers firstPresent firstSoon,
      ownAnswers_eq_firstAnswers secondPresent secondSoon, same]

/-- A session exchange of a peer. -/
def firstExchange : AdmissionCall where
  now := 5
  peer := .v4 1
  exchange := true

/-- Eleven more within its minute, with another peer's request in between. -/
def moreExchanges : List AdmissionCall :=
  List.replicate 6 firstExchange ++
    { now := 7, peer := .v4 2, exchange := false } ::
      List.replicate 5 { firstExchange with now := 9 }

/-- One more when the minute is over. -/
def lateExchange : AdmissionCall :=
  { firstExchange with now := 5 + Window.nanos }

/-- After the first exchange nine are admitted and two are refused. -/
theorem admissionGuard_bounds_exchange :
    ownAnswers firstExchange.key
        (admissionGuard.journalFrom (admissionGuard.state [firstExchange])
          moreExchanges) =
      List.replicate 9 (.ok ()) ++ List.replicate 2 (.error .limited) ∧
    admittedFrom firstExchange.key 9
        (admissionGuard.journal
          (firstExchange :: (moreExchanges ++ [lateExchange]))) ≤ 19 := by
  have ordered : (firstExchange :: (moreExchanges ++ [lateExchange])).Pairwise
      fun first second => first.now ≤ second.now := by decide
  obtain ⟨-, few, each, -⟩ := admissionGuard_bounds ordered
  have closed : ((admissionGuard.state []).live firstExchange.now).find
      firstExchange.key = none := rfl
  have admitted : (admissionGuard.respond (admissionGuard.state [])
      firstExchange).1 = .ok () := rfl
  have soon : ∀ other ∈ moreExchanges,
      other.now < firstExchange.now + Window.nanos := by decide
  exact ⟨(each [] firstExchange _ rfl).1 closed admitted moreExchanges
    [lateExchange] rfl soon, few firstExchange.key 9⟩

end AsystantGateway
