import AsystantGateway.Repository.Ledger

/-!
# The budget cap

A reservation raises an account only up to the limit it is made under, and a
settlement raises it only by what the charge exceeds the reservation. So an
account never holds more than the largest limit granted on it so far plus the
over-charges settled on it, however many callers race and however the limits
change from call to call.
-/

namespace AsystantGateway

/-- The limit a journal entry was granted under on an account, when the entry
is a successful reservation on that account. -/
def grantedLimit (account : String) :
    LedgerCall × Except AppError Unit → Option Int
  | (.reserve _ session _ tenantLimit userLimit day, .ok ()) =>
      if session.tenantAccount day = account then some tenantLimit.toInt
      else if session.userAccount day = account then some userLimit.toInt
      else none
  | _ => none

/-- The largest limit under which a reservation on an account has succeeded,
zero when none has. -/
def largestLimit (account : String) (journal : LedgerJournal) : Int :=
  (journal.filterMap (grantedLimit account)).foldr max 0

/-- What the charge of a settled request on an account exceeds its reservation
by. -/
def overcharge (account : String) (request : Request) : Int :=
  if request.tenantAccount = account ∨ request.userAccount = account then
    match request.status, request.charged with
    | .settled, some charge => max 0 (charge.toInt - request.reservation.toInt)
    | _, _ => 0
  else
    0

theorem overcharge_nonneg (account : String) (request : Request) :
    0 ≤ overcharge account request := by
  unfold overcharge
  split
  case isTrue =>
    split
    case h_1 => exact le_max_left _ _
    case h_2 => rfl
  case isFalse => rfl

private theorem foldr_max_base (limits : List Int) (base : Int) :
    limits.foldr max (max base 0) = max (limits.foldr max 0) (max base 0) := by
  induction limits with
  | nil => simp
  | cons head tail inductionHypothesis =>
      simp only [List.foldr_cons, inductionHypothesis, max_assoc]

theorem largestLimit_append
    (account : String)
    (journal : LedgerJournal)
    (entry : LedgerCall × Except AppError Unit) :
    largestLimit account (journal ++ [entry]) =
      match grantedLimit account entry with
      | none => largestLimit account journal
      | some limit => max (largestLimit account journal) (max limit 0) := by
  unfold largestLimit
  rw [List.filterMap_append, List.foldr_append]
  cases granted : grantedLimit account entry with
  | none => simp [granted]
  | some limit =>
      simp only [List.filterMap_cons, granted, List.filterMap_nil,
        List.foldr_cons, List.foldr_nil]
      exact foldr_max_base _ limit

/-- The largest limit only grows along a run. -/
theorem largestLimit_le_append
    (account : String)
    (journal : LedgerJournal)
    (entry : LedgerCall × Except AppError Unit) :
    largestLimit account journal ≤ largestLimit account (journal ++ [entry]) := by
  rw [largestLimit_append]
  split
  case h_1 => exact le_rfl
  case h_2 => exact le_max_left _ _

/-- No granted limit exceeds the largest one. -/
theorem le_largestLimit
    {account : String}
    {journal : LedgerJournal}
    {entry : LedgerCall × Except AppError Unit}
    {limit : Int}
    (granted : grantedLimit account entry = some limit) :
    limit ≤ largestLimit account (journal ++ [entry]) := by
  rw [largestLimit_append, granted]
  exact (le_max_left limit 0).trans (le_max_right _ _)

/-- A bound on every granted limit bounds the largest one. -/
theorem largestLimit_le
    {account : String}
    {journal : LedgerJournal}
    {bound : Int}
    (nonneg : 0 ≤ bound)
    (bounded : ∀ entry ∈ journal, ∀ limit,
      grantedLimit account entry = some limit → limit ≤ bound) :
    largestLimit account journal ≤ bound := by
  unfold largestLimit
  induction journal with
  | nil => simpa using nonneg
  | cons entry rest inductionHypothesis =>
      have restBound := inductionHypothesis fun other member =>
        bounded other (List.mem_cons_of_mem _ member)
      cases granted : grantedLimit account entry with
      | none => simpa [granted] using restBound
      | some limit =>
          have entryBound := bounded entry List.mem_cons_self limit granted
          simpa [granted] using ⟨entryBound, restBound⟩

/-- The cap on one account. -/
def Capped
    (account : String)
    (journal : LedgerJournal)
    (database : Database) : Prop :=
  database.held account ≤
    largestLimit account journal + database.requests.total (overcharge account)

section Steps

variable
  {account : String}
  {journal : LedgerJournal}
  {database after : Database}

/-- A granted reservation leaves its accounts within the limits it was granted
under, and the others where they were. -/
theorem Capped.append_reserve
    {id day : String}
    {session : Session}
    {amount tenantLimit userLimit : Int64}
    (capped : Capped account journal database)
    (admits : Admits database id session amount tenantLimit userLimit day)
    (effect : Reserves database after id session amount day) :
    Capped account
      (journal ++
        [(.reserve id session amount tenantLimit userLimit day, .ok ())])
      after := by
  obtain ⟨⟨check, inserted⟩, moved, -⟩ := effect
  have sameOvercharge : after.requests.total (overcharge account) =
      database.requests.total (overcharge account) := by
    rw [Table.total_insert inserted]
    simp [overcharge]
  have nonneg : 0 ≤ database.requests.total (overcharge account) :=
    Table.total_nonneg fun request _ => overcharge_nonneg account request
  unfold Capped at capped ⊢
  rw [sameOvercharge, moved.held account]
  by_cases isTenant : account = session.tenantAccount day
  · have granted : tenantLimit.toInt ≤ largestLimit account (journal ++
        [(.reserve id session amount tenantLimit userLimit day, .ok ())]) :=
      le_largestLimit (by simp [grantedLimit, isTenant])
    have within := admits.tenantWithin
    rw [← isTenant] at within
    rw [if_pos (.inl isTenant)]
    omega
  · by_cases isUser : account = session.userAccount day
    · have notTenant : ¬ session.tenantAccount day = account :=
        fun equal => isTenant equal.symm
      have granted : userLimit.toInt ≤ largestLimit account (journal ++
          [(.reserve id session amount tenantLimit userLimit day, .ok ())]) :=
        le_largestLimit (by
          simp only [grantedLimit, notTenant, if_false, isUser.symm, if_true])
      have within := admits.userWithin
      rw [← isUser] at within
      rw [if_pos (.inr isUser)]
      omega
    · have grown := largestLimit_le_append account journal
        (.reserve id session amount tenantLimit userLimit day, .ok ())
      rw [if_neg (not_or.mpr ⟨isTenant, isUser⟩)]
      omega

/-- A settlement raises an account by at most the over-charge it records. -/
theorem Capped.append_settle
    {id : String}
    {charge : Int64}
    {request : Request}
    (capped : Capped account journal database)
    (found : database.requests.find id = some request)
    (pending : request.status = .pending)
    (effect : Settles database after request charge) :
    Capped account (journal ++ [(.settle id charge, .ok ())]) after := by
  obtain rfl := Table.key_of_find found
  obtain ⟨requests, moved, -⟩ := effect
  have grown := largestLimit_le_append account journal
    (.settle request.id charge, .ok ())
  have recorded : after.requests.total (overcharge account) =
      database.requests.total (overcharge account) +
        if account = request.tenantAccount ∨ account = request.userAccount
        then max 0 (charge.toInt - request.reservation.toInt) else 0 := by
    rw [requests, Table.total_update found]
    simp only [overcharge, pending, eq_comm (a := account)]
    split <;> simp
  unfold Capped at capped ⊢
  rw [recorded, moved.held account]
  split
  case isTrue =>
    have larger := le_max_right 0 (charge.toInt - request.reservation.toInt)
    omega
  case isFalse => omega

/-- An answered error changes neither side of the cap. -/
theorem Capped.append_error
    (capped : Capped account journal database)
    (call : LedgerCall)
    (error : AppError) :
    Capped account (journal ++ [(call, .error error)]) database := by
  have grown := largestLimit_le_append account journal (call, .error error)
  unfold Capped at capped ⊢
  omega

end Steps

/-- The cap holds on every account after every list of calls. -/
theorem capped_state (account : String) (calls : List LedgerCall) :
    Capped account (ledger.journal calls) (ledger.state calls) := by
  refine Mealy.run_induction (motive := Capped account) ?_ ?_ calls
  · exact le_refl (0 : Int)
  · intro prior call capped
    change Capped account (_ ++ [(call, (call.perform (ledger.state prior)).1)])
      (call.perform (ledger.state prior)).2
    have effect := (balanced_state prior).effect_perform call
    generalize call.perform (ledger.state prior) = answer at effect ⊢
    cases effect with
    | reserved admits reserves => exact capped.append_reserve admits reserves
    | settled _ found pending settles =>
        exact capped.append_settle found pending settles
    | failed => exact capped.append_error _ _

/-- Without over-charges there is nothing above the limits. -/
theorem total_overcharge_eq_zero
    {database : Database}
    (within : ∀ request ∈ database.requests.rows, ∀ charge,
      request.charged = some charge →
        charge.toInt ≤ request.reservation.toInt)
    (account : String) :
    database.requests.total (overcharge account) = 0 := by
  apply Table.total_eq_zero
  intro request member
  unfold overcharge
  split
  case isTrue =>
    split
    case h_1 charge _ charged =>
      have := within request member charge charged
      exact max_eq_left (by omega)
    case h_2 => rfl
  case isFalse => rfl

/-- The money guarantee, at every point of every run. An account holds at most
the largest limit granted on it plus its over-charges; so without over-charges
it stays within its limits. A charge is recorded in full whatever the
reservation was, a reservation that would pass either limit is refused, and so
is every reservation under a zero limit. -/
theorem budget_cap (calls : List LedgerCall) :
    (∀ account, (ledger.state calls).held account ≤
      largestLimit account (ledger.journal calls) +
        (ledger.state calls).requests.total (overcharge account)) ∧
    ((∀ request ∈ (ledger.state calls).requests.rows, ∀ charge,
        request.charged = some charge →
          charge.toInt ≤ request.reservation.toInt) →
      ∀ account limit, 0 ≤ limit →
        (∀ entry ∈ ledger.journal calls, ∀ granted,
          grantedLimit account entry = some granted → granted ≤ limit) →
        (ledger.state calls).held account ≤ limit) ∧
    (∀ id charge after,
      settle id charge (ledger.state calls) = (.ok (), after) →
        ∃ request, (ledger.state calls).requests.find id = some request ∧
          after.requests.find id = some
            { request with charged := some charge, status := .settled } ∧
          ∀ account,
            (account = request.tenantAccount ∨
              account = request.userAccount) →
            after.held account = (ledger.state calls).held account -
              request.reservation.toInt + charge.toInt) ∧
    (∀ id session amount tenantLimit userLimit day,
      (tenantLimit.toInt < (ledger.state calls).held
            (session.tenantAccount day) + amount.toInt ∨
          userLimit.toInt < (ledger.state calls).held
            (session.userAccount day) + amount.toInt ∨
          tenantLimit = 0 ∨ userLimit = 0) →
        ∃ error, reserve id session amount tenantLimit userLimit day
          (ledger.state calls) = (.error error, ledger.state calls)) := by
  refine ⟨fun account => capped_state account calls, ?_, ?_, ?_⟩
  · intro within account limit nonneg bounded
    have capped := capped_state account calls
    unfold Capped at capped
    rw [total_overcharge_eq_zero within account] at capped
    have limits := largestLimit_le nonneg bounded
    omega
  · intro id charge after settled
    obtain ⟨-, request, found, -, effect⟩ :=
      (balanced_state calls).settle_ok settled
    refine ⟨request, found, ?_, ?_⟩
    · obtain rfl := Table.key_of_find found
      rw [effect.requests, Table.find_update, if_pos rfl, found]
      rfl
    · intro account ofRequest
      rw [effect.moved.held account, if_pos ofRequest]
      omega
  · intro id session amount tenantLimit userLimit day exceeds
    apply reserve_of_not_admits
    rintro ⟨positive, -, tenantWithin, userWithin⟩
    have tenantHeld := (ledger.state calls).held_nonneg
      (session.tenantAccount day)
    have userHeld := (ledger.state calls).held_nonneg
      (session.userAccount day)
    rcases exceeds with tenantOver | userOver | rfl | rfl
    · omega
    · omega
    · simp only [Int64.toInt_zero] at tenantWithin
      omega
    · simp only [Int64.toInt_zero] at userWithin
      omega

end AsystantGateway
