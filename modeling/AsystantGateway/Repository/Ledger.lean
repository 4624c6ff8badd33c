import AsystantGateway.Library.Machine
import AsystantGateway.Repository.Accounting

/-!
# The ledger invariant

Every writer runs inside `BEGIN IMMEDIATE`, so any number of concurrent callers
is one list of whole calls. What an account holds is at every point of such a
list the sum, over the requests charged to it, of the reservation while the
request is pending and of the charge once it is settled. The remaining facts
about the ledger follow from that equation: a pending reservation is covered by
both of its accounts, and so a settlement can only fail by overflow.
-/

namespace AsystantGateway

/-- One call on the ledger. A call that finds no connection, or whose
transaction the database gives up before its commit, is `unavailable`. -/
inductive LedgerCall
  | reserve
      (id : String)
      (session : Session)
      (amount tenantLimit userLimit : Int64)
      (day : String)
  | settle (id : String) (charge : Int64)
  | unavailable
  deriving DecidableEq

namespace LedgerCall

/-- The answer to a call and the database it leaves. -/
def perform :
    LedgerCall → Database → Except AppError Unit × Database
  | .reserve id session amount tenantLimit userLimit day, database =>
      AsystantGateway.reserve id session amount tenantLimit userLimit day
        database
  | .settle id charge, database => AsystantGateway.settle id charge database
  | .unavailable, database => (.error .internal, database)

end LedgerCall

/-- The ledger under any serialisation of its callers. -/
def ledger : Mealy Database LedgerCall (Except AppError Unit) where
  start := .empty
  respond database call := call.perform database

/-- An account that existed before two accounts moved exists afterwards. -/
theorem Moves.exists_after
    {before after : Database}
    {tenant user account : String}
    {difference : Int}
    (moved : Moves before after tenant user difference)
    (existed : before.accounts.find account ≠ none) :
    after.accounts.find account ≠ none := by
  by_cases isTenant : account = tenant
  · exact isTenant ▸ moved.tenantExists
  · by_cases isUser : account = user
    · exact isUser ▸ moved.userExists
    · rw [moved.others account isTenant isUser]
      exact existed

/-- What one request contributes to an account: its reservation while it is
pending, its charge once it is settled. -/
def contribution (account : String) (request : Request) : Int :=
  if request.tenantAccount = account ∨ request.userAccount = account then
    match request.status with
    | .pending => request.reservation.toInt
    | .settled => (request.charged.map Int64.toInt).getD 0
  else
    0

/-- The state of the ledger tables that every operation relies on and keeps. -/
structure Balanced (database : Database) : Prop where
  held : ∀ account,
    database.held account = database.requests.total (contribution account)
  distinct : ∀ request ∈ database.requests.rows,
    request.tenantAccount ≠ request.userAccount
  tenantExists : ∀ request ∈ database.requests.rows,
    database.accounts.find request.tenantAccount ≠ none
  userExists : ∀ request ∈ database.requests.rows,
    database.accounts.find request.userAccount ≠ none
  charged : ∀ request ∈ database.requests.rows, request.status = .settled →
    ∃ charge, request.charged = some charge ∧ 0 ≤ charge.toInt

namespace Balanced

variable {database after : Database}

theorem empty : Balanced .empty where
  held _ := rfl
  distinct _ member := by simp [Database.empty] at member
  tenantExists _ member := by simp [Database.empty] at member
  userExists _ member := by simp [Database.empty] at member
  charged _ member := by simp [Database.empty] at member

theorem contribution_nonneg
    (balanced : Balanced database)
    (account : String) :
    ∀ request ∈ database.requests.rows, 0 ≤ contribution account request := by
  intro request member
  unfold contribution
  split
  case isTrue =>
    cases status : request.status with
    | pending => exact request.check
    | settled =>
        obtain ⟨charge, charged, nonneg⟩ :=
          balanced.charged request member status
        simpa [charged] using nonneg
  case isFalse => rfl

/-- A pending reservation is held in full on each of its accounts. -/
theorem covers
    (balanced : Balanced database)
    {request : Request}
    (member : request ∈ database.requests.rows)
    (pending : request.status = .pending)
    {account : String}
    (charged : account = request.tenantAccount ∨
      account = request.userAccount) :
    request.reservation.toInt ≤ database.held account := by
  rw [balanced.held account]
  calc request.reservation.toInt
      = contribution account request := by
        have matches_ : request.tenantAccount = account ∨
            request.userAccount = account :=
          charged.imp Eq.symm Eq.symm
        simp [contribution, matches_, pending]
    _ ≤ database.requests.total (contribution account) :=
        Table.le_total (balanced.contribution_nonneg account) member

/-- A granted reservation keeps the ledger balanced. -/
theorem reserves
    {id day : String}
    {session : Session}
    {amount : Int64}
    (balanced : Balanced database)
    (effect : Reserves database after id session amount day) :
    Balanced after := by
  obtain ⟨⟨check, inserted⟩, moved, -⟩ := effect
  refine ⟨?_, ?_, ?_, ?_, ?_⟩
  · intro account
    rw [moved.held account, balanced.held account,
      Table.total_insert inserted]
    simp only [contribution, Session.pendingRequest_tenantAccount,
      Session.pendingRequest_userAccount, Session.pendingRequest_status,
      Session.pendingRequest_reservation, eq_comm (a := account)]
    omega
  · intro request member
    rcases (Table.mem_rows_insert inserted).mp member with rfl | prior
    · exact session.tenantAccount_ne_userAccount day day
    · exact balanced.distinct request prior
  · intro request member
    rcases (Table.mem_rows_insert inserted).mp member with rfl | prior
    · exact moved.tenantExists
    · exact moved.exists_after (balanced.tenantExists request prior)
  · intro request member
    rcases (Table.mem_rows_insert inserted).mp member with rfl | prior
    · exact moved.userExists
    · exact moved.exists_after (balanced.userExists request prior)
  · intro request member settled
    rcases (Table.mem_rows_insert inserted).mp member with rfl | prior
    · simp at settled
    · exact balanced.charged request prior settled

/-- A settlement keeps the ledger balanced. -/
theorem settles
    {request : Request}
    {charge : Int64}
    (balanced : Balanced database)
    (member : request ∈ database.requests.rows)
    (pending : request.status = .pending)
    (nonneg : 0 ≤ charge.toInt)
    (effect : Settles database after request charge) :
    Balanced after := by
  obtain ⟨requests, moved, -⟩ := effect
  have priorRow : ∀ row ∈ after.requests.rows, ∃ prior ∈ database.requests.rows,
      row = if prior.id = request.id then
        { prior with charged := some charge, status := .settled }
      else prior := by
    intro row present
    rw [requests] at present
    exact Table.mem_rows_update.mp present
  refine ⟨?_, ?_, ?_, ?_, ?_⟩
  · intro account
    have found := Table.mem_rows_iff.mp member
    rw [moved.held account, balanced.held account, requests,
      Table.total_update found]
    simp only [contribution, pending, eq_comm (a := account)]
    split
    · simp only [Option.map_some, Option.getD_some]
      omega
    · omega
  · intro row present
    obtain ⟨prior, wasPresent, rfl⟩ := priorRow row present
    have distinct := balanced.distinct prior wasPresent
    split <;> exact distinct
  · intro row present
    obtain ⟨prior, wasPresent, rfl⟩ := priorRow row present
    have kept := moved.exists_after (balanced.tenantExists prior wasPresent)
    split <;> exact kept
  · intro row present
    obtain ⟨prior, wasPresent, rfl⟩ := priorRow row present
    have kept := moved.exists_after (balanced.userExists prior wasPresent)
    split <;> exact kept
  · intro row present settled
    obtain ⟨prior, wasPresent, rfl⟩ := priorRow row present
    split at settled
    case isTrue isRequest =>
      rw [if_pos isRequest]
      exact ⟨charge, rfl, nonneg⟩
    case isFalse isOther =>
      rw [if_neg isOther]
      exact balanced.charged prior wasPresent settled

/-- In a balanced ledger a pending request is settled unless the charge takes
one of its accounts out of 64 bits. -/
theorem settle_of_pending
    {id : String}
    {charge : Int64}
    {request : Request}
    (balanced : Balanced database)
    (found : database.requests.find id = some request)
    (pending : request.status = .pending)
    (nonneg : 0 ≤ charge.toInt) :
    (∃ after, settle id charge database = (.ok (), after) ∧
        Settles database after request charge) ∨
      ((settleBody id charge).run database = .error (.app .internal) ∧
        ∃ account,
          (account = request.tenantAccount ∨
            account = request.userAccount) ∧
          2 ^ 63 ≤ database.held account - request.reservation.toInt +
            charge.toInt) := by
  have member := Table.mem_of_find found
  have distinct := balanced.distinct request member
  have tenantExists := balanced.tenantExists request member
  have userExists := balanced.userExists request member
  by_cases overflows : ∃ account,
      (account = request.tenantAccount ∨ account = request.userAccount) ∧
        2 ^ 63 ≤ database.held account - request.reservation.toInt +
          charge.toInt
  · exact .inr ⟨run_settleBody_of_overflow found pending nonneg distinct
      tenantExists userExists
      (balanced.covers member pending (.inl rfl)) overflows, overflows⟩
  · refine .inl (settle_of_fits found pending nonneg distinct tenantExists
      userExists (fun account => balanced.covers member pending) ?_)
    intro account ofRequest
    by_contra exceeds
    exact overflows ⟨account, ofRequest, not_lt.mp exceeds⟩

/-- What is known of a settlement that answered `Ok` in a balanced ledger. -/
theorem settle_ok
    {id : String}
    {charge : Int64}
    (balanced : Balanced database)
    (settled : settle id charge database = (.ok (), after)) :
    0 ≤ charge.toInt ∧ ∃ request,
      database.requests.find id = some request ∧
        request.status = .pending ∧
          Settles database after request charge := by
  obtain ⟨nonneg, request, found, pending⟩ := settle_ok_pending settled
  refine ⟨nonneg, request, found, pending, ?_⟩
  rcases balanced.settle_of_pending found pending nonneg with
    ⟨result, ran, effect⟩ | ⟨stopped, -⟩
  · rw [settled] at ran
    obtain rfl := (Prod.mk.inj ran).2
    exact effect
  · rw [settle_of_nonneg nonneg, immediateTransaction_of_error stopped]
      at settled
    simp at settled

end Balanced

/-- What a call answers and leaves: a granted reservation, a settled request,
or an error and the same database. -/
inductive LedgerCall.Effect
    (database : Database) :
    LedgerCall → Except AppError Unit × Database → Prop
  | reserved
      {id day : String}
      {session : Session}
      {amount tenantLimit userLimit : Int64}
      {after : Database}
      (admits :
        Admits database id session amount tenantLimit userLimit day)
      (reserves : Reserves database after id session amount day) :
      Effect database
        (.reserve id session amount tenantLimit userLimit day)
        (.ok (), after)
  | settled
      {id : String}
      {charge : Int64}
      {request : Request}
      {after : Database}
      (nonneg : 0 ≤ charge.toInt)
      (found : database.requests.find id = some request)
      (pending : request.status = .pending)
      (settles : Settles database after request charge) :
      Effect database (.settle id charge) (.ok (), after)
  | failed (call : LedgerCall) (error : AppError) :
      Effect database call (.error error, database)

/-- In a balanced ledger these are the only effects of a call. -/
theorem Balanced.effect_perform
    {database : Database}
    (balanced : Balanced database)
    (call : LedgerCall) :
    call.Effect database (call.perform database) := by
  cases call with
  | reserve id session amount tenantLimit userLimit day =>
      rcases answer : reserve id session amount tenantLimit userLimit day
        database with ⟨result, after⟩
      simp only [LedgerCall.perform, answer]
      cases result with
      | ok =>
          obtain ⟨admits, reserves⟩ := reserve_ok answer
          exact .reserved admits reserves
      | error error =>
          obtain rfl := reserve_error answer
          exact .failed _ error
  | settle id charge =>
      rcases answer : settle id charge database with ⟨result, after⟩
      simp only [LedgerCall.perform, answer]
      cases result with
      | ok =>
          obtain ⟨nonneg, request, found, pending, settles⟩ :=
            balanced.settle_ok answer
          exact .settled nonneg found pending settles
      | error error =>
          obtain rfl := settle_error answer
          exact .failed _ error
  | unavailable => exact .failed _ .internal

/-- Every call keeps the ledger balanced. -/
theorem balanced_perform
    (database : Database)
    (call : LedgerCall)
    (balanced : Balanced database) :
    Balanced (call.perform database).2 := by
  have effect := balanced.effect_perform call
  generalize call.perform database = answer at effect ⊢
  cases effect with
  | reserved _ reserves => exact balanced.reserves reserves
  | settled nonneg found pending settles =>
      exact balanced.settles (Table.mem_of_find found) pending nonneg settles
  | failed => exact balanced

/-- The ledger is balanced after every list of calls. -/
theorem balanced_state (calls : List LedgerCall) :
    Balanced (ledger.state calls) :=
  Mealy.invariant .empty
    (fun database call balanced => balanced_perform database call balanced)
    calls

/-! ## What the journal says about the rows -/

/-- The calls of a run with their answers. -/
abbrev LedgerJournal := List (LedgerCall × Except AppError Unit)

/-- Whether a journal entry is a successful settlement of a request. -/
def settlesRequest (id : String) : LedgerCall × Except AppError Unit → Bool
  | (.settle other _, .ok ()) => other = id
  | _ => false

/-- How many calls of a journal settled a request. -/
def settlements (id : String) (journal : LedgerJournal) : Nat :=
  journal.countP (settlesRequest id)

/-- A request row holds what one granted reservation of the journal asked for,
on the accounts of the day of that reservation. -/
def RecordedBy (journal : LedgerJournal) (request : Request) : Prop :=
  ∃ session tenantLimit userLimit day,
    (LedgerCall.reserve request.id session request.reservation tenantLimit
        userLimit day, Except.ok ()) ∈ journal ∧
      request.tenantAccount = session.tenantAccount day ∧
        request.userAccount = session.userAccount day

/-- The relation between a journal and the request rows it produced. -/
structure Journaled
    (journal : LedgerJournal)
    (database : Database) : Prop where
  recorded : ∀ request ∈ database.requests.rows, RecordedBy journal request
  once : ∀ id, settlements id journal ≤ 1
  settled : ∀ id, settlements id journal ≠ 0 →
    ∃ request, database.requests.find id = some request ∧
      request.status = .settled

namespace Journaled

variable {journal : LedgerJournal} {database after : Database}

theorem empty : Journaled [] .empty where
  recorded _ member := by simp [Database.empty] at member
  once _ := Nat.zero_le 1
  settled _ counted := absurd rfl counted

/-- A call that answers an error leaves both the count and the rows. -/
theorem append_error
    (journaled : Journaled journal database)
    (call : LedgerCall)
    (error : AppError) :
    Journaled (journal ++ [(call, .error error)]) database := by
  have sameCount : ∀ id, settlements id (journal ++ [(call, .error error)]) =
      settlements id journal := by
    intro id
    cases call <;> simp [settlements, settlesRequest]
  refine ⟨?_, ?_, ?_⟩
  · intro request member
    obtain ⟨session, tenantLimit, userLimit, day, logged, accounts⟩ :=
      journaled.recorded request member
    exact ⟨session, tenantLimit, userLimit, day,
      List.mem_append_left _ logged, accounts⟩
  · intro id
    rw [sameCount]
    exact journaled.once id
  · intro id counted
    rw [sameCount] at counted
    exact journaled.settled id counted

/-- A granted reservation is the entry its own row is recorded by. -/
theorem append_reserve
    {id day : String}
    {session : Session}
    {amount : Int64}
    (journaled : Journaled journal database)
    (effect : Reserves database after id session amount day)
    (tenantLimit userLimit : Int64) :
    Journaled
      (journal ++
        [(.reserve id session amount tenantLimit userLimit day, .ok ())])
      after := by
  obtain ⟨⟨check, inserted⟩, -, -⟩ := effect
  have sameCount : ∀ other, settlements other (journal ++
      [(.reserve id session amount tenantLimit userLimit day, .ok ())]) =
        settlements other journal := by
    intro other
    simp [settlements, settlesRequest]
  refine ⟨?_, ?_, ?_⟩
  · intro request member
    rcases (Table.mem_rows_insert inserted).mp member with rfl | prior
    · exact ⟨session, tenantLimit, userLimit, day, by simp, rfl, rfl⟩
    · obtain ⟨session', tenantLimit', userLimit', day', logged, accounts⟩ :=
        journaled.recorded request prior
      exact ⟨session', tenantLimit', userLimit', day',
        List.mem_append_left _ logged, accounts⟩
  · intro other
    rw [sameCount]
    exact journaled.once other
  · intro other counted
    rw [sameCount] at counted
    obtain ⟨request, found, settled⟩ := journaled.settled other counted
    refine ⟨request, ?_, settled⟩
    rw [Table.find_insert inserted]
    split
    case isTrue isNew =>
      have free := (Table.insert_eq_some_iff.mp inserted).1
      rw [isNew, found] at free
      simp at free
    case isFalse => exact found

/-- A settlement is counted once, because its row was pending before. -/
theorem append_settle
    {id : String}
    {charge : Int64}
    {request : Request}
    (journaled : Journaled journal database)
    (found : database.requests.find id = some request)
    (pending : request.status = .pending)
    (effect : Settles database after request charge) :
    Journaled (journal ++ [(.settle id charge, .ok ())]) after := by
  obtain rfl := Table.key_of_find found
  have uncounted : settlements request.id journal = 0 := by
    by_contra counted
    obtain ⟨row, sameRow, settled⟩ := journaled.settled request.id counted
    rw [found, Option.some.injEq] at sameRow
    rw [← sameRow, pending] at settled
    simp at settled
  have count : ∀ other, settlements other (journal ++
      [(.settle request.id charge, .ok ())]) =
        settlements other journal + if request.id = other then 1 else 0 := by
    intro other
    simp [settlements, settlesRequest, List.countP_singleton]
  refine ⟨?_, ?_, ?_⟩
  · intro row member
    rw [effect.requests] at member
    obtain ⟨prior, wasPresent, rfl⟩ := Table.mem_rows_update.mp member
    obtain ⟨session, tenantLimit, userLimit, day, logged, accounts⟩ :=
      journaled.recorded prior wasPresent
    refine ⟨session, tenantLimit, userLimit, day, ?_, ?_⟩
    · apply List.mem_append_left
      split <;> exact logged
    · split <;> exact accounts
  · intro other
    rw [count]
    split
    case isTrue isRequest =>
      rw [← isRequest, uncounted]
    case isFalse => simpa using journaled.once other
  · intro other counted
    rw [effect.requests, Table.find_update]
    split
    case isTrue isRequest =>
      rw [isRequest, found]
      exact ⟨_, rfl, rfl⟩
    case isFalse isOther =>
      rw [count, if_neg fun equal => isOther equal.symm] at counted
      exact journaled.settled other counted

end Journaled

/-- The journal of a run accounts for every request row. -/
theorem journaled_state (calls : List LedgerCall) :
    Journaled (ledger.journal calls) (ledger.state calls) := by
  refine Mealy.run_induction Journaled.empty ?_ calls
  intro prior call journaled
  change Journaled (_ ++ [(call, (call.perform (ledger.state prior)).1)])
    (call.perform (ledger.state prior)).2
  have effect := (balanced_state prior).effect_perform call
  generalize call.perform (ledger.state prior) = answer at effect ⊢
  cases effect with
  | reserved _ reserves => exact journaled.append_reserve reserves _ _
  | settled _ found pending settles =>
      exact journaled.append_settle found pending settles
  | failed => exact journaled.append_error _ _

/-! ## The ledger guarantee -/

/-- Whether a call is stopped by a CHECK constraint of the schema. -/
def LedgerCall.BreaksCheck (database : Database) : LedgerCall → Prop
  | .reserve id session amount tenantLimit userLimit day =>
      0 < amount.toInt ∧
        (reserveBody id session amount tenantLimit userLimit day).run
          database = .error (.sql .checkViolation)
  | .settle id charge =>
      0 ≤ charge.toInt ∧
        (settleBody id charge).run database = .error (.sql .checkViolation)
  | .unavailable => False

/-- No CHECK constraint stops a reservation, in any database. -/
theorem reserve_not_breaksCheck
    (database : Database)
    (id : String)
    (session : Session)
    (amount tenantLimit userLimit : Int64)
    (day : String) :
    ¬ (LedgerCall.reserve id session amount tenantLimit userLimit
      day).BreaksCheck database := by
  rintro ⟨positive, stopped⟩
  have answer := immediateTransaction_of_error stopped
  rw [← reserve_of_positive positive] at answer
  by_cases free : database.requests.find id = none
  · by_cases exceeds : tenantLimit.toInt <
        database.held (session.tenantAccount day) + amount.toInt ∨
      userLimit.toInt <
        database.held (session.userAccount day) + amount.toInt
    · rw [reserve_of_over positive free exceeds] at answer
      simp [Failure.toAppError, AppError.ofDiesel] at answer
    · rw [not_or, not_lt, not_lt] at exceeds
      obtain ⟨after, granted, -⟩ :=
        reserve_of_admits ⟨positive, free, exceeds.1, exceeds.2⟩
      rw [granted] at answer
      simp at answer
  · rw [reserve_of_taken positive free] at answer
    simp [Failure.toAppError, AppError.ofDiesel] at answer

/-- No CHECK constraint stops a settlement in a balanced ledger. -/
theorem Balanced.settle_not_breaksCheck
    {database : Database}
    (balanced : Balanced database)
    (id : String)
    (charge : Int64) :
    ¬ (LedgerCall.settle id charge).BreaksCheck database := by
  rintro ⟨nonneg, stopped⟩
  cases found : database.requests.find id with
  | none =>
      rw [run_settleBody_of_unknown found] at stopped
      simp at stopped
  | some request =>
      cases status : request.status with
      | pending =>
          rcases balanced.settle_of_pending found status nonneg with
            ⟨after, settled, -⟩ | ⟨overflowed, -⟩
          · rw [settle_of_nonneg nonneg,
              immediateTransaction_of_error stopped] at settled
            simp at settled
          · rw [overflowed] at stopped
            simp at stopped
      | settled =>
          rw [run_settleBody_of_settled found status] at stopped
          simp at stopped

/-- After any list of calls from empty tables: every account holds the sum of
what its requests contribute and is never negative; every account a request
names exists and every settled request has its charge; no CHECK constraint
stops a call; a pending request is settled unless one of its accounts
overflows; no request is settled twice; and a settlement moves exactly the two
accounts its reservation was made on. -/
theorem ledger_guarantee (calls : List LedgerCall) :
    (∀ account, (ledger.state calls).held account =
        (ledger.state calls).requests.total (contribution account) ∧
      0 ≤ (ledger.state calls).held account) ∧
    (∀ request ∈ (ledger.state calls).requests.rows,
      (ledger.state calls).accounts.find request.tenantAccount ≠ none ∧
      (ledger.state calls).accounts.find request.userAccount ≠ none ∧
      (request.status = .settled → ∃ charge, request.charged = some charge)) ∧
    (∀ call : LedgerCall, ¬ call.BreaksCheck (ledger.state calls)) ∧
    (∀ id charge request,
      (ledger.state calls).requests.find id = some request →
        request.status = .pending → 0 ≤ charge.toInt →
          (∃ after, settle id charge (ledger.state calls) = (.ok (), after)) ∨
          (settle id charge (ledger.state calls) =
              (.error .internal, ledger.state calls) ∧
            ∃ account,
              (account = request.tenantAccount ∨
                account = request.userAccount) ∧
              2 ^ 63 ≤ (ledger.state calls).held account -
                request.reservation.toInt + charge.toInt)) ∧
    (∀ id, settlements id (ledger.journal calls) ≤ 1) ∧
    (∀ id charge after,
      settle id charge (ledger.state calls) = (.ok (), after) →
        ∃ session amount tenantLimit userLimit day,
          (LedgerCall.reserve id session amount tenantLimit userLimit day,
              Except.ok ()) ∈ ledger.journal calls ∧
            Moves (ledger.state calls) after (session.tenantAccount day)
              (session.userAccount day) (charge.toInt - amount.toInt)) := by
  have balanced := balanced_state calls
  have journaled := journaled_state calls
  refine ⟨?_, ?_, ?_, ?_, journaled.once, ?_⟩
  · intro account
    exact ⟨balanced.held account, Database.held_nonneg _ account⟩
  · intro request member
    refine ⟨balanced.tenantExists request member,
      balanced.userExists request member, ?_⟩
    intro settled
    obtain ⟨charge, charged, -⟩ := balanced.charged request member settled
    exact ⟨charge, charged⟩
  · intro call
    cases call with
    | reserve => exact reserve_not_breaksCheck _ _ _ _ _ _ _
    | settle id charge => exact balanced.settle_not_breaksCheck id charge
    | unavailable => exact id
  · intro id charge request found pending nonneg
    rcases balanced.settle_of_pending found pending nonneg with
      ⟨after, settled, -⟩ | ⟨stopped, overflow⟩
    · exact .inl ⟨after, settled⟩
    · refine .inr ⟨?_, overflow⟩
      rw [settle_of_nonneg nonneg, immediateTransaction_of_error stopped]
      rfl
  · intro id charge after settled
    obtain ⟨-, request, found, -, effect⟩ := balanced.settle_ok settled
    obtain ⟨session, tenantLimit, userLimit, day, logged, tenant, user⟩ :=
      journaled.recorded request (Table.mem_of_find found)
    obtain rfl := Table.key_of_find found
    exact ⟨session, request.reservation, tenantLimit, userLimit, day, logged,
      tenant ▸ user ▸ effect.moved⟩

end AsystantGateway
