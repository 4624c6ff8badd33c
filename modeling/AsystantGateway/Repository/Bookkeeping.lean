import AsystantGateway.Library.Holds
import AsystantGateway.Library.Simulation
import AsystantGateway.Repository.Ledger

/-!
# The ledger as a book of holds

What the ledger is for: a request is a hold on the account of its tenant and on
that of its user, and what an account holds is a sum over the requests. The
repository keeps that sum in a column of its own, which it reads, checks and
writes one account at a time. No caller can tell: every run of calls is answered
as by the book that has no accounts.
-/

namespace AsystantGateway

/-- What a caller is told when a hold is not placed. -/
def Book.NotPlaced.toAppError : Book.NotPlaced → AppError
  | .known => .conflict
  | .exceeded => .budget

/-- What a caller is told when a hold is not closed. -/
def Book.NotClosed.toAppError : Book.NotClosed → AppError
  | .unknown => .internal
  | .closed => .conflict
  | .exceeded => .internal

/-- The open hold of a session on the accounts of a day. -/
def Session.hold
    (session : Session)
    (id : String)
    (amount : Int64)
    (day : String) : Hold String String where
  id
  accounts := [session.tenantAccount day, session.userAccount day]
  amount := amount.toInt
  charge := none

/-- The bounds that a hold of a session is placed within. -/
def Session.bounds
    (session : Session)
    (tenantLimit userLimit : Int64)
    (day : String) : List (String × Int) :=
  [(session.tenantAccount day, tenantLimit.toInt),
    (session.userAccount day, userLimit.toInt)]

theorem Session.mem_accounts_of_mem_bounds
    (session : Session)
    (id : String)
    (amount : Int64)
    (day : String)
    (tenantLimit userLimit : Int64) :
    ∀ limit ∈ session.bounds tenantLimit userLimit day,
      limit.1 ∈ (session.hold id amount day).accounts := by
  simp [bounds, hold]

namespace LedgerCall

/-- What a call asks of the book. Money is counted below `2 ^ 63`. -/
def record :
    LedgerCall → Book String String → Except AppError (Book String String)
  | .reserve id session amount tenantLimit userLimit day, book =>
      if amount.toInt ≤ 0 then .error .invalid
      else
        (book.place (session.hold id amount day)
          (session.bounds tenantLimit userLimit day)).mapError
          Book.NotPlaced.toAppError
  | .settle id charge, book =>
      if charge.toInt < 0 then .error .invalid
      else (book.close id charge.toInt (2 ^ 63)).mapError
        Book.NotClosed.toAppError
  | .unavailable, _ => .error .internal

end LedgerCall

/-- The book under any serialisation of its callers. A call that is refused
leaves it as it is. -/
def bookkeeping : Mealy (Book String String) LedgerCall (Except AppError Unit) where
  start := .empty
  respond book call :=
    match call.record book with
    | .ok after => (.ok (), after)
    | .error error => (.error error, book)

theorem respond_of_record_ok
    {book after : Book String String}
    {call : LedgerCall}
    (recorded : call.record book = .ok after) :
    bookkeeping.respond book call = (.ok (), after) := by
  simp only [bookkeeping, recorded]

theorem respond_of_record_error
    {book : Book String String}
    {call : LedgerCall}
    {error : AppError}
    (refused : call.record book = .error error) :
    bookkeeping.respond book call = (.error error, book) := by
  simp only [bookkeeping, refused]

/-- The hold that a request is. -/
def Request.hold (request : Request) : Hold String String where
  id := request.id
  accounts := [request.tenantAccount, request.userAccount]
  amount := request.reservation.toInt
  charge :=
    match request.status with
    | .pending => none
    | .settled => request.charged.map Int64.toInt

theorem Request.id_hold (request : Request) :
    request.hold.id = request.id := rfl

/-- The holds of a database. -/
def Database.book (database : Database) : Book String String :=
  database.requests.mapRows Request.hold Request.id_hold

theorem Database.find_book (database : Database) (id : String) :
    database.book.find id = (database.requests.find id).map Request.hold :=
  database.requests.find_mapRows Request.id_hold id

/-- What an account holds is a 64-bit number. -/
theorem Database.held_lt (database : Database) (account : String) :
    database.held account < 2 ^ 63 := by
  unfold held
  split
  case h_1 => decide
  case h_2 row found => exact row.heldMicros.toInt_lt

section Seen

variable {database after : Database}

/-- In a balanced ledger the column has the sums of the book. -/
theorem Balanced.held_book
    (balanced : Balanced database)
    (account : String) :
    Book.held database.book account = database.held account := by
  rw [balanced.held account]
  unfold Book.held Database.book
  rw [Table.total_mapRows]
  apply Table.total_congr
  intro request member
  unfold Hold.stakeOn Hold.stake contribution Request.hold
  simp only [List.mem_cons, List.not_mem_nil, or_false,
    eq_comm (a := account)]
  cases status : request.status with
  | pending => rfl
  | settled =>
      obtain ⟨charge, charged, -⟩ := balanced.charged request member status
      simp only [charged, Option.map_some, Option.getD_some]

/-- A request of a balanced ledger is an open hold while it is pending. -/
theorem Balanced.charge_hold
    (balanced : Balanced database)
    {request : Request}
    (member : request ∈ database.requests.rows) :
    request.hold.charge.isSome = true ↔ request.status = .settled := by
  unfold Request.hold
  cases status : request.status with
  | pending => simp
  | settled =>
      obtain ⟨charge, charged, -⟩ := balanced.charged request member status
      simp [charged]

/-- A granted reservation is a hold placed in the book. -/
theorem Reserves.insert_book
    {id day : String}
    {session : Session}
    {amount : Int64}
    (reserves : Reserves database after id session amount day) :
    database.book.insert (session.hold id amount day) =
      some after.book := by
  obtain ⟨check, inserted⟩ := reserves.recorded
  have seen := database.requests.insert_mapRows Request.id_hold
    (session.pendingRequest id amount day check)
  rw [inserted] at seen
  exact seen

/-- A settlement closes the hold of its request. -/
theorem Settles.book_eq
    {request : Request}
    {charge : Int64}
    (settles : Settles database after request charge) :
    after.book = database.book.update request.id (Hold.close charge.toInt)
      (Hold.id_close charge.toInt) := by
  unfold Database.book
  rw [settles.requests]
  exact database.requests.update_mapRows Request.id_hold request.id _
    (Hold.id_close charge.toInt) fun _ _ _ => rfl

end Seen

section Call

variable {database : Database}

/-- What one call does to the ledger is what it asks of the book. -/
structure Mirrors (database : Database) (call : LedgerCall) : Prop where
  answer : (call.perform database).1 =
    (bookkeeping.respond database.book call).1
  book : (call.perform database).2.book =
    (bookkeeping.respond database.book call).2

theorem Mirrors.of_ok
    {call : LedgerCall}
    {after : Database}
    (performed : call.perform database = (.ok (), after))
    (recorded : call.record database.book = .ok after.book) :
    Mirrors database call := by
  constructor <;> rw [performed, respond_of_record_ok recorded]

theorem Mirrors.of_error
    {call : LedgerCall}
    {error : AppError}
    (performed : call.perform database = (.error error, database))
    (refused : call.record database.book = .error error) :
    Mirrors database call := by
  constructor <;> rw [performed, respond_of_record_error refused]

/-- A reservation is placed, or refused for the same reason. -/
theorem Balanced.mirrors_reserve
    (balanced : Balanced database)
    (id : String)
    (session : Session)
    (amount tenantLimit userLimit : Int64)
    (day : String) :
    Mirrors database
      (.reserve id session amount tenantLimit userLimit day) := by
  by_cases positive : 0 < amount.toInt
  · have counts : ¬ amount.toInt ≤ 0 := not_le.mpr positive
    by_cases free : database.requests.find id = none
    · have isNew : database.book.find id = none := by
        rw [Database.find_book, free]
        rfl
      obtain ⟨book, inserted⟩ := Table.exists_insert
        (session.hold id amount day) isNew
      have placed := Book.place_of_new rfl inserted
        (session.mem_accounts_of_mem_bounds id amount day tenantLimit
          userLimit)
      have within_iff : (∀ limit ∈ session.bounds tenantLimit userLimit day,
          Book.held database.book limit.1 +
            (session.hold id amount day).amount ≤ limit.2) ↔
          database.held (session.tenantAccount day) + amount.toInt ≤
              tenantLimit.toInt ∧
            database.held (session.userAccount day) + amount.toInt ≤
              userLimit.toInt := by
        simp [Session.bounds, Session.hold, balanced.held_book]
      by_cases within :
          database.held (session.tenantAccount day) + amount.toInt ≤
              tenantLimit.toInt ∧
            database.held (session.userAccount day) + amount.toInt ≤
              userLimit.toInt
      · obtain ⟨after, granted, reserves⟩ := reserve_of_admits
          ⟨positive, free, within.1, within.2⟩
        obtain rfl := Option.some.inj
          (inserted.symm.trans reserves.insert_book)
        refine .of_ok granted ?_
        rw [if_pos (within_iff.mpr within)] at placed
        simp only [LedgerCall.record, if_neg counts, placed]
        rfl
      · refine .of_error (reserve_of_over positive free ?_) ?_
        · rw [not_and_or, not_le, not_le] at within
          exact within
        · rw [if_neg (fun all => within (within_iff.mp all))] at placed
          simp only [LedgerCall.record, if_neg counts, placed]
          rfl
    · refine .of_error (reserve_of_taken positive free) ?_
      have known : database.book.find (session.hold id amount day).id ≠
          none := by
        rw [Database.find_book]
        simpa [Session.hold] using free
      simp only [LedgerCall.record, if_neg counts,
        Book.place_of_known known]
      rfl
  · refine .of_error (reserve_of_not_positive positive) ?_
    simp only [LedgerCall.record, if_pos (not_lt.mp positive)]

/-- A settlement closes the hold, or is refused for the same reason. -/
theorem Balanced.mirrors_settle
    (balanced : Balanced database)
    (id : String)
    (charge : Int64) :
    Mirrors database (.settle id charge) := by
  by_cases nonneg : 0 ≤ charge.toInt
  · have counts : ¬ charge.toInt < 0 := not_lt.mpr nonneg
    have performed : ∀ failure,
        (settleBody id charge).run database = .error failure →
          settle id charge database = (.error failure.toAppError, database) := by
      intro failure stopped
      rw [settle_of_nonneg nonneg, immediateTransaction_of_error stopped]
    cases found : database.requests.find id with
    | none =>
        refine .of_error (performed _ (run_settleBody_of_unknown found)) ?_
        have unknown : database.book.find id = none := by
          rw [Database.find_book, found]
          rfl
        simp only [LedgerCall.record, if_neg counts,
          Book.close_of_unknown unknown]
        rfl
    | some request =>
        have known : database.book.find id = some request.hold := by
          rw [Database.find_book, found]
          rfl
        have isOpen := balanced.charge_hold (Table.mem_of_find found)
        cases status : request.status with
        | settled =>
            refine .of_error
              (performed _ (run_settleBody_of_settled found status)) ?_
            simp only [LedgerCall.record, if_neg counts,
              Book.close_of_closed known (isOpen.mpr status)]
            rfl
        | pending =>
            have noCharge : request.hold.charge = none := by
              simp [Request.hold, status]
            have closed := Book.close_of_open known noCharge charge.toInt
              (2 ^ 63)
            have bounds : (∀ account ∈ request.hold.accounts,
                Book.held database.book account +
                  (charge.toInt - request.hold.amount) < 2 ^ 63) ↔
                ¬ ∃ account,
                  (account = request.tenantAccount ∨
                    account = request.userAccount) ∧
                  2 ^ 63 ≤ database.held account -
                    request.reservation.toInt + charge.toInt := by
              simp only [Request.hold, List.mem_cons, List.not_mem_nil,
                or_false, balanced.held_book, not_exists, not_and, not_le]
              refine forall₂_congr fun account _ => ?_
              omega
            rcases balanced.settle_of_pending found status nonneg with
              ⟨after, granted, settles⟩ | ⟨stopped, overflows⟩
            · refine .of_ok granted ?_
              have fits : ¬ ∃ account,
                  (account = request.tenantAccount ∨
                    account = request.userAccount) ∧
                  2 ^ 63 ≤ database.held account -
                    request.reservation.toInt + charge.toInt := by
                rintro ⟨account, ofRequest, overflows⟩
                have moved := settles.moved.held account
                rw [if_pos ofRequest] at moved
                have bounded := after.held_lt account
                omega
              obtain rfl := Table.key_of_find found
              rw [if_pos (bounds.mpr fits), ← settles.book_eq] at closed
              simp only [LedgerCall.record, if_neg counts, closed]
              rfl
            · refine .of_error (performed _ stopped) ?_
              rw [if_neg (fun all => bounds.mp all overflows)] at closed
              simp only [LedgerCall.record, if_neg counts, closed]
              rfl
  · have refused : settle id charge database = (.error .invalid, database) := by
      have negative : charge < 0 := by
        rw [Int64.lt_iff_toInt_lt]
        simpa using nonneg
      simp [settle, negative]
    refine .of_error refused ?_
    simp only [LedgerCall.record, if_pos (not_le.mp nonneg)]

/-- Every call on a balanced ledger does what it asks of the book. -/
theorem Balanced.mirrors
    (balanced : Balanced database)
    (call : LedgerCall) :
    Mirrors database call := by
  cases call with
  | reserve id session amount tenantLimit userLimit day =>
      exact balanced.mirrors_reserve id session amount tenantLimit userLimit day
  | settle id charge => exact balanced.mirrors_settle id charge
  | unavailable => exact .of_error rfl rfl

end Call

/-- The ledger answers like the book of its holds. -/
theorem ledger_simulates_bookkeeping :
    Mealy.Simulates ledger bookkeeping fun database book =>
      Balanced database ∧ database.book = book where
  start := ⟨.empty, rfl⟩
  answer := by
    rintro database _ call ⟨balanced, rfl⟩
    exact (balanced.mirrors call).answer
  step := by
    rintro database _ call ⟨balanced, rfl⟩
    exact ⟨balanced_perform database call balanced,
      (balanced.mirrors call).book⟩

/-- Any run of calls from empty tables is answered as by the book, and leaves
its holds in the requests and their sums in the column of the accounts. -/
theorem ledger_refines_bookkeeping (calls : List LedgerCall) :
    ledger.journal calls = bookkeeping.journal calls ∧
      (ledger.state calls).book = bookkeeping.state calls ∧
        ∀ account, (ledger.state calls).held account =
          Book.held (bookkeeping.state calls) account := by
  obtain ⟨sameJournal, balanced, sameBook⟩ :=
    ledger_simulates_bookkeeping.run calls
  refine ⟨sameJournal, sameBook, fun account => ?_⟩
  rw [← sameBook, balanced.held_book]

end AsystantGateway
