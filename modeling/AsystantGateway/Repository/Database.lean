import AsystantGateway.Library.Fallible
import AsystantGateway.Library.Table
import AsystantGateway.Library.CheckedInt
import AsystantGateway.Model.Error
import AsystantGateway.Model.Identity

/-!
# The gateway database

Rows carry the CHECK constraints of the schema as fields, tables carry their
primary keys, and so a database that breaks the schema cannot be built. A
statement that would break one fails instead. A transaction is a sequence of
statements that either all take effect or leave the database as it was;
`BEGIN IMMEDIATE` runs one writer at a time, so whole transactions are the
atomic steps of every interleaving.
-/

namespace AsystantGateway

/-- A ticket that has been exchanged. -/
structure ConsumedTicket where
  id : String
  expiresAt : Instant

/-- A login that has been revoked. -/
structure RevokedSession where
  id : String

/-- A registered assistant, with its manifest as the text that was stored. -/
structure Registration where
  id : String
  identity : String
  manifest : String
  expiresAt : Instant

/-- The money held on one account. -/
structure Account where
  id : String
  heldMicros : Int64
  /-- `CHECK (held_micros >= 0)`. -/
  check : 0 ≤ heldMicros.toInt

/-- An account that holds nothing passes its check. -/
theorem Account.check_zero : 0 ≤ (0 : Int64).toInt := by
  decide

/-- What an account holds does not change its id. -/
theorem Account.id_set
    (next : Int64)
    (check : 0 ≤ next.toInt)
    (account : Account) :
    { account with heldMicros := next, check }.id = account.id := rfl

/-- Whether the cost of a request is known. -/
inductive RequestStatus
  | pending
  | settled
  deriving DecidableEq, Repr

/-- One inference request and the accounts it is charged to. -/
structure Request where
  id : String
  identity : String
  tenantAccount : String
  userAccount : String
  reservation : Int64
  charged : Option Int64
  status : RequestStatus
  /-- `CHECK (reservation >= 0)`. -/
  check : 0 ≤ reservation.toInt

/-- All tables. The administration policy is the one row that table may
hold. -/
structure Database where
  sessions : Table Session.tokenHash
  consumedTickets : Table ConsumedTicket.id
  revokedSessions : Table RevokedSession.id
  registrations : Table Registration.id
  accounts : Table Account.id
  requests : Table Request.id
  adminPolicy : Option String

/-- The database after the migrations, before any request. -/
def Database.empty : Database where
  sessions := .empty
  consumedTickets := .empty
  revokedSessions := .empty
  registrations := .empty
  accounts := .empty
  requests := .empty
  adminPolicy := none

/-- Why the body of a transaction stops. -/
inductive Failure
  /-- The program returned an error of its own. -/
  | app (error : AppError)
  /-- A statement failed. -/
  | sql (error : DieselError)
  deriving DecidableEq, Repr

/-- The error a failed transaction answers with. -/
def Failure.toAppError : Failure → AppError
  | .app error => error
  | .sql error => AppError.ofDiesel error

/-- The body of a transaction: statements in sequence, stopping at the first
failure. -/
abbrev Transaction (α : Type) := Fallible Database Failure α

/-- Run a transaction. A failure rolls every statement back. -/
def immediateTransaction
    (body : Transaction α)
    (database : Database) : Except AppError α × Database :=
  match body.run database with
  | .ok (value, after) => (.ok value, after)
  | .error failure => (.error failure.toAppError, database)

/-- What `immediateTransaction` does when its body runs to the end. -/
theorem immediateTransaction_of_ok
    {body : Transaction α}
    {database after : Database}
    {value : α}
    (ran : body.run database = .ok (value, after)) :
    immediateTransaction body database = (.ok value, after) := by
  simp [immediateTransaction, ran]

/-- What `immediateTransaction` does when its body stops. -/
theorem immediateTransaction_of_error
    {body : Transaction α}
    {database : Database}
    {failure : Failure}
    (stopped : body.run database = .error failure) :
    immediateTransaction body database =
      (.error failure.toAppError, database) := by
  simp [immediateTransaction, stopped]

/-- A transaction that reports an error has changed nothing. -/
theorem immediateTransaction_error
    {body : Transaction α}
    {database after : Database}
    {error : AppError}
    (failed : immediateTransaction body database = (.error error, after)) :
    after = database := by
  cases ran : body.run database with
  | error failure =>
      rw [immediateTransaction_of_error ran] at failed
      exact (Prod.mk.inj failed).2.symm
  | ok result =>
      rw [immediateTransaction_of_ok ran] at failed
      simp at failed

/-- A transaction keeps what its body keeps. -/
theorem immediateTransaction_keeps
    {holds : Database → Prop}
    {good : α → Prop}
    {body : Transaction α}
    (keeps : Fallible.Keeps holds good body)
    {database : Database}
    (held : holds database) :
    holds (immediateTransaction body database).2 := by
  cases ran : body.run database with
  | error failure =>
      rw [immediateTransaction_of_error ran]
      exact held
  | ok result =>
      rw [immediateTransaction_of_ok ran]
      exact (keeps database result.1 result.2 held ran).1

/-- A transaction leaves what its body leaves. -/
theorem immediateTransaction_leaves
    {view : Database → β}
    {body : Transaction α}
    (leaves : Fallible.Leaves view body)
    (database : Database) :
    view (immediateTransaction body database).2 = view database := by
  cases ran : body.run database with
  | error failure => rw [immediateTransaction_of_error ran]
  | ok result =>
      rw [immediateTransaction_of_ok ran]
      exact leaves database result.1 result.2 ran

/-- Transactions on databases that look alike answer alike and leave databases
that look alike. -/
theorem immediateTransaction_agrees
    {alike : Database → Database → Prop}
    {good : α → Prop}
    {body : Transaction α}
    (agrees : Fallible.Agrees alike good body)
    {first second : Database}
    (before : alike first second) :
    (immediateTransaction body first).1 =
        (immediateTransaction body second).1 ∧
      alike (immediateTransaction body first).2
        (immediateTransaction body second).2 := by
  rcases agrees first second before with
    ⟨failure, firstStops, secondStops⟩ |
    ⟨value, firstAfter, secondAfter, firstRan, secondRan, after, -⟩
  · rw [immediateTransaction_of_error firstStops,
      immediateTransaction_of_error secondStops]
    exact ⟨rfl, before⟩
  · rw [immediateTransaction_of_ok firstRan,
      immediateTransaction_of_ok secondRan]
    exact ⟨rfl, after⟩

/-- `INSERT INTO requests`. -/
def insertRequest
    (id identity tenantAccount userAccount : String)
    (reservation : Int64) : Transaction Unit := fun database =>
  if check : 0 ≤ reservation.toInt then
    match database.requests.insert
        { id, identity, tenantAccount, userAccount, reservation,
          charged := none, status := .pending, check } with
    | none => .error (.sql .uniqueViolation)
    | some requests => .ok ((), { database with requests })
  else
    .error (.sql .checkViolation)

/-- `INSERT INTO accounts ... ON CONFLICT DO NOTHING`, with nothing held. -/
def insertAccountOrIgnore (id : String) : Transaction Unit := fun database =>
  .ok ((), { database with
    accounts := database.accounts.insertOrIgnore
      { id, heldMicros := 0, check := Account.check_zero } })

/-- `SELECT held_micros FROM accounts`, failing on a missing row. -/
def selectHeldMicros (id : String) : Transaction Int64 := fun database =>
  match database.accounts.find id with
  | none => .error (.sql .notFound)
  | some account => .ok (account.heldMicros, database)

/-- `UPDATE accounts SET held_micros`. A CHECK is evaluated on the rows the
statement changes, so an update of a missing row does nothing. -/
def updateHeldMicros
    (id : String)
    (next : Int64) : Transaction Unit := fun database =>
  if check : 0 ≤ next.toInt then
    .ok ((), { database with
      accounts := database.accounts.update id
        (fun account => { account with heldMicros := next, check })
        (Account.id_set next check) })
  else
    match database.accounts.find id with
    | none => .ok ((), database)
    | some _ => .error (.sql .checkViolation)

/-- `SELECT ... FROM requests`, failing on a missing row. -/
def selectRequest (id : String) : Transaction Request := fun database =>
  match database.requests.find id with
  | none => .error (.sql .notFound)
  | some request => .ok (request, database)

/-- `UPDATE requests SET charged, status`. -/
def settleRequest
    (id : String)
    (charge : Int64) : Transaction Unit := fun database =>
  .ok ((), { database with
    requests := database.requests.update id
      (fun request => { request with
        charged := some charge, status := .settled })
      fun _ => rfl })

/-- The money held on an account, nothing when the account does not exist. -/
def Database.held (database : Database) (account : String) : Int :=
  match database.accounts.find account with
  | none => 0
  | some row => row.heldMicros.toInt

theorem Database.held_nonneg (database : Database) (account : String) :
    0 ≤ database.held account := by
  unfold held
  split
  case h_1 => rfl
  case h_2 row found => exact row.check

theorem Database.held_of_find
    {database : Database}
    {account : String}
    {row : Account}
    (found : database.accounts.find account = some row) :
    database.held account = row.heldMicros.toInt := by
  simp [held, found]

theorem Database.held_of_absent
    {database : Database}
    {account : String}
    (absent : database.accounts.find account = none) :
    database.held account = 0 := by
  simp [held, absent]

end AsystantGateway
