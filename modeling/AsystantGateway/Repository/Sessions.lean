import AsystantGateway.Repository.Database
import AsystantGateway.Model.Turn

/-!
# Sessions, revocations and registrations

An exchange is one transaction that refuses a revoked login, consumes the
ticket and stores the session. Authentication is two separate reads: the
session row first, its revocation afterwards, with any number of writes
between them. Instants are compared as instants; the stored text of a time
orders the same way.
-/

namespace AsystantGateway

/-- One day in nanoseconds. -/
def dayNanos : Int := 24 * 3600 * 1000000000

/-- The session that an exchange stores for a ticket. -/
def Session.ofClaims
    (claims : TicketClaims)
    (tokenHash : String)
    (expiresAt : Instant) : Session where
  tokenHash := tokenHash
  identity := claims.identity
  sid := claims.sessionKey
  issuer := claims.iss
  tenant := claims.tenant
  subject := claims.sub
  expiresAt := expiresAt

/-- `SELECT count(*) FROM revoked_sessions WHERE id = ?`. -/
def countRevoked (key : String) : Transaction Nat := fun database =>
  match database.revokedSessions.find key with
  | none => .ok (0, database)
  | some _ => .ok (1, database)

/-- `INSERT INTO consumed_tickets`. -/
def insertConsumedTicket
    (id : String)
    (expiresAt : Instant) : Transaction Unit := fun database =>
  match database.consumedTickets.insert { id, expiresAt } with
  | none => .error (.sql .uniqueViolation)
  | some consumedTickets => .ok ((), { database with consumedTickets })

/-- `INSERT INTO sessions`. -/
def insertSession (session : Session) : Transaction Unit := fun database =>
  match database.sessions.insert session with
  | none => .error (.sql .uniqueViolation)
  | some sessions => .ok ((), { database with sessions })

/-- `INSERT INTO registrations`. -/
def insertRegistration (registration : Registration) : Transaction Unit :=
  fun database =>
    match database.registrations.insert registration with
    | none => .error (.sql .uniqueViolation)
    | some registrations => .ok ((), { database with registrations })

/-- The body of the exchange transaction. -/
def exchangeBody (claims : TicketClaims) (session : Session) :
    Transaction Unit := do
  let revoked ← countRevoked claims.sessionKey
  if revoked > 0 then throw (.app .authentication)
  else
    insertConsumedTicket (ticketKey claims.iss claims.jti) session.expiresAt
    insertSession session

/-- Consume a ticket and store the session it is exchanged for. -/
def exchange
    (claims : TicketClaims)
    (session : Session)
    (database : Database) : Except AppError Unit × Database :=
  immediateTransaction (exchangeBody claims session) database

/-- The first read of an authentication: the session of a token, when it has
not expired. -/
def selectSession
    (hash : String)
    (now : Instant)
    (database : Database) : Except AppError Session :=
  match database.sessions.find hash with
  | none => .error .authentication
  | some session =>
      if session.expiresAt > now then .ok session else .error .authentication

/-- The second read of an authentication: whether the login is revoked. -/
def refuseRevoked
    (session : Session)
    (database : Database) : Except AppError Unit :=
  match database.revokedSessions.find session.sid with
  | none => .ok ()
  | some _ => .error .authentication

/-- Authenticate a token, reading the session from one database state and its
revocation from another, possibly later one. -/
def authenticateAcross
    (hash : String)
    (now : Instant)
    (first second : Database) : Except AppError Session := do
  let session ← selectSession hash now first
  refuseRevoked session second
  return session

/-- Authenticate a token with no write between the two reads. -/
def authenticate
    (hash : String)
    (now : Instant)
    (database : Database) : Except AppError Session :=
  authenticateAcross hash now database database

/-- Revoke the login of a session. -/
def revoke
    (session : Session)
    (database : Database) : Except AppError Unit × Database :=
  (.ok (), { database with
    revokedSessions := database.revokedSessions.insertOrIgnore
      { id := session.sid } })

/-- Store a registration for 24 hours. -/
def register
    (id : String)
    (session : Session)
    (manifest : Manifest)
    (now : Instant)
    (database : Database) : Except AppError Unit × Database :=
  immediateTransaction
    (insertRegistration
      { id, identity := session.identity, manifest := manifest.text,
        expiresAt := now + dayNanos })
    database

/-- Read a registration back, for the identity that owns it. The text is read
by the JSON library. -/
def manifest
    (fromStr : String → Option Manifest)
    (id identity : String)
    (now : Instant)
    (database : Database) : Except AppError Manifest :=
  match database.registrations.find id with
  | none => .error .invalid
  | some registration =>
      if registration.identity = identity ∧ registration.expiresAt > now then
        match fromStr registration.manifest with
        | none => .error .internal
        | some manifest => .ok manifest
      else
        .error .invalid

section Exchange

open Fallible

variable
  {claims : TicketClaims}
  {session : Session}
  {database after : Database}

/-- When an exchange is admissible: the login is not revoked, the ticket not
consumed and the token new. -/
structure Exchangeable
    (database : Database)
    (claims : TicketClaims)
    (session : Session) : Prop where
  alive : database.revokedSessions.find claims.sessionKey = none
  unused : database.consumedTickets.find (ticketKey claims.iss claims.jti) =
    none
  new : database.sessions.find session.tokenHash = none

/-- What an exchange does: it consumes the ticket and stores the session. -/
structure Exchanges
    (before after : Database)
    (claims : TicketClaims)
    (session : Session) : Prop where
  consumed : before.consumedTickets.insert
      { id := ticketKey claims.iss claims.jti,
        expiresAt := session.expiresAt } =
    some after.consumedTickets
  stored : before.sessions.insert session = some after.sessions
  frame : { after with
    consumedTickets := before.consumedTickets
    sessions := before.sessions } = before

/-- An admissible exchange succeeds. -/
theorem exchange_of_exchangeable
    (admits : Exchangeable database claims session) :
    ∃ after, exchange claims session database = (.ok (), after) ∧
      Exchanges database after claims session := by
  let ticket : ConsumedTicket :=
    { id := ticketKey claims.iss claims.jti, expiresAt := session.expiresAt }
  have unused : database.consumedTickets.find ticket.id = none :=
    admits.unused
  obtain ⟨consumedTickets, consumed⟩ := Table.exists_insert ticket unused
  obtain ⟨sessions, stored⟩ := Table.exists_insert session admits.new
  refine ⟨{ database with consumedTickets, sessions }, ?_,
    consumed, stored, rfl⟩
  apply immediateTransaction_of_ok
  have counted : (countRevoked claims.sessionKey).run database =
      .ok (0, database) := by
    simp only [countRevoked, StateT.run, admits.alive]
  have inserted : (insertConsumedTicket (ticketKey claims.iss claims.jti)
      session.expiresAt).run database =
        .ok ((), { database with consumedTickets }) := by
    unfold ticket at consumed
    simp only [insertConsumedTicket, StateT.run, consumed]
  unfold exchangeBody
  rw [run_bind_of_ok counted]
  simp only [Nat.lt_irrefl, gt_iff_lt, if_false]
  rw [run_bind_of_ok inserted]
  simp only [insertSession, StateT.run, stored]

/-- An exchange that is not admissible fails and changes nothing. -/
theorem exchange_of_not_exchangeable
    (refused : ¬ Exchangeable database claims session) :
    ∃ error, exchange claims session database = (.error error, database) := by
  suffices stops : ∃ failure, (exchangeBody claims session).run database =
      .error failure by
    obtain ⟨failure, stopped⟩ := stops
    exact ⟨failure.toAppError, immediateTransaction_of_error stopped⟩
  unfold exchangeBody
  cases revoked : database.revokedSessions.find claims.sessionKey with
  | some row =>
      have counted : (countRevoked claims.sessionKey).run database =
          .ok (1, database) := by
        simp only [countRevoked, StateT.run, revoked]
      exact ⟨.app .authentication, run_bind_of_ok counted⟩
  | none =>
      have counted : (countRevoked claims.sessionKey).run database =
          .ok (0, database) := by
        simp only [countRevoked, StateT.run, revoked]
      rw [run_bind_of_ok counted]
      simp only [Nat.lt_irrefl, gt_iff_lt, if_false]
      let ticket : ConsumedTicket :=
        { id := ticketKey claims.iss claims.jti,
          expiresAt := session.expiresAt }
      cases consumed : database.consumedTickets.insert ticket with
      | none =>
          refine ⟨.sql .uniqueViolation, run_bind_of_error ?_⟩
          unfold ticket at consumed
          simp only [insertConsumedTicket, StateT.run, consumed]
      | some consumedTickets =>
          have inserted : (insertConsumedTicket
              (ticketKey claims.iss claims.jti) session.expiresAt).run
                database = .ok ((), { database with consumedTickets }) := by
            unfold ticket at consumed
            simp only [insertConsumedTicket, StateT.run, consumed]
          rw [run_bind_of_ok inserted]
          have taken : database.sessions.find session.tokenHash ≠ none := by
            intro new
            exact refused ⟨revoked,
              (Table.insert_eq_some_iff.mp consumed).1, new⟩
          have refusedInsert : database.sessions.insert session = none :=
            Table.insert_eq_none_iff.mpr taken
          exact ⟨.sql .uniqueViolation, by
            simp only [insertSession, StateT.run, refusedInsert]⟩

end Exchange

/-- A token authenticates exactly the stored, unexpired session whose login is
not revoked. -/
theorem authenticateAcross_ok_iff
    {hash : String}
    {now : Instant}
    {first second : Database}
    {session : Session} :
    authenticateAcross hash now first second = .ok session ↔
      first.sessions.find hash = some session ∧ now < session.expiresAt ∧
        second.revokedSessions.find session.sid = none := by
  unfold authenticateAcross selectSession
  cases found : first.sessions.find hash with
  | none => simp [bind, Except.bind]
  | some row =>
      by_cases alive : row.expiresAt > now
      · cases revoked : second.revokedSessions.find row.sid with
        | none =>
            simp only [alive, if_true, refuseRevoked, revoked, bind,
              Except.bind, pure, Except.pure, Except.ok.injEq,
              Option.some.injEq]
            constructor
            · rintro rfl
              exact ⟨rfl, alive, revoked⟩
            · exact fun both => both.1
        | some revocation =>
            simp only [alive, if_true, refuseRevoked, revoked, bind,
              Except.bind, reduceCtorEq, Option.some.injEq, false_iff]
            rintro ⟨rfl, -, absent⟩
            rw [absent] at revoked
            cases revoked
      · simp only [alive, if_false, bind, Except.bind, reduceCtorEq,
          Option.some.injEq, false_iff]
        rintro ⟨rfl, isAlive, -⟩
        exact alive isAlive

end AsystantGateway
