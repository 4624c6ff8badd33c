import AsystantGateway.Library.Machine
import AsystantGateway.Repository.Accounting
import AsystantGateway.Repository.Sessions

/-!
# Repository operations on behalf of a tenant

Every repository operation acts for a session, and a session is built from the
claims of a ticket. A run is a list of operations of any number of tenants. The
tokens, registration ids, request ids and tickets that operations name are
drawn at random or hashed; `Unshared` says that none generated for one tenant
is named by another.

Every row of the tables was written for one operation of the run, and carries
the texts of the session that operation acted for.
-/

namespace AsystantGateway

/-- The issuer and the tenant a login belongs to. -/
structure Tenancy where
  iss : String
  tenant : String
  deriving DecidableEq, Repr

/-- One repository operation, without the session it acts for. An
authentication whose two reads are separated by other operations is a
`selectSession` followed later by a `refuseRevoked`. -/
inductive Operation
  | exchange
  | authenticate (now : Instant)
  | selectSession (now : Instant)
  | refuseRevoked
  | revoke
  | register (id : String) (manifest : Manifest) (now : Instant)
  | manifest (id : String) (now : Instant)
  | reserve
      (id : String)
      (amount tenantLimit userLimit : Int64)
      (day : String)
  | settle (id : String) (charge : Int64)

/-- An operation for the session that a ticket was exchanged for. -/
structure TenantCall where
  claims : TicketClaims
  tokenHash : String
  expiresAt : Instant
  operation : Operation

/-- The answer of a repository operation. -/
inductive Answer
  | done (result : Except AppError Unit)
  | session (result : Except AppError Session)
  | manifest (result : Except AppError Manifest)

/-- A random or hashed text that an operation names. -/
inductive Name
  | token (hash : String)
  | ticket (iss jti : String)
  | registration (id : String)
  | request (id : String)
  deriving DecidableEq, Repr

namespace TenantCall

/-- The issuer and tenant a call is performed for. -/
def tenancy (call : TenantCall) : Tenancy where
  iss := call.claims.iss
  tenant := call.claims.tenant

/-- The session a call acts for. -/
def session (call : TenantCall) : Session :=
  .ofClaims call.claims call.tokenHash call.expiresAt

/-- Perform a call. -/
def perform
    (fromStr : String → Option Manifest)
    (call : TenantCall)
    (database : Database) : Answer × Database :=
  match call.operation with
  | .exchange =>
      let (result, after) :=
        AsystantGateway.exchange call.claims call.session database
      (.done result, after)
  | .authenticate now =>
      (.session (AsystantGateway.authenticate call.tokenHash now database),
        database)
  | .selectSession now =>
      (.session (AsystantGateway.selectSession call.tokenHash now database),
        database)
  | .refuseRevoked =>
      (.done (AsystantGateway.refuseRevoked call.session database), database)
  | .revoke =>
      let (result, after) := AsystantGateway.revoke call.session database
      (.done result, after)
  | .register id manifest now =>
      let (result, after) :=
        AsystantGateway.register id call.session manifest now database
      (.done result, after)
  | .manifest id now =>
      (.manifest (AsystantGateway.manifest fromStr id call.session.identity
        now database), database)
  | .reserve id amount tenantLimit userLimit day =>
      let (result, after) := AsystantGateway.reserve id call.session amount
        tenantLimit userLimit day database
      (.done result, after)
  | .settle id charge =>
      let (result, after) := AsystantGateway.settle id charge database
      (.done result, after)

/-- The names that are generated for a call. -/
def generates (call : TenantCall) : List Name :=
  match call.operation with
  | .exchange =>
      [.token call.tokenHash, .ticket call.claims.iss call.claims.jti]
  | .register id _ _ => [.registration id]
  | .reserve id _ _ _ _ => [.request id]
  | _ => []

/-- The names a call uses: the generated ones, the token it authenticates and
the request it settles. -/
def uses (call : TenantCall) : List Name :=
  match call.operation with
  | .authenticate _ => [.token call.tokenHash]
  | .selectSession _ => [.token call.tokenHash]
  | .settle id _ => [.request id]
  | _ => call.generates

theorem uses_of_generates
    {call : TenantCall}
    {name : Name}
    (generated : name ∈ call.generates) :
    name ∈ call.uses := by
  unfold generates at generated
  unfold uses generates
  split at generated <;> simp_all

end TenantCall

/-- The repository under any serialisation of its callers. -/
def repository
    (fromStr : String → Option Manifest) :
    Mealy Database TenantCall Answer where
  start := .empty
  respond database call := call.perform fromStr database

/-- No name generated for a call of one tenancy is used by a call of
another. -/
def Unshared (calls : List TenantCall) : Prop :=
  ∀ first ∈ calls, ∀ second ∈ calls, first.tenancy ≠ second.tenancy →
    ∀ name ∈ first.generates, name ∉ second.uses

namespace Tenancy

/-- The text of some login of the tenancy. -/
def ownsIdentity (tenancy : Tenancy) (text : String) : Prop :=
  ∃ sub sid, text =
    (Json.strings [tenancy.iss, tenancy.tenant, sub, sid]).compact

/-- The key of an account of the tenancy or of one of its users, on some
day. -/
def ownsAccount (tenancy : Tenancy) (id : String) : Prop :=
  (∃ day, id = tenantAccount tenancy.iss tenancy.tenant day) ∨
    ∃ sub day, id = userAccount tenancy.iss tenancy.tenant sub day

end Tenancy

namespace TenantCall

/-- A login text belongs to the tenancy of its call and to no other. -/
theorem ownsIdentity_iff
    {tenancy : Tenancy}
    (call : TenantCall) :
    tenancy.ownsIdentity call.session.identity ↔ call.tenancy = tenancy := by
  obtain ⟨iss, tenant⟩ := tenancy
  constructor
  · rintro ⟨sub, sid, equal⟩
    have parts : call.claims.iss = iss ∧ call.claims.tenant = tenant ∧
        call.claims.sub = sub ∧ call.claims.sid = sid := by
      simpa [session, Session.ofClaims, TicketClaims.identity] using equal
    simp [TenantCall.tenancy, parts]
  · intro equal
    obtain ⟨rfl, rfl⟩ := Tenancy.mk.inj equal
    exact ⟨call.claims.sub, call.claims.sid, rfl⟩

theorem session_sid (call : TenantCall) :
    call.session.sid = call.session.identity := rfl

theorem ownsAccount_tenantAccount_iff
    {tenancy : Tenancy}
    (call : TenantCall)
    (day : String) :
    tenancy.ownsAccount (call.session.tenantAccount day) ↔
      call.tenancy = tenancy := by
  obtain ⟨iss, tenant⟩ := tenancy
  simp only [Tenancy.ownsAccount, Session.tenantAccount, session,
    Session.ofClaims, tenantAccount_inj, tenantAccount_ne_userAccount,
    TenantCall.tenancy, Tenancy.mk.injEq]
  simp

theorem ownsAccount_userAccount_iff
    {tenancy : Tenancy}
    (call : TenantCall)
    (day : String) :
    tenancy.ownsAccount (call.session.userAccount day) ↔
      call.tenancy = tenancy := by
  obtain ⟨iss, tenant⟩ := tenancy
  have notTenant : ∀ other, userAccount call.claims.iss call.claims.tenant
      call.claims.sub day ≠ tenantAccount iss tenant other :=
    fun other => (tenantAccount_ne_userAccount _ _ _ _ _ _ _).symm
  simp only [Tenancy.ownsAccount, Session.userAccount, session,
    Session.ofClaims, notTenant, userAccount_inj, TenantCall.tenancy,
    Tenancy.mk.injEq]
  simp

end TenantCall

/-- A session row is the session of the call that exchanged its ticket. -/
def SessionOf (call : TenantCall) (row : Session) : Prop :=
  .token row.tokenHash ∈ call.generates ∧ row = call.session

/-- A registration row carries the login of the call that registered it. -/
def RegistrationOf (call : TenantCall) (row : Registration) : Prop :=
  .registration row.id ∈ call.generates ∧
    row.identity = call.session.identity

/-- A request row carries the login and the accounts of the call that reserved
it. -/
def RequestOf (call : TenantCall) (row : Request) : Prop :=
  .request row.id ∈ call.generates ∧ row.identity = call.session.identity ∧
    ∃ day, row.tenantAccount = call.session.tenantAccount day ∧
      row.userAccount = call.session.userAccount day

/-- Every row of the three tables was written for a call of the run. -/
structure Written (calls : List TenantCall) (database : Database) : Prop where
  sessions : ∀ row ∈ database.sessions.rows, ∃ call ∈ calls,
    SessionOf call row
  registrations : ∀ row ∈ database.registrations.rows, ∃ call ∈ calls,
    RegistrationOf call row
  requests : ∀ row ∈ database.requests.rows, ∃ call ∈ calls,
    RequestOf call row

theorem Written.empty (calls : List TenantCall) :
    Written calls .empty where
  sessions _ member := by simp [Database.empty] at member
  registrations _ member := by simp [Database.empty] at member
  requests _ member := by simp [Database.empty] at member

end AsystantGateway
