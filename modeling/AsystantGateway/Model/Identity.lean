import AsystantGateway.Library.Json.Injective

/-!
# Ticket claims, sessions and composite keys

The gateway identifies a login, an account and a consumed ticket by the compact
JSON text of an array of strings. Every such key determines its components,
and the two kinds of account keys never meet because their arrays differ in
length.
-/

namespace AsystantGateway

/-- A reading of the UTC clock, in nanoseconds since the Unix epoch. -/
abbrev Instant := Int

/-- The claims of a login ticket signed by a product. -/
structure TicketClaims where
  iss : String
  aud : String
  sub : String
  tenant : String
  sid : String
  jti : String
  iat : Int64
  exp : Int64
  sessionExp : Int64
  deriving DecidableEq, Repr

namespace TicketClaims

/-- The text that stands for one login of one user. -/
def identity (claims : TicketClaims) : String :=
  (Json.strings [claims.iss, claims.tenant, claims.sub, claims.sid]).compact

/-- The key under which a login is revoked. -/
def sessionKey (claims : TicketClaims) : String :=
  (Json.strings [claims.iss, claims.tenant, claims.sub, claims.sid]).compact

end TicketClaims

/-- A session row, as it is stored. -/
structure Session where
  tokenHash : String
  identity : String
  sid : String
  issuer : String
  tenant : String
  subject : String
  expiresAt : Instant
  deriving DecidableEq, Repr

/-- The key of the account that a tenant's users share on one UTC day. -/
def tenantAccount (issuer tenant day : String) : String :=
  (Json.strings [issuer, tenant, day]).compact

/-- The key of one user's account on one UTC day. -/
def userAccount (issuer tenant subject day : String) : String :=
  (Json.strings [issuer, tenant, subject, day]).compact

/-- The key under which a ticket is consumed. -/
def ticketKey (iss jti : String) : String :=
  (Json.strings [iss, jti]).compact

/-- The text that is hashed into the id of a request. The identity is the text
of a login itself. -/
def requestText (identity requestId : String) : String :=
  (Json.strings [identity, requestId]).compact

namespace TicketClaims

/-- Two logins share an identity text only when all four components agree. -/
theorem identity_inj
    {first second : TicketClaims} :
    first.identity = second.identity ↔
      first.iss = second.iss ∧ first.tenant = second.tenant ∧
        first.sub = second.sub ∧ first.sid = second.sid := by
  simp [identity]

@[simp] theorem sessionKey_eq_identity (claims : TicketClaims) :
    claims.sessionKey = claims.identity := rfl

end TicketClaims

@[simp] theorem tenantAccount_inj
    {issuer tenant day issuer' tenant' day' : String} :
    tenantAccount issuer tenant day = tenantAccount issuer' tenant' day' ↔
      issuer = issuer' ∧ tenant = tenant' ∧ day = day' := by
  simp [tenantAccount]

@[simp] theorem userAccount_inj
    {issuer tenant subject day issuer' tenant' subject' day' : String} :
    userAccount issuer tenant subject day =
        userAccount issuer' tenant' subject' day' ↔
      issuer = issuer' ∧ tenant = tenant' ∧ subject = subject' ∧
        day = day' := by
  simp [userAccount]

/-- The two kinds of accounts share a table but never a key. -/
@[simp] theorem tenantAccount_ne_userAccount
    (issuer tenant day issuer' tenant' subject' day' : String) :
    tenantAccount issuer tenant day ≠
      userAccount issuer' tenant' subject' day' := by
  simp [tenantAccount, userAccount]

@[simp] theorem ticketKey_inj
    {iss jti iss' jti' : String} :
    ticketKey iss jti = ticketKey iss' jti' ↔ iss = iss' ∧ jti = jti' := by
  simp [ticketKey]

@[simp] theorem requestText_inj
    {identity requestId identity' requestId' : String} :
    requestText identity requestId = requestText identity' requestId' ↔
      identity = identity' ∧ requestId = requestId' := by
  simp [requestText]

end AsystantGateway
