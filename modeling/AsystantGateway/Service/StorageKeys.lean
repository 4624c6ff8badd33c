import AsystantGateway.Service.TurnMachine

/-!
# Composite storage keys

Logins, accounts, consumed tickets and requests are told apart by texts that are
made of several strings. Nothing is assumed of the strings: they may hold
quotes, brackets and commas, and one of them may be such a text itself. A key
still tells its components, and the two kinds of keys in the table of the
accounts never meet.
-/

namespace AsystantGateway

/-- What the keys tell, whatever their components are. -/
structure UnambiguousKeys : Prop where
  identities : ∀ first second : TicketClaims,
    first.identity = second.identity ↔
      first.iss = second.iss ∧ first.tenant = second.tenant ∧
        first.sub = second.sub ∧ first.sid = second.sid
  sessionKeys : ∀ first second : TicketClaims,
    first.sessionKey = second.sessionKey ↔
      first.iss = second.iss ∧ first.tenant = second.tenant ∧
        first.sub = second.sub ∧ first.sid = second.sid
  tenantAccounts : ∀ issuer tenant day issuer' tenant' day' : String,
    tenantAccount issuer tenant day = tenantAccount issuer' tenant' day' ↔
      issuer = issuer' ∧ tenant = tenant' ∧ day = day'
  userAccounts : ∀ issuer tenant subject day
      issuer' tenant' subject' day' : String,
    userAccount issuer tenant subject day =
        userAccount issuer' tenant' subject' day' ↔
      issuer = issuer' ∧ tenant = tenant' ∧ subject = subject' ∧ day = day'
  /-- The accounts of tenants and of users share a table. -/
  accounts : ∀ issuer tenant day issuer' tenant' subject' day' : String,
    tenantAccount issuer tenant day ≠
      userAccount issuer' tenant' subject' day'
  tickets : ∀ iss jti iss' jti' : String,
    ticketKey iss jti = ticketKey iss' jti' ↔ iss = iss' ∧ jti = jti'
  requests : ∀ identity requestId identity' requestId' : String,
    requestText identity requestId = requestText identity' requestId' ↔
      identity = identity' ∧ requestId = requestId'
  /-- The text of a request tells the components of the text inside it. -/
  requestsOfLogins : ∀ (first second : TicketClaims)
      (requestId requestId' : String),
    requestText first.identity requestId =
        requestText second.identity requestId' ↔
      (first.iss = second.iss ∧ first.tenant = second.tenant ∧
        first.sub = second.sub ∧ first.sid = second.sid) ∧
      requestId = requestId'

/-- The composite keys are unambiguous. -/
theorem storageKeys_unambiguous : UnambiguousKeys where
  identities _ _ := TicketClaims.identity_inj
  sessionKeys first second := by
    rw [first.sessionKey_eq_identity, second.sessionKey_eq_identity]
    exact TicketClaims.identity_inj
  tenantAccounts _ _ _ _ _ _ := tenantAccount_inj
  userAccounts _ _ _ _ _ _ _ _ := userAccount_inj
  accounts := tenantAccount_ne_userAccount
  tickets _ _ _ _ := ticketKey_inj
  requests _ _ _ _ := requestText_inj
  requestsOfLogins first second requestId requestId' := by
    rw [requestText_inj, TicketClaims.identity_inj]

namespace TurnRecord

/-- The text of a turn's request. -/
def text (record : TurnRecord) : String :=
  requestText record.session.identity record.turn.requestId

/-- The id of a turn's row is the hash of that text. -/
theorem id_eq_hash_text
    (hash : String → String)
    (record : TurnRecord) :
    record.id hash = hash record.text := rfl

theorem text_inj
    {first second : TurnRecord} :
    first.text = second.text ↔ first.pair = second.pair := by
  unfold text pair
  rw [requestText_inj, Prod.mk.injEq]

/-- Where the hash tells the texts of two turns apart, their rows have one id
exactly when the turns are of one login and have one request id. -/
theorem id_eq_iff
    {hash : String → String}
    {first second : TurnRecord}
    (noCollision : hash first.text = hash second.text →
      first.text = second.text) :
    first.id hash = second.id hash ↔ first.pair = second.pair := by
  rw [id_eq_hash_text, id_eq_hash_text, ← text_inj]
  exact ⟨noCollision, congrArg hash⟩

end TurnRecord

end AsystantGateway
