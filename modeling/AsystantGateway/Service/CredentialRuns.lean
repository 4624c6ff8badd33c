import AsystantGateway.Service.Credentials

/-!
# Credential soundness and completeness

What the three tables of the credentials hold is read off the journal of the
run: the sessions are those of the successful exchanges, a ticket is consumed
when it has been exchanged, a login is revoked when a revocation names it. So
the outcome of every exchange and of every authentication is decided by the
calls before it.
-/

namespace AsystantGateway

/-- Two claims name one login. -/
def SameLogin (first second : TicketClaims) : Prop :=
  first.iss = second.iss ∧ first.tenant = second.tenant ∧
    first.sub = second.sub ∧ first.sid = second.sid

theorem sessionKey_eq_iff
    {first second : TicketClaims} :
    first.sessionKey = second.sessionKey ↔ SameLogin first second := by
  simp [SameLogin, TicketClaims.identity_inj]

/-- The calls of a run with their answers. -/
abbrev CredentialJournal := List (CredentialCall × CredentialAnswer)

section Exchange

variable
  (library : TicketLibrary)
  (products : List Product)

/-- Everything an exchange needs: a short ticket that a product verifies,
acceptable claims, an end of the session that is an instant, and a database
that admits it. -/
structure Grants
    (request : ExchangeRequest)
    (database : Database)
    (claims : TicketClaims)
    (session : Session) : Prop where
  short : request.ticket.utf8ByteSize ≤ 8192
  verified : GatewayService.verify library products request = some claims
  acceptable : claims.Acceptable request.checkedAt.timestamp.toInt
  ends : GatewayService.expiresAt request claims = some session.expiresAt
  built : session =
    .ofClaims claims (library.hash request.token) session.expiresAt
  admits : Exchangeable database claims session

/-- An exchange either has all it needs, succeeds and stores the session, or
lacks something, fails and changes nothing. It never overflows. -/
theorem exchange_cases
    (request : ExchangeRequest)
    (database : Database) :
    (∃ claims session after,
      Grants library products request database claims session ∧
        GatewayService.exchange library products request database =
          (some (.ok ⟨request.token, session.expiresAt⟩), after) ∧
        Exchanges database after claims session) ∨
    ((∀ claims session,
        ¬ Grants library products request database claims session) ∧
      ∃ error, GatewayService.exchange library products request database =
        (some (.error error), database)) := by
  unfold GatewayService.exchange
  by_cases long : request.ticket.utf8ByteSize > 8192
  · refine .inr ⟨fun claims session grants => ?_, .authentication, if_pos long⟩
    have := grants.short
    omega
  · rw [if_neg long]
    cases verified : GatewayService.verify library products request with
    | none =>
        refine .inr ⟨fun claims session grants => ?_, .authentication, rfl⟩
        cases verified.symm.trans grants.verified
    | some claims =>
        rcases claims.validate_eq request.checkedAt with
          ⟨acceptable, valid⟩ | ⟨unacceptable, invalid⟩
        · simp only [valid]
          cases ends : GatewayService.expiresAt request claims with
          | none =>
              refine .inr ⟨fun other session grants => ?_, .authentication,
                rfl⟩
              obtain rfl := Option.some.inj (verified.symm.trans
                grants.verified)
              cases ends.symm.trans grants.ends
          | some sessionEnd =>
              by_cases admits : Exchangeable database claims
                  (.ofClaims claims (library.hash request.token) sessionEnd)
              · obtain ⟨after, exchanged, effect⟩ :=
                  exchange_of_exchangeable admits
                refine .inl ⟨claims, _, after,
                  ⟨by omega, verified, acceptable, ends, rfl, admits⟩, ?_,
                  effect⟩
                simp only [exchanged]
                rfl
              · obtain ⟨error, failed⟩ := exchange_of_not_exchangeable admits
                refine .inr ⟨fun other session grants => admits ?_, error, ?_⟩
                · obtain rfl := Option.some.inj (verified.symm.trans
                    grants.verified)
                  obtain rfl := Option.some.inj (ends.symm.trans grants.ends)
                  exact grants.built ▸ grants.admits
                · simp only [failed]
                  rfl
        · refine .inr ⟨fun other session grants => ?_, .authentication, ?_⟩
          · obtain rfl := Option.some.inj (verified.symm.trans
              grants.verified)
            exact unacceptable grants.acceptable
          · simp only [invalid]

end Exchange

/-! ## What the journal says about the tables -/

section Journal

variable
  (library : TicketLibrary)
  (products : List Product)

/-- The journal has a successful exchange of a ticket with some claims for a
session. -/
def Committed
    (journal : CredentialJournal)
    (request : ExchangeRequest)
    (claims : TicketClaims)
    (session : Session) : Prop :=
  (.exchange request,
      .exchanged (some (.ok ⟨request.token, session.expiresAt⟩))) ∈ journal ∧
    GatewayService.verify library products request = some claims ∧
      session =
        .ofClaims claims (library.hash request.token) session.expiresAt

/-- Whether a journal entry is a successful exchange of a ticket. -/
def exchangesTicket
    (iss jti : String) : CredentialCall × CredentialAnswer → Bool
  | (.exchange request, .exchanged (some (.ok _))) =>
      (GatewayService.verify library products request).any fun claims =>
        claims.iss = iss && claims.jti = jti
  | _ => false

/-- How many calls of a journal exchanged a ticket. -/
def exchangesOf
    (iss jti : String)
    (journal : CredentialJournal) : Nat :=
  journal.countP (exchangesTicket library products iss jti)

/-- The journal has a revocation of the login that some claims name. -/
def Revoked (journal : CredentialJournal) (claims : TicketClaims) : Prop :=
  ∃ revoked tokenHash expiresAt answer,
    (CredentialCall.revoke revoked tokenHash expiresAt, answer) ∈ journal ∧
      SameLogin revoked claims

/-- A revocation revokes one login more. -/
theorem revoked_concat_revoke
    {journal : CredentialJournal}
    {claims other : TicketClaims}
    {tokenHash : String}
    {expiresAt : Instant}
    {answer : CredentialAnswer} :
    Revoked (journal ++ [(.revoke claims tokenHash expiresAt, answer)])
        other ↔
      Revoked journal other ∨ SameLogin claims other := by
  simp only [Revoked, List.mem_append, List.mem_singleton, Prod.mk.injEq,
    CredentialCall.revoke.injEq]
  constructor
  · rintro ⟨revoked, hash, ends, result, logged | ⟨⟨rfl, -, -⟩, -⟩, same⟩
    · exact .inl ⟨revoked, hash, ends, result, logged, same⟩
    · exact .inr same
  · rintro (⟨revoked, hash, ends, result, logged, same⟩ | same)
    · exact ⟨revoked, hash, ends, result, .inl logged, same⟩
    · exact ⟨claims, tokenHash, expiresAt, answer, .inr ⟨⟨rfl, rfl, rfl⟩, rfl⟩,
        same⟩

theorem exchangesOf_concat_revoke
    (journal : CredentialJournal)
    (claims : TicketClaims)
    (tokenHash : String)
    (expiresAt : Instant)
    (answer : CredentialAnswer)
    (iss jti : String) :
    exchangesOf library products iss jti
        (journal ++ [(.revoke claims tokenHash expiresAt, answer)]) =
      exchangesOf library products iss jti journal := by
  simp [exchangesOf, exchangesTicket]

theorem committed_concat_revoke
    {journal : CredentialJournal}
    {claims other : TicketClaims}
    {tokenHash : String}
    {expiresAt : Instant}
    {answer : CredentialAnswer}
    {request : ExchangeRequest}
    {session : Session} :
    Committed library products
        (journal ++ [(.revoke claims tokenHash expiresAt, answer)]) request
        other session ↔
      Committed library products journal request other session := by
  simp [Committed]

/-- The three tables as the journal determines them. -/
structure Tracks
    (journal : CredentialJournal)
    (database : Database) : Prop where
  sessions : ∀ session, session ∈ database.sessions.rows ↔
    ∃ request claims,
      Committed library products journal request claims session
  consumed : ∀ iss jti,
    database.consumedTickets.find (ticketKey iss jti) = none ↔
      exchangesOf library products iss jti journal = 0
  once : ∀ iss jti, exchangesOf library products iss jti journal ≤ 1
  revoked : ∀ claims : TicketClaims,
    database.revokedSessions.find claims.sessionKey = none ↔
      ¬ Revoked journal claims

namespace Tracks

variable
  {library products}
  {journal : CredentialJournal}
  {database after : Database}

theorem empty : Tracks library products [] .empty where
  sessions session := by simp [Database.empty, Committed]
  consumed iss jti := by simp [Database.empty, exchangesOf]
  once iss jti := by simp [exchangesOf]
  revoked claims := by simp [Database.empty, Revoked]

/-- An entry that is neither a successful exchange nor a revocation leaves the
tables as they were. -/
theorem append_inert
    (tracks : Tracks library products journal database)
    {entry : CredentialCall × CredentialAnswer}
    (noExchange : ∀ request output,
      entry ≠ (.exchange request, .exchanged (some (.ok output))))
    (noRevocation : ∀ claims tokenHash expiresAt answer,
      entry ≠ (.revoke claims tokenHash expiresAt, answer)) :
    Tracks library products (journal ++ [entry]) database := by
  have sameCount : ∀ iss jti,
      exchangesOf library products iss jti (journal ++ [entry]) =
        exchangesOf library products iss jti journal := by
    intro iss jti
    have inert : exchangesTicket library products iss jti entry = false := by
      unfold exchangesTicket
      split
      case h_1 request output => exact absurd rfl (noExchange request output)
      case h_2 => rfl
    simp [exchangesOf, inert]
  refine ⟨fun session => ?_, fun iss jti => ?_, fun iss jti => ?_,
    fun claims => ?_⟩
  · rw [tracks.sessions]
    simp only [Committed, List.mem_append, List.mem_singleton,
      (noExchange _ _).symm, or_false]
  · rw [sameCount]
    exact tracks.consumed iss jti
  · rw [sameCount]
    exact tracks.once iss jti
  · rw [tracks.revoked]
    simp only [Revoked, List.mem_append, List.mem_singleton,
      (noRevocation _ _ _ _).symm, or_false]

/-- A successful exchange adds the one session and consumes the one ticket. -/
theorem append_exchange
    (tracks : Tracks library products journal database)
    {request : ExchangeRequest}
    {claims : TicketClaims}
    {session : Session}
    (grants : Grants library products request database claims session)
    (effect : Exchanges database after claims session) :
    Tracks library products
      (journal ++ [(.exchange request,
        .exchanged (some (.ok ⟨request.token, session.expiresAt⟩)))])
      after := by
  have counted : ∀ iss jti,
      exchangesOf library products iss jti
        (journal ++ [(.exchange request,
          .exchanged (some (.ok ⟨request.token, session.expiresAt⟩)))]) =
        exchangesOf library products iss jti journal +
          if claims.iss = iss ∧ claims.jti = jti then 1 else 0 := by
    intro iss jti
    simp [exchangesOf, exchangesTicket, grants.verified]
  have fresh : exchangesOf library products claims.iss claims.jti journal =
      0 :=
    (tracks.consumed claims.iss claims.jti).mp grants.admits.unused
  refine ⟨fun other => ?_, fun iss jti => ?_, fun iss jti => ?_,
    fun other => ?_⟩
  · rw [Table.mem_rows_insert effect.stored, tracks.sessions]
    simp only [Committed, List.mem_append, List.mem_singleton,
      Prod.mk.injEq, CredentialCall.exchange.injEq,
      CredentialAnswer.exchanged.injEq, Option.some.injEq, Except.ok.injEq,
      ExchangeOutput.mk.injEq]
    constructor
    · rintro (rfl | ⟨prior, priorClaims, logged, verified, built⟩)
      · exact ⟨request, claims, .inr ⟨rfl, rfl, rfl⟩, grants.verified,
          grants.built⟩
      · exact ⟨prior, priorClaims, .inl logged, verified, built⟩
    · rintro ⟨prior, priorClaims, logged | ⟨rfl, -, sameEnd⟩, verified,
        built⟩
      · exact .inr ⟨prior, priorClaims, logged, verified, built⟩
      · obtain rfl := Option.some.inj (verified.symm.trans grants.verified)
        rw [sameEnd] at built
        exact .inl (built.trans grants.built.symm)
  · rw [counted, Table.find_insert effect.consumed]
    simp only [ticketKey_inj]
    by_cases isTicket : claims.iss = iss ∧ claims.jti = jti
    · simp [isTicket]
    · simpa [isTicket] using tracks.consumed iss jti
  · rw [counted]
    by_cases isTicket : claims.iss = iss ∧ claims.jti = jti
    · obtain ⟨rfl, rfl⟩ := isTicket
      simp [fresh]
    · simpa [isTicket] using tracks.once iss jti
  · have sameRevocations : after.revokedSessions =
        database.revokedSessions := by
      rw [← effect.frame]
    rw [sameRevocations, tracks.revoked]
    simp [Revoked]

/-- A revocation adds the one login. -/
theorem append_revoke
    (tracks : Tracks library products journal database)
    (claims : TicketClaims)
    (tokenHash : String)
    (expiresAt : Instant)
    (answer : CredentialAnswer) :
    Tracks library products
      (journal ++ [(.revoke claims tokenHash expiresAt, answer)])
      (revoke (.ofClaims claims tokenHash expiresAt) database).2 := by
  refine ⟨fun session => ?_, fun iss jti => ?_, fun iss jti => ?_,
    fun other => ?_⟩
  · simp only [committed_concat_revoke]
    exact tracks.sessions session
  · rw [exchangesOf_concat_revoke]
    exact tracks.consumed iss jti
  · rw [exchangesOf_concat_revoke]
    exact tracks.once iss jti
  · change (database.revokedSessions.insertOrIgnore
      { id := claims.sessionKey }).find other.sessionKey = none ↔ _
    rw [revoked_concat_revoke, Table.find_insertOrIgnore]
    by_cases same : SameLogin claims other
    · have sameKey := sessionKey_eq_iff.mpr same
      rw [if_pos sameKey]
      simp [same]
    · have otherKey : ¬ claims.sessionKey = other.sessionKey :=
        sessionKey_eq_iff.not.mpr same
      rw [if_neg otherKey]
      simpa [same] using tracks.revoked other

end Tracks

variable {library products}

/-- The tables are tracked by the journal after every run. -/
theorem tracks_state (calls : List CredentialCall) :
    Tracks library products
      ((credentials library products).journal calls)
      ((credentials library products).state calls) := by
  refine Mealy.run_induction (motive := Tracks library products) .empty ?_
    calls
  intro prior call tracks
  cases call with
  | exchange request =>
      rw [credentials_respond_exchange]
      rcases exchange_cases library products request
          ((credentials library products).state prior) with
        ⟨claims, session, after, grants, exchanged, effect⟩ |
        ⟨-, error, failed⟩
      · rw [exchanged]
        exact tracks.append_exchange grants effect
      · rw [failed]
        exact tracks.append_inert (by simp) (by simp)
  | authenticate token now =>
      exact tracks.append_inert (by simp [credentials])
        (by simp [credentials])
  | revoke claims tokenHash expiresAt =>
      exact tracks.append_revoke claims tokenHash expiresAt _
  | unavailable =>
      exact tracks.append_inert (by simp [credentials])
        (by simp [credentials])

end Journal

/-! ## What a granted session is -/

section Session

variable
  {library : TicketLibrary}
  {products : List Product}
  {request : ExchangeRequest}
  {database : Database}
  {claims : TicketClaims}
  {session : Session}

/-- A session outlives the check of its ticket, and ends at the latest ten
minutes after it was issued and with the login. -/
theorem Grants.ends_within
    (grants : Grants library products request database claims session) :
    request.checkedAt.nanos < session.expiresAt ∧
      session.expiresAt ≤ request.issuedAt.nanos + sessionNanos ∧
        session.expiresAt ≤ claims.sessionExp.toInt * secondNanos := by
  have ends := grants.ends
  have alive := grants.acceptable.sessionAlive
  have ordered := request.checkedBeforeIssued
  rw [request.checkedAt.toInt_timestamp] at alive
  unfold GatewayService.expiresAt fromTimestamp at ends
  split at ends
  case isFalse => cases ends
  case isTrue =>
    simp only [Option.map_some, Option.some.injEq] at ends
    rw [← ends]
    -- The last whole second of the login lies beyond the check's second.
    have beyond : claims.sessionExp.toInt * secondNanos >
        request.checkedAt.nanos := by
      unfold secondNanos at alive ⊢
      omega
    have positive : 0 < sessionNanos := by decide
    have beforeLimit := lt_of_le_of_lt ordered
      (lt_add_of_pos_right request.issuedAt.nanos positive)
    exact ⟨lt_min beforeLimit beyond, min_le_left _ _, min_le_right _ _⟩

/-- The session belongs to the product that verified its ticket. -/
theorem Grants.exists_product
    (grants : Grants library products request database claims session)
    (issuerChecked : ∀ now ticket secret issuer claims,
      library.decode now ticket secret issuer = some claims →
        claims.iss = issuer) :
    ∃ product ∈ products,
      library.decode request.verifiedAt.nanos request.ticket product.secret
          product.issuer = some claims ∧
        session.issuer = product.issuer := by
  obtain ⟨product, member, decoded⟩ :=
    List.exists_of_findSome?_eq_some grants.verified
  refine ⟨product, member, decoded, ?_⟩
  rw [grants.built]
  exact issuerChecked _ _ _ _ _ decoded

/-- Every exchange in the journal had what it needed. -/
theorem grants_of_committed
    {calls : List CredentialCall}
    (committed : Committed library products
      ((credentials library products).journal calls) request claims
      session) :
    ∃ database, Grants library products request database claims session := by
  obtain ⟨logged, verified, built⟩ := committed
  obtain ⟨before, after, -, answer⟩ := Mealy.exists_of_mem_journal logged
  refine ⟨(credentials library products).state before, ?_⟩
  rw [credentials_respond_exchange] at answer
  rcases exchange_cases library products request
      ((credentials library products).state before) with
    ⟨otherClaims, otherSession, result, grants, exchanged, -⟩ |
    ⟨-, error, failed⟩
  · rw [exchanged] at answer
    simp only [CredentialAnswer.exchanged.injEq, Option.some.injEq,
      Except.ok.injEq, ExchangeOutput.mk.injEq, true_and] at answer
    obtain rfl := Option.some.inj (verified.symm.trans grants.verified)
    have sameSession : session = otherSession := by
      rw [built, answer]
      exact grants.built.symm
    exact sameSession ▸ grants
  · rw [failed] at answer
    simp at answer

end Session

section Runs

variable
  {library : TicketLibrary}
  {products : List Product}

variable (library products) in
/-- What decides an exchange after a run: the ticket is short, verified and
acceptable, its login not revoked, the ticket not exchanged and the token
new. -/
structure Admissible
    (journal : CredentialJournal)
    (request : ExchangeRequest)
    (claims : TicketClaims) : Prop where
  short : request.ticket.utf8ByteSize ≤ 8192
  verified : GatewayService.verify library products request = some claims
  acceptable : claims.Acceptable request.checkedAt.timestamp.toInt
  ends : GatewayService.expiresAt request claims ≠ none
  alive : ¬ Revoked journal claims
  unused : exchangesOf library products claims.iss claims.jti journal = 0
  newToken : ∀ other otherClaims session,
    Committed library products journal other otherClaims session →
      library.hash other.token ≠ library.hash request.token

variable (library products) in
/-- Whether an exchange after a run succeeds. -/
def Succeeds
    (calls : List CredentialCall)
    (request : ExchangeRequest) : Prop :=
  ∃ output, (GatewayService.exchange library products request
    ((credentials library products).state calls)).1 = some (.ok output)

/-- An exchange after a run succeeds exactly when it is admissible. -/
theorem succeeds_iff
    {calls : List CredentialCall}
    {request : ExchangeRequest} :
    Succeeds library products calls request ↔
      ∃ claims, Admissible library products
        ((credentials library products).journal calls) request claims := by
  have tracks : Tracks library products _ _ := tracks_state calls
  constructor
  · rintro ⟨output, succeeded⟩
    rcases exchange_cases library products request
        ((credentials library products).state calls) with
      ⟨claims, session, after, grants, -, -⟩ | ⟨-, error, failed⟩
    · have ends := Option.ne_none_iff_exists'.mpr ⟨_, grants.ends⟩
      refine ⟨claims, grants.short, grants.verified, grants.acceptable, ends,
        (tracks.revoked claims).mp grants.admits.alive,
        (tracks.consumed _ _).mp grants.admits.unused, ?_⟩
      intro other otherClaims stored committed sameHash
      have member := (tracks.sessions stored).mpr
        ⟨other, otherClaims, committed⟩
      have storedHash : stored.tokenHash = session.tokenHash := by
        rw [committed.2.2, grants.built]
        exact sameHash
      have found := Table.mem_rows_iff.mp member
      rw [storedHash, grants.admits.new] at found
      cases found
    · simp [failed] at succeeded
  · rintro ⟨claims, short, verified, acceptable, hasEnd, alive, unused, new⟩
    obtain ⟨sessionEnd, ends⟩ := Option.ne_none_iff_exists'.mp hasEnd
    rcases exchange_cases library products request
        ((credentials library products).state calls) with
      ⟨-, session, after, -, exchanged, -⟩ | ⟨lacking, -⟩
    · exact ⟨_, congrArg Prod.fst exchanged⟩
    · refine absurd ⟨short, verified, acceptable, ends, rfl,
        (tracks.revoked claims).mpr alive, (tracks.consumed _ _).mpr unused,
        ?_⟩ (lacking claims
          (.ofClaims claims (library.hash request.token) sessionEnd))
      by_contra taken
      obtain ⟨stored, found⟩ := Option.ne_none_iff_exists'.mp taken
      obtain ⟨other, otherClaims, committed⟩ :=
        (tracks.sessions stored).mp (Table.mem_of_find found)
      apply new other otherClaims stored committed
      have storedHash := Table.key_of_find found
      rw [committed.2.2] at storedHash
      exact storedHash

/-- A token authenticates a session after a run, with further calls between
its two reads, exactly when the run committed the token for that session, the
session has not ended and no call before the second read revoked its login. -/
theorem authenticate_succeeds_iff
    (before between : List CredentialCall)
    (token : String)
    (noCollision : ∀ request, .exchange request ∈ before →
      library.hash request.token = library.hash token →
        request.token = token)
    (now : Reading)
    (session : Session) :
    GatewayService.authenticateAcross library token now
        ((credentials library products).state before)
        ((credentials library products).state (before ++ between)) =
      .ok session ↔
      ∃ request claims, request.token = token ∧
        Committed library products
          ((credentials library products).journal before) request claims
          session ∧
        now.nanos < session.expiresAt ∧
        ¬ Revoked
          ((credentials library products).journal (before ++ between))
          claims := by
  have first : Tracks library products _ _ := tracks_state before
  have second : Tracks library products _ _ :=
    tracks_state (before ++ between)
  unfold GatewayService.authenticateAcross
  constructor
  · intro succeeded
    split at succeeded
    case isTrue => cases succeeded
    case isFalse =>
      obtain ⟨found, alive, notRevoked⟩ :=
        authenticateAcross_ok_iff.mp succeeded
      obtain ⟨request, claims, committed⟩ :=
        (first.sessions session).mp (Table.mem_of_find found)
      have sameHash := Table.key_of_find found
      rw [committed.2.2] at sameHash
      obtain ⟨prior, rest, split, -⟩ :=
        Mealy.exists_of_mem_journal committed.1
      refine ⟨request, claims, noCollision request (by simp [split])
        sameHash, committed, alive, (second.revoked claims).mp ?_⟩
      rw [committed.2.2] at notRevoked
      exact notRevoked
  · rintro ⟨request, claims, rfl, committed, alive, notRevoked⟩
    rw [if_neg (by simp [request.token_size])]
    refine authenticateAcross_ok_iff.mpr ⟨?_, alive, ?_⟩
    · have found := Table.mem_rows_iff.mp
        ((first.sessions session).mpr ⟨request, claims, committed⟩)
      rw [committed.2.2] at found ⊢
      exact found
    · rw [committed.2.2]
      exact (second.revoked claims).mpr notRevoked

/-- A revocation does not affect the exchanges of another login. -/
theorem succeeds_concat_revoke_iff
    {calls : List CredentialCall}
    {request : ExchangeRequest}
    {claims revoked : TicketClaims}
    (verified : GatewayService.verify library products request = some claims)
    (other : ¬ SameLogin revoked claims)
    (tokenHash : String)
    (expiresAt : Instant) :
    Succeeds library products
        (calls ++ [.revoke revoked tokenHash expiresAt]) request ↔
      Succeeds library products calls request := by
  rw [succeeds_iff, succeeds_iff, Mealy.journal_concat]
  apply exists_congr
  intro otherClaims
  constructor
  · rintro ⟨short, sameTicket, acceptable, ends, alive, unused, new⟩
    rw [revoked_concat_revoke, not_or] at alive
    rw [exchangesOf_concat_revoke] at unused
    simp only [committed_concat_revoke] at new
    exact ⟨short, sameTicket, acceptable, ends, alive.1, unused, new⟩
  · rintro ⟨short, sameTicket, acceptable, ends, alive, unused, new⟩
    obtain rfl := Option.some.inj (verified.symm.trans sameTicket)
    refine ⟨short, sameTicket, acceptable, ends, ?_, ?_, ?_⟩
    · rw [revoked_concat_revoke]
      exact not_or.mpr ⟨alive, other⟩
    · rw [exchangesOf_concat_revoke]
      exact unused
    · simp only [committed_concat_revoke]
      exact new

/-- The credentials after any run of exchanges, authentications and
revocations. Each ticket is exchanged at most once and a failed exchange
changes nothing. No exchange overflows, and a session that was issued lies
within its bounds, for the product that verified a ticket of at most two
minutes. A token authenticates exactly the session committed for it, until the
session ends or its login is revoked. After a revocation no ticket of the login
is exchanged again, and no other login is affected. -/
theorem credential_guarantee
    (library : TicketLibrary)
    (products : List Product)
    (issuerChecked : ∀ now ticket secret issuer claims,
      library.decode now ticket secret issuer = some claims →
        claims.iss = issuer)
    (calls : List CredentialCall) :
    (∀ iss jti, exchangesOf library products iss jti
      ((credentials library products).journal calls) ≤ 1) ∧
    (∀ request, ¬ Succeeds library products calls request →
      (GatewayService.exchange library products request
          ((credentials library products).state calls)).2 =
        (credentials library products).state calls) ∧
    (∀ request, (GatewayService.exchange library products request
      ((credentials library products).state calls)).1 ≠ none) ∧
    (∀ request claims session,
      Committed library products
          ((credentials library products).journal calls) request claims
          session →
        request.checkedAt.nanos < session.expiresAt ∧
        session.expiresAt ≤ request.issuedAt.nanos + sessionNanos ∧
        session.expiresAt ≤ claims.sessionExp.toInt * secondNanos ∧
        claims.exp.toInt - claims.iat.toInt ≤ 120 ∧
        ∃ product ∈ products,
          library.decode request.verifiedAt.nanos request.ticket
              product.secret product.issuer = some claims ∧
            session.issuer = product.issuer) ∧
    (∀ between token,
      (∀ request, .exchange request ∈ calls →
        library.hash request.token = library.hash token →
          request.token = token) →
      ∀ now session,
        GatewayService.authenticateAcross library token now
            ((credentials library products).state calls)
            ((credentials library products).state (calls ++ between)) =
          .ok session ↔
        ∃ request claims, request.token = token ∧
          Committed library products
            ((credentials library products).journal calls) request claims
            session ∧
          now.nanos < session.expiresAt ∧
          ¬ Revoked
            ((credentials library products).journal (calls ++ between))
            claims) ∧
    (∀ request claims,
      GatewayService.verify library products request = some claims →
        Revoked ((credentials library products).journal calls) claims →
          ¬ Succeeds library products calls request) ∧
    (∀ request claims revoked tokenHash expiresAt,
      GatewayService.verify library products request = some claims →
        ¬ SameLogin revoked claims →
          (Succeeds library products
              (calls ++ [.revoke revoked tokenHash expiresAt]) request ↔
            Succeeds library products calls request)) := by
  have tracks : Tracks library products _ _ := tracks_state calls
  refine ⟨tracks.once, ?_, ?_, ?_, ?_, ?_, ?_⟩
  · intro request failed
    rcases exchange_cases library products request
        ((credentials library products).state calls) with
      ⟨-, session, after, -, exchanged, -⟩ | ⟨-, error, unchanged⟩
    · exact absurd ⟨_, congrArg Prod.fst exchanged⟩ failed
    · exact congrArg Prod.snd unchanged
  · intro request
    rcases exchange_cases library products request
        ((credentials library products).state calls) with
      ⟨-, session, after, -, exchanged, -⟩ | ⟨-, error, failed⟩
    · simp [exchanged]
    · simp [failed]
  · intro request claims session committed
    obtain ⟨database, grants⟩ := grants_of_committed committed
    obtain ⟨after, beforeLimit, beforeEnd⟩ := grants.ends_within
    exact ⟨after, beforeLimit, beforeEnd, grants.acceptable.lifetime,
      grants.exists_product issuerChecked⟩
  · intro between token noCollision now session
    exact authenticate_succeeds_iff calls between token noCollision now
      session
  · intro request claims verified revoked succeeds
    obtain ⟨other, admissible⟩ := succeeds_iff.mp succeeds
    obtain rfl := Option.some.inj (verified.symm.trans admissible.verified)
    exact admissible.alive revoked
  · intro request claims revoked tokenHash expiresAt verified other
    exact succeeds_concat_revoke_iff verified other tokenHash expiresAt

end Runs

/-! ## A signed ticket -/

/-- A product with one secret. -/
def signingProduct : Product where
  issuer := "shop"
  secret := "0123456789abcdef0123456789abcdef"
  dailyTenantMicros := 100
  dailyUserMicros := 10
  models := ["m"]
  defaultModel := none
  clientModels := []
  budgetOverrides := []

/-- The claims that the product signed. -/
def signedClaims : TicketClaims where
  iss := "shop"
  aud := "asystant-api"
  sub := "u"
  tenant := "t"
  sid := "s"
  jti := "j"
  iat := 1700000000
  exp := 1700000060
  sessionExp := 1700003600

/-- The compact form of the signed ticket. -/
def signedTicket : String :=
  "eyJ0eXAiOiJKV1QiLCJhbGciOiJIUzI1NiJ9." ++
  "eyJpc3MiOiJzaG9wIiwiYXVkIjoiYXN5c3RhbnQtYXBpIiwic3ViIjoidSIsInRlbmFud" ++
  "CI6InQiLCJzaWQiOiJzIiwianRpIjoiaiIsImlhdCI6MTcwMDAwMDAwMCwiZXhwIjoxNz" ++
  "AwMDAwMDYwLCJzZXNzaW9uX2V4cCI6MTcwMDAwMzYwMH0." ++
  "ruz46exT4DAMyadft9jsha8ZhEle5v8QAM3HHl-gR3k"

/-- What the libraries answer on that ticket and its token. -/
def signedLibrary : TicketLibrary where
  decode now ticket secret issuer :=
    if ticket = signedTicket ∧ secret = signingProduct.secret ∧
        issuer = "shop" ∧ now < 1700000060 * secondNanos then
      some signedClaims
    else
      none
  hash token :=
    if token = "0000000000004000800000000000000011111111111141118111111111111111"
    then "24d1992197e482d1c1efacb043b3e4ba94b73276008b5103b1b7bc45176a0e97"
    else token

/-- A request that presents the ticket ten seconds after it was signed. -/
def signedRequest : ExchangeRequest :=
  let reading : Reading :=
    { nanos := 1700000010 * secondNanos
      started := by decide
      representable := by decide }
  { ticket := signedTicket
    first := ⟨"00000000000040008000000000000000", by decide⟩
    second := ⟨"11111111111141118111111111111111", by decide⟩
    verifiedAt := reading
    checkedAt := reading
    issuedAt := reading
    verifiedBeforeChecked := le_refl _
    checkedBeforeIssued := le_refl _ }

theorem credential_guarantee_revoked_login :
    GatewayService.verify signedLibrary [signingProduct] signedRequest =
        some signedClaims ∧
      ¬ Succeeds signedLibrary [signingProduct]
        [.exchange signedRequest, .revoke signedClaims "" 0]
        signedRequest := by
  have issuerChecked : ∀ now ticket secret issuer claims,
      signedLibrary.decode now ticket secret issuer = some claims →
        claims.iss = issuer := by
    intro now ticket secret issuer claims decoded
    simp only [signedLibrary] at decoded
    split at decoded
    case isTrue accepted =>
      obtain rfl := Option.some.inj decoded
      exact accepted.2.2.1.symm
    case isFalse => cases decoded
  have verified : GatewayService.verify signedLibrary [signingProduct]
      signedRequest = some signedClaims := by
    have decoded : signedLibrary.decode signedRequest.verifiedAt.nanos
        signedRequest.ticket signingProduct.secret signingProduct.issuer =
          some signedClaims := by
      simp [signedLibrary, signedRequest, signingProduct, secondNanos]
    simp [GatewayService.verify, decoded]
  have revoked : Revoked
      ((credentials signedLibrary [signingProduct]).journal
        [.exchange signedRequest, .revoke signedClaims "" 0])
      signedClaims :=
    ⟨signedClaims, "", 0, _, List.mem_cons_of_mem _ List.mem_cons_self,
      rfl, rfl, rfl, rfl⟩
  obtain ⟨-, -, -, -, -, refused, -⟩ := credential_guarantee signedLibrary
    [signingProduct] issuerChecked
    [.exchange signedRequest, .revoke signedClaims "" 0]
  exact ⟨verified, refused signedRequest signedClaims verified revoked⟩

end AsystantGateway
