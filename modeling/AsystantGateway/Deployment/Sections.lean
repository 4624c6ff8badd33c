import AsystantGateway.Deployment.Machine
import AsystantGateway.Service.CredentialRuns

/-!
# What a section of a handler can do

The sections of a handler and the transactions of its closures, said once as
relations: what a handler has read when it comes to a phase, and what a closure
has written. A section writes nothing. A transaction stores a session, stores a
registration or revokes a login, and leaves the ledger alone.
-/

namespace AsystantGateway

/-- What an exchange knows of its ticket before its transaction. -/
structure Ticketed
    (library : TicketLibrary)
    (products : List Product)
    (request : ExchangeRequest)
    (claims : TicketClaims)
    (session : Session) : Prop where
  short : request.ticket.utf8ByteSize ≤ 8192
  verified : GatewayService.verify library products request = some claims
  acceptable : claims.Acceptable request.checkedAt.timestamp.toInt
  ends : GatewayService.expiresAt request claims = some session.expiresAt
  built : session =
    .ofClaims claims (library.hash request.token) session.expiresAt

theorem Ticketed.of_ticketSession
    {library : TicketLibrary}
    {products : List Product}
    {request : ExchangeRequest}
    {claims : TicketClaims}
    {session : Session}
    (made : GatewayService.ticketSession library products request =
      some (.ok (claims, session))) :
    Ticketed library products request claims session := by
  unfold GatewayService.ticketSession at made
  split at made
  · cases made
  · rename_i short
    split at made
    · cases made
    · rename_i verified
      split at made
      · cases made
      · cases made
      · rename_i valid
        split at made
        · cases made
        · rename_i sessionEnd ends
          cases made
          rcases claims.validate_eq request.checkedAt with
            ⟨acceptable, -⟩ | ⟨-, invalid⟩
          · exact ⟨not_lt.mp short, verified, acceptable, ends, rfl⟩
          · rw [invalid] at valid
            cases valid

/-- What a section can do: the request is answered, or the handler comes to a
phase with what it has read. -/
inductive ApiStep
    (setting : DeploymentSetting)
    (request : ApiRequest)
    (database : Database) :
    HandlerAction → ApiPhase → ApiPhase → Prop
  | answered (action : HandlerAction) (origin : ApiPhase) (answer : ApiAnswer) :
      ApiStep setting request database action origin (.answered answer)
  | storing
      (action : HandlerAction)
      (exchange : ExchangeRequest)
      (claims : TicketClaims)
      (session : Session)
      (ticketed : Ticketed setting.tickets setting.environment.products
        exchange claims session) :
      ApiStep setting request database action .received
        (.storing exchange claims session .running)
  | asked
      (token : String)
      (carried : request.bearer = some token)
      (size : token.utf8ByteSize = 64) :
      ApiStep setting request database .begin .received (.selecting token)
  | signedIn
      (requestId : String)
      (exchange : ExchangeRequest)
      (claims : TicketClaims)
      (session : Session)
      (isTest : request.isTest = true) :
      ApiStep setting request database (.answer requestId)
        (.storing exchange claims session (.finished (.ok ())))
        (.selecting exchange.token)
  | selected
      (now : Reading)
      (token : String)
      (session : Session)
      (found : database.sessions.find (setting.hash token) = some session)
      (alive : now.nanos < session.expiresAt) :
      ApiStep setting request database (.select (some now)) (.selecting token)
        (.rechecking session)
  | rechecked
      (session : Session)
      (notRevoked : database.revokedSessions.find session.sid = none) :
      ApiStep setting request database (.recheck true) (.rechecking session)
        (.authenticated session)
  | resumed
      (session : Session)
      (valid : ∀ manifest, request.manifest = some manifest →
        validateManifest manifest = .ok ()) :
      ApiStep setting request database .resume (.authenticated session)
        (.loadingPolicy session)
  | revoking (session : Session) :
      ApiStep setting request database .resume (.authenticated session)
        (.revoking session .running)
  | registering
      (id : String)
      (session : Session)
      (config : Config)
      (policy : ModelPolicy)
      (manifest : Manifest)
      (loaded : effectiveConfig setting.codec setting.parseUrl
        setting.environment database = .ok config)
      (given : config.policyOf session = .ok policy)
      (asked : request.manifest = some manifest) :
      ApiStep setting request database (.loadPolicy true id)
        (.loadingPolicy session)
        (.registering session id
          { manifest with models := registeredModels policy manifest.models }
          policy .running)

namespace ApiStep

variable
  {setting : DeploymentSetting}
  {request : ApiRequest}
  {database : Database}
  {action : HandlerAction}
  {origin phase : ApiPhase}

theorem of_exchanging
    (action : HandlerAction)
    (exchange : ExchangeRequest) :
    ApiStep setting request database action .received
      (.exchanging setting exchange) := by
  unfold ApiPhase.exchanging
  split
  · exact .answered _ _ _
  · exact .answered _ _ _
  · rename_i claims session made
    exact .storing _ _ _ _ (.of_ticketSession made)

theorem of_beginning :
    ApiStep setting request database .begin .received
      (.beginning setting request) := by
  unfold ApiPhase.beginning
  split
  · exact .of_exchanging _ _
  · split
    · exact .answered _ _ _
    · rename_i token carried
      split
      · exact .answered _ _ _
      · rename_i size
        exact .asked token carried (not_not.mp size)

theorem of_signing
    (issuer : String)
    (available : Bool)
    (now : Reading)
    (jti : String)
    (exchange : ExchangeRequest) :
    ApiStep setting request database (.sign available now jti exchange)
      .received
      (.signing setting issuer available now jti exchange database) := by
  unfold ApiPhase.signing
  dsimp only
  split
  · exact .answered _ _ _
  · exact .of_exchanging _ _

theorem of_selected
    (token : String)
    (now : Option Reading) :
    ApiStep setting request database (.select now) (.selecting token)
      (.selected setting token now database) := by
  unfold ApiPhase.selected
  cases now with
  | none => exact .answered _ _ _
  | some now =>
      dsimp only
      unfold selectSession
      cases found : database.sessions.find (setting.hash token) with
      | none => exact .answered _ _ _
      | some session =>
          by_cases alive : session.expiresAt > now.nanos
          · simp only [alive, if_true]
            exact .selected now token session found alive
          · simp only [alive, if_false]
            exact .answered _ _ _

theorem of_rechecked
    (session : Session)
    (available : Bool) :
    ApiStep setting request database (.recheck available)
      (.rechecking session) (.rechecked session available database) := by
  unfold ApiPhase.rechecked refuseRevoked
  cases available with
  | false => exact .answered _ _ _
  | true =>
      cases notRevoked : database.revokedSessions.find session.sid with
      | none => exact .rechecked session notRevoked
      | some _ => exact .answered _ _ _

theorem of_resumed
    {session : Session}
    (taken : ApiPhase.resumed request session = some phase) :
    ApiStep setting request database .resume (.authenticated session)
      phase := by
  unfold ApiPhase.resumed at taken
  split at taken
  · cases taken
  · cases taken
    exact .answered _ _ _
  · cases taken
    exact .revoking session
  · cases taken
    exact .resumed session fun _ asked => nomatch asked
  · split at taken <;> cases taken
    · exact .answered _ _ _
    · rename_i valid
      exact .resumed session fun _ asked => Option.some.inj asked ▸ valid
  · split at taken <;> cases taken
    · exact .answered _ _ _
    · rename_i valid
      exact .resumed session fun _ asked => Option.some.inj asked ▸ valid

theorem of_policyLoaded
    (session : Session)
    (available : Bool)
    (id : String) :
    ApiStep setting request database (.loadPolicy available id)
      (.loadingPolicy session)
      (.policyLoaded setting request session available id database) := by
  unfold ApiPhase.policyLoaded
  cases available with
  | false => exact .answered _ _ _
  | true =>
      simp only [if_true]
      cases loaded : effectiveConfig setting.codec setting.parseUrl
          setting.environment database with
      | error error => exact .answered _ _ _
      | ok config =>
          simp only [bind, Except.bind]
          cases given : config.policyOf session with
          | error error => exact .answered _ _ _
          | ok policy =>
              dsimp only
              cases asked : request.manifest with
              | none => exact .answered _ _ _
              | some manifest =>
                  exact .registering id session config policy manifest loaded
                    given asked

theorem of_finished
    {requestId : String}
    (taken : ApiPhase.finished request origin = some phase) :
    ApiStep setting request database (.answer requestId) origin phase := by
  unfold ApiPhase.finished at taken
  split at taken
  · split at taken
    · cases taken
      exact .answered _ _ _
    · split at taken
      · rename_i isTest
        cases taken
        split
        · exact .answered _ _ _
        · exact .signedIn _ _ _ _ isTest
      · cases taken
        exact .answered _ _ _
  · split at taken
    · cases taken
      exact .answered _ _ _
    · split at taken <;> cases taken <;> exact .answered _ _ _
  · split at taken <;> cases taken <;> exact .answered _ _ _
  · cases taken

/-- Every section of a handler is one of these. -/
theorem of_handle
    (taken : origin.handle setting request database action = some phase) :
    ApiStep setting request database action origin phase := by
  unfold ApiPhase.handle at taken
  split at taken
  · split at taken
    · cases taken
    · cases taken
      exact .of_beginning
  · split at taken
    · cases taken
      exact .of_signing _ _ _ _ _
    · cases taken
  · cases taken
    exact .of_selected _ _
  · cases taken
    exact .of_rechecked _ _
  · exact .of_resumed taken
  · cases taken
    exact .of_policyLoaded _ _ _
  · exact .of_finished taken
  · cases taken

end ApiStep

/-- What the transaction of a closure can do. -/
inductive ClosureStep
    (database : Database) :
    Option Instant → ApiPhase → ApiPhase → Database → Prop
  | stored
      (now : Instant)
      (exchange : ExchangeRequest)
      (claims : TicketClaims)
      (session : Session)
      (after : Database)
      (admits : Exchangeable database claims session)
      (effect : Exchanges database after claims session) :
      ClosureStep database (some now)
        (.storing exchange claims session .running)
        (.storing exchange claims session (.finished (.ok ()))) after
  | notStored
      (now : Option Instant)
      (exchange : ExchangeRequest)
      (claims : TicketClaims)
      (session : Session)
      (error : AppError) :
      ClosureStep database now (.storing exchange claims session .running)
        (.storing exchange claims session (.finished (.error error))) database
  | registered
      (now : Instant)
      (session : Session)
      (id : String)
      (manifest : Manifest)
      (policy : ModelPolicy)
      (registrations : Table Registration.id)
      (inserted : database.registrations.insert
        { id, identity := session.identity, manifest := manifest.text,
          expiresAt := now + dayNanos } = some registrations) :
      ClosureStep database (some now)
        (.registering session id manifest policy .running)
        (.registering session id manifest policy (.finished (.ok ())))
        { database with registrations }
  | notRegistered
      (now : Option Instant)
      (session : Session)
      (id : String)
      (manifest : Manifest)
      (policy : ModelPolicy)
      (error : AppError) :
      ClosureStep database now
        (.registering session id manifest policy .running)
        (.registering session id manifest policy (.finished (.error error)))
        database
  | revoked (now : Instant) (session : Session) :
      ClosureStep database (some now) (.revoking session .running)
        (.revoking session (.finished (.ok ())))
        { database with
          revokedSessions := database.revokedSessions.insertOrIgnore
            { id := session.sid } }
  | notRevoked (session : Session) :
      ClosureStep database none (.revoking session .running)
        (.revoking session (.finished (.error .internal))) database

namespace ClosureStep

variable
  {database after : Database}
  {now : Option Instant}
  {origin phase : ApiPhase}

theorem of_runClosure
    (taken : origin.runClosure now database = some (phase, after)) :
    ClosureStep database now origin phase after := by
  unfold ApiPhase.runClosure at taken
  split at taken
  · rename_i exchange claims session
    cases now with
    | none =>
        cases taken
        exact .notStored _ _ _ _ _
    | some now =>
        by_cases admits : Exchangeable database claims session
        · obtain ⟨stored, exchanged, effect⟩ :=
            exchange_of_exchangeable admits
          simp only [exchanged] at taken
          cases taken
          exact .stored _ _ _ _ _ admits effect
        · obtain ⟨error, failed⟩ := exchange_of_not_exchangeable admits
          simp only [failed] at taken
          cases taken
          exact .notStored _ _ _ _ _
  · rename_i session id manifest policy
    cases now with
    | none =>
        cases taken
        exact .notRegistered _ _ _ _ _ _
    | some now =>
        rcases register_cases id session manifest now database with
          ⟨registrations, inserted, ran⟩ | ⟨error, failed⟩
        · simp only [ran] at taken
          cases taken
          exact .registered _ _ _ _ _ _ inserted
        · simp only [failed] at taken
          cases taken
          exact .notRegistered _ _ _ _ _ _
  · cases now <;> cases taken
    · exact .notRevoked _
    · exact .revoked _ _
  · cases taken

/-- A closure leaves the ledger alone. -/
theorem ledger (taken : ClosureStep database now origin phase after) :
    { after with
      accounts := database.accounts
      requests := database.requests } = after := by
  cases taken with
  | stored _ _ _ _ _ _ effect =>
      have frame := effect.frame
      have accounts := congrArg Database.accounts frame
      have requests := congrArg Database.requests frame
      dsimp only at accounts requests
      rw [← accounts, ← requests]
  | _ => rfl

/-- A closure leaves the policy alone. -/
theorem adminPolicy (taken : ClosureStep database now origin phase after) :
    after.adminPolicy = database.adminPolicy := by
  cases taken with
  | stored _ _ _ _ _ _ effect =>
      have policy := congrArg Database.adminPolicy effect.frame
      exact policy
  | _ => rfl

/-- A closure takes no revocation back. -/
theorem keeps_revoked
    (taken : ClosureStep database now origin phase after)
    {sid : String}
    (known : database.revokedSessions.find sid ≠ none) :
    after.revokedSessions.find sid ≠ none := by
  cases taken with
  | stored _ _ _ _ _ _ effect =>
      rw [← effect.frame] at known
      exact known
  | revoked =>
      rw [Table.find_insertOrIgnore]
      split
      · simp
      · exact known
  | _ => exact known

end ClosureStep

end AsystantGateway
