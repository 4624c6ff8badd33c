import AsystantGateway.Admin.Handlers
import AsystantGateway.Admin.Playground
import AsystantGateway.Provider.ChatStream
import AsystantGateway.Service.Registration

/-!
# The handlers of the public routes

A handler runs in sections, from one of its waits to the next: it reads the
session of its token, then whether the login is revoked, then the policy, and
what it writes is written by a closure on a thread of its own. A client that
leaves drops the handler and not the closure. The test of a model runs through
the same sections as its product's clients.
-/

namespace AsystantGateway

/-- What a deployment takes from libraries and from its environment. -/
structure DeploymentSetting extends TurnSetting where
  /-- Decode a ticket at an instant, under a secret and for an issuer. -/
  decode : Instant → String → String → String → Option TicketClaims
  /-- Sign claims under a secret. -/
  encode : TicketClaims → String → Option String
  library : AdminLibrary
  adminToken : Option String
  /-- The administration when the process starts. -/
  admin : AdminState
  made : AdminState.new library adminToken = .ok admin

/-- The libraries of an exchange. -/
def DeploymentSetting.tickets (setting : DeploymentSetting) : TicketLibrary where
  decode := setting.decode
  hash := setting.hash

/-- A request to one of the public routes, with the text of its authorization
header, or the test of a model for the product of an issuer. -/
inductive ApiRequest
  | exchange (request : ExchangeRequest)
  | init (authorization : Option String) (manifest : Manifest)
  | turn (authorization : Option String) (turn : Turn)
  | revoke (authorization : Option String)
  | models (authorization : Option String)
  | test (issuer : String)

/-- What a handler answers. A test goes on with the events of its turn. -/
inductive ApiAnswer
  | refused (error : AppError)
  | aborted
  | exchanged (output : ExchangeOutput)
  | registered (id : String) (models : List String) (policy : ModelPolicy)
  | started
  | revoked
  | policy (policy : ModelPolicy)

/-- Where a handler is. -/
inductive ApiPhase
  /-- Its request has arrived. -/
  | received
  | storing
      (request : ExchangeRequest)
      (claims : TicketClaims)
      (session : Session)
      (closure : Closure)
  /-- It has a token and waits for the session. -/
  | selecting (token : String)
  /-- The session is read and its revocation is not. -/
  | rechecking (session : Session)
  | authenticated (session : Session)
  | loadingPolicy (session : Session)
  | registering
      (session : Session)
      (id : String)
      (manifest : Manifest)
      (policy : ModelPolicy)
      (closure : Closure)
  | revoking (session : Session) (closure : Closure)
  | answered (answer : ApiAnswer)
  /-- A restart dropped it. -/
  | lost

/-- What a handler can do itself. -/
inductive HandlerAction
  | begin
  /-- A test loads the configuration, or finds no connection, and signs its
  ticket, which it exchanges with readings and draws of its own. -/
  | sign
      (available : Bool)
      (now : Reading)
      (jti : String)
      (exchange : ExchangeRequest)
  /-- The session is read at a time, or there is no connection. -/
  | select (now : Option Reading)
  /-- The revocation is read, or the read fails. -/
  | recheck (available : Bool)
  /-- The handler learns of its session. -/
  | resume
  /-- The configuration is loaded, or finds no connection. A registration draws
  its id. -/
  | loadPolicy (available : Bool) (id : String)
  /-- The handler learns of its closure. A test draws the id of its turn. -/
  | answer (requestId : String)

namespace GatewayService

/-- What an exchange has to store, before its transaction; `none` is an
arithmetic overflow. -/
def ticketSession
    (library : TicketLibrary)
    (products : List Product)
    (request : ExchangeRequest) :
    Option (Except AppError (TicketClaims × Session)) :=
  if request.ticket.utf8ByteSize > 8192 then
    some (.error .authentication)
  else
    match verify library products request with
    | none => some (.error .authentication)
    | some claims =>
        match claims.validate request.checkedAt.timestamp with
        | none => none
        | some (.error error) => some (.error error)
        | some (.ok ()) =>
            match expiresAt request claims with
            | none => some (.error .authentication)
            | some expiresAt =>
                some (.ok (claims, Session.ofClaims claims
                  (library.hash request.token) expiresAt))

/-- An exchange is what it has to store, and its transaction. -/
theorem exchange_eq
    (library : TicketLibrary)
    (products : List Product)
    (request : ExchangeRequest)
    (database : Database) :
    exchange library products request database =
      match ticketSession library products request with
      | none => (none, database)
      | some (.error error) => (some (.error error), database)
      | some (.ok (claims, session)) =>
          let (result, after) :=
            AsystantGateway.exchange claims session database
          (some (result.map fun _ => ⟨request.token, session.expiresAt⟩),
            after) := by
  unfold exchange ticketSession
  split
  · rfl
  · cases verify library products request with
    | none => rfl
    | some claims =>
        dsimp only
        cases claims.validate request.checkedAt.timestamp with
        | none => rfl
        | some valid =>
            cases valid with
            | error error => rfl
            | ok =>
                dsimp only
                cases expiresAt request claims with
                | none => rfl
                | some expiresAt => rfl

end GatewayService

namespace ApiRequest

/-- The text of the authorization header. -/
def authorization : ApiRequest → Option String
  | exchange _ => none
  | init authorization _ => authorization
  | turn authorization _ => authorization
  | revoke authorization => authorization
  | models authorization => authorization
  | test _ => none

/-- The token that a request carries. -/
def bearer (request : ApiRequest) : Option String :=
  request.authorization.bind (stripStart "Bearer ")

/-- The manifest that a request registers. -/
def manifest : ApiRequest → Option Manifest
  | init _ manifest => some manifest
  | test _ => some Playground.manifest
  | _ => none

/-- Only the administration asks for a test. -/
def isTest : ApiRequest → Bool
  | test _ => true
  | _ => false

end ApiRequest

section Sections

variable (setting : DeploymentSetting)

namespace ApiPhase

/-- The refusal of a request. -/
def refused (error : AppError) : ApiPhase :=
  answered (.refused error)

/-- An exchange up to its transaction. -/
def exchanging (request : ExchangeRequest) : ApiPhase :=
  match GatewayService.ticketSession setting.tickets
      setting.environment.products request with
  | none => answered .aborted
  | some (.error error) => refused error
  | some (.ok (claims, session)) => storing request claims session .running

/-- The beginning of a handler. -/
def beginning (request : ApiRequest) : ApiPhase :=
  match request with
  | .exchange exchange => exchanging setting exchange
  | _ =>
      match request.bearer with
      | none => refused .authentication
      | some token =>
          if token.utf8ByteSize ≠ 64 then refused .authentication
          else selecting token

/-- A test up to the transaction of its exchange. -/
def signing
    (issuer : String)
    (available : Bool)
    (now : Reading)
    (jti : String)
    (exchange : ExchangeRequest)
    (database : Database) : ApiPhase :=
  let signed := do
    if available then
      let config ← effectiveConfig setting.codec setting.parseUrl
        setting.environment database
      Playground.ticket setting.encode config issuer jti now
    else
      .error .internal
  match signed with
  | .error error => refused error
  | .ok ticket => exchanging setting { exchange with ticket }

/-- The first read of an authentication. -/
def selected
    (token : String)
    (now : Option Reading)
    (database : Database) : ApiPhase :=
  match now with
  | none => refused .internal
  | some now =>
      match selectSession (setting.hash token) now.nanos database with
      | .error error => refused error
      | .ok session => rechecking session

/-- The second read of an authentication. -/
def rechecked
    (session : Session)
    (available : Bool)
    (database : Database) : ApiPhase :=
  if available then
    match refuseRevoked session database with
    | .error error => refused error
    | .ok () => authenticated session
  else
    refused .internal

/-- What a handler does with its session. -/
def resumed (request : ApiRequest) (session : Session) : Option ApiPhase :=
  match request with
  | .exchange _ => none
  | .turn _ _ => some (answered .started)
  | .revoke _ => some (revoking session .running)
  | .models _ => some (loadingPolicy session)
  | .init _ manifest =>
      match validateManifest manifest with
      | .error error => some (refused error)
      | .ok () => some (loadingPolicy session)
  | .test _ =>
      match validateManifest Playground.manifest with
      | .error error => some (refused error)
      | .ok () => some (loadingPolicy session)

/-- What a handler does with the policy of its session. -/
def policyLoaded
    (request : ApiRequest)
    (session : Session)
    (available : Bool)
    (id : String)
    (database : Database) : ApiPhase :=
  let loaded := do
    if available then
      let config ← effectiveConfig setting.codec setting.parseUrl
        setting.environment database
      config.policyOf session
    else
      .error .internal
  match loaded with
  | .error error => refused error
  | .ok policy =>
      match request.manifest with
      | none => answered (.policy policy)
      | some manifest =>
          registering session id
            { manifest with models := registeredModels policy manifest.models }
            policy .running

/-- What a handler does with the result of its closure. -/
def finished (request : ApiRequest) (phase : ApiPhase) : Option ApiPhase :=
  match phase with
  | storing exchange _ session (.finished result) =>
      match result with
      | .error error => some (refused error)
      | .ok () =>
          if request.isTest then
            some (
              if exchange.token.utf8ByteSize ≠ 64 then refused .authentication
              else selecting exchange.token)
          else
            some (answered (.exchanged ⟨exchange.token, session.expiresAt⟩))
  | registering _ id manifest policy (.finished result) =>
      match result with
      | .error error => some (refused error)
      | .ok () =>
          if request.isTest then some (answered .started)
          else some (answered (.registered id manifest.models policy))
  | revoking _ (.finished result) =>
      match result with
      | .error error => some (refused error)
      | .ok () => some (answered .revoked)
  | _ => none

/-- One section of a handler. -/
def handle
    (request : ApiRequest)
    (database : Database)
    (action : HandlerAction)
    (phase : ApiPhase) : Option ApiPhase :=
  match action, phase with
  | .begin, received =>
      if request.isTest then none else some (beginning setting request)
  | .sign available now jti exchange, received =>
      match request with
      | .test issuer =>
          some (signing setting issuer available now jti exchange database)
      | _ => none
  | .select now, selecting token =>
      some (selected setting token now database)
  | .recheck available, rechecking session =>
      some (rechecked session available database)
  | .resume, authenticated session => resumed request session
  | .loadPolicy available id, loadingPolicy session =>
      some (policyLoaded setting request session available id database)
  | .answer _, phase => finished request phase
  | _, _ => none

/-- The transaction of a closure, at a time, or without a connection. -/
def runClosure
    (now : Option Instant)
    (database : Database)
    (phase : ApiPhase) : Option (ApiPhase × Database) :=
  match phase with
  | storing request claims session .running =>
      let (result, after) :=
        match now with
        | none => (.error .internal, database)
        | some _ => AsystantGateway.exchange claims session database
      some (storing request claims session (.finished result), after)
  | registering session id manifest policy .running =>
      let (result, after) :=
        match now with
        | none => (.error .internal, database)
        | some now => register id session manifest now database
      some (registering session id manifest policy (.finished result), after)
  | revoking session .running =>
      let (result, after) :=
        match now with
        | none => (.error .internal, database)
        | some _ => revoke session database
      some (revoking session (.finished result), after)
  | _ => none

end ApiPhase

/-- The turn that a section of a handler starts. -/
def startedTurn
    (request : ApiRequest)
    (action : HandlerAction)
    (phase : ApiPhase) : Option (Session × Turn) :=
  match action, phase, request with
  | .resume, .authenticated session, .turn _ turn => some (session, turn)
  | .answer requestId, .registering session id _ policy (.finished (.ok ())),
      .test _ =>
      some (session, Playground.turn id requestId policy.defaultModel)
  | _, _, _ => none

end Sections

end AsystantGateway
