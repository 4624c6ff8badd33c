import AsystantGateway.Library.Machine
import AsystantGateway.Model.Config
import AsystantGateway.Model.Ticket
import AsystantGateway.Repository.Sessions

/-!
# Exchanging tickets for sessions

A ticket is verified under the secret of a configured product, its claims are
checked, and a session is stored that ends after ten minutes or with the login,
whichever is first. Verifying a signature and hashing a token are the work of
libraries and are parameters here.

A run is any list of exchanges, authentications and revocations. Every call
carries its own readings of the clock, in the order in which it takes them.
-/

namespace AsystantGateway

/-- A random identifier, written as 32 hexadecimal digits. -/
structure Uuid where
  simple : String
  size : simple.utf8ByteSize = 32

/-- A request for a session: the ticket, the two random identifiers of the
token and the three readings of the clock. -/
structure ExchangeRequest where
  ticket : String
  first : Uuid
  second : Uuid
  verifiedAt : Reading
  checkedAt : Reading
  issuedAt : Reading
  verifiedBeforeChecked : verifiedAt.nanos ≤ checkedAt.nanos
  checkedBeforeIssued : checkedAt.nanos ≤ issuedAt.nanos

/-- The token that an exchange answers with. -/
def ExchangeRequest.token (request : ExchangeRequest) : String :=
  request.first.simple ++ request.second.simple

theorem ExchangeRequest.token_size (request : ExchangeRequest) :
    request.token.utf8ByteSize = 64 := by
  rw [token, String.utf8ByteSize_append, request.first.size,
    request.second.size]

/-- What an exchange answers. -/
structure ExchangeOutput where
  token : String
  expiresAt : Instant

/-- The libraries an exchange relies on: decoding a ticket at an instant under
a secret and for an issuer, and hashing a token. -/
structure TicketLibrary where
  decode : Instant → String → String → String → Option TicketClaims
  hash : String → String

namespace GatewayService

variable (library : TicketLibrary) (products : List Product)

/-- The claims of a ticket under the first product that verifies it. -/
def verify (request : ExchangeRequest) : Option TicketClaims :=
  products.findSome? fun product =>
    library.decode request.verifiedAt.nanos request.ticket product.secret
      product.issuer

/-- When the session of a ticket ends. -/
def expiresAt
    (request : ExchangeRequest)
    (claims : TicketClaims) : Option Instant :=
  (fromTimestamp claims.sessionExp).map fun sessionEnd =>
    min (request.issuedAt.nanos + sessionNanos) sessionEnd

/-- Exchange a ticket for a session; `none` is an arithmetic overflow. -/
def exchange
    (request : ExchangeRequest)
    (database : Database) :
    Option (Except AppError ExchangeOutput) × Database :=
  if request.ticket.utf8ByteSize > 8192 then
    (some (.error .authentication), database)
  else
    match verify library products request with
    | none => (some (.error .authentication), database)
    | some claims =>
        match claims.validate request.checkedAt.timestamp with
        | none => (none, database)
        | some (.error error) => (some (.error error), database)
        | some (.ok ()) =>
            match expiresAt request claims with
            | none => (some (.error .authentication), database)
            | some expiresAt =>
                let session := Session.ofClaims claims
                  (library.hash request.token) expiresAt
                let (result, after) :=
                  AsystantGateway.exchange claims session database
                (some (result.map fun _ => ⟨request.token, expiresAt⟩), after)

/-- Authenticate a token, with any writes between the two reads. -/
def authenticateAcross
    (token : String)
    (now : Reading)
    (first second : Database) : Except AppError Session :=
  if token.utf8ByteSize ≠ 64 then .error .authentication
  else
    AsystantGateway.authenticateAcross (library.hash token) now.nanos first
      second

end GatewayService

/-- One call on the credentials. A revocation is for the session of some
claims. A call that finds no connection is `unavailable`. -/
inductive CredentialCall
  | exchange (request : ExchangeRequest)
  | authenticate (token : String) (now : Reading)
  | revoke (claims : TicketClaims) (tokenHash : String) (expiresAt : Instant)
  | unavailable

/-- The answer to a call on the credentials. -/
inductive CredentialAnswer
  | exchanged (result : Option (Except AppError ExchangeOutput))
  | authenticated (result : Except AppError Session)
  | revoked (result : Except AppError Unit)
  | failed (error : AppError)

/-- The credentials under any serialisation of the callers. -/
def credentials
    (library : TicketLibrary)
    (products : List Product) :
    Mealy Database CredentialCall CredentialAnswer where
  start := .empty
  respond database call :=
    match call with
    | .exchange request =>
        let (result, after) :=
          GatewayService.exchange library products request database
        (.exchanged result, after)
    | .authenticate token now =>
        (.authenticated (GatewayService.authenticateAcross library token now
          database database), database)
    | .revoke claims tokenHash expiresAt =>
        let (result, after) :=
          revoke (.ofClaims claims tokenHash expiresAt) database
        (.revoked result, after)
    | .unavailable => (.failed .internal, database)

@[simp] theorem credentials_respond_exchange
    (library : TicketLibrary)
    (products : List Product)
    (database : Database)
    (request : ExchangeRequest) :
    (credentials library products).respond database (.exchange request) =
      (.exchanged
          (GatewayService.exchange library products request database).1,
        (GatewayService.exchange library products request database).2) :=
  rfl

end AsystantGateway
