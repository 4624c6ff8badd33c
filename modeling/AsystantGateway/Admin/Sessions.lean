import AsystantGateway.Admin.Repository
import AsystantGateway.Library.Hex
import AsystantGateway.Service.Credentials

/-!
# Administration sessions

The administration has credentials of its own: one configured token, known by
its digest, and sessions in memory that a login opens. Every request that
changes something carries the cookie of a session and the CSRF value of that
session.

Handlers take the lock on the state once or twice. Each definition here is one
section under the lock, with the readings of the clock and the random values
that it uses as arguments. An expired entry is dropped by a reading taken when
the entry is visited, so a section has one reading for each entry.
-/

namespace AsystantGateway

/-- What the administration takes from its libraries: the SHA-256 digest of a
text, and the comparison of two byte strings of one length in constant time. -/
structure AdminLibrary where
  digest : String → Vector UInt8 32
  ctEq : List UInt8 → List UInt8 → Bool
  ctEq_iff : ∀ first second, first.length = second.length →
    (ctEq first second = true ↔ first = second)

/-- `GatewayService::hash`: the digest in hexadecimal. -/
def AdminLibrary.hash (library : AdminLibrary) (value : String) : String :=
  Hex.lower (library.digest value).toList

/-- The bytes of a text. -/
def utf8Bytes (text : String) : List UInt8 :=
  text.toByteArray.data.toList

/-- Compare two byte strings, in constant time when they have one length. -/
def constantEqual
    (library : AdminLibrary)
    (first second : List UInt8) : Bool :=
  if first.length ≠ second.length then false
  else library.ctEq first second

/-- A random text: two random identifiers, one after the other. -/
def random (draw : Uuid × Uuid) : String :=
  draw.1.simple ++ draw.2.simple

/-- How long a session lasts. -/
def sessionLifetime : Int := 3600 * secondNanos

/-- How long a failed login counts. -/
def attemptLifetime : Int := 900 * secondNanos

/-- The least time between two model tests. -/
def testInterval : Int := 10 * secondNanos

/-- A session of the administration. -/
structure AdminSession where
  csrf : String
  expires : Instant
  deriving DecidableEq, Repr

/-- A failed login. -/
structure LoginAttempt where
  expires : Instant
  deriving DecidableEq, Repr

/-- The digest of the configured token, and what the lock guards: the time of
the last model test, the sessions by the hash of their token, and the failed
logins, oldest first. -/
structure AdminState where
  secretHash : Option (Vector UInt8 32)
  lastTest : Option Instant
  sessions : Table (Prod.fst : String × AdminSession → String)
  attempts : List LoginAttempt

/-- The form of a login. -/
structure LoginForm where
  token : String
  csrf : String
  deriving DecidableEq, Repr

/-- A login: its cookie, its form, the random texts that it draws, and its
readings of the clock. -/
structure LoginRequest where
  cookie : Option String
  form : LoginForm
  attemptsAt : Nat → Instant
  failedAt : Instant
  sessionsAt : String → Instant
  tokenDraw : Uuid × Uuid
  csrfDraw : Uuid × Uuid
  issuedAt : Instant

/-- The session token that a login draws. -/
def LoginRequest.token (request : LoginRequest) : String :=
  random request.tokenDraw

/-- The CSRF value that a login draws. -/
def LoginRequest.sessionCsrf (request : LoginRequest) : String :=
  random request.csrfDraw

/-- What a request goes on to do once its CSRF value is checked. -/
inductive AdminAction
  | save (edit : EditPolicy)
  | logout
  | testModel (issuer : String)
  deriving DecidableEq

/-- A request that changes something: its session cookie, the CSRF value of
its form, and what it is for. -/
structure AdminRequest where
  cookie : Option String
  csrf : String
  action : AdminAction

/-- The page that the administration shows. -/
inductive IndexPage
  | notFound
  | dashboard (config : Config) (csrf : String)
  | login (csrf : String)

/-- Drop the failed logins that no longer count. The reading depends on the
position of the entry. -/
def retainAttempts
    (clock : Nat → Instant)
    (attempts : List LoginAttempt) : List LoginAttempt :=
  (attempts.zipIdx.filter fun entry => clock entry.2 < entry.1.expires).map
    Prod.fst

namespace AdminState

/-- `AdminState::new`. -/
def new
    (library : AdminLibrary)
    (secret : Option String) : Except AppError AdminState :=
  if secret.any fun secret =>
      secret.utf8ByteSize < 32 ∨ secret.utf8ByteSize > 1024 then
    .error .invalid
  else
    .ok
      { secretHash := secret.map library.digest
        lastTest := none
        sessions := .empty
        attempts := [] }

/-- Drop the expired sessions. The reading depends on the key of the entry. -/
def retainSessions
    (clock : String → Instant)
    (admin : AdminState) : AdminState :=
  { admin with
    sessions := admin.sessions.retain fun entry =>
      clock entry.1 < entry.2.expires }

/-- The CSRF value of the session that a cookie names. -/
def authenticate
    (library : AdminLibrary)
    (cookie : Option String)
    (clock : String → Instant)
    (admin : AdminState) : Except AppError String × AdminState :=
  match cookie with
  | none => (.error .authentication, admin)
  | some value =>
      let admin := admin.retainSessions clock
      match admin.sessions.find (library.hash value) with
      | none => (.error .authentication, admin)
      | some entry => (.ok entry.2.csrf, admin)

/-- A login answers with the token of the session that it opens. -/
def login
    (library : AdminLibrary)
    (request : LoginRequest)
    (admin : AdminState) : Except AppError String × AdminState :=
  match admin.secretHash, request.cookie with
  | none, _ => (.error .authentication, admin)
  | some _, none => (.error .authentication, admin)
  | some expected, some csrf =>
      if csrf.utf8ByteSize ≠ 64 ∨
          ¬ constantEqual library (utf8Bytes csrf)
            (utf8Bytes request.form.csrf) then
        (.error .authentication, admin)
      else
        let admin := { admin with
          attempts := retainAttempts request.attemptsAt admin.attempts }
        if admin.attempts.length ≥ 5 then
          (.error .limited, admin)
        else if ¬ constantEqual library expected.toList
            (library.digest request.form.token).toList then
          (.error .authentication, { admin with
            attempts := admin.attempts ++
              [⟨request.failedAt + attemptLifetime⟩] })
        else
          let admin := admin.retainSessions request.sessionsAt
          if admin.sessions.rows.length ≥ 128 then
            (.error .limited, admin)
          else
            (.ok request.token, { admin with
              sessions := admin.sessions.put
                (library.hash request.token,
                  { csrf := request.sessionCsrf
                    expires := request.issuedAt + sessionLifetime }) })

/-- `index`: the dashboard for a session, the form of a login without one. -/
def index
    (library : AdminLibrary)
    (effective : Except AppError Config)
    (cookie : Option String)
    (clock : String → Instant)
    (draw : Uuid × Uuid)
    (admin : AdminState) : Except AppError IndexPage × AdminState :=
  match admin.secretHash with
  | none => (.ok .notFound, admin)
  | some _ =>
      match admin.authenticate library cookie clock with
      | (.ok csrf, admin) =>
          (effective.map fun config => .dashboard config csrf, admin)
      | (.error .authentication, admin) =>
          (.ok (.login (random draw)), admin)
      | (.error error, admin) => (.error error, admin)

/-- Check the CSRF value of a request against that of its session. -/
def checkCsrf
    (library : AdminLibrary)
    (request : AdminRequest)
    (clock : String → Instant)
    (admin : AdminState) : Except AppError Unit × AdminState :=
  match admin.authenticate library request.cookie clock with
  | (.error error, admin) => (.error error, admin)
  | (.ok csrf, admin) =>
      if ¬ constantEqual library (utf8Bytes csrf)
          (utf8Bytes request.csrf) then
        (.error .authentication, admin)
      else
        (.ok (), admin)

/-- `logout`, after its check. -/
def logout
    (library : AdminLibrary)
    (cookie : Option String)
    (admin : AdminState) : AdminState :=
  match cookie with
  | none => admin
  | some token =>
      { admin with sessions := admin.sessions.remove (library.hash token) }

/-- `test_model`, after its check and up to the run of the model. The elapsed
time is never negative. -/
def testModel
    (elapsedAt startedAt : Instant)
    (admin : AdminState) : Except AppError Unit × AdminState :=
  if admin.lastTest.any fun last =>
      max 0 (elapsedAt - last) < testInterval then
    (.error .limited, admin)
  else
    (.ok (), { admin with lastTest := some startedAt })

end AdminState

theorem utf8Bytes_injective : Function.Injective utf8Bytes := by
  intro first second same
  apply String.toByteArray_inj.mp
  apply ByteArray.ext
  exact Array.toList_inj.mp same

/-- A comparison in constant time is a comparison. -/
theorem constantEqual_iff
    (library : AdminLibrary)
    {first second : List UInt8} :
    constantEqual library first second = true ↔ first = second := by
  unfold constantEqual
  split
  case isTrue different =>
    refine ⟨fun equal => absurd equal Bool.false_ne_true, fun equal => ?_⟩
    exact absurd (congrArg List.length equal) different
  case isFalse sameLength =>
    exact library.ctEq_iff first second (not_not.mp sameLength)

theorem constantEqual_utf8Bytes
    (library : AdminLibrary)
    {first second : String} :
    constantEqual library (utf8Bytes first) (utf8Bytes second) = true ↔
      first = second := by
  rw [constantEqual_iff]
  exact utf8Bytes_injective.eq_iff

theorem AdminLibrary.digest_eq_of_hash_eq
    {library : AdminLibrary}
    {first second : String}
    (same : library.hash first = library.hash second) :
    library.digest first = library.digest second :=
  Vector.toList_inj.mp (Hex.lower_injective same)

/-! ## What each section does -/

namespace AdminState

variable
  {library : AdminLibrary}
  {clock : String → Instant}
  {admin : AdminState}

/-- An administration starts with the digest of its token and nothing else. -/
theorem of_new
    {secret : Option String}
    (made : new library secret = .ok admin) :
    admin =
      { secretHash := secret.map library.digest
        lastTest := none
        sessions := .empty
        attempts := [] } := by
  unfold new at made
  split at made
  case isTrue => cases made
  case isFalse => exact (Except.ok.inj made).symm

/-- A section that opens no session: it keeps every session that its readings
find alive. -/
structure Drops
    (clock : String → Instant)
    (before after : AdminState) : Prop where
  secretHash : after.secretHash = before.secretHash
  lastTest : after.lastTest = before.lastTest
  sublist : after.sessions.rows.Sublist before.sessions.rows
  keeps : ∀ entry ∈ before.sessions.rows, clock entry.1 < entry.2.expires →
    entry ∈ after.sessions.rows

theorem Drops.refl (clock : String → Instant) (admin : AdminState) :
    Drops clock admin admin :=
  ⟨rfl, rfl, .refl _, fun _ member _ => member⟩

theorem mem_retainSessions
    {entry : String × AdminSession} :
    entry ∈ (admin.retainSessions clock).sessions.rows ↔
      entry ∈ admin.sessions.rows ∧ clock entry.1 < entry.2.expires := by
  rw [retainSessions, Table.mem_rows_retain, decide_eq_true_iff]

theorem drops_retainSessions
    (clock : String → Instant)
    (admin : AdminState) :
    Drops clock admin (admin.retainSessions clock) where
  secretHash := rfl
  lastTest := rfl
  sublist := admin.sessions.sublist_retain _
  keeps _ member alive := mem_retainSessions.mpr ⟨member, alive⟩

/-- A cookie authenticates exactly with a live session of its hash. -/
theorem authenticate_cases
    (library : AdminLibrary)
    (cookie : Option String)
    (clock : String → Instant)
    (admin : AdminState) :
    (∃ value session, cookie = some value ∧
      (library.hash value, session) ∈ admin.sessions.rows ∧
        clock (library.hash value) < session.expires ∧
          admin.authenticate library cookie clock =
            (.ok session.csrf, admin.retainSessions clock)) ∨
    ∃ after, Drops clock admin after ∧
      admin.authenticate library cookie clock =
        (.error .authentication, after) := by
  cases cookie with
  | none => exact .inr ⟨admin, .refl clock admin, rfl⟩
  | some value =>
      unfold authenticate
      dsimp only
      cases found : (admin.retainSessions clock).sessions.find
          (library.hash value) with
      | none => exact .inr ⟨_, drops_retainSessions clock admin, rfl⟩
      | some entry =>
          obtain ⟨member, isKey⟩ := Table.find_eq_some_iff.mp found
          obtain ⟨present, alive⟩ := mem_retainSessions.mp member
          refine .inl ⟨value, entry.2, rfl, ?_, ?_, rfl⟩
          · rw [← isKey]
            exact present
          · rw [← isKey]
            exact alive

theorem drops_authenticate
    (library : AdminLibrary)
    (cookie : Option String)
    (clock : String → Instant)
    (admin : AdminState) :
    Drops clock admin (admin.authenticate library cookie clock).2 := by
  rcases authenticate_cases library cookie clock admin with
    ⟨value, session, -, -, -, answered⟩ | ⟨after, drops, answered⟩
  · rw [answered]
    exact drops_retainSessions clock admin
  · rw [answered]
    exact drops

theorem drops_index
    (library : AdminLibrary)
    (effective : Except AppError Config)
    (cookie : Option String)
    (clock : String → Instant)
    (draw : Uuid × Uuid)
    (admin : AdminState) :
    Drops clock admin
      (admin.index library effective cookie clock draw).2 := by
  have drops := drops_authenticate library cookie clock admin
  unfold index
  cases admin.secretHash with
  | none => exact .refl clock admin
  | some expected =>
      dsimp only
      revert drops
      rcases admin.authenticate library cookie clock with ⟨result, after⟩
      intro drops
      cases result with
      | ok csrf => exact drops
      | error error => cases error <;> exact drops

/-- A CSRF value is accepted exactly when it is that of a live session which
the cookie names. -/
theorem checkCsrf_cases
    (library : AdminLibrary)
    (request : AdminRequest)
    (clock : String → Instant)
    (admin : AdminState) :
    (∃ value session, request.cookie = some value ∧
      (library.hash value, session) ∈ admin.sessions.rows ∧
        clock (library.hash value) < session.expires ∧
          session.csrf = request.csrf ∧
            admin.checkCsrf library request clock =
              (.ok (), admin.retainSessions clock)) ∨
    ∃ after, Drops clock admin after ∧
      admin.checkCsrf library request clock =
        (.error .authentication, after) := by
  unfold checkCsrf
  rcases authenticate_cases library request.cookie clock admin with
    ⟨value, session, named, present, alive, answered⟩ |
    ⟨after, drops, answered⟩
  · rw [answered]
    dsimp only
    split
    case isTrue =>
      exact .inr ⟨_, drops_retainSessions clock admin, rfl⟩
    case isFalse accepted =>
      have same := (constantEqual_utf8Bytes library).mp (not_not.mp accepted)
      exact .inl ⟨value, session, named, present, alive, same, rfl⟩
  · rw [answered]
    exact .inr ⟨after, drops, rfl⟩

/-- A login opens one session, for the configured token and while there is
room; otherwise it opens none. -/
theorem login_cases
    (library : AdminLibrary)
    (request : LoginRequest)
    (admin : AdminState) :
    (∃ after, admin.login library request = (.ok request.token, after) ∧
      admin.secretHash = some (library.digest request.form.token) ∧
      (admin.retainSessions request.sessionsAt).sessions.rows.length < 128 ∧
      after.secretHash = admin.secretHash ∧
      after.lastTest = admin.lastTest ∧
      after.sessions =
        (admin.retainSessions request.sessionsAt).sessions.put
          (library.hash request.token,
            { csrf := request.sessionCsrf
              expires := request.issuedAt + sessionLifetime })) ∨
    ∃ error after, admin.login library request = (.error error, after) ∧
      Drops request.sessionsAt admin after := by
  have unchanged := Drops.refl request.sessionsAt admin
  have retained := drops_retainSessions request.sessionsAt admin
  unfold login
  cases secret : admin.secretHash with
  | none => exact .inr ⟨_, _, rfl, unchanged⟩
  | some expected =>
      cases request.cookie with
      | none => exact .inr ⟨_, _, rfl, unchanged⟩
      | some csrf =>
          dsimp only
          split
          case isTrue => exact .inr ⟨_, _, rfl, unchanged⟩
          case isFalse =>
            split
            case isTrue =>
              exact .inr ⟨_, _, rfl, secret.symm, rfl, unchanged.sublist,
                unchanged.keeps⟩
            case isFalse =>
              split
              case isTrue =>
                exact .inr ⟨_, _, rfl, secret.symm, rfl, unchanged.sublist,
                  unchanged.keeps⟩
              case isFalse accepted =>
                have same := Vector.toList_inj.mp
                  ((constantEqual_iff library).mp (not_not.mp accepted))
                split
                case isTrue =>
                  exact .inr ⟨_, _, rfl, secret.symm, rfl, retained.sublist,
                    retained.keeps⟩
                case isFalse room =>
                  exact .inl ⟨_, rfl, congrArg some same,
                    Nat.lt_of_not_le room, rfl, rfl, rfl⟩

theorem testModel_cases
    (elapsedAt startedAt : Instant)
    (admin : AdminState) :
    admin.testModel elapsedAt startedAt =
        (.ok (), { admin with lastTest := some startedAt }) ∨
      admin.testModel elapsedAt startedAt = (.error .limited, admin) := by
  unfold testModel
  split
  case isTrue => exact .inr rfl
  case isFalse => exact .inl rfl

end AdminState

end AsystantGateway
