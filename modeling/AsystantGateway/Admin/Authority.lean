import AsystantGateway.Admin.Handlers
import AsystantGateway.Admin.RoundTrip
import AsystantGateway.Library.History
import Mathlib.Data.List.Pairwise

/-!
# Who administers

A session was opened by a login with the configured token, and no logout with
its token came after that login. Every section keeps this, and at a check it
becomes a statement about the request that passed, which later sections cannot
take back.

Inside a run sessions are known by the hashes of their tokens. The results are
about the tokens themselves, for runs in which no two hashed texts collide and
no token is drawn twice.
-/

namespace AsystantGateway

/-- A login that presented the configured token and answered with a session
token, less than an hour before an instant. -/
def OpensSession
    (secret : Option String)
    (token csrf : String)
    (now : Instant)
    (entry : AdminStep × AdminAnswer) : Prop :=
  ∃ request, entry = (.login request, .session (.ok token)) ∧
    secret = some request.form.token ∧
    request.sessionCsrf = csrf ∧
    now - request.issuedAt < 3600 * secondNanos

/-- A logout with a token. -/
def LogsOut (token : String) (entry : AdminStep × AdminAnswer) : Prop :=
  ∃ step request, entry = (step, .performed request (.ok ())) ∧
    request.action = .logout ∧
    request.cookie = some token

/-- A login had opened a session with the token and the CSRF value of a
request, and no logout with that token came after it. The instant is the
reading that a check takes for the session. -/
def Entitled
    (library : AdminLibrary)
    (secret : Option String)
    (request : AdminRequest)
    (clock : String → Instant)
    (journal : AdminJournal) : Prop :=
  ∃ token, request.cookie = some token ∧
    Since
      (OpensSession secret token request.csrf (clock (library.hash token)))
      (LogsOut token) journal

/-- A request passed a check at which it was entitled to pass. -/
def Authorised
    (library : AdminLibrary)
    (secret : Option String)
    (request : AdminRequest)
    (journal : AdminJournal) : Prop :=
  Earlier
    (fun before entry => ∃ clock,
      entry = (.check request clock, .checked (.ok ())) ∧
        Entitled library secret request clock before)
    journal

/-- No two of some texts have one digest. -/
def CollisionFree (library : AdminLibrary) (texts : List String) : Prop :=
  ∀ first ∈ texts, ∀ second ∈ texts,
    library.digest first = library.digest second → first = second

/-- The texts that a run hashes. -/
def hashedTexts (secret : Option String) (calls : List AdminStep) :
    List String :=
  secret.toList ++ calls.flatMap AdminStep.hashed

/-- What holds of a run. A request passes its check only when it is entitled to,
is performed only when it has passed a check so, and only performed requests change the policy and the time of the last test or end
a session before its time. A token has one CSRF value, there are never more
than 128 sessions, and without a configured token there is none. -/
structure AdminAuthority
    (library : AdminLibrary)
    (secret : Option String)
    (handlers : Mealy AdminSite AdminStep AdminAnswer)
    (calls : List AdminStep) : Prop where
  checked : ∀ before request clock after,
    calls = before ++ .check request clock :: after →
      (handlers.respond (handlers.state before)
          (.check request clock)).1 = .checked (.ok ()) →
        Entitled library secret request clock (handlers.journal before)
  performed : ∀ before step after request result,
    calls = before ++ step :: after →
      (handlers.respond (handlers.state before) step).1 =
          .performed request result →
        Authorised library secret request (handlers.journal before)
  saved : ∀ before step after,
    calls = before ++ step :: after →
      (handlers.state (before ++ [step])).database.adminPolicy ≠
          (handlers.state before).database.adminPolicy →
        ∃ request edit, request.action = .save edit ∧
          (handlers.respond (handlers.state before) step).1 =
            .performed request (.ok ())
  tested : ∀ before step after,
    calls = before ++ step :: after →
      (handlers.state (before ++ [step])).admin.lastTest ≠
          (handlers.state before).admin.lastTest →
        ∃ request issuer, request.action = .testModel issuer ∧
          (handlers.respond (handlers.state before) step).1 =
            .performed request (.ok ())
  lost : ∀ before step after row,
    calls = before ++ step :: after →
      row ∈ (handlers.state before).admin.sessions.rows →
        row ∉ (handlers.state (before ++ [step])).admin.sessions.rows →
          step.Expires row ∨
            ∃ request token, request.action = .logout ∧
              request.cookie = some token ∧
              library.hash token = row.1 ∧
              (handlers.respond (handlers.state before) step).1 =
                .performed request (.ok ())
  oneCsrf : ∀ first second token firstSession secondSession,
    first <+: calls → second <+: calls →
      (library.hash token, firstSession) ∈
          (handlers.state first).admin.sessions.rows →
        (library.hash token, secondSession) ∈
            (handlers.state second).admin.sessions.rows →
          firstSession.csrf = secondSession.csrf
  capped : (handlers.state calls).admin.sessions.rows.length ≤ 128
  disabled : secret = none →
    (handlers.state calls).admin.sessions.rows = []

/-! ## Sessions and the logins that opened them -/

section Vouching

variable
  {library : AdminLibrary}
  {secretHash : Option (Vector UInt8 32)}
  {journal : AdminJournal}
  {before after : AdminSite}

/-- A login stored a session under a key. -/
def StoresSession
    (library : AdminLibrary)
    (secretHash : Option (Vector UInt8 32))
    (key : String)
    (session : AdminSession)
    (entry : AdminStep × AdminAnswer) : Prop :=
  ∃ request, entry = (.login request, .session (.ok request.token)) ∧
    secretHash = some (library.digest request.form.token) ∧
    library.hash request.token = key ∧
    session =
      { csrf := request.sessionCsrf
        expires := request.issuedAt + sessionLifetime }

/-- A logout removed the session of a key. -/
def RemovesSession
    (library : AdminLibrary)
    (key : String)
    (entry : AdminStep × AdminAnswer) : Prop :=
  ∃ step request token, entry = (step, .performed request (.ok ())) ∧
    request.action = .logout ∧
    request.cookie = some token ∧
    library.hash token = key

/-- A session that a login stored and no logout has removed since. -/
def Vouched
    (library : AdminLibrary)
    (secretHash : Option (Vector UInt8 32))
    (key : String)
    (session : AdminSession)
    (journal : AdminJournal) : Prop :=
  Since (StoresSession library secretHash key session)
    (RemovesSession library key) journal

/-- A request names a live session that is vouched for, with its CSRF value. -/
def HasSession
    (library : AdminLibrary)
    (secretHash : Option (Vector UInt8 32))
    (request : AdminRequest)
    (clock : String → Instant)
    (journal : AdminJournal) : Prop :=
  ∃ token session, request.cookie = some token ∧
    session.csrf = request.csrf ∧
    clock (library.hash token) < session.expires ∧
    Vouched library secretHash (library.hash token) session journal

/-- A request passed a check at which it had a session. -/
def Passed
    (library : AdminLibrary)
    (secretHash : Option (Vector UInt8 32))
    (request : AdminRequest)
    (journal : AdminJournal) : Prop :=
  Earlier
    (fun before entry => ∃ clock,
      entry = (.check request clock, .checked (.ok ())) ∧
        HasSession library secretHash request clock before)
    journal

/-- Every session is vouched for, and so is every request past its check. -/
structure Accounted
    (library : AdminLibrary)
    (secretHash : Option (Vector UInt8 32))
    (journal : AdminJournal)
    (site : AdminSite) : Prop where
  configured : site.admin.secretHash = secretHash
  sessions : ∀ entry ∈ site.admin.sessions.rows,
    Vouched library secretHash entry.1 entry.2 journal
  checked : ∀ request ∈ site.checked,
    Passed library secretHash request journal
  capped : site.admin.sessions.rows.length ≤ 128

namespace Accounted

/-- A step that opens no session and checks no request keeps the account, when
it removes no session that remains. -/
theorem append
    (accounted : Accounted library secretHash journal before)
    (entry : AdminStep × AdminAnswer)
    (sameSecret : after.admin.secretHash = before.admin.secretHash)
    (fewer : after.admin.sessions.rows.Sublist before.admin.sessions.rows)
    (remain : ∀ row ∈ after.admin.sessions.rows,
      ¬ RemovesSession library row.1 entry)
    (checked : after.checked ⊆ before.checked) :
    Accounted library secretHash (journal ++ [entry]) after where
  configured := sameSecret.trans accounted.configured
  sessions row member :=
    (accounted.sessions row (fewer.subset member)).concat (remain row member)
  checked request member :=
    (accounted.checked request (checked member)).append [entry]
  capped := fewer.length_le.trans accounted.capped

theorem append_quiet
    (accounted : Accounted library secretHash journal before)
    {step : AdminStep}
    {answer : AdminAnswer}
    (quiet : Quiet step before after)
    (notPerformed : ∀ request result, answer ≠ .performed request result) :
    Accounted library secretHash (journal ++ [(step, answer)]) after := by
  apply accounted.append _ quiet.secretHash quiet.sublist ?_
    (quiet.checked ▸ List.Subset.refl _)
  rintro row - ⟨other, request, token, equal, -, -, -⟩
  exact notPerformed request (.ok ()) (congrArg Prod.snd equal)

/-- A login stores a session that it vouches for. -/
theorem append_login
    (accounted : Accounted library secretHash journal before)
    {request : LoginRequest}
    (opens : Opens library request before after) :
    Accounted library secretHash
      (journal ++ [(.login request, .session (.ok request.token))])
      after where
  configured := opens.secretHash.trans accounted.configured
  sessions row member := by
    rw [opens.stored, Table.mem_rows_put] at member
    rcases member with rfl | ⟨present, -⟩
    · have known := accounted.configured.symm.trans opens.known
      exact Since.last ⟨request, rfl, known, rfl, rfl⟩
    · have prior := (AdminState.mem_retainSessions.mp present).1
      apply (accounted.sessions row prior).concat
      rintro ⟨step, other, token, equal, -⟩
      simp at equal
  checked other member := by
    rw [opens.checked] at member
    exact (accounted.checked other member).append _
  capped := by
    rw [opens.stored]
    exact (Table.length_put_le _ _).trans opens.room

theorem hasSession
    (accounted : Accounted library secretHash journal before)
    {request : AdminRequest}
    {clock : String → Instant}
    {token : String}
    {session : AdminSession}
    (finds : Finds library request clock before token session) :
    HasSession library secretHash request clock journal :=
  ⟨token, session, finds.named, finds.sameCsrf, finds.alive,
    accounted.sessions _ finds.present⟩

/-- A check that passes vouches for its request. -/
theorem append_checked
    (accounted : Accounted library secretHash journal before)
    {request : AdminRequest}
    {clock : String → Instant}
    {token : String}
    {session : AdminSession}
    (finds : Finds library request clock before token session) :
    Accounted library secretHash
      (journal ++ [(.check request clock, .checked (.ok ()))])
      { before with
        admin := before.admin.retainSessions clock
        checked := before.checked ++ [request] } := by
  have drops := AdminState.drops_retainSessions clock before.admin
  have kept : Accounted library secretHash
      (journal ++ [(.check request clock, .checked (.ok ()))])
      { before with admin := before.admin.retainSessions clock } :=
    accounted.append_quiet (.of_drops drops fun _ ended => ended) (by simp)
  refine ⟨kept.configured, kept.sessions, ?_, kept.capped⟩
  intro other member
  rcases List.mem_append.mp member with earlier | isNew
  · exact kept.checked other earlier
  · rw [List.mem_singleton.mp isNew]
    exact Earlier.last ⟨clock, rfl, accounted.hasSession finds⟩

/-- A performed request keeps the sessions that it does not remove. -/
theorem append_performed
    (accounted : Accounted library secretHash journal before)
    (step : AdminStep)
    {request : AdminRequest}
    {answered : Except AppError Unit × AdminSite}
    (performs : Performs library request before answered) :
    Accounted library secretHash
      (journal ++ [(step, .performed request answered.1)]) answered.2 := by
  apply accounted.append _ performs.secretHash performs.sublist ?_
    performs.checked
  rintro row member ⟨otherStep, other, token, equal, isLogout, named, isKey⟩
  obtain ⟨-, rfl, -⟩ : step = otherStep ∧ request = other ∧
      answered.1 = .ok () := by simpa using equal
  exact performs.removes isLogout token named row member isKey.symm

/-- Every section keeps the account. -/
theorem respond
    (accounted : Accounted library secretHash journal before)
    (codec : PolicyCodec)
    (parse : String → Option Url)
    (environment : Config)
    (step : AdminStep) :
    Accounted library secretHash
      (journal ++ [(step,
        (before.respond library codec parse environment step).1)])
      (before.respond library codec parse environment step).2 := by
  rcases respond_cases library codec parse environment before step with
    ⟨request, after, rfl, opens, opened⟩ |
    ⟨request, clock, token, session, rfl, finds, passed⟩ |
    ⟨request, answered, -, performs, done⟩ |
    ⟨answer, after, quiet, notPerformed, answered⟩
  · rw [opened]
    exact accounted.append_login opens
  · rw [passed]
    exact accounted.append_checked finds
  · rw [done]
    exact accounted.append_performed step performs
  · rw [answered]
    exact accounted.append_quiet quiet notPerformed

end Accounted

end Vouching

section Tokens

variable
  {library : AdminLibrary}
  {secret : Option String}
  {journal : AdminJournal}
  {texts : List String}

/-- Texts of a collision-free list with one hash are equal. -/
theorem CollisionFree.eq_of_hash_eq
    (collisionFree : CollisionFree library texts)
    {first second : String}
    (firstMember : first ∈ texts)
    (secondMember : second ∈ texts)
    (same : library.hash first = library.hash second) :
    first = second :=
  collisionFree first firstMember second secondMember
    (AdminLibrary.digest_eq_of_hash_eq same)

/-- A login that stored a session under the hash of a token answered with that
token, and presented the configured one. -/
theorem StoresSession.opensSession
    (collisionFree : CollisionFree library texts)
    (configured : ∀ text, secret = some text → text ∈ texts)
    {token : String}
    (tokenMember : token ∈ texts)
    {session : AdminSession}
    {now : Instant}
    (alive : now < session.expires)
    {entry : AdminStep × AdminAnswer}
    (hashed : ∀ text ∈ entry.1.hashed, text ∈ texts)
    (stores : StoresSession library (secret.map library.digest)
      (library.hash token) session entry) :
    OpensSession secret token session.csrf now entry := by
  obtain ⟨request, rfl, known, isKey, rfl⟩ := stores
  have drawnMember : request.token ∈ texts := hashed _ (by
    simp [AdminStep.hashed])
  have presentedMember : request.form.token ∈ texts := hashed _ (by
    simp [AdminStep.hashed])
  have sameToken := collisionFree.eq_of_hash_eq drawnMember tokenMember isKey
  obtain ⟨text, isSecret, sameDigest⟩ := Option.map_eq_some_iff.mp known
  have sameSecret := collisionFree text (configured text isSecret)
    request.form.token presentedMember sameDigest
  refine ⟨request, by rw [sameToken], by rw [isSecret, sameSecret], rfl, ?_⟩
  exact sub_lt_iff_lt_add'.mpr alive

/-- A logout with a token removes the session under its hash. -/
theorem LogsOut.removesSession
    {token : String}
    {entry : AdminStep × AdminAnswer}
    (logsOut : LogsOut token entry) :
    RemovesSession library (library.hash token) entry := by
  obtain ⟨step, request, isEntry, isLogout, named⟩ := logsOut
  exact ⟨step, request, token, isEntry, isLogout, named, rfl⟩

/-- A request that has a session is entitled to pass. -/
theorem HasSession.entitled
    (collisionFree : CollisionFree library texts)
    (configured : ∀ text, secret = some text → text ∈ texts)
    (hashed : ∀ entry ∈ journal, ∀ text ∈ entry.1.hashed, text ∈ texts)
    {request : AdminRequest}
    (cookie : ∀ token, request.cookie = some token → token ∈ texts)
    {clock : String → Instant}
    (hasSession : HasSession library (secret.map library.digest) request
      clock journal) :
    Entitled library secret request clock journal := by
  obtain ⟨token, session, named, sameCsrf, alive, vouched⟩ := hasSession
  refine ⟨token, named, vouched.imp ?_ ?_⟩
  · intro login member stores
    rw [← sameCsrf]
    exact stores.opensSession collisionFree configured (cookie token named)
      alive (hashed login member)
  · intro other _ logsOut
    exact logsOut.removesSession

/-- A request that passed its check is authorised. -/
theorem Passed.authorised
    (collisionFree : CollisionFree library texts)
    (configured : ∀ text, secret = some text → text ∈ texts)
    (hashed : ∀ entry ∈ journal, ∀ text ∈ entry.1.hashed, text ∈ texts)
    {request : AdminRequest}
    (passed : Passed library (secret.map library.digest) request journal) :
    Authorised library secret request journal := by
  apply passed.imp
  rintro before entry past member ⟨clock, isCheck, hasSession⟩
  refine ⟨clock, isCheck, hasSession.entitled collisionFree configured ?_ ?_⟩
  · intro login loginMember
    exact hashed login (past loginMember)
  · intro token named
    apply hashed entry member
    simp [isCheck, AdminStep.hashed, named]

end Tokens

/-! ## Runs -/

section Runs

variable
  {library : AdminLibrary}
  {codec : PolicyCodec}
  {parse : String → Option Url}
  {environment : Config}
  {secret : Option String}
  {admin : AdminState}
  {database : Database}
  {calls : List AdminStep}

/-- Everything is accounted for after every run. -/
theorem accounted_run
    (made : AdminState.new library secret = .ok admin)
    (calls : List AdminStep) :
    Accounted library (secret.map library.digest)
      ((adminHandlers library codec parse environment admin
        database).journal calls)
      ((adminHandlers library codec parse environment admin
        database).state calls) := by
  refine Mealy.run_induction
    (motive := Accounted library (secret.map library.digest)) ?_ ?_ calls
  · obtain rfl := AdminState.of_new made
    exact ⟨rfl, by simp [adminHandlers], by simp [adminHandlers],
      by simp [adminHandlers]⟩
  · intro prior step accounted
    exact accounted.respond codec parse environment step

/-- The texts that the entries of a journal hash are hashed in its run. -/
theorem hashed_of_mem_journal
    (handlers : Mealy AdminSite AdminStep AdminAnswer)
    {before after : List AdminStep}
    (split : calls = before ++ after) :
    ∀ entry ∈ handlers.journal before, ∀ text ∈ entry.1.hashed,
      text ∈ hashedTexts secret calls := by
  intro entry member text hashed
  obtain ⟨prior, rest, isRun, -⟩ := Mealy.exists_of_mem_journal member
  refine List.mem_append_right _ (List.mem_flatMap.mpr ⟨entry.1, ?_, hashed⟩)
  simp [split, isRun]

/-- Without a configured token no session is accounted for. -/
theorem Accounted.sessions_eq_nil
    {journal : AdminJournal}
    {site : AdminSite}
    (accounted : Accounted library none journal site) :
    site.admin.sessions.rows = [] := by
  apply List.eq_nil_iff_forall_not_mem.mpr
  intro row present
  obtain ⟨entry, -, request, -, known, -, -⟩ :=
    (accounted.sessions row present).exists_mem
  cases known

/-- Two logins of a run that draw one token are one login. -/
theorem eq_of_drawn
    (fresh : (calls.filterMap AdminStep.drawn).Nodup)
    {first second : LoginRequest}
    (firstMember : .login first ∈ calls)
    (secondMember : .login second ∈ calls)
    (same : first.token = second.token) :
    first = second := by
  have symmetric : Std.Symm fun one other : AdminStep =>
      ∀ token, one.drawn = some token →
        ∀ drawn, other.drawn = some drawn → token ≠ drawn :=
    ⟨fun _ _ related _ isSecond _ isFirst =>
      (related _ isFirst _ isSecond).symm⟩
  by_contra different
  have distinct := (List.pairwise_filterMap.mp fresh).forall firstMember
    secondMember (by simpa using different)
  exact distinct first.token rfl second.token rfl same

/-- A login draws a token that no login before it has drawn. -/
theorem token_ne_of_drawn
    (fresh : (calls.filterMap AdminStep.drawn).Nodup)
    {before after : List AdminStep}
    {request prior : LoginRequest}
    (split : calls = before ++ .login request :: after)
    (earlier : .login prior ∈ before) :
    prior.token ≠ request.token := by
  rw [split, List.filterMap_append, List.nodup_append] at fresh
  apply fresh.2.2
  · exact List.mem_filterMap.mpr ⟨_, earlier, rfl⟩
  · exact List.mem_filterMap.mpr ⟨_, List.mem_cons_self, rfl⟩

section Openers

variable
  {handlers : Mealy AdminSite AdminStep AdminAnswer}
  {before after : List AdminStep}
  {row : String × AdminSession}

/-- The login that stored a session of a reached state. -/
theorem exists_opener
    (accounted : Accounted library (secret.map library.digest)
      (handlers.journal before) (handlers.state before))
    (split : calls = before ++ after)
    (present : row ∈ (handlers.state before).admin.sessions.rows) :
    ∃ request, .login request ∈ before ∧
      request.token ∈ hashedTexts secret calls ∧
      library.hash request.token = row.1 ∧
      row.2.csrf = request.sessionCsrf := by
  obtain ⟨entry, member, request, rfl, -, isKey, isSession⟩ :=
    (accounted.sessions row present).exists_mem
  obtain ⟨prior, rest, isRun, -⟩ := Mealy.exists_of_mem_journal member
  refine ⟨request, by simp [isRun], ?_, isKey, by rw [isSession]⟩
  apply hashed_of_mem_journal handlers split _ member
  simp [AdminStep.hashed]

/-- No login draws a token with the hash of a session that is there. -/
theorem hash_token_ne
    (accounted : Accounted library (secret.map library.digest)
      (handlers.journal before) (handlers.state before))
    (fresh : (calls.filterMap AdminStep.drawn).Nodup)
    (collisionFree : CollisionFree library (hashedTexts secret calls))
    {request : LoginRequest}
    (split : calls = before ++ .login request :: after)
    (present : row ∈ (handlers.state before).admin.sessions.rows) :
    library.hash request.token ≠ row.1 := by
  intro isKey
  obtain ⟨prior, earlier, priorHashed, isPrior, -⟩ :=
    exists_opener accounted split present
  have drawnHashed : request.token ∈ hashedTexts secret calls := by
    simp [hashedTexts, split, AdminStep.hashed]
  have sameToken := collisionFree.eq_of_hash_eq priorHashed drawnHashed
    (isPrior.trans isKey.symm)
  exact token_ne_of_drawn fresh split earlier sameToken

/-- Two sessions with one key, at any two times of a run, have one CSRF
value. -/
theorem csrf_eq_of_key_eq
    (accounted : ∀ before, Accounted library (secret.map library.digest)
      (handlers.journal before) (handlers.state before))
    (fresh : (calls.filterMap AdminStep.drawn).Nodup)
    (collisionFree : CollisionFree library (hashedTexts secret calls))
    {other : List AdminStep}
    {otherRow : String × AdminSession}
    (isPrefix : before <+: calls)
    (otherPrefix : other <+: calls)
    (present : row ∈ (handlers.state before).admin.sessions.rows)
    (otherPresent : otherRow ∈ (handlers.state other).admin.sessions.rows)
    (sameKey : row.1 = otherRow.1) :
    row.2.csrf = otherRow.2.csrf := by
  obtain ⟨rest, split⟩ := isPrefix
  obtain ⟨otherRest, otherSplit⟩ := otherPrefix
  obtain ⟨first, firstMember, firstHashed, isFirst, firstCsrf⟩ :=
    exists_opener (accounted before) split.symm present
  obtain ⟨second, secondMember, secondHashed, isSecond, secondCsrf⟩ :=
    exists_opener (accounted other) otherSplit.symm otherPresent
  have sameHash : library.hash first.token = library.hash second.token := by
    rw [isFirst, isSecond, sameKey]
  have sameToken :=
    collisionFree.eq_of_hash_eq firstHashed secondHashed sameHash
  have sameLogin := eq_of_drawn fresh
    (split ▸ List.mem_append_left _ firstMember)
    (otherSplit ▸ List.mem_append_left _ secondMember) sameToken
  rw [firstCsrf, secondCsrf, sameLogin]

end Openers

/-- In every run of the handlers, with the sections of all requests in any
order, a request takes effect only when it is authorised. -/
theorem adminHandlers_authority
    (library : AdminLibrary)
    (codec : PolicyCodec)
    (parse : String → Option Url)
    (environment : Config)
    (secret : Option String)
    (admin : AdminState)
    (made : AdminState.new library secret = .ok admin)
    (database : Database)
    (calls : List AdminStep)
    (fresh : (calls.filterMap AdminStep.drawn).Nodup)
    (collisionFree : CollisionFree library (hashedTexts secret calls)) :
    AdminAuthority library secret
      (adminHandlers library codec parse environment admin database)
      calls := by
  let handlers :=
    adminHandlers library codec parse environment admin database
  have accounted : ∀ before, Accounted library
      (secret.map library.digest) (handlers.journal before)
      (handlers.state before) := accounted_run made
  have configured : ∀ text, secret = some text →
      text ∈ hashedTexts secret calls := by
    intro text isSecret
    simp [hashedTexts, isSecret]
  refine
    { checked := ?checked
      performed := ?performed
      saved := ?saved
      tested := ?tested
      lost := ?lost
      oneCsrf := ?oneCsrf
      capped := (accounted calls).capped
      disabled := ?disabled }
  case checked =>
    intro before request clock after split passed
    rcases respond_check_cases library codec parse environment
        (handlers.state before) request clock with
      ⟨token, session, finds, -⟩ | ⟨after, -, refused⟩
    · apply ((accounted before).hasSession finds).entitled collisionFree
        configured (hashed_of_mem_journal handlers split)
      intro other named
      simp [hashedTexts, split, AdminStep.hashed, named]
    · exact absurd ((congrArg Prod.fst refused).symm.trans passed) (by simp)
  case performed =>
    intro before step after request result split performed
    have waiting := mem_checked_of_performed performed
    have passed := (accounted before).checked request waiting
    exact passed.authorised collisionFree configured
      (hashed_of_mem_journal handlers split)
  case saved =>
    intro before step after _ changed
    rw [Mealy.state_concat] at changed
    exact performed_of_policy_ne changed
  case tested =>
    intro before step after _ changed
    rw [Mealy.state_concat] at changed
    exact performed_of_lastTest_ne changed
  case lost =>
    intro before step after row split present absent
    rw [Mealy.state_concat] at absent
    rcases lost_cases present absent with
      ended | ⟨request, rfl, isKey⟩ | loggedOut
    · exact .inl ended
    · exact absurd isKey (hash_token_ne (accounted before) fresh collisionFree
        split present)
    · exact .inr loggedOut
  case oneCsrf =>
    intro first second token firstSession secondSession isFirst isSecond
      inFirst inSecond
    exact csrf_eq_of_key_eq accounted fresh collisionFree isFirst isSecond
      inFirst inSecond rfl
  case disabled =>
    rintro rfl
    exact (accounted calls).sessions_eq_nil

end Runs

/-! ## A save after a login -/

/-- A configured token. -/
def adminToken : String := "admin-token-random-at-least-32-bytes-long"

/-- The draws of a login page, of a session token and of its CSRF value. -/
def pageDraw : Uuid × Uuid :=
  (⟨"22222222222242228222222222222222", by decide⟩,
    ⟨"33333333333343338333333333333333", by decide⟩)

@[inherit_doc pageDraw]
def tokenDraw : Uuid × Uuid :=
  (⟨"66666666666646668666666666666666", by decide⟩,
    ⟨"77777777777747778777777777777777", by decide⟩)

@[inherit_doc pageDraw]
def csrfDraw : Uuid × Uuid :=
  (⟨"44444444444444448444444444444444", by decide⟩,
    ⟨"55555555555545558555555555555555", by decide⟩)

/-- The digests of the two tokens. -/
def tokenDigest (text : String) : Vector UInt8 32 :=
  if text = adminToken then
    #v[30, 64, 113, 14, 211, 150, 57, 236, 102, 200, 24, 2, 126, 153, 255, 239,
      134, 133, 190, 110, 147, 60, 80, 84, 109, 147, 97, 44, 28, 65, 108, 234]
  else if text = random tokenDraw then
    #v[180, 211, 133, 84, 224, 210, 156, 9, 122, 59, 16, 17, 69, 255, 24, 200,
      139, 7, 170, 96, 201, 127, 212, 34, 5, 180, 191, 12, 233, 20, 26, 207]
  else
    Vector.replicate 32 0

theorem beq_bytes_iff
    (first second : List UInt8)
    (_ : first.length = second.length) :
    (first == second) = true ↔ first = second :=
  beq_iff_eq

/-- The libraries on those tokens. -/
def tokenLibrary : AdminLibrary where
  digest := tokenDigest
  ctEq first second := first == second
  ctEq_iff := beq_bytes_iff

/-- A login with the configured token. -/
def tokenLogin : LoginRequest where
  cookie := some (random pageDraw)
  form := ⟨adminToken, random pageDraw⟩
  attemptsAt _ := 0
  failedAt := 0
  sessionsAt _ := 0
  tokenDraw := tokenDraw
  csrfDraw := csrfDraw
  issuedAt := 0

/-- A save in the session of that login. -/
def tokenSave : AdminRequest where
  cookie := some (random tokenDraw)
  csrf := random csrfDraw
  action := .save shopEdit

/-- The administration at its start. -/
def tokenAdmin : AdminState where
  secretHash := some (tokenDigest adminToken)
  lastTest := none
  sessions := .empty
  attempts := []

theorem new_tokenLibrary :
    AdminState.new tokenLibrary (some adminToken) = .ok tokenAdmin := rfl

/-- The login, and the check of the save one second later. -/
def tokenSteps : List AdminStep :=
  [.login tokenLogin, .check tokenSave fun _ => secondNanos]

theorem adminHandlers_authority_save :
    AdminAuthority tokenLibrary (some adminToken)
        (adminHandlers tokenLibrary shopCodec (fun _ => none) shopConfig
          tokenAdmin .empty)
        (tokenSteps ++ [AdminStep.proceed 0 0 0]) ∧
      Authorised tokenLibrary (some adminToken) tokenSave
        ((adminHandlers tokenLibrary shopCodec (fun _ => none) shopConfig
          tokenAdmin .empty).journal tokenSteps) := by
  have made : AdminState.new tokenLibrary (some adminToken) =
      .ok tokenAdmin := rfl
  let steps := tokenSteps ++ [AdminStep.proceed 0 0 0]
  have fresh : (steps.filterMap AdminStep.drawn).Nodup :=
    List.nodup_singleton _
  have collisionFree : CollisionFree tokenLibrary
      (hashedTexts (some adminToken) steps) := by
    unfold CollisionFree
    decide
  have authority := adminHandlers_authority tokenLibrary shopCodec
    (fun _ => none) shopConfig (some adminToken) tokenAdmin made .empty
    steps fresh collisionFree
  refine ⟨authority, ?_⟩
  exact authority.performed tokenSteps (.proceed 0 0 0) [] tokenSave _ rfl rfl

end AsystantGateway
