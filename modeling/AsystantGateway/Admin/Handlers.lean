import AsystantGateway.Admin.Sessions

/-!
# The handlers of the administration

A request that changes something is checked in one section under the lock and
takes effect in a later one. Between the two any number of other requests can
come, a logout with the same token among them, and a request that was checked
may never go on. So a step is one section: a page, a login, a check, or the
effect of one of the requests that have passed their check.
-/

namespace AsystantGateway

/-- One section of a request, or a change that the rest of the gateway makes to
the database. A position names one of the requests that have passed their
check. -/
inductive AdminStep
  | index (cookie : Option String) (clock : String → Instant)
      (draw : Uuid × Uuid)
  | login (request : LoginRequest)
  | check (request : AdminRequest) (clock : String → Instant)
  | proceed (position : Nat) (elapsedAt startedAt : Instant)
  | elsewhere (change : Database → Database)

/-- What a section answers. A performed request answers what came of it. -/
inductive AdminAnswer
  | page (result : Except AppError IndexPage)
  | session (result : Except AppError String)
  | checked (result : Except AppError Unit)
  | performed (request : AdminRequest) (result : Except AppError Unit)
  | silent

/-- The administration, the database, and the requests that have passed their
check and have not yet gone on. -/
structure AdminSite where
  admin : AdminState
  database : Database
  checked : List AdminRequest

/-- What has happened, oldest first. -/
abbrev AdminJournal := List (AdminStep × AdminAnswer)

section Routes

variable
  (library : AdminLibrary)
  (codec : PolicyCodec)
  (parse : String → Option Url)
  (environment : Config)

namespace AdminSite

/-- What a checked request does. The page of a test is made after the model
has run. -/
def perform
    (request : AdminRequest)
    (elapsedAt startedAt : Instant)
    (site : AdminSite) : Except AppError Unit × AdminSite :=
  match request.action with
  | .save edit =>
      let (result, database) :=
        updatePolicy codec parse environment edit site.database
      (result, { site with database })
  | .logout =>
      (.ok (), { site with
        admin := site.admin.logout library request.cookie })
  | .testModel _ =>
      let (result, admin) := site.admin.testModel elapsedAt startedAt
      (result, { site with admin })

/-- One section. The rest of the gateway does not write the policy. -/
def respond
    (site : AdminSite)
    (step : AdminStep) : AdminAnswer × AdminSite :=
  match step with
  | .index cookie clock draw =>
      let (result, admin) := site.admin.index library
        (effectiveConfig codec parse environment site.database) cookie clock
        draw
      (.page result, { site with admin })
  | .login request =>
      let (result, admin) := site.admin.login library request
      (.session result, { site with admin })
  | .check request clock =>
      match site.admin.checkCsrf library request clock with
      | (.ok (), admin) =>
          (.checked (.ok ()), { site with
            admin
            checked := site.checked ++ [request] })
      | (.error error, admin) =>
          (.checked (.error error), { site with admin })
  | .proceed position elapsedAt startedAt =>
      match site.checked[position]? with
      | none => (.silent, site)
      | some request =>
          let (result, site) := { site with
              checked := site.checked.eraseIdx position }.perform library
            codec parse environment request elapsedAt startedAt
          (.performed request result, site)
  | .elsewhere change =>
      (.silent, { site with
        database := { change site.database with
          adminPolicy := site.database.adminPolicy } })

end AdminSite

/-- The handlers of the administration from its start, on any database. -/
def adminHandlers
    (admin : AdminState)
    (database : Database) : Mealy AdminSite AdminStep AdminAnswer where
  start := ⟨admin, database, []⟩
  respond := AdminSite.respond library codec parse environment

end Routes

/-- A step drops a session whose end its reading has reached. -/
def AdminStep.Expires
    (entry : String × AdminSession) : AdminStep → Prop
  | .index _ clock _ => entry.2.expires ≤ clock entry.1
  | .login request => entry.2.expires ≤ request.sessionsAt entry.1
  | .check _ clock => entry.2.expires ≤ clock entry.1
  | .proceed _ _ _ => False
  | .elsewhere _ => False

/-- The session token that a step draws. -/
def AdminStep.drawn : AdminStep → Option String
  | .login request => some request.token
  | _ => none

/-- The texts that a step hashes. -/
def AdminStep.hashed : AdminStep → List String
  | .index cookie _ _ => cookie.toList
  | .login request => [request.form.token, request.token]
  | .check request _ => request.cookie.toList
  | .proceed _ _ _ => []
  | .elsewhere _ => []

/-- What comes of performing a request: who changes the policy, the time of
the last test and the sessions. -/
structure Performs
    (library : AdminLibrary)
    (request : AdminRequest)
    (before : AdminSite)
    (answered : Except AppError Unit × AdminSite) : Prop where
  secretHash : answered.2.admin.secretHash = before.admin.secretHash
  checked : answered.2.checked ⊆ before.checked
  sublist : answered.2.admin.sessions.rows.Sublist before.admin.sessions.rows
  saves : answered.2.database.adminPolicy ≠ before.database.adminPolicy →
    ∃ edit, request.action = .save edit ∧ answered.1 = .ok ()
  tests : answered.2.admin.lastTest ≠ before.admin.lastTest →
    ∃ issuer, request.action = .testModel issuer ∧ answered.1 = .ok ()
  loses : ∀ row ∈ before.admin.sessions.rows,
    row ∉ answered.2.admin.sessions.rows →
      ∃ token, request.action = .logout ∧ request.cookie = some token ∧
        library.hash token = row.1 ∧ answered.1 = .ok ()
  removes : request.action = .logout → ∀ token,
    request.cookie = some token →
      ∀ row ∈ answered.2.admin.sessions.rows, row.1 ≠ library.hash token

/-- A request that changes nothing. -/
theorem Performs.unchanged
    {library : AdminLibrary}
    {request : AdminRequest}
    (site : AdminSite)
    (result : Except AppError Unit)
    (noLogout : request.action = .logout → request.cookie = none) :
    Performs library request site (result, site) where
  secretHash := rfl
  checked := List.Subset.refl _
  sublist := .refl _
  saves changed := absurd rfl changed
  tests changed := absurd rfl changed
  loses row present absent := absurd present absent
  removes isLogout token named := by
    rw [noLogout isLogout] at named
    cases named

theorem performs_perform
    (library : AdminLibrary)
    (codec : PolicyCodec)
    (parse : String → Option Url)
    (environment : Config)
    (request : AdminRequest)
    (elapsedAt startedAt : Instant)
    (site : AdminSite) :
    Performs library request site
      (site.perform library codec parse environment request elapsedAt
        startedAt) := by
  unfold AdminSite.perform
  cases action : request.action with
  | save edit =>
      exact
        { secretHash := rfl
          checked := List.Subset.refl _
          sublist := .refl _
          saves := by
            intro changed
            rcases updatePolicy_cases codec parse environment edit
                site.database with
              ⟨base, edited, -, -, saved⟩ | ⟨error, failed⟩
            · exact ⟨edit, action, congrArg Prod.fst saved⟩
            · dsimp only at changed
              rw [failed] at changed
              exact absurd rfl changed
          tests := fun changed => absurd rfl changed
          loses := fun row present absent => absurd present absent
          removes := by simp [action] }
  | logout =>
      cases named : request.cookie with
      | none => exact .unchanged site (.ok ()) fun _ => named
      | some token =>
          exact
            { secretHash := rfl
              checked := List.Subset.refl _
              sublist := Table.sublist_remove _ _
              saves := fun changed => absurd rfl changed
              tests := fun changed => absurd rfl changed
              loses := by
                intro row present absent
                refine ⟨token, action, named, ?_, rfl⟩
                by_contra different
                apply absent
                exact Table.mem_rows_remove.mpr
                  ⟨present, fun equal => different equal.symm⟩
              removes := by
                intro _ other isToken row member
                obtain rfl := Option.some.inj (named.symm.trans isToken)
                exact (Table.mem_rows_remove.mp member).2 }
  | testModel issuer =>
      rcases site.admin.testModel_cases elapsedAt startedAt with
        started | limited
      · rw [started]
        exact
          { secretHash := rfl
            checked := List.Subset.refl _
            sublist := .refl _
            saves := fun changed => absurd rfl changed
            tests := fun _ => ⟨issuer, action, rfl⟩
            loses := fun row present absent => absurd present absent
            removes := by simp [action] }
      · rw [limited]
        exact .unchanged site (.error .limited) (by simp [action])

/-! ## What a section does -/

/-- A section that opens no session and performs no request. -/
structure Quiet
    (step : AdminStep)
    (before after : AdminSite) : Prop where
  secretHash : after.admin.secretHash = before.admin.secretHash
  lastTest : after.admin.lastTest = before.admin.lastTest
  policy : after.database.adminPolicy = before.database.adminPolicy
  checked : after.checked = before.checked
  sublist : after.admin.sessions.rows.Sublist before.admin.sessions.rows
  loses : ∀ row ∈ before.admin.sessions.rows,
    row ∉ after.admin.sessions.rows → step.Expires row

/-- A section that only drops sessions is quiet, when its readings are those
of the step. -/
theorem Quiet.of_drops
    {step : AdminStep}
    {clock : String → Instant}
    {site : AdminSite}
    {after : AdminState}
    (drops : AdminState.Drops clock site.admin after)
    (reads : ∀ row : String × AdminSession,
      row.2.expires ≤ clock row.1 → step.Expires row) :
    Quiet step site { site with admin := after } where
  secretHash := drops.secretHash
  lastTest := drops.lastTest
  policy := rfl
  checked := rfl
  sublist := drops.sublist
  loses row present absent := by
    apply reads
    by_contra alive
    exact absent (drops.keeps row present (not_le.mp alive))

/-- A section that leaves the administration as it was. -/
theorem Quiet.of_same
    (step : AdminStep)
    {before after : AdminSite}
    (admin : after.admin = before.admin)
    (policy : after.database.adminPolicy = before.database.adminPolicy)
    (checked : after.checked = before.checked) :
    Quiet step before after := by
  refine ⟨by rw [admin], by rw [admin], policy, checked, by rw [admin], ?_⟩
  intro row present absent
  rw [admin] at absent
  exact absurd present absent

/-- A login that opens a session. -/
structure Opens
    (library : AdminLibrary)
    (request : LoginRequest)
    (before after : AdminSite) : Prop where
  known : before.admin.secretHash =
    some (library.digest request.form.token)
  room : (before.admin.retainSessions
    request.sessionsAt).sessions.rows.length < 128
  secretHash : after.admin.secretHash = before.admin.secretHash
  lastTest : after.admin.lastTest = before.admin.lastTest
  policy : after.database.adminPolicy = before.database.adminPolicy
  checked : after.checked = before.checked
  stored : after.admin.sessions =
    (before.admin.retainSessions request.sessionsAt).sessions.put
      (library.hash request.token,
        { csrf := request.sessionCsrf
          expires := request.issuedAt + sessionLifetime })

/-- The session that a check finds for its request. -/
structure Finds
    (library : AdminLibrary)
    (request : AdminRequest)
    (clock : String → Instant)
    (before : AdminSite)
    (token : String)
    (session : AdminSession) : Prop where
  named : request.cookie = some token
  present : (library.hash token, session) ∈ before.admin.sessions.rows
  alive : clock (library.hash token) < session.expires
  sameCsrf : session.csrf = request.csrf

section Cases

variable
  (library : AdminLibrary)
  (codec : PolicyCodec)
  (parse : String → Option Url)
  (environment : Config)
  (site : AdminSite)

theorem respond_check_cases
    (request : AdminRequest)
    (clock : String → Instant) :
    (∃ token session, Finds library request clock site token session ∧
      site.respond library codec parse environment (.check request clock) =
        (.checked (.ok ()), { site with
          admin := site.admin.retainSessions clock
          checked := site.checked ++ [request] })) ∨
    ∃ after, Quiet (.check request clock) site after ∧
      site.respond library codec parse environment (.check request clock) =
        (.checked (.error .authentication), after) := by
  simp only [AdminSite.respond]
  rcases AdminState.checkCsrf_cases library request clock site.admin with
    ⟨token, session, named, present, alive, sameCsrf, passed⟩ |
    ⟨after, drops, refused⟩
  · rw [passed]
    exact .inl ⟨token, session, ⟨named, present, alive, sameCsrf⟩, rfl⟩
  · rw [refused]
    exact .inr ⟨_, .of_drops drops fun _ ended => ended, rfl⟩

theorem respond_login_cases (request : LoginRequest) :
    (∃ after, Opens library request site after ∧
      site.respond library codec parse environment (.login request) =
        (.session (.ok request.token), after)) ∨
    ∃ error after, Quiet (.login request) site after ∧
      site.respond library codec parse environment (.login request) =
        (.session (.error error), after) := by
  simp only [AdminSite.respond]
  rcases AdminState.login_cases library request site.admin with
    ⟨after, opened, known, room, sameSecret, sameTest, stored⟩ |
    ⟨error, after, refused, drops⟩
  · rw [opened]
    exact .inl ⟨{ site with admin := after },
      ⟨known, room, sameSecret, sameTest, rfl, rfl, stored⟩, rfl⟩
  · rw [refused]
    exact .inr ⟨error, _, .of_drops drops fun _ ended => ended, rfl⟩

theorem respond_proceed_cases
    (position : Nat)
    (elapsedAt startedAt : Instant) :
    (∃ request answered, request ∈ site.checked ∧
      Performs library request site answered ∧
      site.respond library codec parse environment
          (.proceed position elapsedAt startedAt) =
        (.performed request answered.1, answered.2)) ∨
    site.respond library codec parse environment
        (.proceed position elapsedAt startedAt) = (.silent, site) := by
  simp only [AdminSite.respond]
  cases found : site.checked[position]? with
  | none => exact .inr rfl
  | some request =>
      have performs := performs_perform library codec parse environment
        request elapsedAt startedAt
        { site with checked := site.checked.eraseIdx position }
      have fewer := List.Subset.trans performs.checked
        List.eraseIdx_subset
      exact .inl ⟨request, _, List.mem_of_getElem? found,
        { performs with checked := fewer }, rfl⟩

/-- A section is a login that opens a session, a check that passes, a performed
request, or quiet. -/
theorem respond_cases (step : AdminStep) :
    (∃ request after, step = .login request ∧
      Opens library request site after ∧
      site.respond library codec parse environment step =
        (.session (.ok request.token), after)) ∨
    (∃ request clock token session, step = .check request clock ∧
      Finds library request clock site token session ∧
      site.respond library codec parse environment step =
        (.checked (.ok ()), { site with
          admin := site.admin.retainSessions clock
          checked := site.checked ++ [request] })) ∨
    (∃ request answered, request ∈ site.checked ∧
      Performs library request site answered ∧
      site.respond library codec parse environment step =
        (.performed request answered.1, answered.2)) ∨
    ∃ answer after, Quiet step site after ∧
      (∀ request result, answer ≠ .performed request result) ∧
      site.respond library codec parse environment step =
        (answer, after) := by
  cases step with
  | index cookie clock draw =>
      have drops := AdminState.drops_index library
        (effectiveConfig codec parse environment site.database) cookie clock
        draw site.admin
      exact .inr (.inr (.inr ⟨_, _, .of_drops drops fun _ ended => ended,
        by simp, rfl⟩))
  | login request =>
      rcases respond_login_cases library codec parse environment site request
        with ⟨after, opens, opened⟩ | ⟨error, after, quiet, refused⟩
      · exact .inl ⟨request, after, rfl, opens, opened⟩
      · exact .inr (.inr (.inr ⟨_, after, quiet, by simp, refused⟩))
  | check request clock =>
      rcases respond_check_cases library codec parse environment site request
        clock with ⟨token, session, finds, passed⟩ | ⟨after, quiet, refused⟩
      · exact .inr (.inl ⟨request, clock, token, session, rfl, finds, passed⟩)
      · exact .inr (.inr (.inr ⟨_, after, quiet, by simp, refused⟩))
  | proceed position elapsedAt startedAt =>
      rcases respond_proceed_cases library codec parse environment site
        position elapsedAt startedAt with
        ⟨request, answered, waiting, performs, done⟩ | silent
      · exact .inr (.inr (.inl ⟨request, answered, waiting, performs, done⟩))
      · exact .inr (.inr (.inr ⟨_, site, .of_same _ rfl rfl rfl, by simp,
          silent⟩))
  | elsewhere change =>
      let after : AdminSite := { site with
        database := { change site.database with
          adminPolicy := site.database.adminPolicy } }
      have quiet : Quiet (.elsewhere change) site after :=
        .of_same _ rfl rfl rfl
      exact .inr (.inr (.inr ⟨.silent, after, quiet, by simp, rfl⟩))

end Cases

section Changes

variable
  {library : AdminLibrary}
  {codec : PolicyCodec}
  {parse : String → Option Url}
  {environment : Config}
  {site : AdminSite}

/-- A request is performed only when it has passed its check. -/
theorem mem_checked_of_performed
    {step : AdminStep}
    {request : AdminRequest}
    {result : Except AppError Unit}
    (performed : (site.respond library codec parse environment step).1 =
      .performed request result) :
    request ∈ site.checked := by
  rcases respond_cases library codec parse environment site step with
    ⟨login, after, -, -, opened⟩ |
    ⟨other, clock, token, session, -, -, passed⟩ |
    ⟨other, answered, waiting, -, done⟩ |
    ⟨answer, after, -, notPerformed, answered⟩
  · simp [opened] at performed
  · simp [passed] at performed
  · rw [done] at performed
    obtain ⟨rfl, -⟩ := AdminAnswer.performed.inj performed
    exact waiting
  · rw [answered] at performed
    exact absurd performed (notPerformed request result)

/-- What a login, a check and a quiet section leave alone is changed by
performed requests only. -/
theorem performs_of_ne
    {β : Type*}
    {view : AdminSite → β}
    {step : AdminStep}
    (afterOpens : ∀ login after,
      Opens library login site after → view after = view site)
    (afterCheck : ∀ clock checked,
      view { site with admin := site.admin.retainSessions clock, checked } =
        view site)
    (afterQuiet : ∀ after, Quiet step site after → view after = view site)
    (changed : view (site.respond library codec parse environment step).2 ≠
      view site) :
    ∃ request answered, Performs library request site answered ∧
      site.respond library codec parse environment step =
        (.performed request answered.1, answered.2) := by
  rcases respond_cases library codec parse environment site step with
    ⟨login, after, -, opens, opened⟩ |
    ⟨other, clock, token, session, -, -, passed⟩ |
    ⟨other, answered, -, performs, done⟩ |
    ⟨answer, after, quiet, -, answered⟩
  · rw [opened] at changed
    exact absurd (afterOpens login after opens) changed
  · rw [passed] at changed
    exact absurd (afterCheck clock _) changed
  · exact ⟨other, answered, performs, done⟩
  · rw [answered] at changed
    exact absurd (afterQuiet after quiet) changed

/-- Only a performed save changes the policy. -/
theorem performed_of_policy_ne
    {step : AdminStep}
    (changed :
      (site.respond library codec parse environment
        step).2.database.adminPolicy ≠ site.database.adminPolicy) :
    ∃ request edit, request.action = .save edit ∧
      (site.respond library codec parse environment step).1 =
        .performed request (.ok ()) := by
  obtain ⟨request, answered, performs, done⟩ :=
    @performs_of_ne library codec parse environment site _
      (fun other => other.database.adminPolicy) step
      (fun _ _ opens => opens.policy) (fun _ _ => rfl)
      (fun _ quiet => quiet.policy) changed
  rw [done] at changed ⊢
  obtain ⟨edit, isSave, saved⟩ := performs.saves changed
  exact ⟨request, edit, isSave, congrArg _ saved⟩

/-- Only a performed test changes the time of the last test. -/
theorem performed_of_lastTest_ne
    {step : AdminStep}
    (changed :
      (site.respond library codec parse environment
        step).2.admin.lastTest ≠ site.admin.lastTest) :
    ∃ request issuer, request.action = .testModel issuer ∧
      (site.respond library codec parse environment step).1 =
        .performed request (.ok ()) := by
  obtain ⟨request, answered, performs, done⟩ :=
    @performs_of_ne library codec parse environment site _
      (fun other => other.admin.lastTest) step
      (fun _ _ opens => opens.lastTest) (fun _ _ => rfl)
      (fun _ quiet => quiet.lastTest) changed
  rw [done] at changed ⊢
  obtain ⟨issuer, isTest, tested⟩ := performs.tests changed
  exact ⟨request, issuer, isTest, congrArg _ tested⟩

/-- A session is lost when it has ended, when a logout removes it, or when a
login draws a token of the same hash. -/
theorem lost_cases
    {step : AdminStep}
    {row : String × AdminSession}
    (present : row ∈ site.admin.sessions.rows)
    (absent : row ∉ (site.respond library codec parse environment
      step).2.admin.sessions.rows) :
    step.Expires row ∨
      (∃ request, step = .login request ∧
        library.hash request.token = row.1) ∨
      ∃ request token, request.action = .logout ∧
        request.cookie = some token ∧ library.hash token = row.1 ∧
        (site.respond library codec parse environment step).1 =
          .performed request (.ok ()) := by
  rcases respond_cases library codec parse environment site step with
    ⟨login, after, rfl, opens, opened⟩ |
    ⟨other, clock, token, session, rfl, -, passed⟩ |
    ⟨other, answered, -, performs, done⟩ |
    ⟨answer, after, quiet, -, answered⟩
  · rw [opened, opens.stored, Table.mem_rows_put, not_or, not_and,
      not_not] at absent
    by_cases retained : row ∈
        (site.admin.retainSessions login.sessionsAt).sessions.rows
    · exact .inr (.inl ⟨login, rfl, (absent.2 retained).symm⟩)
    · rw [AdminState.mem_retainSessions, not_and, not_lt] at retained
      exact .inl (retained present)
  · rw [passed, AdminState.mem_retainSessions, not_and, not_lt] at absent
    exact .inl (absent present)
  · rw [done] at absent ⊢
    obtain ⟨token, isLogout, named, isKey, removed⟩ :=
      performs.loses row present absent
    exact .inr (.inr ⟨other, token, isLogout, named, isKey,
      congrArg _ removed⟩)
  · rw [answered] at absent
    exact .inl (quiet.loses row present absent)

end Changes

end AsystantGateway
