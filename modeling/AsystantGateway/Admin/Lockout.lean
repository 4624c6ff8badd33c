import AsystantGateway.Admin.Authority
import AsystantGateway.Library.SlidingWindow

/-!
# The lock on logins

Failed comparisons of the token are remembered by when they stop counting, and
while five of them count no token is compared. `Attempted` says what a login
makes of the memory; every other section leaves it alone. So the memory follows
the history of the failures, which is what bounds them.
-/

namespace AsystantGateway

/-- A login whose CSRF values match, and are as long as those that the gateway
gives out. -/
def LoginRequest.Presents (request : LoginRequest) : Prop :=
  ∃ csrf, request.cookie = some csrf ∧ csrf.utf8ByteSize = 64 ∧
    csrf = request.form.csrf

instance (request : LoginRequest) : Decidable request.Presents :=
  match cookie : request.cookie with
  | none => isFalse fun ⟨_, named, _⟩ => by simp [cookie] at named
  | some csrf =>
      decidable_of_iff
        (csrf.utf8ByteSize = 64 ∧ csrf = request.form.csrf)
        ⟨fun matches_ => ⟨csrf, cookie, matches_⟩, by
          rintro ⟨other, named, matches_⟩
          obtain rfl := Option.some.inj (cookie.symm.trans named)
          exact matches_⟩

/-- When a comparison with the token failed. Where there is a token, a login
with matching CSRF values is refused as unauthentic by the comparison only. -/
def failureOf
    (admin : AdminState) : AdminStep × AdminAnswer → Option Int
  | (.login request, .session (.error .authentication)) =>
      if admin.secretHash ≠ none ∧ request.Presents then
        some request.failedAt
      else
        none
  | _ => none

/-- The times of the failed comparisons of a run. -/
def failures
    (admin : AdminState)
    (journal : AdminJournal) : List Int :=
  journal.filterMap (failureOf admin)

/-- The readings of a login are taken in their order. -/
structure LoginRequest.Ordered (request : LoginRequest) : Prop where
  attempts : ∀ first second, first ≤ second →
    request.attemptsAt first ≤ request.attemptsAt second
  failed : ∀ position, request.attemptsAt position ≤ request.failedAt
  issued : ∀ position, request.attemptsAt position ≤ request.issuedAt

/-- The readings of the logins are taken in the order of the sections. -/
structure Timely (steps : List AdminStep) : Prop where
  within : ∀ request, .login request ∈ steps → request.Ordered
  across : steps.Pairwise fun first second =>
    ∀ earlier later, first = .login earlier → second = .login later →
      (∀ position, earlier.attemptsAt position ≤ later.attemptsAt 0) ∧
        earlier.failedAt ≤ later.attemptsAt 0 ∧
          earlier.issuedAt ≤ later.attemptsAt 0

section Retaining

variable
  {clock : Nat → Instant}
  {attempts : List LoginAttempt}

theorem sublist_retainAttempts :
    (retainAttempts clock attempts).Sublist attempts := by
  have dropped : (retainAttempts clock attempts).Sublist
      (attempts.zipIdx.map Prod.fst) :=
    List.filter_sublist.map Prod.fst
  rwa [List.zipIdx_map_fst] at dropped

/-- What is retained counts at the reading taken for it. -/
theorem exists_of_mem_retainAttempts
    {attempt : LoginAttempt}
    (member : attempt ∈ retainAttempts clock attempts) :
    ∃ position, clock position < attempt.expires := by
  obtain ⟨entry, isEntry, rfl⟩ := List.mem_map.mp member
  exact ⟨entry.2, by simpa using (List.mem_filter.mp isEntry).2⟩

/-- What counts once all readings are taken is retained. -/
theorem countP_retainAttempts
    {now : Instant}
    (readings : ∀ position, clock position ≤ now) :
    (retainAttempts clock attempts).countP (fun attempt =>
        now < attempt.expires) =
      attempts.countP fun attempt => now < attempt.expires := by
  unfold retainAttempts
  rw [List.countP_map, List.countP_filter]
  have whole : (attempts.zipIdx.map Prod.fst).countP (fun attempt =>
      now < attempt.expires) =
        attempts.countP fun attempt => now < attempt.expires := by
    rw [List.zipIdx_map_fst]
  rw [← whole, List.countP_map]
  apply List.countP_congr
  intro entry _
  have reading := readings entry.2
  simp only [Function.comp_apply, Bool.and_eq_true, decide_eq_true_eq]
  constructor
  · exact fun both => both.1
  · exact fun counts => ⟨counts, lt_of_le_of_lt reading counts⟩

end Retaining

/-! ## What the sections make of the memory -/

/-- The attempts that still count for a login. -/
def LoginRequest.retained
    (request : LoginRequest)
    (admin : AdminState) : List LoginAttempt :=
  retainAttempts request.attemptsAt admin.attempts

/-- The ways in which a login is answered, and the attempts that are remembered
after it. -/
inductive LoginRequest.Attempted
    (library : AdminLibrary)
    (request : LoginRequest)
    (admin : AdminState) : Except AppError String × AdminState → Prop
  | ignored
      (unheard : admin.secretHash = none ∨ ¬ request.Presents) :
      Attempted library request admin (.error .authentication, admin)
  | locked
      (full : 5 ≤ (request.retained admin).length)
      (after : AdminState)
      (attempts : after.attempts = request.retained admin)
      (secretHash : after.secretHash = admin.secretHash) :
      Attempted library request admin (.error .limited, after)
  | failed
      (enabled : admin.secretHash ≠ none)
      (presents : request.Presents)
      (room : (request.retained admin).length < 5)
      (wrong : admin.secretHash ≠ some (library.digest request.form.token))
      (after : AdminState)
      (attempts : after.attempts = request.retained admin ++
        [⟨request.failedAt + attemptLifetime⟩])
      (secretHash : after.secretHash = admin.secretHash) :
      Attempted library request admin (.error .authentication, after)
  | capped
      (full : 128 ≤
        (admin.retainSessions request.sessionsAt).sessions.rows.length)
      (after : AdminState)
      (attempts : after.attempts = request.retained admin)
      (secretHash : after.secretHash = admin.secretHash) :
      Attempted library request admin (.error .limited, after)
  | opened
      (room : (request.retained admin).length < 5)
      (after : AdminState)
      (attempts : after.attempts = request.retained admin)
      (secretHash : after.secretHash = admin.secretHash) :
      Attempted library request admin (.ok request.token, after)

theorem attempted_login
    (library : AdminLibrary)
    (request : LoginRequest)
    (admin : AdminState) :
    request.Attempted library admin (admin.login library request) := by
  unfold AdminState.login
  cases secret : admin.secretHash with
  | none => exact .ignored (.inl secret)
  | some expected =>
      have enabled : admin.secretHash ≠ none := by simp [secret]
      cases named : request.cookie with
      | none =>
          refine .ignored (.inr ?_)
          rintro ⟨csrf, isNamed, -⟩
          simp [named] at isNamed
      | some csrf =>
          dsimp only
          split
          case isTrue mismatch =>
            refine .ignored (.inr ?_)
            rintro ⟨other, isNamed, isLong, same⟩
            obtain rfl := Option.some.inj (named.symm.trans isNamed)
            rcases mismatch with short | different
            · exact short isLong
            · exact different ((constantEqual_utf8Bytes library).mpr same)
          case isFalse matches_ =>
            rw [not_or, not_not, not_not,
              constantEqual_utf8Bytes library] at matches_
            split
            case isTrue full => exact .locked full _ rfl secret.symm
            case isFalse room =>
              split
              case isTrue different =>
                refine .failed enabled ⟨csrf, named, matches_⟩
                  (Nat.not_le.mp room) ?_ _ rfl secret.symm
                rw [secret]
                intro same
                apply different
                rw [constantEqual_iff]
                exact congrArg Vector.toList (Option.some.inj same)
              case isFalse =>
                split
                case isTrue full =>
                  have isFull : 128 ≤ (admin.retainSessions
                      request.sessionsAt).sessions.rows.length := full
                  exact .capped isFull _ rfl secret.symm
                case isFalse =>
                  exact .opened (Nat.not_le.mp room) _ rfl secret.symm

section Attempted

variable
  {library : AdminLibrary}
  {request : LoginRequest}
  {admin : AdminState}
  {answer : Except AppError String × AdminState}
  (attempted : request.Attempted library admin answer)

include attempted

/-- No session is opened while five attempts count. -/
theorem LoginRequest.Attempted.room_of_ok
    {token : String}
    (opened : answer.1 = .ok token) :
    (request.retained admin).length < 5 := by
  cases attempted with
  | ignored => cases opened
  | locked => cases opened
  | capped => cases opened
  | failed => cases opened
  | opened room => exact room

/-- A login that does not present itself or is refused by a limit is no failure,
and nothing is added to the memory. -/
theorem LoginRequest.Attempted.unheard
    {made : AdminState}
    (refused : ¬ request.Presents ∨ answer.1 = .error .limited) :
    failureOf made (.login request, .session answer.1) = none ∧
      answer.2.attempts.Sublist admin.attempts := by
  cases attempted with
  | ignored =>
      rcases refused with absent | limited
      · exact ⟨if_neg fun both => absent both.2, .refl _⟩
      · cases limited
  | locked full after attempts =>
      refine ⟨rfl, ?_⟩
      rw [attempts]
      exact sublist_retainAttempts
  | capped full after attempts =>
      refine ⟨rfl, ?_⟩
      rw [attempts]
      exact sublist_retainAttempts
  | opened room after attempts =>
      refine ⟨rfl, ?_⟩
      rw [attempts]
      exact sublist_retainAttempts
  | failed enabled presents =>
      rcases refused with absent | limited
      · exact absurd presents absent
      · cases limited

/-- The token opens a session when fewer than five attempts count and there is
room for it. -/
theorem LoginRequest.Attempted.eq_ok
    (presents : request.Presents)
    (isToken : admin.secretHash = some (library.digest request.form.token))
    (few : (request.retained admin).length < 5)
    (room : (admin.retainSessions request.sessionsAt).sessions.rows.length <
      128) :
    answer.1 = .ok request.token := by
  cases attempted with
  | ignored unheard =>
      rcases unheard with disabled | absent
      · rw [isToken] at disabled
        cases disabled
      · exact absurd presents absent
  | locked full => exact absurd full (Nat.not_le.mpr few)
  | capped full => exact absurd full (Nat.not_le.mpr room)
  | failed enabled presents room wrong => exact absurd isToken wrong
  | opened => rfl

end Attempted

section Others

variable
  (library : AdminLibrary)
  (codec : PolicyCodec)
  (parse : String → Option Url)
  (environment : Config)

/-- A section that leaves the memory, and the token, alone. -/
def KeepsAttempts (before after : AdminState) : Prop :=
  after.attempts = before.attempts ∧ after.secretHash = before.secretHash

theorem keepsAttempts_authenticate
    (cookie : Option String)
    (clock : String → Instant)
    (admin : AdminState) :
    KeepsAttempts admin (admin.authenticate library cookie clock).2 := by
  unfold AdminState.authenticate
  cases cookie with
  | none => exact ⟨rfl, rfl⟩
  | some value =>
      dsimp only
      split
      · exact ⟨rfl, rfl⟩
      · exact ⟨rfl, rfl⟩

theorem keepsAttempts_index
    (effective : Except AppError Config)
    (cookie : Option String)
    (clock : String → Instant)
    (draw : Uuid × Uuid)
    (admin : AdminState) :
    KeepsAttempts admin
      (admin.index library effective cookie clock draw).2 := by
  have keeps := keepsAttempts_authenticate library cookie clock admin
  unfold AdminState.index
  cases admin.secretHash with
  | none => exact ⟨rfl, rfl⟩
  | some expected =>
      dsimp only
      revert keeps
      rcases admin.authenticate library cookie clock with ⟨result, after⟩
      intro keeps
      cases result with
      | ok csrf => exact keeps
      | error error => cases error <;> exact keeps

theorem keepsAttempts_checkCsrf
    (request : AdminRequest)
    (clock : String → Instant)
    (admin : AdminState) :
    KeepsAttempts admin (admin.checkCsrf library request clock).2 := by
  have keeps := keepsAttempts_authenticate library request.cookie clock admin
  unfold AdminState.checkCsrf
  revert keeps
  rcases admin.authenticate library request.cookie clock with ⟨result, after⟩
  intro keeps
  cases result with
  | error error => exact keeps
  | ok csrf =>
      dsimp only
      split
      · exact keeps
      · exact keeps

theorem keepsAttempts_perform
    (request : AdminRequest)
    (elapsedAt startedAt : Instant)
    (site : AdminSite) :
    KeepsAttempts site.admin
      (site.perform library codec parse environment request elapsedAt
        startedAt).2.admin := by
  unfold AdminSite.perform
  cases request.action with
  | save edit => exact ⟨rfl, rfl⟩
  | logout =>
      cases named : request.cookie with
      | none => exact ⟨rfl, rfl⟩
      | some token => exact ⟨rfl, rfl⟩
  | testModel issuer =>
      unfold AdminState.testModel
      dsimp only
      split
      · exact ⟨rfl, rfl⟩
      · exact ⟨rfl, rfl⟩

/-- Only a login changes the memory or fails. -/
theorem keepsAttempts_respond
    (admin : AdminState)
    (site : AdminSite)
    {step : AdminStep}
    (noLogin : ∀ request, step ≠ .login request) :
    KeepsAttempts site.admin
        (site.respond library codec parse environment step).2.admin ∧
      failureOf admin
        (step, (site.respond library codec parse environment step).1) =
          none := by
  cases step with
  | login request => exact absurd rfl (noLogin request)
  | index cookie clock draw =>
      exact ⟨keepsAttempts_index library _ cookie clock draw site.admin, rfl⟩
  | check request clock =>
      refine ⟨?_, rfl⟩
      have keeps := keepsAttempts_checkCsrf library request clock site.admin
      simp only [AdminSite.respond]
      revert keeps
      rcases site.admin.checkCsrf library request clock with ⟨result, after⟩
      intro keeps
      cases result with
      | ok _ => exact keeps
      | error error => exact keeps
  | proceed position elapsedAt startedAt =>
      refine ⟨?_, rfl⟩
      simp only [AdminSite.respond]
      split
      · exact ⟨rfl, rfl⟩
      · exact keepsAttempts_perform library codec parse environment _
          elapsedAt startedAt _
  | elsewhere change => exact ⟨⟨rfl, rfl⟩, rfl⟩

end Others

/-! ## The memory of a run -/

section Runs

variable
  {library : AdminLibrary}
  {codec : PolicyCodec}
  {parse : String → Option Url}
  {environment : Config}
  {admin : AdminState}
  {database : Database}
  {steps : List AdminStep}

/-- The readings of the logins so far, up to an instant. -/
def Past (steps : List AdminStep) (now : Instant) : Prop :=
  ∀ request, .login request ∈ steps →
    ∀ position, request.attemptsAt position ≤ now

/-- What the state is to the failures of a run. -/
structure Followed
    (admin : AdminState)
    (steps : List AdminStep)
    (events : List Int)
    (current : AdminState) : Prop where
  remembers : ∀ now, Past steps now →
    SlidingWindow.Remembers attemptLifetime now events
      (current.attempts.map LoginAttempt.expires)
  sparse : SlidingWindow.Sparse attemptLifetime 5 events
  few : current.attempts.length ≤ 5
  secretHash : current.secretHash = admin.secretHash

/-- What a login still counts is remembered of the failures before it. -/
theorem remembers_retained
    {before : AdminState}
    {request : LoginRequest}
    {events : List Int}
    {now : Instant}
    (remembers : SlidingWindow.Remembers attemptLifetime
      (request.attemptsAt 0) events
      (before.attempts.map LoginAttempt.expires))
    (readings : ∀ position, request.attemptsAt position ≤ now) :
    SlidingWindow.Remembers attemptLifetime now events
      ((request.retained before).map LoginAttempt.expires) := by
  apply remembers.drop (readings 0)
  · exact sublist_retainAttempts.map LoginAttempt.expires
  · intro time later
    rw [List.countP_map, List.countP_map]
    exact countP_retainAttempts fun position =>
      (readings position).trans later

theorem failures_concat
    (admin : AdminState)
    (journal : AdminJournal)
    (entry : AdminStep × AdminAnswer) :
    failures admin (journal ++ [entry]) =
      failures admin journal ++ (failureOf admin entry).toList := by
  unfold failures
  rw [List.filterMap_append]
  cases found : failureOf admin entry with
  | none => simp [found]
  | some time => simp [found]

theorem Timely.of_append
    {first second : List AdminStep}
    (timely : Timely (first ++ second)) :
    Timely first where
  within request isStep := timely.within request (List.mem_append_left _ isStep)
  across := (List.pairwise_append.mp timely.across).1

/-- The logins before one have taken their readings before it does. -/
theorem Timely.past
    {request : LoginRequest}
    (timely : Timely (steps ++ [.login request])) :
    Past steps (request.attemptsAt 0) := by
  intro earlier isEarlier position
  have ordered := (List.pairwise_append.mp timely.across).2.2
  exact (ordered _ isEarlier _ (List.mem_singleton_self _) earlier request rfl
    rfl).1 position

namespace Followed

variable
  {events : List Int}
  {current after : AdminState}

/-- Where nothing is changed the memory goes on as it was. -/
theorem keep
    (followed : Followed admin steps events current)
    (keeps : KeepsAttempts current after)
    (step : AdminStep) :
    Followed admin (steps ++ [step]) events after where
  remembers now past := by
    rw [keeps.1]
    exact followed.remembers now fun request isStep =>
      past request (List.mem_append_left _ isStep)
  sparse := followed.sparse
  few := by
    rw [keeps.1]
    exact followed.few
  secretHash := by
    rw [keeps.2]
    exact followed.secretHash

/-- A login without a failed comparison drops what no longer counts. -/
theorem drop
    {request : LoginRequest}
    (followed : Followed admin steps events current)
    (timely : Timely (steps ++ [.login request]))
    (attempts : after.attempts = request.retained current)
    (secretHash : after.secretHash = current.secretHash) :
    Followed admin (steps ++ [.login request]) events after where
  remembers now past := by
    rw [attempts]
    apply remembers_retained (followed.remembers _ timely.past)
    exact past request (List.mem_append_right _ (List.mem_singleton_self _))
  sparse := followed.sparse
  few := by
    rw [attempts]
    exact sublist_retainAttempts.length_le.trans followed.few
  secretHash := secretHash.trans followed.secretHash

/-- What a login still counts are failures that count when it goes on. -/
theorem liveAt_le_retained
    {request : LoginRequest}
    {now : Instant}
    (followed : Followed admin steps events current)
    (timely : Timely (steps ++ [.login request]))
    (readings : ∀ position, request.attemptsAt position ≤ now) :
    SlidingWindow.liveAt attemptLifetime now events ≤
      (request.retained current).length := by
  have remembers := remembers_retained
    (followed.remembers _ timely.past) readings
  have kept := remembers.liveAt_le (le_refl now)
  rwa [List.length_map] at kept

/-- What a login still counts are failures that counted when it came. -/
theorem retained_le_liveAt
    {request : LoginRequest}
    (followed : Followed admin steps events current)
    (timely : Timely (steps ++ [.login request])) :
    (request.retained current).length ≤
      SlidingWindow.liveAt attemptLifetime (request.attemptsAt 0) events := by
  have isStep : .login request ∈ steps ++ [AdminStep.login request] :=
    List.mem_append_right _ (List.mem_singleton_self _)
  have ordered := timely.within request isStep
  have remembers := remembers_retained
    (followed.remembers _ timely.past) ordered.issued
  have live : ∀ end_ ∈ (request.retained current).map LoginAttempt.expires,
      request.attemptsAt 0 < end_ := by
    intro end_ isEnd
    obtain ⟨attempt, isAttempt, rfl⟩ := List.mem_map.mp isEnd
    obtain ⟨position, counts⟩ := exists_of_mem_retainAttempts isAttempt
    exact lt_of_le_of_lt (ordered.attempts 0 position (Nat.zero_le _)) counts
  have kept := remembers.length_le live
  rwa [List.length_map] at kept

/-- A failed comparison is remembered. -/
theorem fail
    {request : LoginRequest}
    (followed : Followed admin steps events current)
    (timely : Timely (steps ++ [.login request]))
    (room : (request.retained current).length < 5)
    (attempts : after.attempts = request.retained current ++
      [⟨request.failedAt + attemptLifetime⟩])
    (secretHash : after.secretHash = current.secretHash) :
    Followed admin (steps ++ [.login request]) (events ++ [request.failedAt])
      after where
  remembers now past := by
    have dropped := remembers_retained
      (followed.remembers _ timely.past)
      (past request (List.mem_append_right _ (List.mem_singleton_self _)))
    rw [attempts, List.map_append]
    exact dropped.add request.failedAt
  sparse := by
    have isStep : .login request ∈ steps ++ [AdminStep.login request] :=
      List.mem_append_right _ (List.mem_singleton_self _)
    have counted := followed.liveAt_le_retained timely
      (timely.within request isStep).failed
    exact .concat followed.sparse (Nat.lt_of_le_of_lt counted room)
  few := by
    rw [attempts, List.length_append, List.length_singleton]
    exact room
  secretHash := secretHash.trans followed.secretHash

end Followed

/-- Every section is followed by the memory. -/
theorem followed_respond
    {site : AdminSite}
    {events : List Int}
    {step : AdminStep}
    (followed : Followed admin steps events site.admin)
    (timely : Timely (steps ++ [step])) :
    Followed admin (steps ++ [step])
      (events ++ (failureOf admin (step,
        (site.respond library codec parse environment step).1)).toList)
      (site.respond library codec parse environment step).2.admin := by
  by_cases isLogin : ∃ request, step = .login request
  · obtain ⟨request, rfl⟩ := isLogin
    simp only [AdminSite.respond]
    have attempted := attempted_login library request site.admin
    have secretHash := followed.secretHash
    generalize site.admin.login library request = answer at attempted ⊢
    cases attempted with
    | ignored unheard =>
        have noFailure : ¬ (admin.secretHash ≠ none ∧ request.Presents) := by
          rw [← secretHash]
          rcases unheard with disabled | absent
          · exact fun both => both.1 disabled
          · exact fun both => absent both.2
        simp only [failureOf, if_neg noFailure, Option.toList_none,
          List.append_nil]
        exact followed.keep ⟨rfl, rfl⟩ _
    | locked full after attempts same =>
        simp only [failureOf, Option.toList_none, List.append_nil]
        exact followed.drop timely attempts same
    | capped full after attempts same =>
        simp only [failureOf, Option.toList_none, List.append_nil]
        exact followed.drop timely attempts same
    | opened room after attempts same =>
        simp only [failureOf, Option.toList_none, List.append_nil]
        exact followed.drop timely attempts same
    | failed enabled presents room wrong after attempts same =>
        rw [secretHash] at enabled
        simp only [failureOf, if_pos (And.intro enabled presents),
          Option.toList_some]
        exact followed.fail timely room attempts same
  · have noLogin : ∀ request, step ≠ .login request :=
      fun request same => isLogin ⟨request, same⟩
    obtain ⟨keeps, noFailure⟩ := keepsAttempts_respond library codec parse
      environment admin site noLogin
    rw [noFailure, Option.toList_none, List.append_nil]
    exact followed.keep keeps step

/-- A run is followed by the memory. -/
theorem followed_run
    (made : admin.attempts = [])
    (timely : Timely steps) :
    Followed admin steps
      (failures admin ((adminHandlers library codec parse environment admin
        database).journal steps))
      ((adminHandlers library codec parse environment admin database).state
        steps).admin := by
  induction steps using List.reverseRecOn with
  | nil =>
      refine ⟨fun now _ => ?_, .nil, ?_, rfl⟩
      · change SlidingWindow.Remembers _ _ [] (admin.attempts.map _)
        rw [made]
        exact .start _ _
      · change admin.attempts.length ≤ 5
        simp [made]
  | append_singleton steps step inductionHypothesis =>
      rw [Mealy.journal_concat, Mealy.state_concat, failures_concat]
      exact followed_respond (inductionHypothesis timely.of_append) timely

end Runs

/-! ## The bound -/

/-- What holds of the logins of a run. Five failures at most fall into any
interval of their lifetime. While five count no login succeeds, with whatever
token; a login that is refused for its CSRF values or by the lock adds nothing
to the memory; and where fewer count and there is room, the configured token
opens a session. -/
structure AdminLock
    (library : AdminLibrary)
    (secret : Option String)
    (admin : AdminState)
    (handlers : Mealy AdminSite AdminStep AdminAnswer)
    (steps : List AdminStep) : Prop where
  few : ∀ begin_,
    SlidingWindow.within attemptLifetime begin_
      (failures admin (handlers.journal steps)) ≤ 5
  capped : (handlers.state steps).admin.attempts.length ≤ 5
  locked : ∀ before request after,
    steps = before ++ .login request :: after →
      5 ≤ SlidingWindow.liveAt attemptLifetime request.issuedAt
          (failures admin (handlers.journal before)) →
        ∀ token,
          (handlers.respond (handlers.state before) (.login request)).1 ≠
            .session (.ok token)
  refused : ∀ before request after,
    steps = before ++ .login request :: after →
      ¬ request.Presents ∨
          (handlers.respond (handlers.state before) (.login request)).1 =
            .session (.error .limited) →
        failureOf admin (.login request,
            (handlers.respond (handlers.state before) (.login request)).1) =
          none ∧
        (handlers.state
            (before ++ [.login request])).admin.attempts.Sublist
          (handlers.state before).admin.attempts
  opens : ∀ before request after,
    steps = before ++ .login request :: after →
      request.Presents → secret = some request.form.token →
        SlidingWindow.liveAt attemptLifetime (request.attemptsAt 0)
            (failures admin (handlers.journal before)) < 5 →
          ((handlers.state before).admin.retainSessions
              request.sessionsAt).sessions.rows.length < 128 →
            (handlers.respond (handlers.state before) (.login request)).1 =
              .session (.ok request.token)

/-- In every run of the handlers, with the sections of all requests in any
order, failed logins are bounded by the lock. -/
theorem adminHandlers_lock
    (library : AdminLibrary)
    (codec : PolicyCodec)
    (parse : String → Option Url)
    (environment : Config)
    (secret : Option String)
    (admin : AdminState)
    (made : AdminState.new library secret = .ok admin)
    (database : Database)
    (steps : List AdminStep)
    (timely : Timely steps) :
    AdminLock library secret admin
      (adminHandlers library codec parse environment admin database)
      steps := by
  let handlers :=
    adminHandlers library codec parse environment admin database
  have isNew := AdminState.of_new made
  have followed : ∀ before, Timely before → Followed admin before
      (failures admin (handlers.journal before))
      (handlers.state before).admin := by
    intro before onTime
    exact followed_run (by rw [isNew]) onTime
  have onTime : ∀ {before request after},
      steps = before ++ .login request :: after →
        Timely (before ++ [.login request]) := by
    intro before request after split
    rw [split, ← List.singleton_append, ← List.append_assoc] at timely
    exact timely.of_append
  have answers : ∀ before request,
      (handlers.respond (handlers.state before) (.login request)).1 =
        .session ((handlers.state before).admin.login library request).1 :=
    fun _ _ => rfl
  refine
    { few := (followed steps timely).sparse |> SlidingWindow.within_le
      capped := (followed steps timely).few
      locked := ?locked
      refused := ?refused
      opens := ?opens }
  case locked =>
    intro before request after split counted token opened
    have login := onTime split
    have isLogin := login.within request
      (List.mem_append_right _ (List.mem_singleton_self _))
    have retained := (followed before login.of_append).liveAt_le_retained
      login isLogin.issued
    rw [answers] at opened
    have room := (attempted_login library request
      (handlers.state before).admin).room_of_ok (AdminAnswer.session.inj opened)
    exact absurd (counted.trans retained) (Nat.not_le.mpr room)
  case refused =>
    intro before request after split refused
    rw [answers] at refused ⊢
    rw [Mealy.state_concat]
    exact (attempted_login library request
      (handlers.state before).admin).unheard
        (refused.imp_right AdminAnswer.session.inj)
  case opens =>
    intro before request after split presents isToken few room
    have login := onTime split
    have soFar := followed before login.of_append
    have retained := soFar.retained_le_liveAt login
    have known : (handlers.state before).admin.secretHash =
        some (library.digest request.form.token) := by
      rw [soFar.secretHash, isNew, isToken]
      rfl
    rw [answers]
    exact congrArg AdminAnswer.session ((attempted_login library request
      (handlers.state before).admin).eq_ok presents known
        (Nat.lt_of_le_of_lt retained few) room)

/-- A login with another token. -/
def guessLogin : LoginRequest :=
  { tokenLogin with form := ⟨"guess", random pageDraw⟩ }

/-- A login with the token, when a failure at the start no longer counts. -/
def lateLogin : LoginRequest :=
  { tokenLogin with
    attemptsAt := fun _ => attemptLifetime
    sessionsAt := fun _ => attemptLifetime
    issuedAt := attemptLifetime
    failedAt := attemptLifetime }

/-- Five guesses. -/
def guesses : List AdminStep :=
  List.replicate 5 (.login guessLogin)

/-- The guesses, the login with the token at the same time, and the login when
they no longer count. -/
def guessSteps : List AdminStep :=
  guesses ++ [.login tokenLogin, .login lateLogin]

theorem timely_guessSteps : Timely guessSteps := by
  have lifetime : (0 : Instant) ≤ attemptLifetime := by decide
  constructor
  · intro request isStep
    have isLogin : request = guessLogin ∨ request = tokenLogin ∨
        request = lateLogin := by
      simpa [guessSteps, guesses] using isStep
    rcases isLogin with rfl | rfl | rfl <;>
      exact ⟨fun _ _ _ => le_rfl, fun _ => le_rfl, fun _ => le_rfl⟩
  · simp [guessSteps, guesses, List.replicate_succ, guessLogin, tokenLogin,
      lateLogin, lifetime]

/-- The handlers that the logins are sent to. -/
def shopHandlers : Mealy AdminSite AdminStep AdminAnswer :=
  adminHandlers tokenLibrary shopCodec (fun _ => none) shopConfig tokenAdmin
    .empty

/-- The failures that count at a time, after some logins. -/
theorem liveAt_guesses :
    5 ≤ SlidingWindow.liveAt attemptLifetime tokenLogin.issuedAt
        (failures tokenAdmin (shopHandlers.journal guesses)) ∧
      SlidingWindow.liveAt attemptLifetime (lateLogin.attemptsAt 0)
        (failures tokenAdmin
          (shopHandlers.journal (guesses ++ [.login tokenLogin]))) < 5 ∧
      ((shopHandlers.state
        (guesses ++ [.login tokenLogin])).admin.retainSessions
          lateLogin.sessionsAt).sessions.rows.length < 128 := by
  decide +kernel

/-- After five failures the token opens no session, until they no longer
count. -/
theorem adminHandlers_lock_guess :
    (∀ token,
      (shopHandlers.respond (shopHandlers.state guesses)
        (.login tokenLogin)).1 ≠ .session (.ok token)) ∧
      (shopHandlers.respond
        (shopHandlers.state (guesses ++ [.login tokenLogin]))
          (.login lateLogin)).1 = .session (.ok lateLogin.token) := by
  have made : AdminState.new tokenLibrary (some adminToken) =
      .ok tokenAdmin := rfl
  have lock : AdminLock tokenLibrary (some adminToken) tokenAdmin shopHandlers
      guessSteps :=
    adminHandlers_lock tokenLibrary shopCodec (fun _ => none) shopConfig
      (some adminToken) tokenAdmin made .empty guessSteps timely_guessSteps
  obtain ⟨counted, passed, room⟩ := liveAt_guesses
  constructor
  · exact lock.locked guesses tokenLogin [.login lateLogin] rfl counted
  · have split : guessSteps =
        (guesses ++ [.login tokenLogin]) ++ .login lateLogin :: [] := by
      simp [guessSteps]
    have presents : lateLogin.Presents := ⟨random pageDraw, rfl, rfl, rfl⟩
    exact lock.opens _ lateLogin [] split presents rfl passed room

end AsystantGateway
