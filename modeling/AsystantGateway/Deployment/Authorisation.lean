import AsystantGateway.Deployment.Client
import AsystantGateway.Deployment.Provenance

/-!
# Every call of the provider is authorised

The traces of a deployment go with each of its steps: a handler's section, a
closure's transaction, a step of a turn. So behind every call of the provider
lies, in this order, an exchange of a ticket, an authentication before the end
of its session and of its login, a registration by the same login, a check
against the configuration in force, and a reservation within its limits.
-/

namespace AsystantGateway

open Provenance Replace

variable
  {setting : DeploymentSetting}
  {actions : List DeploymentAction}
  {deployment next : Deployment}
  {action : DeploymentAction}

section Step

variable
  (reached : (deployments setting).run actions = some deployment)
  (traces : Traces setting actions deployment)

include reached traces

/-! ## The sections of handlers and turns -/

/-- A session that a handler reads was stored by an exchange. -/
theorem Traces.selected
    {index : Nat}
    {now : Reading}
    {call : ApiCall}
    {token : String}
    {session : Session}
    (taken : (deployments setting).step deployment
      (.handler index (.select (some now))) = some next)
    (present : deployment.calls[index]? = some call)
    (carries : (call.request.bearer = some token ∨
      call.request.isTest = true) ∧ token.utf8ByteSize = 64)
    (found : deployment.gateway.database.sessions.find (setting.hash token) =
      some session)
    (alive : now.nanos < session.expiresAt) :
    SessionSelected setting session
      (actions ++ [.handler index (.select (some now))]) :=
  Machine.Passed.last reached taken
    ⟨index, now, call, token, rfl, present, carries.1, carries.2,
      (Table.key_of_find found).symm, alive,
      traces.sessions session (Table.mem_of_find found)⟩

/-- A login that a handler finds not revoked has not been revoked. -/
theorem Traces.rechecked
    {index : Nat}
    {call : ApiCall}
    {session : Session}
    (taken : (deployments setting).step deployment
      (.handler index (.recheck true)) = some next)
    (present : deployment.calls[index]? = some call)
    (atPhase : call.phase = .rechecking session)
    (notRevoked :
      deployment.gateway.database.revokedSessions.find session.sid = none) :
    SessionAuthenticated setting session
      (actions ++ [.handler index (.recheck true)]) := by
  have own := traces.calls call (List.mem_of_getElem? present)
  rw [atPhase] at own
  exact Machine.Passed.last reached taken
    ⟨index, call, rfl, present, atPhase,
      fun revoked => traces.revoked session.sid revoked notRevoked, own⟩

/-- A section of a handler leaves its traces. -/
theorem Traces.handled
    {index : Nat}
    {section_ : HandlerAction}
    {call : ApiCall}
    {phase : ApiPhase}
    (taken : (deployments setting).step deployment
      (.handler index section_) = some next)
    (present : deployment.calls[index]? = some call)
    (stepped : ApiStep setting call.request deployment.gateway.database
      section_ call.phase phase) :
    phase.Traced setting call.request
      (actions ++ [.handler index section_]) := by
  have own := traces.calls call (List.mem_of_getElem? present)
  generalize atPhase : call.phase = origin at own stepped
  cases stepped with
  | answered => trivial
  | storing _ exchange claims session ticketed => exact ticketed
  | asked token carried size => exact ⟨.inl carried, size⟩
  | signedIn requestId exchange claims session isTest =>
      exact ⟨.inr isTest, exchange.token_size⟩
  | selected now token session found alive =>
      exact traces.selected reached taken present own found alive
  | rechecked session notRevoked =>
      exact traces.rechecked reached taken present atPhase notRevoked
  | resumed session valid => exact Machine.Passed.concat own _
  | revoking session => exact Machine.Passed.concat own _
  | registering id session config policy manifest loaded given asked =>
      exact ⟨Machine.Passed.concat own _,
        Machine.Passed.last reached taken ⟨⟨config, loaded, given⟩, own⟩,
        manifest.models, rfl⟩

omit reached traces in
/-- A closure leaves the traces of its handler. -/
theorem ApiPhase.Traced.closed
    {request : ApiRequest}
    {now : Option Instant}
    {database after : Database}
    {origin phase : ApiPhase}
    (own : origin.Traced setting request actions)
    (stepped : ClosureStep database now origin phase after)
    (action : DeploymentAction) :
    phase.Traced setting request (actions ++ [action]) := by
  have stayed := own.concat action
  cases stepped <;> exact stayed

/-- The traces of the handlers go with every step. -/
theorem Traces.calls_step
    (taken : (deployments setting).step deployment action = some next) :
    ∀ call ∈ next.calls,
      call.phase.Traced setting call.request (actions ++ [action]) := by
  have stayed : ∀ call ∈ deployment.calls,
      call.phase.Traced setting call.request (actions ++ [action]) :=
    fun call member => (traces.calls call member).concat action
  cases DeploymentStep.of_step taken with
  | arrived request =>
      intro call member
      rcases List.mem_append.mp member with prior | isNew
      · exact stayed call prior
      · rw [List.mem_singleton.mp isNew]
        trivial
  | handled index section_ call phase present stepped =>
      rw [Deployment.calls_startTurn]
      have moved := traces.handled reached taken present stepped
      exact forall_mem_set stayed (by exact moved) index
  | closed index now call phase database present stepped =>
      have own := traces.calls call (List.mem_of_getElem? present)
      refine forall_mem_set stayed ?_ index
      exact ApiPhase.Traced.closed own stepped _
  | left index call present =>
      refine forall_mem_set stayed ?_ index
      exact stayed call (List.mem_of_getElem? present)
  | turned => exact stayed
  | administered step inside =>
      intro call member
      rcases Deployment.calls_adminStep setting deployment step call member with
        prior | isNew
      · exact stayed call prior
      · rw [isNew]
        trivial
  | restarted =>
      intro call member
      obtain ⟨prior, -, rfl⟩ := List.mem_map.mp member
      trivial

/-- The sessions and registrations that a closure writes are traced. -/
theorem Traces.closed
    {index : Nat}
    {now : Option Instant}
    {call : ApiCall}
    {phase : ApiPhase}
    {database : Database}
    (taken : (deployments setting).step deployment (.closure index now) =
      some next)
    (isNext : next.gateway.database = database)
    (present : deployment.calls[index]? = some call)
    (stepped : ClosureStep deployment.gateway.database now call.phase phase
      database) :
    (∀ session ∈ database.sessions.rows,
      SessionStored setting session (actions ++ [.closure index now])) ∧
    (∀ row ∈ database.registrations.rows, ∃ manifest registeredAt,
      AssistantRegistered setting row.identity row.id manifest registeredAt
          (actions ++ [.closure index now]) ∧
        row.manifest = manifest.text ∧
          row.expiresAt = registeredAt + dayNanos) := by
  have sessions : ∀ session ∈ deployment.gateway.database.sessions.rows,
      SessionStored setting session (actions ++ [.closure index now]) :=
    fun session member => (traces.sessions session member).concat _
  have registrations :
      ∀ row ∈ deployment.gateway.database.registrations.rows,
        ∃ manifest registeredAt,
          AssistantRegistered setting row.identity row.id manifest registeredAt
              (actions ++ [.closure index now]) ∧
            row.manifest = manifest.text ∧
              row.expiresAt = registeredAt + dayNanos := by
    intro row member
    obtain ⟨manifest, registeredAt, registered, others⟩ :=
      traces.registrations row member
    exact ⟨manifest, registeredAt, registered.concat _, others⟩
  have own := traces.calls call (List.mem_of_getElem? present)
  generalize call.phase = origin at own stepped
  cases stepped with
  | stored now exchange claims session after admits effect =>
      have ticketed : Ticketed setting.tickets setting.environment.products
          exchange claims session := own
      refine ⟨Table.forall_rows_insert effect.stored ?_ sessions, ?_⟩
      · refine Machine.Passed.last reached taken
          ⟨index, now, exchange, claims, rfl, ?_, isNext ▸ effect⟩
        exact ⟨ticketed.short, ticketed.verified, ticketed.acceptable,
          ticketed.ends, ticketed.built, admits⟩
      · have same : database.registrations =
            deployment.gateway.database.registrations := by
          rw [← effect.frame]
        rw [same]
        exact registrations
  | registered now session id manifest policy registrations' inserted =>
      obtain ⟨authenticated, given, requested, models⟩ := own
      refine ⟨sessions, Table.forall_rows_insert inserted ?_ registrations⟩
      refine ⟨manifest, now, Machine.Passed.last reached taken ?_, rfl, rfl⟩
      refine ⟨index, session, policy, requested, rfl, rfl, models, ?_, given⟩
      rw [inserted, isNext]
  | revoked => exact ⟨sessions, registrations⟩
  | notStored | notRegistered | notRevoked =>
      exact ⟨sessions, registrations⟩

omit reached in
/-- A revocation stays in its table. -/
theorem Traces.revoked_step
    (reached : (deployments setting).run actions = some deployment)
    (balanced : Balanced deployment.gateway.database)
    (taken : (deployments setting).step deployment action = some next)
    {sid : String}
    (revoked : LoginRevoked setting sid (actions ++ [action])) :
    next.gateway.database.revokedSessions.find sid ≠ none := by
  have stepped := DeploymentStep.of_step taken
  rcases Machine.Passed.concat_cases revoked reached taken with
    earlier | ⟨index, now, call, session, rfl, present, atPhase, isLogin⟩
  · exact stepped.keeps_revoked balanced (traces.revoked sid earlier)
  · cases stepped with
    | closed _ _ other phase database found ran =>
        obtain rfl := Option.some.inj (present.symm.trans found)
        rw [atPhase] at ran
        cases ran with
        | revoked =>
            change (deployment.gateway.database.revokedSessions.insertOrIgnore
              { id := session.sid }).find sid ≠ none
            rw [Table.find_insertOrIgnore, if_pos isLogin]
            simp

end Step

section Turn

variable
  {record : TurnRecord}
  {gateway after : Gateway}
  {index : Nat}
  {step : TurnAction}
  {phase : Phase}

/-- A step of one turn, as the turn takes it. -/
theorem Gateway.record_of_step
    {setting : TurnSetting}
    {gateway next : Gateway}
    (taken : gateway.step setting (.turn index step) = some next) :
    ∃ record phase after, gateway.turns[index]? = some record ∧
      record.step setting gateway step = some (phase, after) ∧
        next = { after with
          turns := gateway.turns.set index { record with phase } } := by
  obtain ⟨record, present, rest⟩ := Option.bind_eq_some_iff.mp taken
  obtain ⟨⟨phase, after⟩, stepped, isNext⟩ := Option.bind_eq_some_iff.mp rest
  exact ⟨record, phase, after, present, stepped,
    (Option.some.inj isNext).symm⟩

/-- What a turn has read when it has its manifest. -/
theorem loadManifest_of_step
    {reading : Option Instant}
    {manifest : Manifest}
    (atPhase : record.phase = .loadingManifest)
    (stepped : record.step setting.toTurnSetting gateway
      (.manifest reading) = some (.loadingConfig manifest, after)) :
    ∃ now row, reading = some now ∧
      gateway.database.registrations.find record.turn.registrationId =
        some row ∧
      row.identity = record.session.identity ∧ now < row.expiresAt ∧
      setting.readManifest row.manifest = some manifest ∧
      record.turn.model ∈ manifest.models := by
  unfold TurnRecord.step at stepped
  simp only [atPhase] at stepped
  split at stepped
  · cases stepped
  · rename_i loaded
    cases stepped
    unfold TurnRecord.loadManifest at loaded
    cases reading with
    | none => cases loaded
    | some now =>
        obtain ⟨read, isRead, listed⟩ := Checks.bind_eq_ok_iff.mp loaded
        split at listed
        · cases listed
        · rename_i isListed
          cases listed
          rw [not_not, List.contains_iff_mem] at isListed
          unfold AsystantGateway.manifest at isRead
          split at isRead
          · cases isRead
          · rename_i row found
            split at isRead
            · rename_i own
              split at isRead
              · cases isRead
              · rename_i isManifest
                cases isRead
                exact ⟨now, row, rfl, found, own.1, own.2, isManifest,
                  isListed⟩
            · cases isRead

/-- A turn that is admitted is valid. -/
theorem admit_of_step
    (atPhase : record.phase = .received)
    (stepped : record.step setting.toTurnSetting gateway .begin =
      some (.loadingManifest, after)) :
    validateTurn record.turn = .ok () := by
  unfold TurnRecord.step at stepped
  simp only [atPhase] at stepped
  split at stepped
  · cases stepped
  · rename_i admitted
    exact (Checks.seq_eq_ok_iff.mp admitted).1

/-- What a turn has read when it goes on to its reservation. -/
theorem prepare_of_step
    {available : Bool}
    {manifest : Manifest}
    {job : ReserveJob}
    (atPhase : record.phase = .loadingConfig manifest)
    (stepped : record.step setting.toTurnSetting gateway
      (.config available) = some (.reserving job .running, after)) :
    available = true ∧ ∃ config model product,
      effectiveConfig setting.codec setting.parseUrl setting.environment
        gateway.database = .ok config ∧
      Prepares record.session record.turn manifest config job model
        product := by
  unfold TurnRecord.step at stepped
  simp only [atPhase] at stepped
  split at stepped
  · cases stepped
  · rename_i prepared
    cases stepped
    unfold TurnRecord.prepare at prepared
    cases available with
    | false => cases prepared
    | true =>
        obtain ⟨config, loaded, isJob⟩ := Checks.bind_eq_ok_iff.mp prepared
        obtain ⟨model, product, prepares⟩ := Prepares.of_prepareTurn isJob
        exact ⟨rfl, config, model, product, loaded, prepares⟩

/-- A step of a turn leaves its traces. -/
theorem Traces.turned
    (reached : (deployments setting).run actions = some deployment)
    (traces : Traces setting actions deployment)
    (taken : (deployments setting).step deployment (.turn index step) =
      some next)
    (isNext : next.gateway.database = after.database)
    (present : deployment.gateway.turns[index]? = some record)
    (stepped : record.step setting.toTurnSetting deployment.gateway step =
      some (phase, after)) :
    phase.Traced setting record.session record.turn
      (actions ++ [.turn index step]) := by
  have own := traces.turns record (List.mem_of_getElem? present)
  have transition := TurnStep.of_step stepped
  generalize atPhase : record.phase = origin at own transition
  cases transition with
  | admitted hasFree =>
      exact Machine.Passed.last reached taken
        ⟨index, rfl, admit_of_step atPhase stepped, hasFree, own⟩
  | loaded reading manifest =>
      obtain ⟨now, row, rfl, found, identity, alive, isManifest, listed⟩ :=
        loadManifest_of_step atPhase stepped
      obtain ⟨stored, registeredAt, registered, isText, ends⟩ :=
        traces.registrations row (Table.mem_of_find found)
      rw [identity, Table.key_of_find found] at registered
      rw [ends] at alive
      rw [isText] at isManifest
      exact Machine.Passed.last reached taken
        ⟨index, now, stored, registeredAt, rfl, alive, isManifest, listed,
          registered, own⟩
  | prepared available manifest job =>
      obtain ⟨rfl, config, model, product, loaded, prepares⟩ :=
        prepare_of_step atPhase stepped
      exact Machine.Passed.last reached taken
        ⟨index, manifest, config, model, product, rfl, loaded, prepares, own⟩
  | reserved day job database granted
  | reservedDetached day job database granted =>
      obtain ⟨admits, reserves⟩ := reserve_ok granted
      exact Machine.Passed.last reached taken
        ⟨index, day, _, rfl, admits, isNext ▸ reserves, own⟩
  | notReserved day job error | notReservedDetached day job error =>
      exact (show TurnPrepared setting record.session record.turn job actions
        from own).concat _
  | detached job closure =>
      have stays : (Phase.detached job closure).Traced setting record.session
          record.turn actions := by
        rcases closure with _ | _ | _ <;> exact own
      exact stays.concat _
  | spawned job => exact Machine.Passed.concat own _
  | _ => trivial

end Turn

/-! ## The turns of a deployment -/

section Step

variable
  (reached : (deployments setting).run actions = some deployment)
  (traces : Traces setting actions deployment)

include reached traces

/-- A turn that a handler starts is one of its own session. -/
theorem Traces.started
    {index : Nat}
    {step : HandlerAction}
    {call : ApiCall}
    {session : Session}
    {turn : Turn}
    (taken : (deployments setting).step deployment (.handler index step) =
      some next)
    (added : next.gateway.turns = deployment.gateway.turns ++
      [{ session, turn, phase := .received }])
    (present : deployment.calls[index]? = some call)
    (started : startedTurn call.request step call.phase =
      some (session, turn)) :
    TurnStarted setting session turn (actions ++ [.handler index step]) := by
  have own := traces.calls call (List.mem_of_getElem? present)
  refine Machine.Passed.last reached taken ⟨added, ?_⟩
  unfold startedTurn at started
  split at started
  · rename_i atPhase _
    cases started
    rw [atPhase] at own
    exact own
  · rename_i atPhase _
    cases started
    rw [atPhase] at own
    exact own.1
  · cases started

/-- The traces of the turns go with every step. -/
theorem Traces.turns_step
    (taken : (deployments setting).step deployment action = some next) :
    ∀ record ∈ next.gateway.turns,
      record.phase.Traced setting record.session record.turn
        (actions ++ [action]) := by
  have stayed : ∀ record ∈ deployment.gateway.turns,
      record.phase.Traced setting record.session record.turn
        (actions ++ [action]) :=
    fun record member => (traces.turns record member).concat action
  cases DeploymentStep.of_step taken with
  | arrived | closed | left => exact stayed
  | handled index section_ call phase present stepped =>
      cases isStarted : startedTurn call.request section_ call.phase with
      | none => exact stayed
      | some pair =>
          rw [isStarted] at taken
          have started := traces.started reached taken rfl present isStarted
          intro record member
          rcases List.mem_append.mp member with prior | isNew
          · exact stayed record prior
          · rw [List.mem_singleton.mp isNew]
            exact started
  | turned index step gateway ran =>
      obtain ⟨record, phase, after, present, stepped, rfl⟩ :=
        Gateway.record_of_step ran
      have moved := traces.turned reached taken (rfl : _ = after.database)
        present stepped
      exact forall_mem_set stayed (by exact moved) index
  | administered step inside =>
      rw [Deployment.gateway_adminStep]
      exact stayed
  | restarted =>
      intro record member
      obtain ⟨prior, wasTurn, rfl⟩ := List.mem_map.mp member
      change prior.phase.crash.Traced setting prior.session prior.turn _
      unfold Phase.crash
      split
      · exact stayed prior wasTurn
      · trivial

omit reached traces in
/-- A turn stays in the list of the turns. -/
theorem DeploymentStep.keeps_turn
    (stepped : DeploymentStep setting deployment action next)
    {record : TurnRecord}
    (member : record ∈ deployment.gateway.turns) :
    ∃ later ∈ next.gateway.turns, later.session = record.session ∧
      later.turn = record.turn := by
  cases stepped with
  | arrived | closed | left => exact ⟨record, member, rfl, rfl⟩
  | handled =>
      rw [Deployment.turns_startTurn]
      exact ⟨record, List.mem_append_left _ member, rfl, rfl⟩
  | turned index step gateway ran =>
      obtain ⟨mover, phase, after, present, -, rfl⟩ :=
        Gateway.record_of_step ran
      obtain ⟨place, found⟩ := List.mem_iff_getElem?.mp member
      by_cases here : place = index
      · subst here
        obtain rfl := Option.some.inj (present.symm.trans found)
        exact ⟨_, (mem_set_iff present).mpr (.inl rfl), rfl, rfl⟩
      · exact ⟨record, (mem_set_iff present).mpr (.inr ⟨place, here, found⟩),
          rfl, rfl⟩
  | administered step inside =>
      rw [Deployment.gateway_adminStep]
      exact ⟨record, member, rfl, rfl⟩
  | restarted => exact ⟨_, List.mem_map_of_mem member, rfl, rfl⟩

omit reached in
/-- The calls of the provider stay traced to their turns. -/
theorem Traces.called_concat
    (stepped : DeploymentStep setting deployment action next) :
    ∀ pair ∈ deployment.gateway.called,
      ∃ record ∈ next.gateway.turns, record.pair = pair ∧
        ∃ job, ProviderCalled setting record.session record.turn job
          (actions ++ [action]) := by
  intro pair member
  obtain ⟨record, isTurn, isPair, job, called⟩ := traces.called pair member
  obtain ⟨later, stays, sameSession, sameTurn⟩ := stepped.keeps_turn isTurn
  refine ⟨later, stays, ?_, job, ?_⟩
  · rw [← isPair, TurnRecord.pair, TurnRecord.pair, sameSession, sameTurn]
  · rw [sameSession, sameTurn]
    exact called.concat action

/-- Every call of the provider is traced to its turn. -/
theorem Traces.called_step
    (taken : (deployments setting).step deployment action = some next) :
    ∀ pair ∈ next.gateway.called,
      ∃ record ∈ next.gateway.turns, record.pair = pair ∧
        ∃ job, ProviderCalled setting record.session record.turn job
          (actions ++ [action]) := by
  have stepped := DeploymentStep.of_step taken
  have stayed := traces.called_concat stepped
  cases stepped with
  | arrived | closed | left | restarted => exact stayed
  | handled =>
      rw [Deployment.called_startTurn]
      exact stayed
  | administered step inside =>
      rw [Deployment.gateway_adminStep] at stayed ⊢
      exact stayed
  | turned index step gateway ran =>
      obtain ⟨record, phase, after, present, stepped, rfl⟩ :=
        Gateway.record_of_step ran
      have own := traces.turns record (List.mem_of_getElem? present)
      rcases (TurnStep.of_step stepped).called_cases with
        ⟨-, same, -⟩ | ⟨job, rfl, atPhase, -, isCalled⟩
      · change ∀ pair ∈ after.called, _
        rw [same]
        exact stayed
      · change ∀ pair ∈ after.called, _
        rw [isCalled]
        intro pair member
        rcases List.mem_append.mp member with prior | isNew
        · exact stayed pair prior
        · rw [atPhase] at own
          refine ⟨_, (mem_set_iff present).mpr (.inl rfl), ?_, job, ?_⟩
          · exact (List.mem_singleton.mp isNew).symm
          · exact Machine.Passed.last reached taken ⟨index, rfl, own⟩

end Step

/-! ## Every run -/

theorem Traces.start (setting : DeploymentSetting) :
    Traces setting [] (deployments setting).start where
  calls _ member := by cases member
  sessions _ member := by cases member
  revoked _ revoked := by
    obtain ⟨before, action, after, split, -⟩ := revoked
    simp at split
  registrations _ member := by cases member
  turns _ member := by cases member
  called _ member := by cases member

/-- The traces go with every step. -/
theorem Traces.step
    (reached : (deployments setting).run actions = some deployment)
    (traces : Traces setting actions deployment)
    (taken : (deployments setting).step deployment action = some next) :
    Traces setting (actions ++ [action]) next := by
  have balanced := (Deployment.sound ⟨actions, reached⟩).balanced
  have stepped := DeploymentStep.of_step taken
  have credentials :
      (∀ session ∈ next.gateway.database.sessions.rows,
        SessionStored setting session (actions ++ [action])) ∧
      (∀ row ∈ next.gateway.database.registrations.rows,
        ∃ manifest registeredAt,
          AssistantRegistered setting row.identity row.id manifest registeredAt
              (actions ++ [action]) ∧
            row.manifest = manifest.text ∧
              row.expiresAt = registeredAt + dayNanos) := by
    by_cases isClosure : ∃ index now, action = .closure index now
    · obtain ⟨index, now, rfl⟩ := isClosure
      cases stepped with
      | closed _ _ call phase database present ran =>
          exact traces.closed reached taken rfl present ran
    · have noClosure : ∀ index now, action ≠ .closure index now :=
        fun index now same => isClosure ⟨index, now, same⟩
      have same := stepped.sameCredentials balanced noClosure
      rw [same.sessions, same.registrations]
      refine ⟨fun session member =>
        (traces.sessions session member).concat action, fun row member => ?_⟩
      obtain ⟨manifest, registeredAt, registered, others⟩ :=
        traces.registrations row member
      exact ⟨manifest, registeredAt, registered.concat action, others⟩
  exact
    { calls := traces.calls_step reached taken
      sessions := credentials.1
      revoked := fun sid revoked =>
        traces.revoked_step reached balanced taken revoked
      registrations := credentials.2
      turns := traces.turns_step reached taken
      called := traces.called_step reached taken }

/-- Every run of a deployment is traced. -/
theorem traces_of_run
    (reached : (deployments setting).run actions = some deployment) :
    Traces setting actions deployment :=
  Machine.run_induction (.start setting)
    (fun _ _ _ _ before traces taken => traces.step before taken) reached

end AsystantGateway
