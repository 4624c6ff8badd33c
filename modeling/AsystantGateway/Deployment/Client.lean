import AsystantGateway.Admin.Authority
import AsystantGateway.Deployment.Sections
import AsystantGateway.Provider.ChatEvents
import AsystantGateway.Service.TurnOutcome

/-!
# A client that is served

What a client needs for a call of the provider: a ticket that can be exchanged,
a manifest, a policy that permits the model of its turn, a free slot, and room
within its limits. From any state of a deployment, the sections of its three
requests and of its turn then run to the call.
-/

namespace AsystantGateway

/-- A client: the ticket that it exchanges, the assistant that it registers and
the turn that it asks for, with the draws and the readings of the clock on the
way. -/
structure Client where
  exchange : ExchangeRequest
  manifest : Manifest
  registrationId : String
  turn : Turn
  exchangedAt : Instant
  initAt : Reading
  registeredAt : Instant
  turnAt : Reading
  loadedAt : Instant
  day : String

namespace Client

variable (client : Client)

/-- The header that the client sends. -/
def authorization : Option String :=
  some ("Bearer " ++ client.exchange.token)

/-- The exchange of the ticket, by the handler at an index. -/
def exchanging (index : Nat) : List DeploymentAction :=
  [.arrive (.exchange client.exchange), .handler index .begin,
    .closure index (some client.exchangedAt), .handler index (.answer "")]

/-- A request up to its session, by the handler at an index. -/
def signingIn
    (request : ApiRequest)
    (index : Nat)
    (now : Reading) : List DeploymentAction :=
  [.arrive request, .handler index .begin,
    .handler index (.select (some now)), .handler index (.recheck true),
    .handler index .resume]

/-- The registration, after its handler has its session. -/
def registering (index : Nat) : List DeploymentAction :=
  [.handler index (.loadPolicy true client.registrationId),
    .closure index (some client.registeredAt), .handler index (.answer "")]

/-- The turn, up to the call of the provider. -/
def turning : List TurnAction :=
  [.begin, .manifest (some client.loadedAt), .config true,
    .runReserve (some client.day), .resumeReserve, .callProvider]

/-- All that the client does. -/
def actions (deployment : Deployment) : List DeploymentAction :=
  client.exchanging deployment.calls.length ++
    (signingIn (.init client.authorization client.manifest)
        (deployment.calls.length + 1) client.initAt ++
      client.registering (deployment.calls.length + 1)) ++
    (signingIn (.turn client.authorization client.turn)
        (deployment.calls.length + 2) client.turnAt ++
      client.turning.map (.turn deployment.gateway.turns.length))

end Client

/-- What a client needs of the database. -/
structure Servable
    (setting : DeploymentSetting)
    (database : Database)
    (client : Client)
    (claims : TicketClaims)
    (session : Session)
    (config : Config)
    (policy : ModelPolicy)
    (job : ReserveJob) : Prop where
  granted : Grants setting.tickets setting.environment.products
    client.exchange database claims session
  alive : client.initAt.nanos < session.expiresAt
  stillAlive : client.turnAt.nanos < session.expiresAt
  effective : effectiveConfig setting.codec setting.parseUrl
    setting.environment database = .ok config
  given : config.policyOf session = .ok policy
  validManifest : validateManifest client.manifest = .ok ()
  unregistered : database.registrations.find
    client.registrationId = none
  notEnded : client.loadedAt < client.registeredAt + dayNanos
  readable : setting.readManifest { client.manifest with
      models := registeredModels policy client.manifest.models }.text =
    some { client.manifest with
      models := registeredModels policy client.manifest.models }
  validTurn : validateTurn client.turn = .ok ()
  ofAssistant : client.turn.registrationId = client.registrationId
  listed : client.turn.model ∈ registeredModels policy client.manifest.models
  prepared : prepareTurn session client.turn { client.manifest with
      models := registeredModels policy client.manifest.models } config =
    .ok job
  admits : Admits database
    (setting.hash
      (Json.strings [session.identity, client.turn.requestId]).compact)
    session job.amount job.tenantLimit job.userLimit client.day

/-! ## The requests and the turn -/

namespace Deployment

/-- The deployment with one handler more. -/
def withCall (deployment : Deployment) (call : ApiCall) : Deployment :=
  { deployment with calls := deployment.calls ++ [call] }

theorem getElem?_withCall (deployment : Deployment) (call : ApiCall) :
    (deployment.withCall call).calls[deployment.calls.length]? =
      some call := by
  simp [withCall]

theorem length_withCall (deployment : Deployment) (call : ApiCall) :
    (deployment.withCall call).calls.length = deployment.calls.length + 1 := by
  simp [withCall]

theorem setCall_withCall
    (deployment : Deployment)
    (call other : ApiCall) :
    (deployment.withCall call).setCall deployment.calls.length other =
      deployment.withCall other := by
  simp [setCall, withCall]

variable {setting : DeploymentSetting} {deployment : Deployment}

theorem step_arrive
    {request : ApiRequest}
    (noTest : request.isTest = false) :
    (deployments setting).step deployment (.arrive request) =
      some (deployment.withCall ⟨request, .received, true⟩) := by
  change (if request.isTest = true then none else some _) = _
  rw [if_neg (by simp [noTest])]
  rfl

/-- A section of the handler that arrived last. -/
theorem step_last
    {request : ApiRequest}
    {origin phase : ApiPhase}
    {action : HandlerAction}
    (handled : origin.handle setting request deployment.gateway.database
      action = some phase)
    (started : Option (Session × Turn))
    (starts : startedTurn request action origin = started) :
    (deployments setting).step (deployment.withCall ⟨request, origin, true⟩)
        (.handler deployment.calls.length action) =
      some ((deployment.withCall ⟨request, phase, true⟩).startTurn
        started) := by
  change ((deployment.withCall _).calls[deployment.calls.length]?).bind _ = _
  rw [getElem?_withCall, Option.bind_some]
  change (if (true : Bool) = true then _ else none) = _
  rw [if_pos rfl]
  change (origin.handle setting request deployment.gateway.database
    action).bind _ = _
  rw [handled, Option.bind_some]
  change some ((Deployment.setCall _ _ _).startTurn _) = _
  rw [setCall_withCall, starts]

/-- A section of the handler that arrived last, when it starts no turn. -/
theorem step_section
    {request : ApiRequest}
    {origin phase : ApiPhase}
    {action : HandlerAction}
    (handled : origin.handle setting request deployment.gateway.database
      action = some phase)
    (starts : startedTurn request action origin = none) :
    (deployments setting).step (deployment.withCall ⟨request, origin, true⟩)
        (.handler deployment.calls.length action) =
      some (deployment.withCall ⟨request, phase, true⟩) :=
  step_last handled none starts

/-- The closure of the handler that arrived last. -/
theorem closure_last
    {call : ApiCall}
    {phase : ApiPhase}
    {now : Option Instant}
    {database : Database}
    (ran : call.phase.runClosure now deployment.gateway.database =
      some (phase, database)) :
    (deployments setting).step (deployment.withCall call)
        (.closure deployment.calls.length now) =
      some ((deployment.setDatabase database).withCall
        { call with phase }) := by
  change ((deployment.withCall _).calls[deployment.calls.length]?).bind _ = _
  rw [getElem?_withCall, Option.bind_some]
  change (call.phase.runClosure now deployment.gateway.database).bind _ = _
  rw [ran, Option.bind_some]
  change some ((Deployment.setCall _ _ _).setDatabase _) = _
  rw [setCall_withCall]
  rfl

end Deployment

/-- What an exchange has to store is determined by its ticket. -/
theorem Ticketed.ticketSession
    {library : TicketLibrary}
    {products : List Product}
    {request : ExchangeRequest}
    {claims : TicketClaims}
    {session : Session}
    (ticketed : Ticketed library products request claims session) :
    GatewayService.ticketSession library products request =
      some (.ok (claims, session)) := by
  have valid : claims.validate request.checkedAt.timestamp =
      some (.ok ()) := by
    rcases claims.validate_eq request.checkedAt with
      ⟨-, valid⟩ | ⟨unacceptable, -⟩
    · exact valid
    · exact absurd ticketed.acceptable unacceptable
  unfold GatewayService.ticketSession
  rw [if_neg (not_lt.mpr ticketed.short), ticketed.verified]
  dsimp only
  rw [valid]
  dsimp only
  rw [ticketed.ends]
  dsimp only
  rw [← ticketed.built]

variable
  {setting : DeploymentSetting}
  {deployment : Deployment}
  {client : Client}
  {claims : TicketClaims}
  {session : Session}

/-- The ticket is exchanged. -/
theorem run_exchanging
    (granted : Grants setting.tickets setting.environment.products
      client.exchange deployment.gateway.database claims session) :
    ∃ database call,
      Exchanges deployment.gateway.database database claims session ∧
        (deployments setting).runFrom deployment
            (client.exchanging deployment.calls.length) =
          some ((deployment.setDatabase database).withCall call) := by
  have ticketed : Ticketed setting.tickets setting.environment.products
      client.exchange claims session :=
    ⟨granted.short, granted.verified, granted.acceptable, granted.ends,
      granted.built⟩
  obtain ⟨database, exchanged, effect⟩ :=
    exchange_of_exchangeable granted.admits
  let request := ApiRequest.exchange client.exchange
  have begins : ApiPhase.handle setting request deployment.gateway.database
      .begin .received =
        some (.storing client.exchange claims session .running) := by
    change some (ApiPhase.exchanging setting client.exchange) = _
    unfold ApiPhase.exchanging
    rw [ticketed.ticketSession]
  have ran : (ApiPhase.storing client.exchange claims session
      .running).runClosure (some client.exchangedAt)
        deployment.gateway.database =
      some (.storing client.exchange claims session (.finished (.ok ())),
        database) := by
    unfold ApiPhase.runClosure
    simp only [exchanged]
  let after := deployment.setDatabase database
  let stored := ApiPhase.storing client.exchange claims session
    (.finished (.ok ()))
  let answer := ApiAnswer.exchanged
    ⟨client.exchange.token, session.expiresAt⟩
  have stores : (deployments setting).step (deployment.withCall
      ⟨request, .storing client.exchange claims session .running, true⟩)
      (.closure deployment.calls.length (some client.exchangedAt)) =
        some (after.withCall ⟨request, stored, true⟩) :=
    Deployment.closure_last ran
  have answers : (deployments setting).step
      (after.withCall ⟨request, stored, true⟩)
      (.handler deployment.calls.length (.answer "")) =
        some (after.withCall ⟨request, .answered answer, true⟩) :=
    Deployment.step_section rfl rfl
  refine ⟨database, ⟨request, .answered answer, true⟩, effect, ?_⟩
  unfold Client.exchanging
  rw [Machine.runFrom_cons_of_step (Deployment.step_arrive rfl),
    Machine.runFrom_cons_of_step (Deployment.step_section begins rfl),
    Machine.runFrom_cons_of_step stores,
    Machine.runFrom_cons_of_step answers]
  rfl

/-- A request with the token of a session comes to its session. -/
theorem run_signingIn
    {request : ApiRequest}
    {token : String}
    {now : Reading}
    {phase : ApiPhase}
    {started : Option (Session × Turn)}
    (noTest : request.isTest = false)
    (begins : ApiPhase.beginning setting request = .selecting token)
    (found : deployment.gateway.database.sessions.find (setting.hash token) =
      some session)
    (alive : now.nanos < session.expiresAt)
    (notRevoked :
      deployment.gateway.database.revokedSessions.find session.sid = none)
    (resumes : ApiPhase.resumed request session = some phase)
    (starts : startedTurn request .resume (.authenticated session) =
      started) :
    (deployments setting).runFrom deployment
        (Client.signingIn request deployment.calls.length now) =
      some ((deployment.withCall ⟨request, phase, true⟩).startTurn
        started) := by
  let database := deployment.gateway.database
  have begun : ApiPhase.received.handle setting request database .begin =
      some (.selecting token) := by
    unfold ApiPhase.handle
    dsimp only
    rw [if_neg (by simp [noTest]), begins]
  have selected : (ApiPhase.selecting token).handle setting request database
      (.select (some now)) = some (.rechecking session) := by
    change some (ApiPhase.selected setting token (some now) database) = _
    unfold ApiPhase.selected selectSession
    dsimp only
    rw [found]
    dsimp only
    rw [if_pos alive]
  have rechecked : (ApiPhase.rechecking session).handle setting request
      database (.recheck true) = some (.authenticated session) := by
    change some (ApiPhase.rechecked session true database) = _
    unfold ApiPhase.rechecked refuseRevoked
    rw [notRevoked]
    rfl
  have resumed : (ApiPhase.authenticated session).handle setting request
      database .resume = some phase := resumes
  unfold Client.signingIn
  rw [Machine.runFrom_cons_of_step (Deployment.step_arrive noTest),
    Machine.runFrom_cons_of_step (Deployment.step_section begun rfl),
    Machine.runFrom_cons_of_step (Deployment.step_section selected rfl),
    Machine.runFrom_cons_of_step (Deployment.step_section rechecked rfl),
    Machine.runFrom_cons_of_step (Deployment.step_last resumed started starts)]
  rfl

/-- Registering under a free id succeeds. -/
theorem register_of_free
    {id : String}
    {database : Database}
    (isFree : database.registrations.find id = none)
    (session : Session)
    (manifest : Manifest)
    (now : Instant) :
    ∃ registrations,
      database.registrations.insert
          { id, identity := session.identity, manifest := manifest.text,
            expiresAt := now + dayNanos } = some registrations ∧
        register id session manifest now database =
          (.ok (), { database with registrations }) := by
  let row : Registration :=
    { id, identity := session.identity, manifest := manifest.text,
      expiresAt := now + dayNanos }
  obtain ⟨registrations, inserted⟩ := Table.exists_insert row isFree
  refine ⟨registrations, inserted, immediateTransaction_of_ok ?_⟩
  unfold row at inserted
  simp only [insertRegistration, StateT.run, inserted]

/-- The assistant is registered with the models of the policy. -/
theorem run_registering
    (authorization : Option String)
    {manifest : Manifest}
    {config : Config}
    {policy : ModelPolicy}
    (isManifest : client.manifest = manifest)
    (effective : effectiveConfig setting.codec setting.parseUrl
      setting.environment deployment.gateway.database = .ok config)
    (given : config.policyOf session = .ok policy)
    (unregistered : deployment.gateway.database.registrations.find
      client.registrationId = none) :
    ∃ registrations call,
      deployment.gateway.database.registrations.insert
          { id := client.registrationId
            identity := session.identity
            manifest := Manifest.text { manifest with
              models := registeredModels policy manifest.models }
            expiresAt := client.registeredAt + dayNanos } =
        some registrations ∧
      (deployments setting).runFrom
          (deployment.withCall ⟨.init authorization manifest,
            .loadingPolicy session, true⟩)
          (client.registering deployment.calls.length) =
        some ((deployment.setDatabase
          { deployment.gateway.database with registrations }).withCall
            call) := by
  subst isManifest
  let request := ApiRequest.init authorization client.manifest
  let models := registeredModels policy client.manifest.models
  let registered : Manifest := { client.manifest with models }
  let registering := ApiPhase.registering session client.registrationId
    registered policy
  let answer := ApiAnswer.registered client.registrationId models policy
  have loaded : (ApiPhase.loadingPolicy session).handle setting request
      deployment.gateway.database (.loadPolicy true client.registrationId) =
        some (registering .running) := by
    change some (ApiPhase.policyLoaded _ _ _ _ _ _) = _
    unfold ApiPhase.policyLoaded
    simp only [if_true, effective, bind, Except.bind, given]
    rfl
  obtain ⟨registrations, inserted, ran⟩ := register_of_free unregistered
    session registered client.registeredAt
  let after := deployment.setDatabase
    { deployment.gateway.database with registrations }
  have runs : (registering .running).runClosure (some client.registeredAt)
      deployment.gateway.database =
        some (registering (.finished (.ok ())),
          { deployment.gateway.database with registrations }) := by
    unfold registering ApiPhase.runClosure
    simp only [ran]
  have registers : (deployments setting).step
      (deployment.withCall ⟨request, registering .running, true⟩)
      (.closure deployment.calls.length (some client.registeredAt)) =
        some (after.withCall
          ⟨request, registering (.finished (.ok ())), true⟩) :=
    Deployment.closure_last runs
  have answers : (deployments setting).step
      (after.withCall ⟨request, registering (.finished (.ok ())), true⟩)
      (.handler deployment.calls.length (.answer "")) =
        some (after.withCall ⟨request, .answered answer, true⟩) :=
    Deployment.step_section rfl rfl
  refine ⟨registrations, ⟨request, .answered answer, true⟩, inserted, ?_⟩
  unfold Client.registering
  rw [Machine.runFrom_cons_of_step (Deployment.step_section loaded rfl),
    Machine.runFrom_cons_of_step registers,
    Machine.runFrom_cons_of_step answers]
  rfl

/-- The gateway with one turn more. -/
def Gateway.withTurn (gateway : Gateway) (record : TurnRecord) : Gateway :=
  { gateway with turns := gateway.turns ++ [record] }

/-- A step of the turn that was started last. -/
theorem step_lastTurn
    {setting : TurnSetting}
    {gateway after : Gateway}
    {record : TurnRecord}
    {phase : Phase}
    {action : TurnAction}
    (stepped : record.step setting (gateway.withTurn record) action =
      some (phase, after.withTurn record))
    (sameTurns : after.turns = gateway.turns) :
    (turns setting).step (gateway.withTurn record)
        (.turn gateway.turns.length action) =
      some (after.withTurn { record with phase }) := by
  have found : (gateway.withTurn record).turns[gateway.turns.length]? =
      some record := by
    simp [Gateway.withTurn]
  change ((gateway.withTurn record).turns[gateway.turns.length]?).bind _ = _
  rw [found, Option.bind_some]
  change (record.step setting (gateway.withTurn record) action).bind _ = _
  rw [stepped, Option.bind_some]
  refine congrArg some ?_
  simp [Gateway.withTurn, sameTurns]

/-- What a turn needs for a call of the provider. -/
structure Payable
    (setting : TurnSetting)
    (gateway : Gateway)
    (session : Session)
    (turn : Turn)
    (row : Registration)
    (manifest : Manifest)
    (config : Config)
    (job : ReserveJob)
    (loadedAt : Instant)
    (day : String) : Prop where
  valid : validateTurn turn = .ok ()
  hasFree : gateway.free ≠ 0
  registered : gateway.database.registrations.find turn.registrationId =
    some row
  own : row.identity = session.identity
  alive : loadedAt < row.expiresAt
  readable : setting.readManifest row.manifest = some manifest
  listed : turn.model ∈ manifest.models
  effective : effectiveConfig setting.codec setting.parseUrl
    setting.environment gateway.database = .ok config
  prepared : prepareTurn session turn manifest config = .ok job
  admits : Admits gateway.database
    (setting.hash (Json.strings [session.identity, turn.requestId]).compact)
    session job.amount job.tenantLimit job.userLimit day

/-- A turn that can be paid for comes to the call of the provider. -/
theorem run_turning
    {setting : TurnSetting}
    {gateway : Gateway}
    {turn : Turn}
    {row : Registration}
    {manifest : Manifest}
    {config : Config}
    {job : ReserveJob}
    (payable : Payable setting gateway session turn row manifest config job
      client.loadedAt client.day) :
    ∃ database,
      Reserves gateway.database database
          (setting.hash
            (Json.strings [session.identity, turn.requestId]).compact)
          session job.amount client.day ∧
        (turns setting).runFrom
            (gateway.withTurn ⟨session, turn, .received⟩)
            (client.turning.map (.turn gateway.turns.length)) =
          some (Gateway.withTurn
            { gateway with
              database
              free := gateway.free - 1
              called := gateway.called ++
                [(session.identity, turn.requestId)] }
            ⟨session, turn, .inferring job⟩) := by
  let record (phase : Phase) : TurnRecord := ⟨session, turn, phase⟩
  let admitted : Gateway := { gateway with free := gateway.free - 1 }
  have begins : (record .received).step setting
      (gateway.withTurn (record .received)) .begin =
        some (.loadingManifest, admitted.withTurn (record .received)) := by
    have admits : (record .received).admitTurn
        (gateway.withTurn (record .received)).free = .ok () := by
      unfold TurnRecord.admitTurn
      rw [Checks.seq_eq_ok_iff]
      exact ⟨payable.valid, if_neg payable.hasFree⟩
    unfold TurnRecord.step
    simp only [admits, record]
    rfl
  have loads : (record .loadingManifest).step setting
      (admitted.withTurn (record .loadingManifest))
      (.manifest (some client.loadedAt)) =
        some (.loadingConfig manifest,
          admitted.withTurn (record .loadingManifest)) := by
    have found : AsystantGateway.manifest setting.readManifest
        turn.registrationId session.identity client.loadedAt
        gateway.database = .ok manifest := by
      unfold AsystantGateway.manifest
      rw [payable.registered]
      dsimp only
      rw [if_pos ⟨payable.own, payable.alive⟩, payable.readable]
    have loaded : (record .loadingManifest).loadManifest setting
        (some client.loadedAt)
        (admitted.withTurn (record .loadingManifest)).database =
          .ok manifest := by
      unfold TurnRecord.loadManifest
      refine Checks.bind_eq_ok_iff.mpr ⟨manifest, found, if_neg ?_⟩
      rw [not_not, List.contains_iff_mem]
      exact payable.listed
    unfold TurnRecord.step
    simp only [loaded, record]
  have prepares : (record (.loadingConfig manifest)).step setting
      (admitted.withTurn (record (.loadingConfig manifest))) (.config true) =
        some (.reserving job .running,
          admitted.withTurn (record (.loadingConfig manifest))) := by
    have prepared : (record (.loadingConfig manifest)).prepare setting manifest
        true (admitted.withTurn (record (.loadingConfig manifest))).database =
          .ok job := by
      unfold TurnRecord.prepare
      rw [if_pos rfl]
      exact Checks.bind_eq_ok_iff.mpr
        ⟨config, payable.effective, payable.prepared⟩
    unfold TurnRecord.step
    simp only [prepared, record]
  obtain ⟨database, granted, reserves⟩ := reserve_of_admits payable.admits
  let reserved : Gateway := { admitted with database }
  have commits : (record (.reserving job .running)).step setting
      (admitted.withTurn (record (.reserving job .running)))
      (.runReserve (some client.day)) =
        some (.reserving job (.finished (.ok ())),
          reserved.withTurn (record (.reserving job .running))) := by
    have ran : (record (.reserving job .running)).reserveOn setting job
        (some client.day)
        (admitted.withTurn (record (.reserving job .running))).database =
          (.ok (), database) := granted
    unfold TurnRecord.step
    simp only [ran, record]
    rfl
  let called : Gateway := { reserved with
    called := gateway.called ++ [(session.identity, turn.requestId)] }
  have resumes : (record (.reserving job (.finished (.ok ())))).step setting
      (reserved.withTurn (record (.reserving job (.finished (.ok ())))))
      .resumeReserve =
        some (.spawned job,
          reserved.withTurn (record (.reserving job (.finished (.ok ()))))) :=
    rfl
  have calls : (record (.spawned job)).step setting
      (reserved.withTurn (record (.spawned job))) .callProvider =
        some (.inferring job, called.withTurn (record (.spawned job))) :=
    rfl
  refine ⟨database, reserves, ?_⟩
  have first := step_lastTurn begins rfl
  have second := step_lastTurn loads rfl
  have third := step_lastTurn prepares rfl
  have fourth := step_lastTurn commits rfl
  have fifth := step_lastTurn resumes rfl
  have sixth := step_lastTurn calls rfl
  refine (Machine.runFrom_cons_of_step first _).trans ?_
  refine (Machine.runFrom_cons_of_step second _).trans ?_
  refine (Machine.runFrom_cons_of_step third _).trans ?_
  refine (Machine.runFrom_cons_of_step fourth _).trans ?_
  refine (Machine.runFrom_cons_of_step fifth _).trans ?_
  exact (Machine.runFrom_cons_of_step sixth _).trans rfl

/-! ## The whole client -/

/-- A run of the turns is a run of their deployment. -/
theorem run_turns
    {index : Nat}
    {actions : List TurnAction}
    {gateway : Gateway}
    (ran : (turns setting.toTurnSetting).runFrom deployment.gateway
      (actions.map (.turn index)) = some gateway) :
    (deployments setting).runFrom deployment (actions.map (.turn index)) =
      some { deployment with gateway } := by
  induction actions generalizing deployment with
  | nil =>
      have same : deployment.gateway = gateway := Option.some.inj ran
      rw [← same]
      rfl
  | cons action actions hypothesis =>
      obtain ⟨next, taken, rest⟩ := Option.bind_eq_some_iff.mp ran
      have stepped : (deployments setting).step deployment
          (.turn index action) = some { deployment with gateway := next } := by
        change (deployment.gateway.step setting.toTurnSetting
          (.turn index action)).bind _ = _
        have gatewayStep : deployment.gateway.step setting.toTurnSetting
          (.turn index action) = some next := taken
        rw [gatewayStep]
        rfl
      exact (Machine.runFrom_cons_of_step stepped _).trans (hypothesis rest)

/-- A handler of a request with the client's header looks for the session of
its token. -/
theorem beginning_of_bearer
    {request : ApiRequest}
    (noExchange : ∀ exchange, request ≠ .exchange exchange)
    (carries : request.authorization = client.authorization) :
    ApiPhase.beginning setting request =
      .selecting client.exchange.token := by
  have bearer : request.bearer = some client.exchange.token := by
    unfold ApiRequest.bearer
    rw [carries]
    exact stripStart_append _ _
  have size : ¬ client.exchange.token.utf8ByteSize ≠ 64 :=
    not_not.mpr client.exchange.token_size
  unfold ApiPhase.beginning
  split
  · exact absurd rfl (noExchange _)
  · rw [bearer]
    dsimp only
    rw [if_neg size]

/-- The session of an exchange is found by its token. -/
theorem Exchanges.find_token
    {before after : Database}
    (effect : Exchanges before after claims session)
    (granted : Grants setting.tickets setting.environment.products
      client.exchange before claims session) :
    after.sessions.find (setting.hash client.exchange.token) =
      some session := by
  have key : session.tokenHash = setting.hash client.exchange.token := by
    rw [granted.built]
    rfl
  exact (Table.find_insert effect.stored _).trans (if_pos key)

/-- The login of an exchange is not revoked. -/
theorem Exchanges.find_revoked
    {before after : Database}
    (effect : Exchanges before after claims session)
    (granted : Grants setting.tickets setting.environment.products
      client.exchange before claims session) :
    after.revokedSessions.find session.sid = none := by
  have same := congrArg Database.revokedSessions effect.frame
  change after.revokedSessions = before.revokedSessions at same
  rw [same, granted.built]
  exact granted.admits.alive

/-- The registration, from its request on. -/
theorem run_init
    {config : Config}
    {policy : ModelPolicy}
    (found : deployment.gateway.database.sessions.find
      (setting.hash client.exchange.token) = some session)
    (alive : client.initAt.nanos < session.expiresAt)
    (notRevoked :
      deployment.gateway.database.revokedSessions.find session.sid = none)
    (validManifest : validateManifest client.manifest = .ok ())
    (effective : effectiveConfig setting.codec setting.parseUrl
      setting.environment deployment.gateway.database = .ok config)
    (given : config.policyOf session = .ok policy)
    (unregistered : deployment.gateway.database.registrations.find
      client.registrationId = none) :
    ∃ registrations call,
      deployment.gateway.database.registrations.insert
          { id := client.registrationId
            identity := session.identity
            manifest := Manifest.text { client.manifest with
              models := registeredModels policy client.manifest.models }
            expiresAt := client.registeredAt + dayNanos } =
        some registrations ∧
      (deployments setting).runFrom deployment
          (Client.signingIn (.init client.authorization client.manifest)
              deployment.calls.length client.initAt ++
            client.registering deployment.calls.length) =
        some ((deployment.setDatabase
          { deployment.gateway.database with registrations }).withCall
            call) := by
  let request := ApiRequest.init client.authorization client.manifest
  have begins : ApiPhase.beginning setting request =
      .selecting client.exchange.token :=
    beginning_of_bearer (by simp [request]) rfl
  have resumes : ApiPhase.resumed request session =
      some (.loadingPolicy session) := by
    unfold request ApiPhase.resumed
    dsimp only
    rw [validManifest]
  have signedIn := run_signingIn rfl begins found alive notRevoked resumes
    (rfl : _ = none)
  obtain ⟨registrations, call, inserted, ran⟩ := run_registering
    client.authorization rfl effective given unregistered
  refine ⟨registrations, call, inserted, ?_⟩
  exact (Machine.runFrom_append_of_runFrom signedIn _).trans ran

/-- The turn, from its request on. -/
theorem run_turn
    {row : Registration}
    {manifest : Manifest}
    {config : Config}
    {job : ReserveJob}
    (found : deployment.gateway.database.sessions.find
      (setting.hash client.exchange.token) = some session)
    (alive : client.turnAt.nanos < session.expiresAt)
    (notRevoked :
      deployment.gateway.database.revokedSessions.find session.sid = none)
    (payable : Payable setting.toTurnSetting deployment.gateway session
      client.turn row manifest config job client.loadedAt client.day) :
    ∃ after,
      Reserves deployment.gateway.database after.gateway.database
          (setting.hash
            (Json.strings [session.identity, client.turn.requestId]).compact)
          session job.amount client.day ∧
        after.gateway.called = deployment.gateway.called ++
          [(session.identity, client.turn.requestId)] ∧
        (deployments setting).runFrom deployment
            (Client.signingIn (.turn client.authorization client.turn)
                deployment.calls.length client.turnAt ++
              client.turning.map (.turn deployment.gateway.turns.length)) =
          some after := by
  let request := ApiRequest.turn client.authorization client.turn
  have begins : ApiPhase.beginning setting request =
      .selecting client.exchange.token :=
    beginning_of_bearer (by simp [request]) rfl
  have signedIn := run_signingIn rfl begins found alive notRevoked rfl
    (rfl : _ = some (session, client.turn))
  obtain ⟨database, reserves, ran⟩ := run_turning payable
  refine ⟨_, ?_, ?_, (Machine.runFrom_append_of_runFrom signedIn _).trans
    (run_turns ran)⟩
  · exact reserves
  · rfl

/-- What is stored for the assistant of a client. -/
def Client.registration
    (client : Client)
    (session : Session)
    (policy : ModelPolicy) : Registration where
  id := client.registrationId
  identity := session.identity
  manifest := Manifest.text { client.manifest with
    models := registeredModels policy client.manifest.models }
  expiresAt := client.registeredAt + dayNanos

/-- A client's login and its assistant: the ticket is exchanged, and a manifest
is registered in the session. -/
theorem run_assistant
    {config : Config}
    {policy : ModelPolicy}
    (granted : Grants setting.tickets setting.environment.products
      client.exchange deployment.gateway.database claims session)
    (alive : client.initAt.nanos < session.expiresAt)
    (validManifest : validateManifest client.manifest = .ok ())
    (effective : effectiveConfig setting.codec setting.parseUrl
      setting.environment deployment.gateway.database = .ok config)
    (given : config.policyOf session = .ok policy)
    (unregistered : deployment.gateway.database.registrations.find
      client.registrationId = none) :
    ∃ exchanged registrations exchangeCall initCall,
      Exchanges deployment.gateway.database exchanged claims session ∧
      exchanged.registrations.insert (client.registration session policy) =
        some registrations ∧
      (deployments setting).runFrom deployment
          (client.exchanging deployment.calls.length ++
            (Client.signingIn (.init client.authorization client.manifest)
                (deployment.calls.length + 1) client.initAt ++
              client.registering (deployment.calls.length + 1))) =
        some ((((deployment.setDatabase exchanged).withCall
            exchangeCall).setDatabase
          { exchanged with registrations }).withCall initCall) := by
  obtain ⟨exchanged, exchangeCall, effect, ran⟩ := run_exchanging granted
  let first := (deployment.setDatabase exchanged).withCall exchangeCall
  have found : first.gateway.database.sessions.find
      (setting.hash client.exchange.token) = some session :=
    effect.find_token granted
  have notRevoked : first.gateway.database.revokedSessions.find
      session.sid = none :=
    effect.find_revoked granted
  have sameConfig : effectiveConfig setting.codec setting.parseUrl
      setting.environment first.gateway.database = .ok config := by
    rw [← effective, ← effect.frame]
    rfl
  have stillFree : first.gateway.database.registrations.find
      client.registrationId = none := by
    rw [← unregistered, ← effect.frame]
    rfl
  obtain ⟨registrations, initCall, inserted, registered⟩ := run_init found
    alive notRevoked validManifest sameConfig given stillFree
  have firstLength : first.calls.length = deployment.calls.length + 1 :=
    (deployment.setDatabase _).length_withCall exchangeCall
  rw [firstLength] at registered
  exact ⟨exchanged, registrations, exchangeCall, initCall, effect, inserted,
    (Machine.runFrom_append_of_runFrom ran _).trans registered⟩

/-- What serving a client does to the database: the exchange of its ticket, the
registration of its assistant and the reservation of its turn. -/
def Serves
    (setting : DeploymentSetting)
    (client : Client)
    (claims : TicketClaims)
    (session : Session)
    (policy : ModelPolicy)
    (amount : Int64)
    (before after : Database) : Prop :=
  ∃ exchanged registrations,
    Exchanges before exchanged claims session ∧
      exchanged.registrations.insert (client.registration session policy) =
        some registrations ∧
      Reserves { exchanged with registrations } after
        (setting.hash
          (Json.strings [session.identity, client.turn.requestId]).compact)
        session amount client.day

/-- The amount is held more on the accounts of the client's tenant and user. -/
theorem Serves.held
    {policy : ModelPolicy}
    {amount : Int64}
    {before after : Database}
    (serves : Serves setting client claims session policy amount before after)
    (account : String) :
    after.held account = before.held account +
      if account = session.tenantAccount client.day ∨
        account = session.userAccount client.day then amount.toInt
      else 0 := by
  obtain ⟨exchanged, registrations, exchanges, -, reserves⟩ := serves
  have same := congrArg Database.accounts exchanges.frame
  change exchanged.accounts = before.accounts at same
  rw [reserves.moved.held]
  unfold Database.held
  dsimp only
  rw [same]

/-- The three requests of a client and its turn run to the call of the
provider. -/
theorem run_client
    {config : Config}
    {policy : ModelPolicy}
    {job : ReserveJob}
    (hasFree : deployment.gateway.free ≠ 0)
    (servable : Servable setting deployment.gateway.database client claims
      session config policy job) :
    ∃ after,
      (deployments setting).runFrom deployment
          (client.actions deployment) = some after ∧
        after.gateway.called = deployment.gateway.called ++
          [(session.identity, client.turn.requestId)] ∧
        Serves setting client claims session policy job.amount
          deployment.gateway.database after.gateway.database := by
  obtain ⟨exchanged, registrations, exchangeCall, initCall, effect, inserted,
    assisted⟩ := run_assistant servable.granted servable.alive
      servable.validManifest servable.effective servable.given
      servable.unregistered
  let second := (((deployment.setDatabase exchanged).withCall
      exchangeCall).setDatabase
    { exchanged with registrations }).withCall initCall
  have sameConfig : effectiveConfig setting.codec setting.parseUrl
      setting.environment second.gateway.database = .ok config := by
    rw [← servable.effective, ← effect.frame]
    rfl
  have admits : Admits second.gateway.database
      (setting.hash
        (Json.strings [session.identity, client.turn.requestId]).compact)
      session job.amount job.tenantLimit job.userLimit client.day := by
    have prior := servable.admits
    rw [← effect.frame] at prior
    exact ⟨prior.positive, prior.free, prior.tenantWithin, prior.userWithin⟩
  have payable : Payable setting.toTurnSetting second.gateway session
      client.turn (client.registration session policy) _ config job
      client.loadedAt client.day := {
    valid := servable.validTurn
    hasFree
    registered := by
      rw [servable.ofAssistant]
      exact (Table.find_insert inserted _).trans (if_pos rfl)
    own := rfl
    alive := servable.notEnded
    readable := servable.readable
    listed := servable.listed
    effective := sameConfig
    prepared := servable.prepared
    admits }
  obtain ⟨after, reserves, called, ran⟩ := run_turn
    (effect.find_token servable.granted) servable.stillAlive
    (effect.find_revoked servable.granted) payable
  have secondLength : second.calls.length = deployment.calls.length + 2 := by
    rw [Deployment.length_withCall]
    exact congrArg (· + 1)
      ((deployment.setDatabase _).length_withCall exchangeCall)
  rw [secondLength] at ran
  exact ⟨after, (Machine.runFrom_append_of_runFrom assisted _).trans ran,
    called, exchanged, registrations, effect, inserted, reserves⟩

/-- Serving a client leaves another one servable that has a ticket, a token, an
assistant and a request of its own, and room beside it. -/
theorem Servable.after_serves
    {other : Client}
    {otherClaims : TicketClaims}
    {otherSession : Session}
    {policy otherPolicy : ModelPolicy}
    {config : Config}
    {amount : Int64}
    {job : ReserveJob}
    {before after : Database}
    (servable : Servable setting before other otherClaims otherSession config
      otherPolicy job)
    (serves : Serves setting client claims session policy amount before after)
    (otherTicket : ticketKey claims.iss claims.jti ≠
      ticketKey otherClaims.iss otherClaims.jti)
    (otherToken : session.tokenHash ≠ otherSession.tokenHash)
    (otherAssistant : client.registrationId ≠ other.registrationId)
    (otherRequest : setting.hash
        (Json.strings [session.identity, client.turn.requestId]).compact ≠
      setting.hash
        (Json.strings [otherSession.identity, other.turn.requestId]).compact)
    (tenantRoom : before.held (otherSession.tenantAccount other.day) +
      amount.toInt + job.amount.toInt ≤ job.tenantLimit.toInt)
    (userRoom : before.held (otherSession.userAccount other.day) +
      amount.toInt + job.amount.toInt ≤ job.userLimit.toInt) :
    Servable setting after other otherClaims otherSession config otherPolicy
      job := by
  have held := serves.held
  obtain ⟨exchanged, registrations, exchanges, inserted, reserves⟩ := serves
  obtain ⟨check, recorded⟩ := reserves.recorded
  -- what each table of the result is made of
  have tickets := congrArg Database.consumedTickets reserves.frame
  have sessions := congrArg Database.sessions reserves.frame
  have stored := congrArg Database.registrations reserves.frame
  have revoked := congrArg Database.revokedSessions reserves.frame
  have document := congrArg Database.adminPolicy reserves.frame
  have priorStored := congrArg Database.registrations exchanges.frame
  have priorRequests := congrArg Database.requests exchanges.frame
  have priorRevoked := congrArg Database.revokedSessions exchanges.frame
  have priorDocument := congrArg Database.adminPolicy exchanges.frame
  dsimp only at tickets sessions stored revoked document
  dsimp only at priorStored priorRequests priorRevoked priorDocument recorded
  -- the reservation adds at most the amount to an account
  have atMost : ∀ account, after.held account ≤
      before.held account + amount.toInt := by
    intro account
    have known := held account
    split at known <;> omega
  have admitted : Exchangeable after otherClaims otherSession := {
    alive := by
      rw [revoked, priorRevoked]
      exact servable.granted.admits.alive
    unused := by
      rw [tickets, Table.find_insert exchanges.consumed]
      exact (if_neg otherTicket).trans servable.granted.admits.unused
    new := by
      rw [sessions, Table.find_insert exchanges.stored]
      exact (if_neg otherToken).trans servable.granted.admits.new }
  have free : after.requests.find (setting.hash (Json.strings
      [otherSession.identity, other.turn.requestId]).compact) = none := by
    rw [Table.find_insert recorded]
    refine (if_neg otherRequest).trans ?_
    rw [priorRequests]
    exact servable.admits.free
  have tenantWithin := atMost (otherSession.tenantAccount other.day)
  have userWithin := atMost (otherSession.userAccount other.day)
  exact { servable with
    granted := { servable.granted with admits := admitted }
    effective := by
      rw [← servable.effective]
      unfold effectiveConfig loadPolicy
      rw [document, priorDocument]
    unregistered := by
      rw [stored, Table.find_insert inserted]
      refine (if_neg otherAssistant).trans ?_
      rw [priorStored]
      exact servable.unregistered
    admits := ⟨servable.admits.positive, free, by omega, by omega⟩ }

/-! ## Two clients of one user -/

/-- The claims of a ticket for the user. -/
def askClaims : TicketClaims where
  iss := "host"
  aud := "asystant-api"
  sub := "user"
  tenant := "tenant"
  sid := "login"
  jti := "j"
  iat := 1700000000
  exp := 1700000060
  sessionExp := 1700003600

/-- The compact form of the ticket, signed with the product's secret. -/
def askTicket : String :=
  "eyJ0eXAiOiJKV1QiLCJhbGciOiJIUzI1NiJ9." ++
  "eyJpc3MiOiJob3N0IiwiYXVkIjoiYXN5c3RhbnQtYXBpIiwic3ViIjoidXNlciIsInRlb" ++
  "mFudCI6InRlbmFudCIsInNpZCI6ImxvZ2luIiwianRpIjoiaiIsImlhdCI6MTcwMDAwMD" ++
  "AwMCwiZXhwIjoxNzAwMDAwMDYwLCJzZXNzaW9uX2V4cCI6MTcwMDAwMzYwMH0." ++
  "1aOvr29freeCnNxYfQ9TeyD4ympWaTzkc5trYpryHRQ"

/-- The exchange of the ticket. -/
def askExchange : ExchangeRequest :=
  { signedRequest with ticket := askTicket }

/-- The session that the exchange stores. -/
def exchangedSession : Session :=
  .ofClaims askClaims
    "24d1992197e482d1c1efacb043b3e4ba94b73276008b5103b1b7bc45176a0e97"
    (1700000610 * secondNanos)

/-- What the libraries answer on the ticket, its token and the turn. -/
def askDeployment : DeploymentSetting where
  toTurnSetting := {
    askSetting askManifest with
    hash := fun text =>
      if text = askExchange.token then exchangedSession.tokenHash
      else (askSetting askManifest).hash text }
  decode now ticket secret issuer :=
    if ticket = askTicket ∧ secret = askProduct.secret ∧ issuer = "host" ∧
        now < 1700000060 * secondNanos then
      some askClaims
    else
      none
  encode _ _ := none
  library := tokenLibrary
  adminToken := some adminToken
  admin := tokenAdmin
  made := new_tokenLibrary

/-- The client that asks for the turn. -/
def askClient : Client where
  exchange := askExchange
  manifest := askManifest
  registrationId := "assistant"
  turn := askTurn
  exchangedAt := 1700000010 * secondNanos
  initAt := signedRequest.checkedAt
  registeredAt := 1700000010 * secondNanos
  turnAt := signedRequest.checkedAt
  loadedAt := 1700000010 * secondNanos
  day := "2023-11-14"

/-- The policy of the user. -/
def askPolicy : ModelPolicy where
  models := ["model"]
  defaultModel := "model"
  allowSelection := true

theorem servable_askClient :
    Servable askDeployment .empty askClient askClaims exchangedSession
      askConfig askPolicy askJob := {
  granted := {
    short := by decide +kernel
    verified := by decide +kernel
    acceptable := {
      texts := by decide
      sessionAlive := by decide
      alive := by decide
      notFuture := by decide
      recent := by decide
      lifetime := by decide
      ordered := by decide }
    ends := by decide
    built := by decide +kernel
    admits := ⟨rfl, rfl, rfl⟩ }
  alive := by decide
  stillAlive := by decide
  effective := by
    change Policy.default.apply (fun _ => none) askConfig = .ok askConfig
    decide
  given := by decide
  validManifest := by decide
  unregistered := rfl
  notEnded := by decide
  readable := rfl
  validTurn := by decide
  ofAssistant := rfl
  listed := by decide
  prepared := prepareTurn_ask inputEstimate_askManifest
  admits := ⟨by decide, rfl, by decide, by decide⟩ }

/-- Nothing that has happened keeps a client from being served after a restart:
whatever turns and handlers there were, the requests of a client that has what
it needs run to the call of the provider, and the most that its turn can cost is
then held on the accounts of its tenant and of its user, on nobody else's. -/
theorem client_served
    (setting : DeploymentSetting)
    (before : List DeploymentAction)
    (deployment : Deployment)
    (client : Client)
    (reached : (deployments setting).run before = some deployment)
    (slots : setting.slots ≠ 0)
    {config : Config}
    {policy : ModelPolicy}
    {job : ReserveJob}
    (servable : Servable setting deployment.gateway.database client claims
      session config policy job) :
    ∃ restarted after,
      (deployments setting).run (before ++ [.restart]) = some restarted ∧
      (deployments setting).run
          (before ++ [.restart] ++ client.actions restarted) = some after ∧
      after.gateway.called = deployment.gateway.called ++
        [(session.identity, client.turn.requestId)] ∧
      ∀ account, after.gateway.database.held account =
        deployment.gateway.database.held account +
          if account = session.tenantAccount client.day ∨
            account = session.userAccount client.day then job.amount.toInt
          else 0 := by
  obtain ⟨restarted, restarts, free, database, called⟩ :
      ∃ restarted,
        (deployments setting).step deployment .restart = some restarted ∧
        restarted.gateway.free = setting.slots ∧
        restarted.gateway.database = deployment.gateway.database ∧
        restarted.gateway.called = deployment.gateway.called :=
    ⟨_, rfl, rfl, rfl, rfl⟩
  have restartReached : (deployments setting).run (before ++ [.restart]) =
      some restarted :=
    Machine.run_concat_eq_some.mpr ⟨deployment, reached, restarts⟩
  have hasFree : restarted.gateway.free ≠ 0 := by
    rw [free]
    exact slots
  rw [← database] at servable
  obtain ⟨after, ran, calls, serves⟩ := run_client hasFree servable
  refine ⟨restarted, after, restartReached, ?_, ?_, ?_⟩
  · rw [Machine.run_append_of_run restartReached, ran]
  · rw [calls, called]
  · intro account
    rw [serves.held, database]

/-- The claims of a second ticket of the user. -/
def laterClaims : TicketClaims :=
  { askClaims with jti := "k" }

/-- The second ticket. -/
def laterTicket : String :=
  "eyJ0eXAiOiJKV1QiLCJhbGciOiJIUzI1NiJ9." ++
  "eyJpc3MiOiJob3N0IiwiYXVkIjoiYXN5c3RhbnQtYXBpIiwic3ViIjoidXNlciIsInRlb" ++
  "mFudCI6InRlbmFudCIsInNpZCI6ImxvZ2luIiwianRpIjoiayIsImlhdCI6MTcwMDAwMD" ++
  "AwMCwiZXhwIjoxNzAwMDAwMDYwLCJzZXNzaW9uX2V4cCI6MTcwMDAwMzYwMH0." ++
  "Fw3p01zD_-vaqbM5EwRRRuca4UMupiHzQ4lnxHPmkhI"

/-- Its exchange. -/
def laterExchange : ExchangeRequest :=
  { askExchange with
    ticket := laterTicket
    first := ⟨"88888888888848888888888888888888", by decide⟩
    second := ⟨"99999999999949999999999999999999", by decide⟩ }

/-- The second session. -/
def laterSession : Session :=
  .ofClaims laterClaims
    "cf0dafaa2d117549545ceda561daf4bb61ab93d266dbe7a3262f50a8789527fd"
    (1700000610 * secondNanos)

/-- The user as a second client, with another assistant and another turn. -/
def laterClient : Client :=
  { askClient with
    exchange := laterExchange
    registrationId := "another"
    turn := { askTurn with registrationId := "another", requestId := "later" } }

/-- What the libraries answer on both tickets. -/
def twiceDeployment : DeploymentSetting :=
  { askDeployment with
    hash := fun text =>
      if text = laterExchange.token then laterSession.tokenHash
      else if text = (Json.strings
          [laterSession.identity, laterClient.turn.requestId]).compact then
        "3717df925607d88150749730247f636f72c3b181d7815289e24b26329b5d8d69"
      else askDeployment.hash text
    decode := fun now ticket secret issuer =>
      if ticket = laterTicket ∧ secret = askProduct.secret ∧
          issuer = "host" ∧ now < 1700000060 * secondNanos then
        some laterClaims
      else askDeployment.decode now ticket secret issuer }

/-- The checks of a turn do not look at its names. -/
theorem prepareTurn_rename
    (session : Session)
    (turn : Turn)
    (manifest : Manifest)
    (config : Config)
    (registrationId requestId : String) :
    prepareTurn session { turn with registrationId, requestId } manifest
        config =
      prepareTurn session turn manifest config := rfl

theorem servable_askClient_twice :
    Servable twiceDeployment .empty askClient askClaims exchangedSession
      askConfig askPolicy askJob :=
  { servable_askClient with
    granted := {
      short := by decide +kernel
      verified := by decide +kernel
      acceptable := servable_askClient.granted.acceptable
      ends := by decide
      built := by decide +kernel
      admits := ⟨rfl, rfl, rfl⟩ }
    admits := ⟨by decide, rfl, by decide, by decide⟩ }

theorem servable_laterClient :
    Servable twiceDeployment .empty laterClient laterClaims laterSession
      askConfig askPolicy askJob :=
  { servable_askClient with
    granted := {
      short := by decide +kernel
      verified := by decide +kernel
      acceptable := {
        texts := by decide
        sessionAlive := by decide
        alive := by decide
        notFuture := by decide
        recent := by decide
        lifetime := by decide
        ordered := by decide }
      ends := by decide
      built := by decide +kernel
      admits := ⟨rfl, rfl, rfl⟩ }
    unregistered := rfl
    ofAssistant := rfl
    validTurn := by decide
    prepared := by
      have prepared : prepareTurn laterSession askTurn
          { askManifest with
            models := registeredModels askPolicy askManifest.models }
          askConfig = .ok askJob :=
        prepareTurn_ask inputEstimate_askManifest
      exact (prepareTurn_rename ..).trans prepared
    admits := ⟨by decide, rfl, by decide, by decide⟩ }

/-- After a served turn and a restart the user is served again, and the accounts
hold what both turns can cost. -/
theorem client_served_ask :
    ∃ earlier deployment restarted after,
      (deployments twiceDeployment).run earlier = some deployment ∧
      deployment.gateway.called = [(exchangedSession.identity, "request")] ∧
      (deployments twiceDeployment).run (earlier ++ [.restart]) =
        some restarted ∧
      (deployments twiceDeployment).run
          (earlier ++ [.restart] ++ laterClient.actions restarted) =
        some after ∧
      after.gateway.called =
        [(exchangedSession.identity, "request"),
          (exchangedSession.identity, "later")] ∧
      after.gateway.database.held
        (exchangedSession.tenantAccount "2023-11-14") = 202000 := by
  obtain ⟨deployment, ran, called, serves⟩ := run_client
    (by decide : (deployments twiceDeployment).start.gateway.free ≠ 0)
    servable_askClient_twice
  have servable := servable_laterClient.after_serves serves (by decide)
    (by decide) (by decide) (by decide +kernel) (by decide) (by decide)
  obtain ⟨restarted, after, restarts, served, calledAgain, held⟩ :=
    client_served twiceDeployment _ deployment laterClient ran (by decide)
      servable
  refine ⟨_, deployment, restarted, after, ran, called, restarts, served, ?_,
    ?_⟩
  · rw [calledAgain, called]
    rfl
  · rw [held, serves.held]
    decide

end AsystantGateway
