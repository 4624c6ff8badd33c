import AsystantGateway.Deployment.Steps
import AsystantGateway.Library.Provenance

/-!
# Where a call of the provider comes from

Between a ticket and a call of the provider lie the sections of three handlers
and of a turn, each at its own time, with anything else between them. Every fact
that a section relies on is traced to the step that established it: the
exchange that stored the session, the two reads that authenticated it, the
registration, the configuration that the turn was checked against and the
reservation. An invariant carries the traces from one phase to the next.
-/

namespace AsystantGateway

open Replace

/-- What the checks of a turn against a configuration establish. -/
structure Prepares
    (session : Session)
    (turn : Turn)
    (manifest : Manifest)
    (config : Config)
    (job : ReserveJob)
    (model : ModelConfig)
    (product : Product) : Prop where
  isModel : config.models.find? (fun model => model.id = turn.model) =
    some model
  isProduct : config.products.find? (fun product =>
    product.issuer = session.issuer) = some product
  permitted : config.Permits session turn.model
  input : inputEstimate manifest turn ≤ model.maxInputTokens.toNat
  amount : model.reservation = .ok job.amount
  limits : product.limits session.tenant session.subject =
    (job.tenantLimit, job.userLimit)

theorem Prepares.of_prepareTurn
    {session : Session}
    {turn : Turn}
    {manifest : Manifest}
    {config : Config}
    {job : ReserveJob}
    (prepared : prepareTurn session turn manifest config = .ok job) :
    ∃ model product,
      Prepares session turn manifest config job model product := by
  rw [prepareTurn_eq] at prepared
  obtain ⟨⟨model, product⟩, checked, costed⟩ :=
    Checks.bind_eq_ok_iff.mp prepared
  unfold costedJob at costed
  dsimp only at costed
  split at costed
  · cases costed
  · rename_i fits
    obtain ⟨amount, costs, isJob⟩ := Checks.bind_eq_ok_iff.mp costed
    cases isJob
    unfold checkedModel at checked
    split at checked
    · cases checked
    · rename_i found isModel
      have sameId : found.id = turn.model := by
        simpa using List.find?_some isModel
      split at checked
      · cases checked
      · rename_i owner isProduct
        obtain ⟨policy, given, permits⟩ := Checks.bind_eq_ok_iff.mp checked
        split at permits
        · cases permits
        · rename_i permitted
          cases permits
          rw [not_not, sameId] at permitted
          refine ⟨model, product, isModel, isProduct, ⟨policy, ?_, permitted⟩,
            not_lt.mp fits, costs, rfl⟩
          exact Config.policyOf_eq_ok_iff.mpr ⟨product, isProduct, given⟩

namespace Provenance

variable (setting : DeploymentSetting)

/-- A ticket was exchanged for the session: under the secret of a configured
product, with acceptable claims, unused, and its login not revoked. -/
def SessionStored (session : Session) : List DeploymentAction → Prop :=
  (deployments setting).Passed fun _ before action after =>
    ∃ index now request claims,
      action = .closure index (some now) ∧
        Grants setting.tickets setting.environment.products request
          before.gateway.database claims session ∧
        Exchanges before.gateway.database after.gateway.database claims session

/-- A login was revoked. -/
def LoginRevoked (sid : String) : List DeploymentAction → Prop :=
  (deployments setting).Passed fun _ before action _ =>
    ∃ index now call session,
      action = .closure index (some now) ∧
        before.calls[index]? = some call ∧
        call.phase = .revoking session .running ∧ session.sid = sid

/-- The session was read before its end, by a handler whose request carries its
token. -/
def SessionSelected (session : Session) : List DeploymentAction → Prop :=
  (deployments setting).Passed fun earlier before action _ =>
    ∃ index now call token,
      action = .handler index (.select (some now)) ∧
        before.calls[index]? = some call ∧
        (call.request.bearer = some token ∨ call.request.isTest = true) ∧
        token.utf8ByteSize = 64 ∧ setting.hash token = session.tokenHash ∧
        now.nanos < session.expiresAt ∧ SessionStored setting session earlier

/-- The session was read, and later its login was found not revoked. -/
def SessionAuthenticated (session : Session) : List DeploymentAction → Prop :=
  (deployments setting).Passed fun earlier before action _ =>
    ∃ index call,
      action = .handler index (.recheck true) ∧
        before.calls[index]? = some call ∧ call.phase = .rechecking session ∧
        ¬ LoginRevoked setting session.sid earlier ∧
        SessionSelected setting session earlier

/-- The configuration in force gave the session's user a policy. -/
def PolicyGiven
    (session : Session)
    (policy : ModelPolicy) : List DeploymentAction → Prop :=
  (deployments setting).Passed fun earlier before _ _ =>
    (∃ config, effectiveConfig setting.codec setting.parseUrl
        setting.environment before.gateway.database = .ok config ∧
      config.policyOf session = .ok policy) ∧
    SessionAuthenticated setting session earlier

/-- An assistant was registered for a login, with models of a policy that its
user was given. -/
def AssistantRegistered
    (identity id : String)
    (manifest : Manifest)
    (now : Instant) : List DeploymentAction → Prop :=
  (deployments setting).Passed fun earlier before action after =>
    ∃ index session policy requested,
      action = .closure index (some now) ∧ session.identity = identity ∧
        manifest.models = registeredModels policy requested ∧
        before.gateway.database.registrations.insert
          { id, identity, manifest := manifest.text,
            expiresAt := now + dayNanos } =
          some after.gateway.database.registrations ∧
        PolicyGiven setting session policy earlier

/-- A turn was started for an authenticated session. -/
def TurnStarted
    (session : Session)
    (turn : Turn) : List DeploymentAction → Prop :=
  (deployments setting).Passed fun earlier before _ after =>
    after.gateway.turns = before.gateway.turns ++
        [{ session, turn, phase := .received }] ∧
      SessionAuthenticated setting session earlier

/-- The turn was found valid and given an inference slot. -/
def TurnAdmitted
    (session : Session)
    (turn : Turn) : List DeploymentAction → Prop :=
  (deployments setting).Passed fun earlier before action _ =>
    ∃ index, action = .turn index .begin ∧ validateTurn turn = .ok () ∧
      before.gateway.free ≠ 0 ∧ TurnStarted setting session turn earlier

/-- The manifest of an assistant of the turn's own login was read before its
end, with the model of the turn. -/
def ManifestLoaded
    (session : Session)
    (turn : Turn)
    (manifest : Manifest) : List DeploymentAction → Prop :=
  (deployments setting).Passed fun earlier _ action _ =>
    ∃ index now stored registeredAt,
      action = .turn index (.manifest (some now)) ∧
        now < registeredAt + dayNanos ∧
        setting.readManifest stored.text = some manifest ∧
        turn.model ∈ manifest.models ∧
        AssistantRegistered setting session.identity turn.registrationId stored
          registeredAt earlier ∧
        TurnAdmitted setting session turn earlier

/-- The turn passed the checks against the configuration in force. -/
def TurnPrepared
    (session : Session)
    (turn : Turn)
    (job : ReserveJob) : List DeploymentAction → Prop :=
  (deployments setting).Passed fun earlier before action _ =>
    ∃ index manifest config model product,
      action = .turn index (.config true) ∧
        effectiveConfig setting.codec setting.parseUrl setting.environment
          before.gateway.database = .ok config ∧
        Prepares session turn manifest config job model product ∧
        ManifestLoaded setting session turn manifest earlier

/-- The reservation of the turn was granted within its limits. -/
def ReservationGranted
    (session : Session)
    (turn : Turn)
    (job : ReserveJob) : List DeploymentAction → Prop :=
  (deployments setting).Passed fun earlier before action after =>
    ∃ index day id,
      action = .turn index (.runReserve (some day)) ∧
        Admits before.gateway.database id session job.amount job.tenantLimit
          job.userLimit day ∧
        Reserves before.gateway.database after.gateway.database id session
          job.amount day ∧
        TurnPrepared setting session turn job earlier

/-- The provider was called for the turn. -/
def ProviderCalled
    (session : Session)
    (turn : Turn)
    (job : ReserveJob) : List DeploymentAction → Prop :=
  (deployments setting).Passed fun earlier _ action _ =>
    ∃ index, action = .turn index .callProvider ∧
      ReservationGranted setting session turn job earlier

end Provenance

open Provenance

section Traces

variable (setting : DeploymentSetting)

/-- What is traced when a handler is in a phase. -/
def ApiPhase.Traced
    (request : ApiRequest)
    (actions : List DeploymentAction) : ApiPhase → Prop
  | .storing exchange claims session _ =>
      Ticketed setting.tickets setting.environment.products exchange claims
        session
  | .selecting token =>
      (request.bearer = some token ∨ request.isTest = true) ∧
        token.utf8ByteSize = 64
  | .rechecking session => SessionSelected setting session actions
  | .authenticated session => SessionAuthenticated setting session actions
  | .loadingPolicy session => SessionAuthenticated setting session actions
  | .registering session _ manifest policy _ =>
      SessionAuthenticated setting session actions ∧
        PolicyGiven setting session policy actions ∧
        ∃ requested, manifest.models = registeredModels policy requested
  | .revoking session _ => SessionAuthenticated setting session actions
  | _ => True

/-- What is traced when a turn is in a phase. -/
def Phase.Traced
    (session : Session)
    (turn : Turn)
    (actions : List DeploymentAction) : Phase → Prop
  | .received => TurnStarted setting session turn actions
  | .loadingManifest => TurnAdmitted setting session turn actions
  | .loadingConfig manifest =>
      ManifestLoaded setting session turn manifest actions
  | .reserving job (.finished (.ok ())) =>
      ReservationGranted setting session turn job actions
  | .reserving job _ => TurnPrepared setting session turn job actions
  | .detached job (.finished (.ok ())) =>
      ReservationGranted setting session turn job actions
  | .detached job _ => TurnPrepared setting session turn job actions
  | .spawned job => ReservationGranted setting session turn job actions
  | _ => True

/-- What is traced in a deployment. -/
structure Traces
    (actions : List DeploymentAction)
    (deployment : Deployment) : Prop where
  calls : ∀ call ∈ deployment.calls,
    call.phase.Traced setting call.request actions
  sessions : ∀ session ∈ deployment.gateway.database.sessions.rows,
    SessionStored setting session actions
  revoked : ∀ sid, LoginRevoked setting sid actions →
    deployment.gateway.database.revokedSessions.find sid ≠ none
  registrations : ∀ row ∈ deployment.gateway.database.registrations.rows,
    ∃ manifest now,
      AssistantRegistered setting row.identity row.id manifest now actions ∧
        row.manifest = manifest.text ∧ row.expiresAt = now + dayNanos
  turns : ∀ record ∈ deployment.gateway.turns,
    record.phase.Traced setting record.session record.turn actions
  called : ∀ pair ∈ deployment.gateway.called,
    ∃ record ∈ deployment.gateway.turns, record.pair = pair ∧
      ∃ job, ProviderCalled setting record.session record.turn job actions

end Traces

variable
  {setting : DeploymentSetting}
  {actions : List DeploymentAction}
  {deployment next : Deployment}
  {action : DeploymentAction}

/-- A handler's traces stay. -/
theorem ApiPhase.Traced.concat
    {request : ApiRequest}
    {phase : ApiPhase}
    (traced : phase.Traced setting request actions)
    (action : DeploymentAction) :
    phase.Traced setting request (actions ++ [action]) := by
  cases phase with
  | storing | selecting => exact traced
  | rechecking | authenticated | loadingPolicy | revoking =>
      exact Machine.Passed.concat traced action
  | registering session id manifest policy closure =>
      exact ⟨traced.1.concat action, traced.2.1.concat action, traced.2.2⟩
  | _ => trivial

/-- A turn's traces stay. -/
theorem Phase.Traced.concat
    {session : Session}
    {turn : Turn}
    {phase : Phase}
    (traced : phase.Traced setting session turn actions)
    (action : DeploymentAction) :
    phase.Traced setting session turn (actions ++ [action]) := by
  cases phase with
  | received | loadingManifest | loadingConfig | spawned =>
      exact Machine.Passed.concat traced action
  | reserving job closure | detached job closure =>
      rcases closure with _ | _ | _
      · exact (show TurnPrepared setting session turn job actions from
          traced).concat action
      · exact (show TurnPrepared setting session turn job actions from
          traced).concat action
      · exact (show ReservationGranted setting session turn job actions from
          traced).concat action
  | _ => trivial

end AsystantGateway
