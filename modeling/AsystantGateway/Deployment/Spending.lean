import AsystantGateway.Deployment.Authorisation
import AsystantGateway.Repository.Budget

/-!
# What an account can hold

Limits can be changed while turns are under way, and a turn is reserved under
the limits of the configuration it was checked against. So an account never
holds more than a limit that some configuration in force has set for it, and
what was charged over the reservations.
-/

namespace AsystantGateway

open Provenance

/-- What was charged over the reservations on an account. -/
def Database.overcharges (database : Database) (account : String) : Int :=
  database.requests.total (overcharge account)

theorem Database.overcharges_nonneg (database : Database) (account : String) :
    0 ≤ database.overcharges account :=
  Table.total_nonneg fun request _ => overcharge_nonneg account request

/-- An account holds no more than its over-charges and one of some limits, or
than its over-charges alone. -/
def WithinLimit
    (limits : Int → Prop)
    (account : String)
    (database : Database) : Prop :=
  database.held account ≤ database.overcharges account ∨
    ∃ limit, limits limit ∧
      database.held account ≤ limit + database.overcharges account

namespace WithinLimit

variable
  {limits wider : Int → Prop}
  {account : String}
  {before after : Database}

/-- Further limits, and another state in which the account has not come closer
to them. -/
theorem mono
    (within : WithinLimit limits account before)
    (widens : ∀ limit, limits limit → wider limit)
    (closer : after.held account - before.held account ≤
      after.overcharges account - before.overcharges account) :
    WithinLimit wider account after := by
  rcases within with alone | ⟨limit, isLimit, below⟩
  · left
    omega
  · refine .inr ⟨limit, widens limit isLimit, ?_⟩
    omega

end WithinLimit

section Ledger

variable
  {before after : Database}
  {account : String}

/-- A reservation charges nothing yet. -/
theorem Reserves.overcharges
    {id day : String}
    {session : Session}
    {amount : Int64}
    (effect : Reserves before after id session amount day)
    (account : String) :
    after.overcharges account = before.overcharges account := by
  obtain ⟨check, inserted⟩ := effect.recorded
  unfold Database.overcharges
  rw [Table.total_insert inserted]
  simp [overcharge]

/-- A settlement raises what an account holds by no more than what it charges
over the reservation. -/
theorem Settles.closer
    {id : String}
    {charge : Int64}
    {request : Request}
    (found : before.requests.find id = some request)
    (pending : request.status = .pending)
    (effect : Settles before after request charge)
    (account : String) :
    after.held account - before.held account ≤
      after.overcharges account - before.overcharges account := by
  obtain rfl := Table.key_of_find found
  have recorded : after.overcharges account =
      before.overcharges account +
        if account = request.tenantAccount ∨ account = request.userAccount
        then max 0 (charge.toInt - request.reservation.toInt) else 0 := by
    unfold Database.overcharges
    rw [effect.requests, Table.total_update found]
    simp only [overcharge, pending, eq_comm (a := account)]
    split <;> simp
  rw [recorded, effect.moved.held account]
  split
  · have larger := le_max_right 0 (charge.toInt - request.reservation.toInt)
    omega
  · omega

end Ledger

section Limits

variable (setting : DeploymentSetting)

/-- A configuration was in force when some step of a run was taken. -/
def InForce (config : Config) : List DeploymentAction → Prop :=
  (deployments setting).Passed fun _ before _ _ =>
    effectiveConfig setting.codec setting.parseUrl setting.environment
      before.gateway.database = .ok config

/-- The limits of a user and of its tenant, as some configuration in force has
set them. -/
def LimitsInForce
    (issuer tenant subject : String)
    (actions : List DeploymentAction)
    (limits : Int64 × Int64) : Prop :=
  ∃ config product, InForce setting config actions ∧
    config.products.find? (fun product => product.issuer = issuer) =
      some product ∧
    product.limits tenant subject = limits

/-- The limits that were in force for a tenant. -/
def TenantLimit
    (issuer tenant : String)
    (actions : List DeploymentAction)
    (limit : Int) : Prop :=
  ∃ subject limits,
    LimitsInForce setting issuer tenant subject actions limits ∧
      limit = limits.1.toInt

/-- The limits that were in force for a user. -/
def UserLimit
    (issuer tenant subject : String)
    (actions : List DeploymentAction)
    (limit : Int) : Prop :=
  ∃ limits, LimitsInForce setting issuer tenant subject actions limits ∧
    limit = limits.2.toInt

end Limits

variable
  {setting : DeploymentSetting}
  {actions : List DeploymentAction}
  {deployment next : Deployment}
  {action : DeploymentAction}
  {issuer tenant subject : String}

theorem LimitsInForce.concat
    {limits : Int64 × Int64}
    (inForce : LimitsInForce setting issuer tenant subject actions limits)
    (action : DeploymentAction) :
    LimitsInForce setting issuer tenant subject (actions ++ [action])
      limits := by
  obtain ⟨config, product, passed, found, isLimit⟩ := inForce
  exact ⟨config, product, Machine.Passed.concat passed action, found, isLimit⟩

theorem TenantLimit.concat
    {limit : Int}
    (isLimit : TenantLimit setting issuer tenant actions limit)
    (action : DeploymentAction) :
    TenantLimit setting issuer tenant (actions ++ [action]) limit := by
  obtain ⟨subject, limits, inForce, same⟩ := isLimit
  exact ⟨subject, limits, inForce.concat action, same⟩

theorem UserLimit.concat
    {limit : Int}
    (isLimit : UserLimit setting issuer tenant subject actions limit)
    (action : DeploymentAction) :
    UserLimit setting issuer tenant subject (actions ++ [action]) limit := by
  obtain ⟨limits, inForce, same⟩ := isLimit
  exact ⟨limits, inForce.concat action, same⟩

/-- A turn that passed its checks is reserved under limits that were in
force. -/
theorem Provenance.TurnPrepared.limitsInForce
    {session : Session}
    {turn : Turn}
    {job : ReserveJob}
    (prepared : TurnPrepared setting session turn job actions) :
    LimitsInForce setting session.issuer session.tenant session.subject actions
      (job.tenantLimit, job.userLimit) := by
  obtain ⟨before, action, after, split, state, stepped, reached, taken, held⟩ :=
    prepared
  obtain ⟨index, manifest, config, model, product, -, loaded, prepares, -⟩ :=
    held
  exact ⟨config, product,
    ⟨before, action, after, split, state, stepped, reached, taken, loaded⟩,
    prepares.isProduct, prepares.limits⟩

/-- What a step of a deployment does to the ledger: nothing, a reservation
within limits that were in force, or a settlement. -/
inductive LedgerMoved
    (setting : DeploymentSetting)
    (actions : List DeploymentAction)
    (before after : Database) : Prop
  | same
      (accounts : after.accounts = before.accounts)
      (requests : after.requests = before.requests)
  | reserved
      (id day : String)
      (session : Session)
      (job : ReserveJob)
      (inForce : LimitsInForce setting session.issuer session.tenant
        session.subject actions (job.tenantLimit, job.userLimit))
      (admits : Admits before id session job.amount job.tenantLimit
        job.userLimit day)
      (effect : Reserves before after id session job.amount day)
  | settled
      (id : String)
      (charge : Int64)
      (request : Request)
      (found : before.requests.find id = some request)
      (pending : request.status = .pending)
      (effect : Settles before after request charge)

/-- A step of a turn. -/
theorem LedgerMoved.of_turn
    {record : TurnRecord}
    {step : TurnAction}
    {phase : Phase}
    {after : Gateway}
    (balanced : Balanced deployment.gateway.database)
    (own : record.phase.Traced setting record.session record.turn actions)
    (stepped : TurnStep setting.toTurnSetting record deployment.gateway step
      record.phase phase after) :
    LedgerMoved setting actions deployment.gateway.database after.database := by
  generalize record.phase = origin at own stepped
  cases stepped with
  | reserved day job database granted
  | reservedDetached day job database granted =>
      obtain ⟨admits, reserves⟩ := reserve_ok granted
      have prepared : TurnPrepared setting record.session record.turn job
        actions := own
      exact .reserved _ day record.session job prepared.limitsInForce admits
        reserves
  | settled job message charge database granted =>
      obtain ⟨-, request, found, pending, settles⟩ :=
        balanced.settle_ok granted
      exact .settled _ charge request found pending settles
  | _ => exact .same rfl rfl

/-- Every step of a deployment. -/
theorem LedgerMoved.of_step
    (reached : (deployments setting).run actions = some deployment)
    (taken : (deployments setting).step deployment action = some next) :
    LedgerMoved setting actions deployment.gateway.database
      next.gateway.database := by
  have balanced := (Deployment.sound ⟨actions, reached⟩).balanced
  have traces := traces_of_run reached
  cases DeploymentStep.of_step taken with
  | arrived | left | restarted => exact .same rfl rfl
  | handled =>
      rw [Deployment.database_startTurn]
      exact .same rfl rfl
  | closed index now call phase database present ran =>
      have accounts := congrArg Database.accounts ran.ledger
      have requests := congrArg Database.requests ran.ledger
      exact .same accounts.symm requests.symm
  | turned index step gateway ran =>
      obtain ⟨record, phase, after, present, stepped, rfl⟩ :=
        Gateway.record_of_step ran
      have own := traces.turns record (List.mem_of_getElem? present)
      have moved := LedgerMoved.of_turn balanced own (.of_step stepped)
      exact moved
  | administered step inside =>
      obtain ⟨policy, same⟩ := deployment.site.database_respond setting inside
      rw [Deployment.gateway_adminStep, same]
      exact .same rfl rfl

/-- The accounts of a tenant and of its user on a day are within limits that
were in force. -/
structure Spent
    (setting : DeploymentSetting)
    (issuer tenant subject day : String)
    (actions : List DeploymentAction)
    (database : Database) : Prop where
  ofTenant : WithinLimit (TenantLimit setting issuer tenant actions)
    (tenantAccount issuer tenant day) database
  ofUser : WithinLimit (UserLimit setting issuer tenant subject actions)
    (userAccount issuer tenant subject day) database

section Step

variable
  {day : String}
  {before after : Database}
  (spent : Spent setting issuer tenant subject day actions before)

include spent

/-- What comes no closer to any limit keeps the accounts within them. -/
theorem Spent.closer
    (action : DeploymentAction)
    (closer : ∀ account, after.held account - before.held account ≤
      after.overcharges account - before.overcharges account) :
    Spent setting issuer tenant subject day (actions ++ [action]) after where
  ofTenant := spent.ofTenant.mono (fun _ isLimit => isLimit.concat action)
    (closer _)
  ofUser := spent.ofUser.mono (fun _ isLimit => isLimit.concat action)
    (closer _)

/-- A reservation raises its two accounts within limits that were in force. -/
theorem Spent.reserved
    {id reservedDay : String}
    {session : Session}
    {job : ReserveJob}
    (action : DeploymentAction)
    (inForce : LimitsInForce setting session.issuer session.tenant
      session.subject actions (job.tenantLimit, job.userLimit))
    (admits : Admits before id session job.amount job.tenantLimit
      job.userLimit reservedDay)
    (effect : Reserves before after id session job.amount reservedDay) :
    Spent setting issuer tenant subject day (actions ++ [action]) after := by
  have nonneg := after.overcharges_nonneg
  have stayed : ∀ account, account ≠ session.tenantAccount reservedDay →
      account ≠ session.userAccount reservedDay →
        after.held account - before.held account ≤
          after.overcharges account - before.overcharges account := by
    intro account notTenant notUser
    rw [effect.moved.held, if_neg (not_or.mpr ⟨notTenant, notUser⟩),
      effect.overcharges]
    omega
  have later := inForce.concat action
  constructor
  · by_cases isTenant : tenantAccount issuer tenant day =
        session.tenantAccount reservedDay
    · obtain ⟨rfl, rfl, -⟩ := tenantAccount_inj.mp isTenant
      refine .inr ⟨job.tenantLimit.toInt, ⟨_, _, later, rfl⟩, ?_⟩
      have within := admits.tenantWithin
      have known := nonneg (tenantAccount session.issuer session.tenant day)
      rw [effect.moved.held, if_pos (.inl isTenant), isTenant]
      rw [isTenant] at known
      omega
    · exact spent.ofTenant.mono (fun _ isLimit => isLimit.concat action)
        (stayed _ isTenant (tenantAccount_ne_userAccount _ _ _ _ _ _ _))
  · by_cases isUser : userAccount issuer tenant subject day =
        session.userAccount reservedDay
    · obtain ⟨rfl, rfl, rfl, -⟩ := userAccount_inj.mp isUser
      refine .inr ⟨job.userLimit.toInt, ⟨_, later, rfl⟩, ?_⟩
      have within := admits.userWithin
      have known := nonneg
        (userAccount session.issuer session.tenant session.subject day)
      rw [effect.moved.held, if_pos (.inr isUser), isUser]
      rw [isUser] at known
      omega
    · exact spent.ofUser.mono (fun _ isLimit => isLimit.concat action)
        (stayed _ (tenantAccount_ne_userAccount _ _ _ _ _ _ _).symm isUser)

/-- Every step keeps the accounts within limits that were in force. -/
theorem Spent.step
    (action : DeploymentAction)
    (moved : LedgerMoved setting actions before after) :
    Spent setting issuer tenant subject day (actions ++ [action]) after := by
  cases moved with
  | same accounts requests =>
      refine spent.closer action fun account => ?_
      have held : after.held account = before.held account := by
        unfold Database.held
        rw [accounts]
      have overcharges : after.overcharges account =
          before.overcharges account := by
        unfold Database.overcharges
        rw [requests]
      omega
  | reserved id reservedDay session job inForce admits effect =>
      exact spent.reserved action inForce admits effect
  | settled id charge request found pending effect =>
      exact spent.closer action (effect.closer found pending)

end Step

/-- In every run of a deployment, with the administration changing the limits
at any time and any number of restarts, the account of a tenant and that of a
user hold no more than a limit that a configuration in force has set for them,
and what was charged over the reservations on them. -/
theorem spending_within_limits
    (reached : (deployments setting).run actions = some deployment)
    (issuer tenant subject day : String) :
    Spent setting issuer tenant subject day actions
      deployment.gateway.database := by
  refine Machine.run_induction (motive := fun actions deployment =>
    Spent setting issuer tenant subject day actions
      deployment.gateway.database) ?_ ?_ reached
  · exact ⟨.inl le_rfl, .inl le_rfl⟩
  · intro actions deployment action next reached spent taken
    exact spent.step action (.of_step reached taken)

theorem spending_within_limits_ask :
    ∃ actions deployment,
      (deployments askDeployment).run actions = some deployment ∧
        Spent askDeployment "host" "tenant" "user" "2023-11-14" actions
          deployment.gateway.database := by
  obtain ⟨deployment, ran, -⟩ := run_client
    (by decide : (deployments askDeployment).start.gateway.free ≠ 0)
    servable_askClient
  exact ⟨_, deployment, ran, spending_within_limits ran _ _ _ _⟩

end AsystantGateway
