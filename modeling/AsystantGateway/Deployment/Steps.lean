import AsystantGateway.Deployment.Sections
import AsystantGateway.Library.Simulation
import AsystantGateway.Service.TurnCycle

/-!
# What a step of a deployment can do

The steps of a deployment, said once as a relation. What is seen of a deployment
in its turns is the machine of the turns: handlers and the administration write
to other tables than the ledger's, and a turn arrives when a handler starts it.
So what holds of every run of the turns holds of every deployment.
-/

namespace AsystantGateway

variable
  {setting : DeploymentSetting}
  {deployment next : Deployment}
  {action : DeploymentAction}

/-- What a section of the administration does to the database. -/
theorem AdminSite.database_respond
    (setting : DeploymentSetting)
    (site : AdminSite)
    {step : AdminStep}
    (inside : ∀ change, step ≠ .elsewhere change) :
    ∃ policy, (site.respond setting.library setting.codec setting.parseUrl
      setting.environment step).2.database =
        { site.database with adminPolicy := policy } := by
  cases step with
  | index | login => exact ⟨_, rfl⟩
  | check request clock =>
      refine ⟨site.database.adminPolicy, ?_⟩
      unfold respond
      dsimp only
      split <;> rfl
  | proceed position elapsedAt startedAt =>
      unfold respond
      dsimp only
      split
      · exact ⟨_, rfl⟩
      · rename_i request
        unfold perform
        dsimp only
        split
        · rename_i edit _
          rcases updatePolicy_cases setting.codec setting.parseUrl
              setting.environment edit site.database with
            ⟨base, edited, -, -, saved⟩ | ⟨error, failed⟩
          · rw [saved]
            exact ⟨_, rfl⟩
          · rw [failed]
            exact ⟨_, rfl⟩
        · exact ⟨_, rfl⟩
        · exact ⟨_, rfl⟩
  | elsewhere change => exact absurd rfl (inside change)

/-- What a step of a deployment can do. -/
inductive DeploymentStep
    (setting : DeploymentSetting)
    (deployment : Deployment) :
    DeploymentAction → Deployment → Prop
  | arrived (request : ApiRequest) (noTest : request.isTest = false) :
      DeploymentStep setting deployment (.arrive request)
        (deployment.addCall request)
  | handled
      (index : Nat)
      (action : HandlerAction)
      (call : ApiCall)
      (phase : ApiPhase)
      (present : deployment.calls[index]? = some call)
      (taken : ApiStep setting call.request deployment.gateway.database action
        call.phase phase) :
      DeploymentStep setting deployment (.handler index action)
        ((deployment.setCall index { call with phase }).startTurn
          (startedTurn call.request action call.phase))
  | closed
      (index : Nat)
      (now : Option Instant)
      (call : ApiCall)
      (phase : ApiPhase)
      (database : Database)
      (present : deployment.calls[index]? = some call)
      (taken : ClosureStep deployment.gateway.database now call.phase phase
        database) :
      DeploymentStep setting deployment (.closure index now)
        ((deployment.setCall index { call with phase }).setDatabase database)
  | left
      (index : Nat)
      (call : ApiCall)
      (present : deployment.calls[index]? = some call) :
      DeploymentStep setting deployment (.disconnect index)
        (deployment.setCall index { call with attached := false })
  | turned
      (index : Nat)
      (action : TurnAction)
      (gateway : Gateway)
      (taken : deployment.gateway.step setting.toTurnSetting
        (.turn index action) = some gateway) :
      DeploymentStep setting deployment (.turn index action)
        { deployment with gateway }
  | administered
      (step : AdminStep)
      (inside : ∀ change, step ≠ .elsewhere change) :
      DeploymentStep setting deployment (.admin step)
        (deployment.adminStep setting step)
  | restarted :
      DeploymentStep setting deployment .restart {
        gateway := { deployment.gateway with
          free := setting.slots
          turns := deployment.gateway.turns.map fun record =>
            { record with phase := record.phase.crash } }
        calls := deployment.calls.map fun call =>
          { call with phase := .lost, attached := false }
        admin := setting.admin
        checked := [] }

/-- Every step of a deployment is one of these. -/
theorem DeploymentStep.of_step
    (taken : deployment.step setting action = some next) :
    DeploymentStep setting deployment action next := by
  cases action with
  | arrive request =>
      simp only [Deployment.step] at taken
      split at taken
      · cases taken
      · rename_i noTest
        cases taken
        exact .arrived request (Bool.eq_false_iff.mpr noTest)
  | handler index action =>
      obtain ⟨call, present, rest⟩ := Option.bind_eq_some_iff.mp taken
      split at rest
      · obtain ⟨phase, handled, isNext⟩ := Option.bind_eq_some_iff.mp rest
        cases isNext
        exact .handled index action call phase present (.of_handle handled)
      · cases rest
  | closure index now =>
      obtain ⟨call, present, rest⟩ := Option.bind_eq_some_iff.mp taken
      obtain ⟨⟨phase, database⟩, ran, isNext⟩ :=
        Option.bind_eq_some_iff.mp rest
      cases isNext
      exact .closed index now call phase database present (.of_runClosure ran)
  | disconnect index =>
      obtain ⟨call, present, isNext⟩ := Option.bind_eq_some_iff.mp taken
      cases isNext
      exact .left index call present
  | turn index action =>
      obtain ⟨gateway, stepped, isNext⟩ := Option.bind_eq_some_iff.mp taken
      cases isNext
      exact .turned index action gateway stepped
  | admin step =>
      simp only [Deployment.step] at taken
      split at taken
      · cases taken
      · rename_i inside
        cases taken
        exact .administered step inside
  | restart =>
      cases taken
      exact .restarted

/-- Another database with the same ledger is a step of the turns. -/
theorem runFrom_elsewhere
    (gateway : Gateway)
    {database : Database}
    (ledger : { database with
      accounts := gateway.database.accounts
      requests := gateway.database.requests } = database) :
    (turns setting.toTurnSetting).runFrom gateway [.elsewhere database] =
      some { gateway with database } := by
  change some { gateway with
    database := { database with
      accounts := gateway.database.accounts
      requests := gateway.database.requests } } = _
  rw [ledger]

namespace Deployment

@[simp] theorem calls_startTurn
    (deployment : Deployment)
    (started : Option (Session × Turn)) :
    (deployment.startTurn started).calls = deployment.calls := by
  cases started <;> rfl

@[simp] theorem database_startTurn
    (deployment : Deployment)
    (started : Option (Session × Turn)) :
    (deployment.startTurn started).gateway.database =
      deployment.gateway.database := by
  cases started <;> rfl

@[simp] theorem called_startTurn
    (deployment : Deployment)
    (started : Option (Session × Turn)) :
    (deployment.startTurn started).gateway.called =
      deployment.gateway.called := by
  cases started <;> rfl

theorem turns_startTurn
    (deployment : Deployment)
    (started : Option (Session × Turn)) :
    (deployment.startTurn started).gateway.turns =
      deployment.gateway.turns ++ started.toList.map fun pair =>
        { session := pair.1, turn := pair.2, phase := .received } := by
  cases started with
  | none => exact (List.append_nil _).symm
  | some pair => rfl

/-- The administration adds at most a handler. -/
theorem calls_adminStep
    (setting : DeploymentSetting)
    (deployment : Deployment)
    (step : AdminStep) :
    ∀ call ∈ (deployment.adminStep setting step).calls,
      call ∈ deployment.calls ∨ call.phase = .received := by
  intro call member
  unfold adminStep at member
  dsimp only at member
  split at member
  · exact .inl member
  · rcases List.mem_append.mp member with prior | isNew
    · exact .inl prior
    · rw [List.mem_singleton.mp isNew]
      exact .inr rfl

end Deployment

/-- The administration changes the policy and nothing else in the gateway. -/
theorem Deployment.gateway_adminStep
    (setting : DeploymentSetting)
    (deployment : Deployment)
    (step : AdminStep) :
    (deployment.adminStep setting step).gateway =
      { deployment.gateway with
        database := (deployment.site.respond setting.library setting.codec
          setting.parseUrl setting.environment step).2.database } := by
  unfold adminStep
  dsimp only
  split <;> rfl

/-- What is seen of a deployment in its turns. -/
theorem deployments_refines_turns (setting : DeploymentSetting) :
    Machine.Refines (deployments setting) (turns setting.toTurnSetting)
      Deployment.gateway where
  start := rfl
  step := by
    intro deployment action next taken
    cases DeploymentStep.of_step taken with
    | arrived | left => exact ⟨[], rfl⟩
    | handled index action call phase present taken =>
        cases started : startedTurn call.request action call.phase with
        | none => exact ⟨[], rfl⟩
        | some pair => exact ⟨[.arrive pair.1 pair.2], rfl⟩
    | closed index now call phase database present ran =>
        exact ⟨[.elsewhere database],
          runFrom_elsewhere deployment.gateway ran.ledger⟩
    | turned index action gateway stepped =>
        refine ⟨[.turn index action], ?_⟩
        rw [Machine.runFrom_cons_of_step stepped]
        rfl
    | administered step inside =>
        obtain ⟨policy, same⟩ := deployment.site.database_respond setting
          inside
        rw [Deployment.gateway_adminStep, same]
        exact ⟨[.elsewhere _], runFrom_elsewhere deployment.gateway rfl⟩
    | restarted => exact ⟨[.restart], rfl⟩

/-- What a turn does to the ledger leaves the other tables. -/
theorem LedgerStep.frame
    {setting : TurnSetting}
    {record : TurnRecord}
    {before after : Database}
    {committed afterwards : Option (ReserveJob × Option Int64)}
    (balanced : Balanced before)
    (ledger : LedgerStep setting record before after committed afterwards) :
    { after with
      accounts := before.accounts
      requests := before.requests } = before := by
  cases ledger with
  | same _ unchanged =>
      subst unchanged
      rfl
  | reserved day job granted => exact (reserve_ok granted).2.frame
  | settled job charge granted =>
      obtain ⟨-, request, -, -, settles⟩ := balanced.settle_ok granted
      exact settles.frame

/-- Two databases with the same sessions, revocations and registrations. -/
structure SameCredentials (before after : Database) : Prop where
  sessions : after.sessions = before.sessions
  revokedSessions : after.revokedSessions = before.revokedSessions
  registrations : after.registrations = before.registrations

theorem SameCredentials.of_ledger
    {before after : Database}
    (frame : { after with
      accounts := before.accounts
      requests := before.requests } = before) :
    SameCredentials before after where
  sessions := by
    have same := congrArg Database.sessions frame
    exact same
  revokedSessions := by
    have same := congrArg Database.revokedSessions frame
    exact same
  registrations := by
    have same := congrArg Database.registrations frame
    exact same

/-- Only a closure writes a session, a revocation or a registration. -/
theorem DeploymentStep.sameCredentials
    (balanced : Balanced deployment.gateway.database)
    (stepped : DeploymentStep setting deployment action next)
    (noClosure : ∀ index now, action ≠ .closure index now) :
    SameCredentials deployment.gateway.database next.gateway.database := by
  cases stepped with
  | arrived | left | restarted => exact ⟨rfl, rfl, rfl⟩
  | handled =>
      rw [Deployment.database_startTurn]
      exact ⟨rfl, rfl, rfl⟩
  | closed index now => exact absurd rfl (noClosure index now)
  | turned index action gateway taken =>
      obtain ⟨record, phase, after, -, turned, rfl⟩ := Gateway.step_turn taken
      exact .of_ledger (turned.ledger.frame balanced)
  | administered step inside =>
      obtain ⟨policy, same⟩ := deployment.site.database_respond setting inside
      rw [Deployment.gateway_adminStep, same]
      exact ⟨rfl, rfl, rfl⟩

/-- No step takes a revocation back. -/
theorem DeploymentStep.keeps_revoked
    (balanced : Balanced deployment.gateway.database)
    (stepped : DeploymentStep setting deployment action next)
    {sid : String}
    (known : deployment.gateway.database.revokedSessions.find sid ≠ none) :
    next.gateway.database.revokedSessions.find sid ≠ none := by
  by_cases isClosure : ∃ index now, action = .closure index now
  · obtain ⟨index, now, rfl⟩ := isClosure
    cases stepped with
    | closed _ _ call phase database present ran =>
        exact ran.keeps_revoked known
  · have noClosure : ∀ index now, action ≠ .closure index now :=
      fun index now same => isClosure ⟨index, now, same⟩
    rw [(stepped.sameCredentials balanced noClosure).revokedSessions]
    exact known

/-- The turns of a deployment are sound. -/
theorem Deployment.sound
    (reachable : (deployments setting).Reachable deployment) :
    Sound setting.toTurnSetting deployment.gateway :=
  sound_of_reachable
    ((deployments_refines_turns setting).reachable reachable)

end AsystantGateway
