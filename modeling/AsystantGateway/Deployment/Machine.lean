import AsystantGateway.Deployment.Handlers

/-!
# A deployment

Everything that runs on one database: the handlers of the public routes, the
turns they start, and the administration. A restart drops what is in memory,
the sessions of the administration among it, and keeps the database.
-/

namespace AsystantGateway

/-- A request and where its handler is. A handler whose client has left is not
attached. -/
structure ApiCall where
  request : ApiRequest
  phase : ApiPhase
  attached : Bool

/-- The turns with their database, the handlers, the administration, and its
requests that have passed their check. -/
structure Deployment where
  gateway : Gateway
  calls : List ApiCall
  admin : AdminState
  checked : List AdminRequest

/-- What can happen to a deployment. -/
inductive DeploymentAction
  | arrive (request : ApiRequest)
  | handler (index : Nat) (action : HandlerAction)
  /-- The closure of a handler runs at a time, or finds no connection. -/
  | closure (index : Nat) (now : Option Instant)
  | disconnect (index : Nat)
  | turn (index : Nat) (action : TurnAction)
  | admin (step : AdminStep)
  | restart

namespace Deployment

/-- The administration and the database. -/
def site (deployment : Deployment) : AdminSite where
  admin := deployment.admin
  database := deployment.gateway.database
  checked := deployment.checked

/-- The deployment with another database. -/
def setDatabase (deployment : Deployment) (database : Database) : Deployment :=
  { deployment with gateway := { deployment.gateway with database } }

/-- The deployment with another handler at an index. -/
def setCall
    (deployment : Deployment)
    (index : Nat)
    (call : ApiCall) : Deployment :=
  { deployment with calls := deployment.calls.set index call }

/-- The deployment with one turn more. -/
def startTurn
    (deployment : Deployment)
    (started : Option (Session × Turn)) : Deployment :=
  match started with
  | none => deployment
  | some (session, turn) =>
      { deployment with
        gateway := { deployment.gateway with
          turns := deployment.gateway.turns ++
            [{ session, turn, phase := .received }] } }

/-- The deployment with one handler more. -/
def addCall
    (deployment : Deployment)
    (request : ApiRequest) : Deployment :=
  { deployment with
    calls := deployment.calls ++
      [{ request, phase := .received, attached := true }] }

/-- The test that an answer of the administration asks for. -/
def testOf : AdminAnswer → Option ApiRequest
  | .performed { action := .testModel issuer, .. } (.ok ()) =>
      some (.test issuer)
  | _ => none

end Deployment

section Step

variable (setting : DeploymentSetting)

/-- One section of the administration. A test goes on as a handler. -/
def Deployment.adminStep
    (deployment : Deployment)
    (step : AdminStep) : Deployment :=
  let (answer, site) := deployment.site.respond setting.library setting.codec
    setting.parseUrl setting.environment step
  let after := { deployment.setDatabase site.database with
    admin := site.admin
    checked := site.checked }
  match Deployment.testOf answer with
  | none => after
  | some request => after.addCall request

/-- One step of a deployment. -/
def Deployment.step
    (deployment : Deployment) : DeploymentAction → Option Deployment
  | .arrive request =>
      if request.isTest then none else some (deployment.addCall request)
  | .handler index action => do
      let call ← deployment.calls[index]?
      if call.attached then
        let phase ← call.phase.handle setting call.request
          deployment.gateway.database action
        let started := startedTurn call.request action call.phase
        return (deployment.setCall index { call with phase }).startTurn started
      else
        none
  | .closure index now => do
      let call ← deployment.calls[index]?
      let (phase, database) ← call.phase.runClosure now
        deployment.gateway.database
      return (deployment.setCall index { call with phase }).setDatabase database
  | .disconnect index => do
      let call ← deployment.calls[index]?
      return deployment.setCall index { call with attached := false }
  | .turn index action => do
      let gateway ← deployment.gateway.step setting.toTurnSetting
        (.turn index action)
      return { deployment with gateway }
  | .admin step =>
      match step with
      | .elsewhere _ => none
      | step => some (deployment.adminStep setting step)
  | .restart => do
      let gateway ← deployment.gateway.step setting.toTurnSetting .restart
      return {
        gateway
        calls := deployment.calls.map fun call =>
          { call with phase := .lost, attached := false }
        admin := setting.admin
        checked := [] }

/-- A deployment from its first start. -/
def deployments : Machine Deployment DeploymentAction where
  start := {
    gateway := (turns setting.toTurnSetting).start
    calls := []
    admin := setting.admin
    checked := [] }
  step := Deployment.step setting

end Step

end AsystantGateway
