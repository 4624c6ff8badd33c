import AsystantGateway.Repository.Ledger
import AsystantGateway.Repository.Sessions
import AsystantGateway.Service.StartTurn

/-!
# Turns

`start_turn` takes an inference slot and then waits three times: for the
manifest, for the effective configuration and for the reservation. When the
reservation is granted it spawns the task that calls the provider, settles the
charge and tells the client how the turn ended.

Between two of its waits a turn is one step. The closures that reserve and
settle run on threads of their own: their commit is one step and the moment the
waiting side learns of it is another. A handler can be dropped whenever it
waits, and a restart drops every handler, task and closure and keeps the
database. Whatever else writes to the database leaves the ledger alone.
-/

namespace AsystantGateway

/-- A closure on the database that somebody waits for. -/
inductive Closure
  | running
  | finished (result : Except AppError Unit)

/-- Where a turn is. -/
inductive Phase
  /-- Its request has arrived. -/
  | received
  | loadingManifest
  | loadingConfig (manifest : Manifest)
  | reserving (job : ReserveJob) (closure : Closure)
  /-- Its inference task exists and has not called the provider yet. -/
  | spawned (job : ReserveJob)
  | inferring (job : ReserveJob)
  | settling
      (job : ReserveJob)
      (message : Message)
      (charge : Int64)
      (closure : Closure)
  /-- The client was told that it completed. -/
  | completed (job : ReserveJob) (message : Message) (charge : Int64)
  /-- The client was told that it failed. -/
  | failed (job : ReserveJob)
  /-- `start_turn` returned an error. -/
  | refused (error : AppError)
  /-- Its handler was dropped. -/
  | dropped
  /-- Its handler was dropped while it waited for the reservation. -/
  | detached (job : ReserveJob) (closure : Closure)
  /-- A restart dropped it, with what it had committed to the ledger. -/
  | lost (committed : Option (ReserveJob × Option Int64))

namespace Phase

/-- What a turn has committed to the ledger: nothing, its reservation, or its
reservation and then its charge. -/
def committed : Phase → Option (ReserveJob × Option Int64)
  | reserving job (.finished (.ok ())) => some (job, none)
  | detached job (.finished (.ok ())) => some (job, none)
  | spawned job => some (job, none)
  | inferring job => some (job, none)
  | settling job _ charge (.finished (.ok ())) => some (job, some charge)
  | settling job _ _ _ => some (job, none)
  | completed job _ charge => some (job, some charge)
  | failed job => some (job, none)
  | lost committed => committed
  | _ => none

/-- The inference slots that a turn holds. -/
def permits : Phase → Nat
  | loadingManifest => 1
  | loadingConfig _ => 1
  | reserving _ _ => 1
  | spawned _ => 1
  | inferring _ => 1
  | settling _ _ _ _ => 1
  | _ => 0

/-- Nothing can happen to the turn any more. -/
def isOver : Phase → Bool
  | completed _ _ _ => true
  | failed _ => true
  | refused _ => true
  | dropped => true
  | detached _ (.finished _) => true
  | lost _ => true
  | _ => false

/-- What a restart makes of a turn. -/
def crash (phase : Phase) : Phase :=
  if phase.isOver then phase else .lost phase.committed

end Phase

/-- A turn and where it is. -/
structure TurnRecord where
  session : Session
  turn : Turn
  phase : Phase

namespace TurnRecord

/-- The login and the request id that a turn is known by. -/
def pair (record : TurnRecord) : String × String :=
  (record.session.identity, record.turn.requestId)

/-- The id of the turn's row. -/
def id (hash : String → String) (record : TurnRecord) : String :=
  hash (Json.strings [record.session.identity, record.turn.requestId]).compact

end TurnRecord

/-- The database, the free inference slots, the turns, and the history of the
provider calls. -/
structure Gateway where
  database : Database
  free : Nat
  turns : List TurnRecord
  /-- The turns for which the provider was called, in order. No step depends on
  them. -/
  called : List (String × String)

/-- What can happen to one turn. -/
inductive TurnAction
  /-- `start_turn` is called. -/
  | begin
  /-- The manifest is read at a time, or finds no connection. -/
  | manifest (reading : Option Instant)
  /-- The configuration is loaded, or finds no connection. -/
  | config (available : Bool)
  /-- The closure that reserves runs on a day, or finds no connection. -/
  | runReserve (day : Option String)
  /-- `start_turn` learns of the reservation. -/
  | resumeReserve
  | callProvider
  /-- The provider answers, or fails or times out. -/
  | provider (answer : Option (Message × Int64))
  /-- The closure that settles runs, or finds no connection. -/
  | runSettle (available : Bool)
  /-- The task learns of the settlement. -/
  | resumeSettle
  /-- The client's connection is lost while the handler waits. -/
  | disconnect

/-- What can happen to the gateway. -/
inductive GatewayAction
  | arrive (session : Session) (turn : Turn)
  | turn (index : Nat) (action : TurnAction)
  | restart
  /-- Something else writes to the tables other than the ledger's. -/
  | elsewhere (other : Database)

/-- What the turns take from libraries and from the environment. -/
structure TurnSetting where
  codec : PolicyCodec
  parseUrl : String → Option Url
  environment : Config
  readManifest : String → Option Manifest
  hash : String → String
  /-- The number of inference slots. -/
  slots : Nat

namespace Gateway

/-- The gateway with a slot taken. -/
def acquire (gateway : Gateway) : Gateway :=
  { gateway with free := gateway.free - 1 }

/-- The gateway with a slot given back. -/
def release (gateway : Gateway) : Gateway :=
  { gateway with free := gateway.free + 1 }

end Gateway

section Step

variable (setting : TurnSetting)

namespace TurnRecord

/-- The checks before the first wait. -/
def admitTurn (record : TurnRecord) (free : Nat) : Except AppError Unit := do
  validateTurn record.turn
  if free = 0 then .error .limited
  else .ok ()

/-- The manifest of the turn's assistant, when it names the turn's model. -/
def loadManifest
    (record : TurnRecord)
    (reading : Option Instant)
    (database : Database) : Except AppError Manifest := do
  match reading with
  | none => .error .internal
  | some now =>
      let manifest ← manifest setting.readManifest record.turn.registrationId
        record.session.identity now database
      if ¬ manifest.models.contains record.turn.model then .error .invalid
      else .ok manifest

/-- The checks against the effective configuration. -/
def prepare
    (record : TurnRecord)
    (manifest : Manifest)
    (available : Bool)
    (database : Database) : Except AppError ReserveJob := do
  if available then
    let config ← effectiveConfig setting.codec setting.parseUrl
      setting.environment database
    prepareTurn record.session record.turn manifest config
  else
    .error .internal

/-- The closure that reserves. -/
def reserveOn
    (record : TurnRecord)
    (job : ReserveJob)
    (day : Option String)
    (database : Database) : Except AppError Unit × Database :=
  match day with
  | none => (.error .internal, database)
  | some day =>
      reserve (record.id setting.hash) record.session job.amount
        job.tenantLimit job.userLimit day database

/-- The closure that settles. -/
def settleWith
    (record : TurnRecord)
    (charge : Int64)
    (available : Bool)
    (database : Database) : Except AppError Unit × Database :=
  if available then settle (record.id setting.hash) charge database
  else (.error .internal, database)

/-- One step of a turn: where it is afterwards, and what it did to the
gateway. -/
def step
    (record : TurnRecord)
    (gateway : Gateway)
    (action : TurnAction) : Option (Phase × Gateway) :=
  match action, record.phase with
  | .begin, .received =>
      match record.admitTurn gateway.free with
      | .error error => some (.refused error, gateway)
      | .ok () => some (.loadingManifest, gateway.acquire)
  | .manifest reading, .loadingManifest =>
      match record.loadManifest setting reading gateway.database with
      | .error error => some (.refused error, gateway.release)
      | .ok manifest => some (.loadingConfig manifest, gateway)
  | .config available, .loadingConfig manifest =>
      match record.prepare setting manifest available gateway.database with
      | .error error => some (.refused error, gateway.release)
      | .ok job => some (.reserving job .running, gateway)
  | .runReserve day, .reserving job .running =>
      let (result, database) :=
        record.reserveOn setting job day gateway.database
      some (.reserving job (.finished result), { gateway with database })
  | .runReserve day, .detached job .running =>
      let (result, database) :=
        record.reserveOn setting job day gateway.database
      some (.detached job (.finished result), { gateway with database })
  | .resumeReserve, .reserving job (.finished result) =>
      match result with
      | .error error => some (.refused error, gateway.release)
      | .ok () => some (.spawned job, gateway)
  | .callProvider, .spawned job =>
      some (.inferring job,
        { gateway with called := gateway.called ++ [record.pair] })
  | .provider answer, .inferring job =>
      match answer with
      | none => some (.failed job, gateway.release)
      | some (message, charge) =>
          some (.settling job message charge .running, gateway)
  | .runSettle available, .settling job message charge .running =>
      let (result, database) :=
        record.settleWith setting charge available gateway.database
      some (.settling job message charge (.finished result),
        { gateway with database })
  | .resumeSettle, .settling job message charge (.finished result) =>
      match result with
      | .error _ => some (.failed job, gateway.release)
      | .ok () => some (.completed job message charge, gateway.release)
  | .disconnect, .received => some (.dropped, gateway)
  | .disconnect, .loadingManifest => some (.dropped, gateway.release)
  | .disconnect, .loadingConfig _ => some (.dropped, gateway.release)
  | .disconnect, .reserving job closure =>
      some (.detached job closure, gateway.release)
  | _, _ => none

end TurnRecord

/-- One step of the gateway. -/
def Gateway.step (gateway : Gateway) : GatewayAction → Option Gateway
  | .arrive session turn =>
      some { gateway with
        turns := gateway.turns ++ [{ session, turn, phase := .received }] }
  | .turn index action => do
      let record ← gateway.turns[index]?
      let (phase, after) ← record.step setting gateway action
      return { after with
        turns := gateway.turns.set index { record with phase } }
  | .restart =>
      some { gateway with
        free := setting.slots
        turns := gateway.turns.map fun record =>
          { record with phase := record.phase.crash } }
  | .elsewhere other =>
      some { gateway with
        database := { other with
          accounts := gateway.database.accounts
          requests := gateway.database.requests } }

/-- Any number of concurrent turns. -/
def turns : Machine Gateway GatewayAction where
  start := {
    database := .empty
    free := setting.slots
    turns := []
    called := [] }
  step := Gateway.step setting

end Step

end AsystantGateway
