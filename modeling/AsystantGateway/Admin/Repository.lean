import AsystantGateway.Admin.Policy
import AsystantGateway.Library.Machine
import AsystantGateway.Repository.Database

/-!
# Saving and loading the policy

A save reads the stored document, merges it over the environment's
configuration, edits and checks the result, and writes its document back, all
in one transaction. The effective configuration is the stored document merged
over the environment's configuration. Writing and reading the document as JSON
text is a parameter.
-/

namespace AsystantGateway

/-- Documents as text. -/
structure PolicyCodec where
  toText : Policy → String
  fromText : String → Option Policy

/-- Read a stored document. -/
def PolicyCodec.read
    (codec : PolicyCodec)
    (document : String) : Except AppError Policy :=
  match codec.fromText document with
  | none => .error .internal
  | some policy => .ok policy

/-- `SELECT document FROM admin_policy`. -/
def selectPolicy : Transaction (Option String) := fun database =>
  .ok (database.adminPolicy, database)

/-- `INSERT INTO admin_policy ... ON CONFLICT(id) DO UPDATE`. -/
def upsertPolicy (document : String) : Transaction Unit := fun database =>
  .ok ((), { database with adminPolicy := some document })

/-- A result of the program inside a transaction. -/
def liftResult (result : Except AppError α) : Transaction α := fun database =>
  match result with
  | .error error => .error (.app error)
  | .ok value => .ok (value, database)

section Administration

variable
  (codec : PolicyCodec)
  (parse : String → Option Url)
  (environment : Config)

/-- The policy that is stored, the default one when none is. -/
def loadPolicy (database : Database) : Except AppError Policy :=
  match database.adminPolicy with
  | none => .ok .default
  | some document => codec.read document

/-- The configuration that requests are served with. -/
def effectiveConfig (database : Database) : Except AppError Config := do
  let policy ← loadPolicy codec database
  policy.apply parse environment

/-- The configuration that an edit starts from. -/
def baseConfig (row : Option String) : Except AppError Config :=
  match row with
  | none => .ok environment
  | some document => do
      let policy ← codec.read document
      policy.apply parse environment

/-- The body of the transaction of a save. -/
def updatePolicyBody (edit : EditPolicy) : Transaction Unit := do
  let row ← selectPolicy
  let config ← liftResult (baseConfig codec parse environment row)
  let config ← liftResult (edit.apply parse config)
  upsertPolicy (codec.toText (.fromConfig config))

/-- Read, merge, validate and persist. -/
def updatePolicy
    (edit : EditPolicy)
    (database : Database) : Except AppError Unit × Database :=
  immediateTransaction (updatePolicyBody codec parse environment edit)
    database

/-- One call of the administration. A call that finds no connection is
`unavailable`. -/
inductive AdminCall
  | updatePolicy (edit : EditPolicy)
  | unavailable

/-- The administration under any serialisation of its callers. -/
def administration : Mealy Database AdminCall (Except AppError Unit) where
  start := .empty
  respond database call :=
    match call with
    | .updatePolicy edit =>
        AsystantGateway.updatePolicy codec parse environment edit database
    | .unavailable => (.error .internal, database)

/-- The body of a save once it has read the stored document. -/
theorem run_updatePolicyBody (edit : EditPolicy) (database : Database) :
    (updatePolicyBody codec parse environment edit).run database =
      ((liftResult (baseConfig codec parse environment
          database.adminPolicy)) >>= fun config =>
        liftResult (edit.apply parse config) >>= fun config =>
          upsertPolicy (codec.toText (.fromConfig config))).run database :=
  rfl

/-- A save whose edit applies stores the document of the edited
configuration. -/
theorem updatePolicy_of_ok
    {edit : EditPolicy}
    {database : Database}
    {base edited : Config}
    (based : baseConfig codec parse environment database.adminPolicy =
      .ok base)
    (applied : edit.apply parse base = .ok edited) :
    updatePolicy codec parse environment edit database =
      (.ok (), { database with
        adminPolicy := some (codec.toText (.fromConfig edited)) }) := by
  apply immediateTransaction_of_ok
  rw [run_updatePolicyBody, based, Fallible.run_bind_of_ok rfl, applied]
  rfl

/-- What a save does: it stores the document of the edited configuration, or
it fails and changes nothing. -/
theorem updatePolicy_cases (edit : EditPolicy) (database : Database) :
    (∃ base edited,
      baseConfig codec parse environment database.adminPolicy = .ok base ∧
        edit.apply parse base = .ok edited ∧
        updatePolicy codec parse environment edit database =
          (.ok (), { database with
            adminPolicy := some (codec.toText (.fromConfig edited)) })) ∨
    ∃ error, updatePolicy codec parse environment edit database =
      (.error error, database) := by
  unfold updatePolicy
  cases based : baseConfig codec parse environment database.adminPolicy with
  | error error =>
      have stopped : (updatePolicyBody codec parse environment edit).run
          database = .error (.app error) := by
        rw [run_updatePolicyBody, based]
        rfl
      exact .inr ⟨error, immediateTransaction_of_error stopped⟩
  | ok base =>
      cases applied : edit.apply parse base with
      | error error =>
          have stopped : (updatePolicyBody codec parse environment edit).run
              database = .error (.app error) := by
            rw [run_updatePolicyBody, based, Fallible.run_bind_of_ok rfl,
              applied]
            rfl
          exact .inr ⟨error, immediateTransaction_of_error stopped⟩
      | ok edited =>
          exact .inl ⟨base, edited, rfl, applied,
            updatePolicy_of_ok codec parse environment based applied⟩

end Administration

end AsystantGateway
