import AsystantGateway.Admin.RoundTrip
import AsystantGateway.Repository.Tenancy
import AsystantGateway.Service.TurnMachine

/-!
# Registration and the model checks of a turn

An assistant is registered with a list of models: the default model of its
user's policy, and those others that the policy lets it choose and that it asked
for. A later turn is checked against that list and against the policy of its
own moment. The two agree: the registered list is made of what the first policy
permits, and a turn passes exactly when its model is on the list and permitted
by the second.
-/

namespace AsystantGateway

open Checks

section PushNew

variable {α : Type} [DecidableEq α]

/-- Append an element when it is wanted and not there yet. -/
def pushIfNew
    (wanted : α → Bool)
    (kept : List α)
    (item : α) : List α :=
  if wanted item ∧ ¬ kept.contains item then kept ++ [item]
  else kept

/-- Append those elements of a list that are wanted and not there yet. -/
def pushNew
    (wanted : α → Bool)
    (kept items : List α) : List α :=
  items.foldl (pushIfNew wanted) kept

variable {wanted : α → Bool} {kept items : List α} {item : α}

theorem mem_pushIfNew
    {other : α} :
    other ∈ pushIfNew wanted kept item ↔
      other ∈ kept ∨ other = item ∧ wanted item = true := by
  unfold pushIfNew
  split
  · rename_i isNew
    simp [isNew.1]
  · rename_i isOld
    constructor
    · exact .inl
    · rintro (present | ⟨rfl, isWanted⟩)
      · exact present
      · rw [not_and, not_not, List.contains_iff_mem] at isOld
        exact isOld isWanted

theorem mem_pushNew :
    item ∈ pushNew wanted kept items ↔
      item ∈ kept ∨ item ∈ items ∧ wanted item = true := by
  induction items generalizing kept with
  | nil => simp [pushNew]
  | cons head tail inductionHypothesis =>
      refine inductionHypothesis.trans ?_
      rw [mem_pushIfNew, List.mem_cons]
      constructor
      · rintro ((present | ⟨rfl, isWanted⟩) | later)
        · exact .inl present
        · exact .inr ⟨.inl rfl, isWanted⟩
        · exact .inr ⟨.inr later.1, later.2⟩
      · rintro (present | ⟨rfl | inTail, isWanted⟩)
        · exact .inl (.inl present)
        · exact .inl (.inr ⟨rfl, isWanted⟩)
        · exact .inr ⟨inTail, isWanted⟩

theorem nodup_pushNew
    (distinct : kept.Nodup) :
    (pushNew wanted kept items).Nodup := by
  induction items generalizing kept with
  | nil => exact distinct
  | cons head tail inductionHypothesis =>
      apply inductionHypothesis
      unfold pushIfNew
      split
      · rename_i isNew
        rw [List.contains_iff_mem] at isNew
        refine distinct.append (List.nodup_singleton head) ?_
        simpa using isNew.2
      · exact distinct

/-- The list only grows at its end. -/
theorem prefix_pushNew :
    kept <+: pushNew wanted kept items := by
  induction items generalizing kept with
  | nil => exact List.prefix_rfl
  | cons head tail inductionHypothesis =>
      refine List.IsPrefix.trans ?_ inductionHypothesis
      unfold pushIfNew
      split
      · exact List.prefix_append kept [head]
      · exact List.prefix_rfl

end PushNew

/-! ## Registration -/

/-- Check one tool against the names of the tools before it. -/
def checkTool
    (names : List String)
    (tool : Json.Value) : Except AppError (List String) :=
  match (tool.index "name").asStr with
  | none => .error .invalid
  | some name =>
      if name = "" ∨ name.utf8ByteSize > 64 ∨
          ¬ (name.toList.all fun char => char.isAlphanum || char = '_') ∨
          name ∈ names ∨ (tool.index "description").asStr = none ∨
          ((tool.index "parameters").index "type").asStr ≠ some "object" then
        .error .invalid
      else
        .ok (name :: names)

/-- Check the sizes of a manifest and its tools. -/
def validateManifest (manifest : Manifest) : Except AppError Unit :=
  if manifest.tools.length > 64 ∨ manifest.prompts.length > 16 ∨
      manifest.models.length > 32 ∨ manifest.text.utf8ByteSize > 64000 then
    .error .invalid
  else do
    let _ ← manifest.tools.foldlM checkTool []
    return ()

/-- The policy of a session's user. -/
def Config.policyOf
    (config : Config)
    (session : Session) : Except AppError ModelPolicy :=
  match config.products.find? fun product =>
      product.issuer = session.issuer with
  | none => .error .authentication
  | some product => product.modelPolicy session.tenant session.subject

/-- The models an assistant is registered with, when it asked for some. -/
def registeredModels
    (policy : ModelPolicy)
    (requested : List String) : List String :=
  if policy.allowSelection then
    pushNew (fun model => requested.isEmpty || requested.contains model)
      [policy.defaultModel] policy.models
  else
    [policy.defaultModel]

/-- Register an assistant under a random id, at a time. What the client is told
is the id, the models and the policy they come from. -/
def registerWithPolicy
    (setting : TurnSetting)
    (id : String)
    (session : Session)
    (manifest : Manifest)
    (now : Instant)
    (database : Database) :
    Except AppError (String × List String × ModelPolicy) × Database :=
  let prepared := do
    validateManifest manifest
    let config ← effectiveConfig setting.codec setting.parseUrl
      setting.environment database
    config.policyOf session
  match prepared with
  | .error error => (.error error, database)
  | .ok policy =>
      let models := registeredModels policy manifest.models
      match register id session { manifest with models } now database with
      | (.error error, after) => (.error error, after)
      | (.ok (), after) => (.ok (id, models, policy), after)

/-- What a list of registered models is, for the policy it comes from. -/
structure RegisteredUnder
    (policy : ModelPolicy)
    (requested models : List String) : Prop where
  distinct : models.Nodup
  first : models.head? = some policy.defaultModel
  permitted : ∀ model ∈ models, policy.permits model = true
  complete : requested = [] →
    ∀ model, model ∈ models ↔ policy.permits model = true
  fixed : policy.allowSelection = false → models = [policy.defaultModel]

theorem registeredModels_registeredUnder
    {product : Product}
    {policy : ModelPolicy}
    (ofProduct : policy.OfProduct product)
    (requested : List String) :
    RegisteredUnder policy requested (registeredModels policy requested) := by
  unfold registeredModels
  cases selects : policy.allowSelection with
  | false =>
      have only : ∀ model, policy.permits model = true ↔
          model = policy.defaultModel := by
        intro model
        rw [ModelPolicy.permits_iff, ofProduct.fixed selects, selects]
        simp
      refine ⟨List.nodup_singleton _, rfl, ?_, ?_, fun _ => rfl⟩
      · intro model member
        exact (only model).mpr (List.mem_singleton.mp member)
      · intro _ model
        exact List.mem_singleton.trans (only model).symm
  | true =>
      have listed : ∀ model, policy.permits model = true ↔
          model ∈ policy.models := by
        intro model
        rw [ModelPolicy.permits_iff, selects]
        simp
      rw [if_pos rfl]
      have grown : [policy.defaultModel] <+: pushNew
          (fun model => requested.isEmpty || requested.contains model)
          [policy.defaultModel] policy.models := prefix_pushNew
      refine ⟨nodup_pushNew (List.nodup_singleton _), ?_, ?_, ?_, ?_⟩
      · obtain ⟨others, same⟩ := grown
        rw [← same]
        rfl
      · intro model member
        rw [listed]
        rcases mem_pushNew.mp member with isDefault | ⟨isListed, _⟩
        · rw [List.mem_singleton.mp isDefault]
          exact ofProduct.defaultModel
        · exact isListed
      · rintro rfl model
        rw [listed, mem_pushNew, List.mem_singleton]
        constructor
        · rintro (rfl | ⟨isListed, _⟩)
          · exact ofProduct.defaultModel
          · exact isListed
        · exact fun isListed => .inr ⟨isListed, rfl⟩
      · intro fixed
        rw [selects] at fixed
        cases fixed

/-! ## The model checks of a turn -/

/-- The checks of a turn's model against a configuration. -/
def checkedModel
    (session : Session)
    (turn : Turn)
    (config : Config) : Except AppError (ModelConfig × Product) :=
  match config.models.find? fun model => model.id = turn.model with
  | none => .error .invalid
  | some model =>
      match config.products.find? fun product =>
          product.issuer = session.issuer with
      | none => .error .authentication
      | some product => do
          let policy ← product.modelPolicy session.tenant session.subject
          if ¬ policy.permits model.id then .error .invalid
          else .ok (model, product)

/-- What follows the model checks: the input is bounded and the reservation is
computed. -/
def costedJob
    (session : Session)
    (turn : Turn)
    (manifest : Manifest)
    (checked : ModelConfig × Product) : Except AppError ReserveJob :=
  let (model, product) := checked
  let input := inputEstimate manifest turn
  if input > model.maxInputTokens.toNat then
    .error (.inputLimit input model.maxInputTokens)
  else do
    let amount ← model.reservation
    let (tenantLimit, userLimit) :=
      product.limits session.tenant session.subject
    .ok { amount, tenantLimit, userLimit }

/-- The model checks come first in what a turn is checked for. -/
theorem prepareTurn_eq
    (session : Session)
    (turn : Turn)
    (manifest : Manifest)
    (config : Config) :
    prepareTurn session turn manifest config =
      checkedModel session turn config >>= costedJob session turn manifest := by
  unfold prepareTurn checkedModel
  cases config.models.find? fun model => model.id = turn.model with
  | none => rfl
  | some model =>
      cases config.products.find? fun product =>
          product.issuer = session.issuer with
      | none => rfl
      | some product =>
          cases given : product.modelPolicy session.tenant
              session.subject with
          | error error => simp only [given, bind, Except.bind]
          | ok policy =>
              simp only [given, bind, Except.bind]
              by_cases permitted : policy.permits model.id = true
              · simp only [permitted, not_true_eq_false, if_false]
                rfl
              · rw [if_pos permitted, if_pos permitted]

/-- A configuration permits a model to a session's user. -/
def Config.Permits
    (config : Config)
    (session : Session)
    (model : String) : Prop :=
  ∃ policy, config.policyOf session = .ok policy ∧
    policy.permits model = true

theorem Config.policyOf_eq_ok_iff
    {config : Config}
    {session : Session}
    {policy : ModelPolicy} :
    config.policyOf session = .ok policy ↔
      ∃ product,
        config.products.find? (fun product =>
            product.issuer = session.issuer) = some product ∧
          product.modelPolicy session.tenant session.subject =
            .ok policy := by
  unfold policyOf
  cases config.products.find? fun product =>
      product.issuer = session.issuer with
  | none => simp
  | some product => simp

/-- Against a valid configuration a turn passes the model checks exactly when
the configuration permits its model: what it permits is registered. -/
theorem checkedModel_ok_iff
    {parse : String → Option Url}
    {session : Session}
    {turn : Turn}
    {config : Config}
    (valid : config.Valid parse) :
    (∃ checked, checkedModel session turn config = .ok checked) ↔
      config.Permits session turn.model := by
  unfold Config.Permits
  simp only [Config.policyOf_eq_ok_iff]
  constructor
  · rintro ⟨checked, passed⟩
    unfold checkedModel at passed
    split at passed
    · cases passed
    · rename_i model isModel
      have sameId : model.id = turn.model := by
        simpa using List.find?_some isModel
      split at passed
      · cases passed
      · rename_i product isProduct
        obtain ⟨policy, given, permitted⟩ := bind_eq_ok_iff.mp passed
        split at permitted
        · cases permitted
        · rename_i isPermitted
          rw [not_not, sameId] at isPermitted
          exact ⟨policy, ⟨product, isProduct, given⟩, isPermitted⟩
  · rintro ⟨policy, ⟨product, isProduct, given⟩, isPermitted⟩
    have isListed := (Product.modelPolicy_ofProduct given).models turn.model
      (ModelPolicy.permits_iff.mp isPermitted).1
    have isRegistered := (valid.productsValid product
      (List.mem_of_find?_eq_some isProduct)).modelsKnown turn.model isListed
    obtain ⟨other, isOther, otherId⟩ := List.mem_map.mp isRegistered
    have exists_ : (config.models.find? fun model =>
        model.id = turn.model).isSome = true :=
      List.find?_isSome.mpr ⟨other, isOther, by simpa using otherId⟩
    obtain ⟨model, isModel⟩ := Option.isSome_iff_exists.mp exists_
    have sameId : model.id = turn.model := by
      simpa using List.find?_some isModel
    refine ⟨(model, product), ?_⟩
    simp only [checkedModel, isModel, isProduct, given, bind, Except.bind,
      sameId, isPermitted, not_true_eq_false, if_false]

/-! ## Registrations last -/

/-- Everything that is called on the database. -/
inductive StoreCall
  | tenant (call : TenantCall)
  | admin (call : AdminCall)

/-- The database after a call. -/
def StoreCall.perform
    (setting : TurnSetting)
    (database : Database) : StoreCall → Database
  | .tenant call => (call.perform setting.readManifest database).2
  | .admin call =>
      ((administration setting.codec setting.parseUrl
        setting.environment).respond database call).2

/-- The database after a sequence of calls. -/
def runStore
    (setting : TurnSetting)
    (calls : List StoreCall)
    (database : Database) : Database :=
  calls.foldl (StoreCall.perform setting) database

section Leaves

open Fallible

theorem leaves_countRevoked (key : String) :
    Leaves Database.registrations (countRevoked key) := by
  intro database count after ran
  simp only [countRevoked, StateT.run] at ran
  split at ran <;> cases ran <;> rfl

theorem leaves_insertConsumedTicket
    (id : String)
    (expiresAt : Instant) :
    Leaves Database.registrations (insertConsumedTicket id expiresAt) := by
  intro database value after ran
  simp only [insertConsumedTicket, StateT.run] at ran
  split at ran <;> cases ran
  rfl

theorem leaves_insertSession (session : Session) :
    Leaves Database.registrations (insertSession session) := by
  intro database value after ran
  simp only [insertSession, StateT.run] at ran
  split at ran <;> cases ran
  rfl

theorem leaves_insertRequest
    (id identity tenantAccount userAccount : String)
    (reservation : Int64) :
    Leaves Database.registrations
      (insertRequest id identity tenantAccount userAccount reservation) := by
  intro database value after ran
  simp only [insertRequest, StateT.run] at ran
  split at ran
  · split at ran <;> cases ran
    rfl
  · cases ran

theorem leaves_updateHeldMicros (id : String) (next : Int64) :
    Leaves Database.registrations (updateHeldMicros id next) := by
  intro database value after ran
  simp only [updateHeldMicros, StateT.run] at ran
  split at ran
  · cases ran
    rfl
  · split at ran <;> cases ran
    rfl

theorem leaves_selectHeldMicros (id : String) :
    Leaves Database.registrations (selectHeldMicros id) := by
  intro database held after ran
  simp only [selectHeldMicros, StateT.run] at ran
  split at ran <;> cases ran
  rfl

theorem leaves_holdAmount
    (amount : Int64)
    (account : String)
    (limit : Int64) :
    Leaves Database.registrations (holdAmount amount account limit) := by
  have inserted : Leaves Database.registrations
      (insertAccountOrIgnore account) := by
    intro database value after ran
    cases ran
    rfl
  refine inserted.bind fun _ => (leaves_selectHeldMicros account).bind
    fun held => ?_
  split
  · exact .throw _
  · split
    · exact .throw _
    · exact leaves_updateHeldMicros account _

theorem leaves_settleAccount
    (reservation charge : Int64)
    (account : String) :
    Leaves Database.registrations
      (settleAccount reservation charge account) := by
  refine (leaves_selectHeldMicros account).bind fun held => ?_
  split
  · exact .throw _
  · exact leaves_updateHeldMicros account _

theorem leaves_exchangeBody (claims : TicketClaims) (session : Session) :
    Leaves Database.registrations (exchangeBody claims session) := by
  refine (leaves_countRevoked _).bind fun revoked => ?_
  split
  · exact .throw _
  · exact (leaves_insertConsumedTicket _ _).bind
      fun _ => leaves_insertSession session

theorem leaves_reserveBody
    (id : String)
    (session : Session)
    (amount tenantLimit userLimit : Int64)
    (day : String) :
    Leaves Database.registrations
      (reserveBody id session amount tenantLimit userLimit day) := by
  refine (leaves_insertRequest _ _ _ _ _).bind fun _ => ?_
  rw [forM_pair]
  exact (leaves_holdAmount _ _ _).bind fun _ => leaves_holdAmount _ _ _

theorem leaves_settleBody (id : String) (charge : Int64) :
    Leaves Database.registrations (settleBody id charge) := by
  have selected : Leaves Database.registrations (selectRequest id) := by
    intro database request after ran
    simp only [selectRequest, StateT.run] at ran
    split at ran <;> cases ran
    rfl
  have settled : Leaves Database.registrations (settleRequest id charge) := by
    intro database value after ran
    cases ran
    rfl
  refine selected.bind fun request => ?_
  split
  · exact .throw _
  · rw [forM_pair]
    exact ((leaves_settleAccount _ _ _).bind
      fun _ => leaves_settleAccount _ _ _).bind fun _ => settled

/-- What registering does: it adds one row, or changes nothing. -/
theorem register_cases
    (id : String)
    (session : Session)
    (manifest : Manifest)
    (now : Instant)
    (database : Database) :
    (∃ registrations,
      database.registrations.insert
          { id, identity := session.identity, manifest := manifest.text,
            expiresAt := now + dayNanos } = some registrations ∧
        register id session manifest now database =
          (.ok (), { database with registrations })) ∨
    ∃ error, register id session manifest now database =
      (.error error, database) := by
  cases inserted : database.registrations.insert
      { id, identity := session.identity, manifest := manifest.text,
        expiresAt := now + dayNanos } with
  | none =>
      refine .inr ⟨Failure.toAppError (.sql .uniqueViolation),
        immediateTransaction_of_error ?_⟩
      simp only [insertRegistration, StateT.run, inserted]
  | some registrations =>
      refine .inl ⟨registrations, rfl, immediateTransaction_of_ok ?_⟩
      simp only [insertRegistration, StateT.run, inserted]

theorem register_registration
    {database : Database}
    {id : String}
    {row : Registration}
    (registered : database.registrations.find id = some row)
    (other : String)
    (session : Session)
    (manifest : Manifest)
    (now : Instant) :
    (register other session manifest now database).2.registrations.find id =
      some row := by
  rcases register_cases other session manifest now database with
    ⟨registrations, inserted, ran⟩ | ⟨error, failed⟩
  · rw [ran]
    change registrations.find id = some row
    rw [Table.find_insert inserted]
    have free := (Table.insert_eq_some_iff.mp inserted).1
    have isOther : other ≠ id := by
      rintro rfl
      rw [registered] at free
      cases free
    rw [if_neg isOther]
    exact registered
  · rw [failed]
    exact registered

/-- A registration that is in the database stays as it is, whatever is called:
registrations are only ever added. -/
theorem StoreCall.perform_registration
    {setting : TurnSetting}
    {database : Database}
    {id : String}
    {row : Registration}
    (registered : database.registrations.find id = some row)
    (call : StoreCall) :
    (call.perform setting database).registrations.find id = some row := by
  cases call with
  | admin call =>
      cases call with
      | unavailable => exact registered
      | updatePolicy edit =>
          change (updatePolicy setting.codec setting.parseUrl
            setting.environment edit database).2.registrations.find id =
              some row
          rcases updatePolicy_cases setting.codec setting.parseUrl
              setting.environment edit database with
            ⟨base, edited, _, _, saved⟩ | ⟨error, failed⟩
          · rw [saved]
            exact registered
          · rw [failed]
            exact registered
  | tenant call =>
      obtain ⟨claims, tokenHash, expiresAt, operation⟩ := call
      cases operation with
      | exchange =>
          rw [← registered]
          exact congrArg (Table.find · id) (immediateTransaction_leaves
            (leaves_exchangeBody _ _) database)
      | register other manifest now =>
          change (register other _ manifest now
            database).2.registrations.find id = some row
          exact register_registration registered _ _ _ _
      | reserve other amount tenantLimit userLimit day =>
          rw [← registered]
          refine congrArg (Table.find · id) ?_
          change (reserve _ _ _ _ _ _ database).2.registrations = _
          unfold reserve
          split
          · rfl
          · exact immediateTransaction_leaves
              (leaves_reserveBody _ _ _ _ _ _) database
      | settle other charge =>
          rw [← registered]
          refine congrArg (Table.find · id) ?_
          change (settle _ _ database).2.registrations = _
          unfold settle
          split
          · rfl
          · exact immediateTransaction_leaves (leaves_settleBody _ _) database
      | authenticate now => exact registered
      | selectSession now => exact registered
      | refuseRevoked => exact registered
      | revoke => exact registered
      | manifest other now => exact registered

end Leaves

/-- So it stays through every sequence of calls. -/
theorem runStore_registration
    (setting : TurnSetting)
    {database : Database}
    {id : String}
    {row : Registration}
    (registered : database.registrations.find id = some row)
    (calls : List StoreCall) :
    (runStore setting calls database).registrations.find id = some row := by
  induction calls generalizing database with
  | nil => exact registered
  | cons call calls inductionHypothesis =>
      exact inductionHypothesis (call.perform_registration registered)

/-- What a successful registration has done. -/
theorem registerWithPolicy_ok
    {setting : TurnSetting}
    {id id' : String}
    {session : Session}
    {manifest : Manifest}
    {now : Instant}
    {database after : Database}
    {models : List String}
    {policy : ModelPolicy}
    (registered : registerWithPolicy setting id session manifest now database =
      (.ok (id', models, policy), after)) :
    id' = id ∧ models = registeredModels policy manifest.models ∧
      (∃ config,
        effectiveConfig setting.codec setting.parseUrl setting.environment
            database = .ok config ∧
          config.policyOf session = .ok policy) ∧
      after.registrations.find id = some
        { id, identity := session.identity,
          manifest := { manifest with models }.text,
          expiresAt := now + dayNanos } := by
  unfold registerWithPolicy at registered
  dsimp only at registered
  split at registered
  · cases registered
  · rename_i given prepared
    obtain ⟨_, config, effective, isPolicy⟩ : _ ∧ ∃ config, _ ∧ _ := by
      rw [seq_eq_ok_iff, bind_eq_ok_iff] at prepared
      exact prepared
    rcases register_cases id session
        { manifest with models := registeredModels given manifest.models } now
        database with ⟨registrations, inserted, ran⟩ | ⟨error, failed⟩
    · rw [ran] at registered
      cases registered
      refine ⟨rfl, rfl, ⟨config, effective, isPolicy⟩, ?_⟩
      change registrations.find id = _
      rw [Table.find_insert inserted, if_pos rfl]
    · rw [failed] at registered
      cases registered

/-- An accepted manifest of a user with a policy is registered under a free
id. -/
theorem registerWithPolicy_of_free
    {setting : TurnSetting}
    {id : String}
    {session : Session}
    {manifest : Manifest}
    {now : Instant}
    {database : Database}
    {config : Config}
    {policy : ModelPolicy}
    (accepted : validateManifest manifest = .ok ())
    (effective : effectiveConfig setting.codec setting.parseUrl
      setting.environment database = .ok config)
    (given : config.policyOf session = .ok policy)
    (free : database.registrations.find id = none) :
    ∃ registrations,
      registerWithPolicy setting id session manifest now database =
        (.ok (id, registeredModels policy manifest.models, policy),
          { database with registrations }) := by
  let registered : Manifest :=
    { manifest with models := registeredModels policy manifest.models }
  let row : Registration :=
    { id, identity := session.identity, manifest := registered.text,
      expiresAt := now + dayNanos }
  obtain ⟨registrations, inserted⟩ : ∃ registrations,
      database.registrations.insert row = some registrations :=
    Table.exists_insert row free
  have stored : register id session registered now database =
      (.ok (), { database with registrations }) := by
    apply immediateTransaction_of_ok
    change insertRegistration row database = _
    simp only [insertRegistration, inserted]
  refine ⟨registrations, ?_⟩
  unfold registerWithPolicy
  simp only [accepted, effective, given, bind, Except.bind]
  exact congrArg (fun result : Except AppError Unit × Database =>
    (match result with
    | (.error error, after) => (.error error, after)
    | (.ok (), after) => (.ok (id, registered.models, policy), after) :
      Except AppError (String × List String × ModelPolicy) × Database)) stored

/-- A turn passes the model checks: its manifest is there and names its model,
and so does the policy of its user. The manifest and the configuration are read
at different moments. -/
def PassesModelChecks
    (setting : TurnSetting)
    (session : Session)
    (turn : Turn)
    (reading : Instant)
    (first second : Database) : Prop :=
  (∃ manifest, TurnRecord.loadManifest setting
    { session, turn, phase := .loadingManifest } (some reading) first =
      .ok manifest) ∧
  ∃ config checked,
    effectiveConfig setting.codec setting.parseUrl setting.environment
        second = .ok config ∧
      checkedModel session turn config = .ok checked

/-- While a registration lasts, the manifest of a turn that names it is there
for the same login, and the turn's model must be on its list. -/
theorem loadManifest_iff
    {setting : TurnSetting}
    {session : Session}
    {turn : Turn}
    {manifest : Manifest}
    {reading : Instant}
    {database : Database}
    (readBack : setting.readManifest manifest.text = some manifest)
    {row : Registration}
    (registered : database.registrations.find turn.registrationId = some row)
    (sameLogin : row.identity = session.identity)
    (sameManifest : row.manifest = manifest.text)
    (lasts : reading < row.expiresAt) :
    (∃ loaded, TurnRecord.loadManifest setting
      { session, turn, phase := .loadingManifest } (some reading) database =
        .ok loaded) ↔
      turn.model ∈ manifest.models := by
  have read : AsystantGateway.manifest setting.readManifest
      turn.registrationId session.identity reading database =
        .ok manifest := by
    unfold AsystantGateway.manifest
    rw [registered]
    simp only [sameLogin, sameManifest, lasts, and_self, if_true, readBack]
  unfold TurnRecord.loadManifest
  simp only [read, bind, Except.bind, List.contains_iff_mem]
  by_cases named : turn.model ∈ manifest.models
  · simp [named]
  · simp [named]

/-- Registration and inference agree on the models. The list a client is given
starts with the default model of its user's policy, repeats nothing and is made
of what the policy permits: all of it when the client asked for nothing, the
default alone when there is no selection. Whatever is called afterwards, a turn
of the same login that names the registration while it lasts passes the model
checks exactly when its model is on the list and permitted by the configuration
then in effect; so under the same policy every registered model passes. And
whatever is registered, a model that the configuration does not permit is
refused before anything is reserved. -/
theorem registration_agrees
    (setting : TurnSetting)
    (id : String)
    (session : Session)
    (manifest : Manifest)
    (now : Instant)
    (database after : Database)
    (id' : String)
    (models : List String)
    (policy : ModelPolicy)
    (registered : registerWithPolicy setting id session manifest now database =
      (.ok (id', models, policy), after))
    (readBack : setting.readManifest { manifest with models }.text =
      some { manifest with models }) :
    ((∃ config,
        effectiveConfig setting.codec setting.parseUrl setting.environment
            database = .ok config ∧
          config.policyOf session = .ok policy) ∧
      RegisteredUnder policy manifest.models models) ∧
    ∀ (calls more : List StoreCall) (caller : Session) (turn : Turn)
      (reading : Instant) (config : Config),
      caller.identity = session.identity → turn.registrationId = id' →
      reading < now + dayNanos →
      effectiveConfig setting.codec setting.parseUrl setting.environment
          (runStore setting more (runStore setting calls after)) =
        .ok config →
      (PassesModelChecks setting caller turn reading
          (runStore setting calls after)
          (runStore setting more (runStore setting calls after)) ↔
        turn.model ∈ models ∧ config.Permits caller turn.model) ∧
      (config.policyOf caller = .ok policy → turn.model ∈ models →
        PassesModelChecks setting caller turn reading
          (runStore setting calls after)
          (runStore setting more (runStore setting calls after))) ∧
      (¬ config.Permits caller turn.model →
        ∀ manifest gateway,
          gateway.database =
              runStore setting more (runStore setting calls after) →
          ∃ error,
            TurnRecord.step setting
                { session := caller, turn, phase := .loadingConfig manifest }
                gateway (.config true) =
              some (.refused error, gateway.release)) := by
  obtain ⟨rfl, rfl, given, stored⟩ := registerWithPolicy_ok registered
  obtain ⟨before, effectiveBefore, isPolicy⟩ := given
  obtain ⟨product, _, isOfProduct⟩ :=
    Config.policyOf_eq_ok_iff.mp isPolicy
  have underPolicy := registeredModels_registeredUnder
    (Product.modelPolicy_ofProduct isOfProduct) manifest.models
  refine ⟨⟨⟨before, effectiveBefore, isPolicy⟩, underPolicy⟩, ?_⟩
  rintro calls more caller turn reading config sameLogin rfl lasts effective
  obtain ⟨_, _, applied⟩ := bind_eq_ok_iff.mp effective
  have valid := (Policy.apply_eq_ok_iff.mp applied).2
  have kept := runStore_registration setting stored calls
  have passes : PassesModelChecks setting caller turn reading
      (runStore setting calls after)
      (runStore setting more (runStore setting calls after)) ↔
        turn.model ∈ registeredModels policy manifest.models ∧
          config.Permits caller turn.model := by
    unfold PassesModelChecks
    rw [loadManifest_iff readBack kept sameLogin.symm rfl lasts, ← checkedModel_ok_iff valid]
    simp only [effective, Except.ok.injEq]
    constructor
    · rintro ⟨listed, other, checked, rfl, passed⟩
      exact ⟨listed, checked, passed⟩
    · rintro ⟨listed, checked, passed⟩
      exact ⟨listed, config, checked, rfl, passed⟩
  refine ⟨passes, ?_, ?_⟩
  · intro same listed
    exact passes.mpr ⟨listed, policy, same,
      underPolicy.permitted turn.model listed⟩
  · intro refused other gateway sameDatabase
    have failed : ∃ error, checkedModel caller turn config =
        .error error := by
      cases checked : checkedModel caller turn config with
      | error error => exact ⟨error, rfl⟩
      | ok model =>
          exact absurd ((checkedModel_ok_iff valid).mp ⟨model, checked⟩)
            refused
    obtain ⟨error, failed⟩ := failed
    have prepared : TurnRecord.prepare setting
        { session := caller, turn, phase := .loadingConfig other } other true
          gateway.database = .error error := by
      unfold TurnRecord.prepare
      rw [if_pos rfl, sameDatabase, effective]
      change prepareTurn caller turn other config = .error error
      rw [prepareTurn_eq, failed]
      rfl
    refine ⟨error, ?_⟩
    simp only [TurnRecord.step, prepared]

/-- A manifest that asks for no tools, prompts or models. -/
def plainManifest : Manifest where
  tools := []
  prompts := []
  models := []

/-- What is stored for it in the shop. -/
def storedManifest : Manifest where
  tools := []
  prompts := []
  models := ["m"]

/-- A user of the shop. -/
def shopper : Session where
  tokenHash := "token"
  identity := "[\"shop\",\"tenant\",\"user\",\"login\"]"
  sid := "[\"shop\",\"tenant\",\"user\",\"login\"]"
  issuer := "shop"
  tenant := "tenant"
  subject := "user"
  expiresAt := 10

/-- The shop, with a reader of the one manifest that is stored. -/
def shopSetting : TurnSetting where
  codec := { toText := fun _ => "", fromText := fun _ => none }
  parseUrl _ := none
  environment := shopConfig
  readManifest text :=
    if text = storedManifest.text then some storedManifest else none
  hash text := text
  slots := 1

/-- A turn of the shopper. -/
def shopTurn : Turn where
  registrationId := "assistant"
  requestId := "request"
  model := "m"
  messages := []

theorem registration_agrees_shop :
    ∃ after,
      registerWithPolicy shopSetting "assistant" shopper plainManifest 0
          .empty = (.ok ("assistant", ["m"], ⟨["m"], "m", true⟩), after) ∧
        PassesModelChecks shopSetting shopper shopTurn 5 after after := by
  have effective : effectiveConfig shopSetting.codec shopSetting.parseUrl
      shopSetting.environment .empty = .ok shopConfig := by
    change Policy.default.apply (fun _ => none) shopConfig = .ok shopConfig
    exact Policy.apply_default (Config.validate_eq_ok_iff.mp (by decide))
  have accepted : validateManifest plainManifest = .ok () := by
    decide +kernel
  have given : shopConfig.policyOf shopper = .ok ⟨["m"], "m", true⟩ := by
    decide
  obtain ⟨registrations, registered⟩ : ∃ registrations,
      registerWithPolicy shopSetting "assistant" shopper plainManifest 0
          .empty =
        (.ok ("assistant", ["m"], ⟨["m"], "m", true⟩),
          { Database.empty with registrations }) :=
    registerWithPolicy_of_free accepted effective given rfl
  have readBack : shopSetting.readManifest storedManifest.text =
      some storedManifest := by
    change (if storedManifest.text = storedManifest.text then
      some storedManifest else none) = _
    exact if_pos rfl
  refine ⟨_, registered, ?_⟩
  apply ((registration_agrees shopSetting "assistant" shopper plainManifest 0
    .empty _ _ _ _ registered readBack).2 [] [] shopper shopTurn 5 shopConfig
      rfl rfl (by decide) ?_).2.1 given (by decide)
  exact effective

end AsystantGateway
