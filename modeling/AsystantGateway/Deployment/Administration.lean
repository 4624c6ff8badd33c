import AsystantGateway.Admin.Authority
import AsystantGateway.Deployment.Steps
import AsystantGateway.Library.Record

/-!
# The configuration in force

The administration of a deployment shares its database with everything else and
loses its sessions in a restart. Two records of a run say what became of it: the
edits that were saved, since the first start, and what the administration has
answered since the last restart. The configuration in force is the
environment's with the first, and the second authorises every request.
-/

namespace AsystantGateway

/-- The edit of a save that succeeded. -/
def AdminAnswer.savedEdit : AdminAnswer → Option EditPolicy
  | .performed { action := .save edit, .. } (.ok ()) => some edit
  | _ => none

section Records

variable (setting : DeploymentSetting)

/-- What a section of the administration answers. -/
def Deployment.answer
    (deployment : Deployment)
    (step : AdminStep) : AdminAnswer :=
  (deployment.site.respond setting.library setting.codec setting.parseUrl
    setting.environment step).1

/-- Record an edit that is saved. -/
def recordSave
    (edits : List EditPolicy)
    (deployment : Deployment) : DeploymentAction → List EditPolicy
  | .admin step => edits ++ (deployment.answer setting step).savedEdit.toList
  | _ => edits

/-- The edits that a run saves, in their order. -/
def savedEdits (actions : List DeploymentAction) : List EditPolicy :=
  (deployments setting).recordOf (recordSave setting) [] actions

/-- Record a section of the administration, and begin anew at a restart. -/
def recordSection
    (journal : AdminJournal)
    (deployment : Deployment) : DeploymentAction → AdminJournal
  | .admin step => journal ++ [(step, deployment.answer setting step)]
  | .restart => []
  | _ => journal

/-- What the administration has answered since the last restart. -/
def sinceRestart (actions : List DeploymentAction) : AdminJournal :=
  (deployments setting).recordOf (recordSection setting) [] actions

end Records

/-! ## Saves -/

variable
  {setting : DeploymentSetting}
  {actions : List DeploymentAction}
  {deployment next : Deployment}
  {action : DeploymentAction}

/-- A section of the administration saves an edit, or leaves the policy. -/
theorem AdminSite.saved_cases
    (setting : DeploymentSetting)
    (site : AdminSite)
    (step : AdminStep) :
    let responded := site.respond setting.library setting.codec
      setting.parseUrl setting.environment step
    responded.1.savedEdit = none ∧
        responded.2.database.adminPolicy = site.database.adminPolicy ∨
      ∃ edit, responded.1.savedEdit = some edit ∧
        updatePolicy setting.codec setting.parseUrl setting.environment edit
          site.database = (.ok (), responded.2.database) := by
  cases step with
  | index | login | elsewhere => exact .inl ⟨rfl, rfl⟩
  | check request clock =>
      left
      unfold respond
      dsimp only
      split <;> exact ⟨rfl, rfl⟩
  | proceed position elapsedAt startedAt =>
      unfold respond
      dsimp only
      split
      · exact .inl ⟨rfl, rfl⟩
      · rename_i request _
        obtain ⟨cookie, csrf, asked⟩ := request
        cases asked with
        | save edit =>
            unfold perform
            dsimp only
            rcases updatePolicy_cases setting.codec setting.parseUrl
                setting.environment edit site.database with
              ⟨base, edited, -, -, saved⟩ | ⟨error, failed⟩
            · rw [saved]
              exact .inr ⟨edit, rfl, saved⟩
            · rw [failed]
              exact .inl ⟨rfl, rfl⟩
        | logout => exact .inl ⟨rfl, rfl⟩
        | testModel issuer =>
            left
            unfold perform
            dsimp only
            generalize (site.admin.testModel elapsedAt startedAt).1 = result
            cases result <;> exact ⟨rfl, rfl⟩

/-- A step that is not one of the administration leaves the policy. -/
theorem DeploymentStep.adminPolicy
    (balanced : Balanced deployment.gateway.database)
    (stepped : DeploymentStep setting deployment action next)
    (noAdmin : ∀ step, action ≠ .admin step) :
    next.gateway.database.adminPolicy =
      deployment.gateway.database.adminPolicy := by
  cases stepped with
  | arrived | left | restarted => rfl
  | handled =>
      rw [Deployment.database_startTurn]
      rfl
  | closed index now call phase database present ran => exact ran.adminPolicy
  | turned index step gateway taken =>
      obtain ⟨record, phase, after, -, turned, rfl⟩ := Gateway.step_turn taken
      have frame := turned.ledger.frame balanced
      have same := congrArg Database.adminPolicy frame
      exact same
  | administered step => exact absurd rfl (noAdmin step)

/-- What is stored depends on the policy of the database only. -/
theorem Stores.of_adminPolicy
    {codec : PolicyCodec}
    {parse : String → Option Url}
    {environment config : Config}
    {journal : List (AdminCall × Except AppError Unit)}
    {before after : Database}
    (stores : Stores codec parse environment journal before config)
    (same : after.adminPolicy = before.adminPolicy) :
    Stores codec parse environment journal after config where
  edited := stores.edited
  valid := stores.valid
  sameFrame := stores.sameFrame
  stored := same ▸ stores.stored

/-- The saves of a list of edits. -/
def saves (edits : List EditPolicy) :
    List (AdminCall × Except AppError Unit) :=
  edits.map fun edit => (.updatePolicy edit, .ok ())

theorem committedEdits_saves (edits : List EditPolicy) :
    committedEdits (saves edits) = edits := by
  unfold committedEdits saves
  rw [List.filterMap_map]
  exact List.filterMap_some

/-- What a run has saved is what is stored. -/
theorem stores_savedEdits
    (roundTrip : ∀ policy,
      setting.codec.fromText (setting.codec.toText policy) = some policy)
    (valid : setting.environment.Valid setting.parseUrl)
    (reached : (deployments setting).run actions = some deployment) :
    ∃ config, Stores setting.codec setting.parseUrl setting.environment
      (saves (savedEdits setting actions)) deployment.gateway.database
      config := by
  refine Machine.record_induction (motive := fun edits deployment =>
    ∃ config, Stores setting.codec setting.parseUrl setting.environment
      (saves edits) deployment.gateway.database config) ?_ ?_ reached
  · exact ⟨_, .empty valid⟩
  · rintro edits deployment action next reachable taken ⟨config, stores⟩
    have balanced := (Deployment.sound reachable).balanced
    have stepped := DeploymentStep.of_step taken
    by_cases isAdmin : ∃ step, action = .admin step
    · obtain ⟨step, rfl⟩ := isAdmin
      cases stepped with
      | administered _ inside =>
          rw [Deployment.gateway_adminStep]
          change ∃ config, Stores _ _ _ (saves (edits ++
            (deployment.answer setting step).savedEdit.toList)) _ config
          rcases AdminSite.saved_cases setting deployment.site step with
            ⟨unsaved, same⟩ | ⟨edit, isEdit, saved⟩
          · rw [show (deployment.answer setting step).savedEdit = none from
              unsaved, Option.toList_none, List.append_nil]
            exact ⟨config, stores.of_adminPolicy same⟩
          · obtain ⟨later, laterStores⟩ :=
              stores.respond roundTrip (.updatePolicy edit)
            rw [show (deployment.answer setting step).savedEdit = some edit from
              isEdit, Option.toList_some]
            have responded : (administration setting.codec setting.parseUrl
                setting.environment).respond deployment.gateway.database
                  (.updatePolicy edit) = (.ok (), _) := saved
            rw [responded] at laterStores
            refine ⟨later, ?_⟩
            unfold saves at laterStores ⊢
            rw [List.map_append]
            exact laterStores
    · have noAdmin : ∀ step, action ≠ .admin step :=
        fun step same => isAdmin ⟨step, same⟩
      have same : recordSave setting edits deployment action = edits := by
        cases action with
        | admin step => exact absurd rfl (noAdmin step)
        | _ => rfl
      rw [same]
      exact ⟨config, stores.of_adminPolicy
        (stepped.adminPolicy balanced noAdmin)⟩

/-- Spelling out the default models does not change which product is found. -/
theorem Config.find_product_explicit (config : Config) (issuer : String) :
    config.explicit.products.find? (fun product => product.issuer = issuer) =
      (config.products.find? fun product => product.issuer = issuer).map
        Product.explicit := by
  rw [Config.explicit_products, List.find?_map]
  rfl

/-- Spelling out the default models keeps what is the environment's. -/
theorem Config.sameFrame_explicit_iff
    (config : Config)
    {environment : Config} :
    SameFrame environment config.explicit ↔ SameFrame environment config := by
  have products : config.explicit.products.map Product.frame =
      config.products.map Product.frame := by
    rw [Config.explicit_products, List.map_map]
    rfl
  constructor
  · rintro ⟨sameProducts, sameModels⟩
    exact ⟨sameProducts.trans products, sameModels⟩
  · rintro ⟨sameProducts, sameModels⟩
    exact ⟨sameProducts.trans products.symm, sameModels⟩

theorem Config.policyOf_explicit (config : Config) (session : Session) :
    config.explicit.policyOf session = config.policyOf session := by
  unfold policyOf
  rw [find_product_explicit]
  cases config.products.find? fun product =>
      product.issuer = session.issuer with
  | none => rfl
  | some product => exact product.modelPolicy_explicit _ _

/-- A turn is checked alike when the default models are spelled out. -/
theorem prepareTurn_explicit
    (session : Session)
    (turn : Turn)
    (manifest : Manifest)
    (config : Config) :
    prepareTurn session turn manifest config.explicit =
      prepareTurn session turn manifest config := by
  unfold prepareTurn
  rw [Config.explicit_models, Config.find_product_explicit]
  cases config.models.find? fun model => model.id = turn.model with
  | none => rfl
  | some model =>
      cases config.products.find? fun product =>
          product.issuer = session.issuer with
      | none => rfl
      | some product =>
          dsimp only [Option.map_some]
          rw [product.modelPolicy_explicit, product.limits_explicit]

/-! ## One saved edit -/

/-- A deployment of the shop's configuration. -/
def shopDeployment : DeploymentSetting where
  codec := shopCodec
  parseUrl _ := none
  environment := shopConfig
  readManifest _ := none
  hash := tokenLibrary.hash
  slots := 32
  decode _ _ _ _ := none
  encode _ _ := none
  library := tokenLibrary
  adminToken := some adminToken
  admin := tokenAdmin
  made := new_tokenLibrary

/-- The deployment after the login and the check of the save. -/
theorem exists_run_tokenSteps :
    ∃ deployment,
      (deployments shopDeployment).run (tokenSteps.map .admin) =
          some deployment ∧
        deployment.gateway.database = .empty ∧
        deployment.checked = [tokenSave] ∧
        (sinceRestart shopDeployment (tokenSteps.map .admin)).map
          Prod.fst = tokenSteps :=
  ⟨_, rfl, rfl, rfl, rfl⟩

/-- The save is performed and stores its document. -/
theorem exists_step_save
    {deployment : Deployment}
    (empty : deployment.gateway.database = .empty)
    (waiting : deployment.checked = [tokenSave]) :
    ∃ next,
      (deployments shopDeployment).step deployment
          (.admin (.proceed 0 0 0)) = some next ∧
        deployment.answer shopDeployment (.proceed 0 0 0) =
          .performed tokenSave (.ok ()) ∧
        next.gateway.database.adminPolicy = some (shopCodec.toText shopPolicy) := by
  obtain ⟨edited, applied, document⟩ : ∃ edited,
      shopEdit.apply (fun _ => none) shopConfig = .ok edited ∧
        Policy.fromConfig edited = shopPolicy :=
    ⟨_, rfl, by decide⟩
  have saved : updatePolicy shopCodec (fun _ => none) shopConfig shopEdit
      .empty = (.ok (), { Database.empty with
        adminPolicy := some (shopCodec.toText shopPolicy) }) := by
    rw [← document]
    exact updatePolicy_of_ok shopCodec (fun _ => none) shopConfig rfl applied
  have responded : deployment.site.respond tokenLibrary shopCodec (fun _ => none)
      shopConfig (.proceed 0 0 0) =
        (.performed tokenSave (.ok ()),
          { admin := deployment.admin
            database := { Database.empty with
              adminPolicy := some (shopCodec.toText shopPolicy) }
            checked := [] }) := by
    unfold AdminSite.respond Deployment.site
    simp only [waiting, List.getElem?_cons_zero, List.eraseIdx_cons_zero]
    unfold AdminSite.perform
    simp only [tokenSave, empty, saved]
  refine ⟨_, rfl, congrArg Prod.fst responded, ?_⟩
  rw [Deployment.gateway_adminStep]
  exact congrArg (fun answered => answered.2.database.adminPolicy) responded

/-- In every run of a deployment the configuration in force is the
environment's, with exactly the edits that were saved, applied in their order:
turns are checked and registrations are made as under that configuration. It is
valid, and its secrets, credentials and prices are the environment's. -/
theorem configuration_in_force
    (setting : DeploymentSetting)
    (roundTrip : ∀ policy,
      setting.codec.fromText (setting.codec.toText policy) = some policy)
    (accepted : setting.environment.validate setting.parseUrl = .ok ())
    (actions : List DeploymentAction)
    (deployment : Deployment)
    (reached : (deployments setting).run actions = some deployment) :
    ∃ config effective,
      applyEdits setting.parseUrl (savedEdits setting actions)
          setting.environment = .ok config ∧
        effectiveConfig setting.codec setting.parseUrl setting.environment
          deployment.gateway.database = .ok effective ∧
        effective.validate setting.parseUrl = .ok () ∧
        SameFrame setting.environment effective ∧
        effective.origins = config.origins ∧
        (∀ session, effective.policyOf session = config.policyOf session) ∧
        ∀ session turn manifest,
          prepareTurn session turn manifest effective =
            prepareTurn session turn manifest config := by
  have valid := Config.validate_eq_ok_iff.mp accepted
  obtain ⟨config, stores⟩ := stores_savedEdits roundTrip valid reached
  obtain ⟨effective, loaded, sameExplicit⟩ := stores.effectiveConfig
  have edited := stores.edited
  rw [committedEdits_saves] at edited
  have effectiveValid : effective.Valid setting.parseUrl := by
    rw [← Config.valid_explicit_iff, sameExplicit, Config.valid_explicit_iff]
    exact stores.valid
  have sameFrame : SameFrame setting.environment effective := by
    rw [← effective.sameFrame_explicit_iff, sameExplicit,
      config.sameFrame_explicit_iff]
    exact stores.sameFrame
  refine ⟨config, effective, edited, loaded,
    Config.validate_eq_ok_iff.mpr effectiveValid, sameFrame,
    (by simpa using congrArg Config.origins sameExplicit), ?_, ?_⟩
  · intro session
    rw [← effective.policyOf_explicit, sameExplicit, config.policyOf_explicit]
  · intro session turn manifest
    rw [← prepareTurn_explicit, sameExplicit, prepareTurn_explicit]

theorem configuration_in_force_shop :
    ∃ deployment config effective,
      (deployments shopDeployment).run
          (tokenSteps.map .admin ++ [.admin (.proceed 0 0 0)]) =
        some deployment ∧
      applyEdits (fun _ => none) [shopEdit] shopConfig = .ok config ∧
      effectiveConfig shopCodec (fun _ => none) shopConfig
        deployment.gateway.database = .ok effective ∧
      ∀ session, effective.policyOf session = config.policyOf session := by
  have accepted : shopConfig.validate (fun _ => none) = .ok () := by decide
  obtain ⟨deployment, reached, empty, waiting, -⟩ :=
    exists_run_tokenSteps
  obtain ⟨next, taken, answered, -⟩ := exists_step_save empty waiting
  have reachedNext := Machine.run_concat_eq_some.mpr
    ⟨deployment, reached, taken⟩
  obtain ⟨config, effective, edited, loaded, -, -, -, policies, -⟩ :=
    configuration_in_force shopDeployment shopCodec_roundTrip accepted _ next
      reachedNext
  have saved : savedEdits shopDeployment
      (tokenSteps.map .admin ++ [.admin (.proceed 0 0 0)]) = [shopEdit] := by
    have before : savedEdits shopDeployment
        (tokenSteps.map .admin) = [] := rfl
    have recorded : savedEdits shopDeployment
        (tokenSteps.map .admin ++ [.admin (.proceed 0 0 0)]) =
          savedEdits shopDeployment (tokenSteps.map .admin) ++
            (deployment.answer shopDeployment
              (.proceed 0 0 0)).savedEdit.toList :=
      Machine.recordOf_concat reached taken
    rw [recorded, before, answered]
    rfl
  rw [saved] at edited
  exact ⟨next, config, effective, reachedNext, edited, loaded,
    policies⟩

/-! ## Who administers -/

theorem Deployment.site_startTurn
    (deployment : Deployment)
    (started : Option (Session × Turn)) :
    (deployment.startTurn started).site = deployment.site := by
  cases started <;> rfl

theorem Deployment.site_adminStep
    (setting : DeploymentSetting)
    (deployment : Deployment)
    (step : AdminStep) :
    (deployment.adminStep setting step).site =
      (deployment.site.respond setting.library setting.codec setting.parseUrl
        setting.environment step).2 := by
  unfold adminStep
  dsimp only
  split <;> rfl

/-- Every session and every request past its check is vouched for by what has
happened since the last restart. -/
theorem accounted_sinceRestart
    (reached : (deployments setting).run actions = some deployment) :
    Accounted setting.library (setting.adminToken.map setting.library.digest)
      (sinceRestart setting actions) deployment.site := by
  have fresh : ∀ database, Accounted setting.library
      (setting.adminToken.map setting.library.digest) []
      ⟨setting.admin, database, []⟩ := by
    intro database
    rw [AdminState.of_new setting.made]
    exact ⟨rfl, by simp, by simp, by simp⟩
  refine Machine.record_induction (motive := fun journal deployment =>
    Accounted setting.library (setting.adminToken.map setting.library.digest)
      journal deployment.site) (fresh _) ?_ reached
  intro journal deployment action next reachable taken accounted
  cases DeploymentStep.of_step taken with
  | arrived | closed | left | turned =>
      exact ⟨accounted.configured, accounted.sessions, accounted.checked,
        accounted.capped⟩
  | handled =>
      rw [Deployment.site_startTurn]
      exact ⟨accounted.configured, accounted.sessions, accounted.checked,
        accounted.capped⟩
  | administered step inside =>
      rw [Deployment.site_adminStep]
      exact accounted.respond setting.codec setting.parseUrl
        setting.environment step
  | restarted => exact fresh _

/-- The texts that a run has hashed since the last restart. -/
def hashedSinceRestart
    (setting : DeploymentSetting)
    (actions : List DeploymentAction) : List String :=
  hashedTexts setting.adminToken
    ((sinceRestart setting actions).map Prod.fst)

/-- A request that is performed was authorised since the last restart. -/
theorem authorised_of_answer
    (reached : (deployments setting).run actions = some deployment)
    (collisionFree : CollisionFree setting.library
      (hashedSinceRestart setting actions))
    {step : AdminStep}
    {request : AdminRequest}
    {result : Except AppError Unit}
    (performed : deployment.answer setting step =
      .performed request result) :
    Authorised setting.library setting.adminToken request
      (sinceRestart setting actions) := by
  have accounted := accounted_sinceRestart reached
  have passed := accounted.checked request (mem_checked_of_performed performed)
  refine passed.authorised collisionFree ?_ ?_
  · intro text isSecret
    simp [hashedSinceRestart, hashedTexts, isSecret]
  · intro entry member text hashed
    refine List.mem_append_right _ (List.mem_flatMap.mpr
      ⟨entry.1, List.mem_map_of_mem member, hashed⟩)

/-- A section of the administration adds the test that it answers, or no
handler. -/
theorem Deployment.calls_adminStep_cases
    (setting : DeploymentSetting)
    (deployment : Deployment)
    (step : AdminStep) :
    (deployment.adminStep setting step).calls = deployment.calls ∨
      ∃ request issuer, request.action = .testModel issuer ∧
        deployment.answer setting step = .performed request (.ok ()) ∧
        (deployment.adminStep setting step).calls =
          deployment.calls ++ [⟨.test issuer, .received, true⟩] := by
  unfold adminStep answer
  dsimp only
  generalize (deployment.site.respond setting.library setting.codec
    setting.parseUrl setting.environment step).1 = answer
  cases tests : testOf answer with
  | none => exact .inl rfl
  | some call =>
      right
      unfold testOf at tests
      split at tests
      · cases tests
        exact ⟨_, _, rfl, rfl, rfl⟩
      · cases tests

/-- The tests among the requests of the handlers, in order. -/
def Deployment.tests (deployment : Deployment) : List ApiRequest :=
  (deployment.calls.map ApiCall.request).filter ApiRequest.isTest

/-- The tests do not depend on where their handlers are. -/
theorem Deployment.tests_setCall
    {deployment : Deployment}
    {index : Nat}
    {call : ApiCall}
    (present : deployment.calls[index]? = some call)
    (phase : ApiPhase)
    (attached : Bool) :
    (deployment.setCall index { call with phase, attached }).tests =
      deployment.tests := by
  have requests : (deployment.calls.map ApiCall.request)[index]? =
      some call.request := by
    rw [List.getElem?_map, present]
    rfl
  unfold tests setCall
  dsimp only
  rw [List.map_set, Replace.set_eq_self requests]

/-- A step leaves the tests as they were, or it is the answer of the
administration to a test and adds a handler for it. -/
theorem DeploymentStep.tests_cases
    (stepped : DeploymentStep setting deployment action next) :
    next.tests = deployment.tests ∨
      ∃ step request issuer, action = .admin step ∧
        request.action = .testModel issuer ∧
        deployment.answer setting step = .performed request (.ok ()) ∧
        next.calls = deployment.calls ++ [⟨.test issuer, .received, true⟩] := by
  cases stepped with
  | arrived request noTest =>
      left
      simp [Deployment.tests, Deployment.addCall, noTest]
  | handled index action call phase present =>
      left
      unfold Deployment.tests
      rw [Deployment.calls_startTurn]
      exact Deployment.tests_setCall present phase call.attached
  | closed index now call phase database present =>
      exact .inl (Deployment.tests_setCall present phase call.attached)
  | left index call present =>
      exact .inl (Deployment.tests_setCall present call.phase false)
  | turned => exact .inl rfl
  | administered step inside =>
      rcases deployment.calls_adminStep_cases setting step with
        same | ⟨request, issuer, asks, performed, added⟩
      · left
        unfold Deployment.tests
        rw [same]
      · exact .inr ⟨step, request, issuer, rfl, asks, performed, added⟩
  | restarted =>
      left
      unfold Deployment.tests
      rw [List.map_map]
      rfl

/-- In every run of a deployment, with everything else between the sections of
the administration and with any number of restarts, a step that changes the
policy is an authorised save, and a step leaves the tests among the handlers as
they were or is an authorised test and adds one handler for it. Authorised is
what a login with the configured token vouches for, with no logout since, both
after the last restart. There are never more than 128 sessions, and none without
a configured token. -/
theorem administration_authorised
    (setting : DeploymentSetting)
    (actions : List DeploymentAction)
    (action : DeploymentAction)
    (deployment next : Deployment)
    (reached : (deployments setting).run actions = some deployment)
    (collisionFree : CollisionFree setting.library
      (hashedSinceRestart setting actions))
    (taken : (deployments setting).step deployment action = some next) :
    (next.gateway.database.adminPolicy ≠
        deployment.gateway.database.adminPolicy →
      ∃ step request edit, action = .admin step ∧
        request.action = .save edit ∧
        deployment.answer setting step = .performed request (.ok ()) ∧
        Authorised setting.library setting.adminToken request
          (sinceRestart setting actions)) ∧
    (next.tests = deployment.tests ∨
      ∃ step request issuer, action = .admin step ∧
        request.action = .testModel issuer ∧
        deployment.answer setting step = .performed request (.ok ()) ∧
        next.calls = deployment.calls ++ [⟨.test issuer, .received, true⟩] ∧
        Authorised setting.library setting.adminToken request
          (sinceRestart setting actions)) ∧
    deployment.admin.sessions.rows.length ≤ 128 ∧
    (setting.adminToken = none → deployment.admin.sessions.rows = []) := by
  have accounted := accounted_sinceRestart reached
  have balanced := (Deployment.sound ⟨actions, reached⟩).balanced
  have stepped := DeploymentStep.of_step taken
  refine ⟨?_, ?_, accounted.capped, ?_⟩
  · intro changed
    by_cases isAdmin : ∃ step, action = .admin step
    · obtain ⟨step, rfl⟩ := isAdmin
      cases stepped with
      | administered _ inside =>
          rw [Deployment.gateway_adminStep] at changed
          obtain ⟨request, edit, isSave, performed⟩ :=
            performed_of_policy_ne changed
          exact ⟨step, request, edit, rfl, isSave, performed,
            authorised_of_answer reached collisionFree performed⟩
    · exact absurd (stepped.adminPolicy balanced fun step same =>
        isAdmin ⟨step, same⟩) changed
  · rcases stepped.tests_cases with
      same | ⟨step, request, issuer, isStep, asks, performed, added⟩
    · exact .inl same
    · exact .inr ⟨step, request, issuer, isStep, asks, performed, added,
        authorised_of_answer reached collisionFree performed⟩
  · intro noToken
    rw [noToken] at accounted
    exact accounted.sessions_eq_nil

theorem administration_authorised_save :
    ∃ deployment request,
      (deployments shopDeployment).run (tokenSteps.map .admin) =
        some deployment ∧
      request.action = .save shopEdit ∧
      Authorised tokenLibrary (some adminToken) request
        (sinceRestart shopDeployment (tokenSteps.map .admin)) := by
  obtain ⟨deployment, reached, empty, waiting, recorded⟩ :=
    exists_run_tokenSteps
  obtain ⟨next, taken, answered, stored⟩ :=
    exists_step_save empty waiting
  have collisionFree : CollisionFree tokenLibrary
      (hashedSinceRestart shopDeployment (tokenSteps.map .admin)) := by
    unfold hashedSinceRestart
    rw [recorded]
    change CollisionFree tokenLibrary
      (hashedTexts (some adminToken) tokenSteps)
    unfold CollisionFree
    decide
  obtain ⟨onlySaves, -⟩ := administration_authorised shopDeployment
    _ _ deployment next reached collisionFree taken
  obtain ⟨step, request, edit, isStep, isSave, performed, authorised⟩ :=
    onlySaves (by simp [stored, empty, Database.empty])
  cases isStep
  rw [answered] at performed
  cases performed
  exact ⟨deployment, tokenSave, reached, rfl, authorised⟩

end AsystantGateway
