import AsystantGateway.Admin.Frame

/-!
# Deploying another environment

A stored document outlives the environment it was checked against. Merged over
another valid environment it is valid again when two things hold that neither
side knows alone: the models that it lists for the products that are still
there are registered, and its token limits fit the new prices. Everything else
that validation looks at comes from one side only.

The first condition is what a document cannot be edited to meet. No edit takes
a model off the list of a product, so a model that a stored document lists can
no longer leave the registry.
-/

namespace AsystantGateway

open Checks KeyedList

/-! ## Merging over another environment -/

/-- Limits that were valid at some prices are valid at others when the
reservation at these does not overflow. -/
theorem ModelLimits.validate_merge
    {model other : ModelConfig}
    (valid : model.validate = .ok ())
    (otherValid : other.validate = .ok ())
    {amount : Int64}
    (fits : (model.limits.merge other).reservation = .ok amount) :
    (model.limits.merge other).validate = .ok () := by
  rw [ModelConfig.validate_eq_ok_iff] at valid otherValid ⊢
  obtain ⟨⟨_, _, _, _, someInput, someOutput, fewInput, fewOutput⟩, _⟩ := valid
  obtain ⟨⟨id, address, input, output, _⟩, speaks, _⟩ := otherValid
  exact ⟨⟨id, address, input, output, someInput, someOutput, fewInput,
    fewOutput⟩, speaks, amount, fits⟩

/-- The settings of a valid product are valid for any other product of its
issuer, with other models registered, as long as those that it lists are. -/
theorem ProductPolicy.valid_merge
    {ids otherIds : List String}
    {product other : Product}
    (valid : product.Valid ids)
    (otherValid : other.Valid otherIds)
    (known : ∀ model ∈ product.models, model ∈ otherIds) :
    (product.policy.merge other).Valid otherIds where
  defaultModel := (Product.valid_explicit_iff.mpr valid).defaultModel
  clients := valid.clients
  clientsDistinct := valid.clientsDistinct
  budgets := valid.budgets
  budgetsDistinct := valid.budgetsDistinct
  secret := otherValid.secret
  issuer := otherValid.issuer
  dailyTenantMicros := valid.dailyTenantMicros
  dailyUserMicros := valid.dailyUserMicros
  models := valid.models
  modelsKnown := known

/-- The models that a document lists for the products of an environment are
registered there. -/
def Policy.Registered (policy : Policy) (environment : Config) : Prop :=
  ∀ product ∈ policy.products,
    product.issuer ∈ environment.products.map Product.issuer →
      ∀ model ∈ product.models, model ∈ environment.models.map ModelConfig.id

/-- No reservation at the prices of an environment and the token limits of a
document overflows. -/
def Policy.Affordable (policy : Policy) (environment : Config) : Prop :=
  ∀ limits ∈ policy.models, ∀ model ∈ environment.models,
    limits.id = model.id →
      ∃ amount, (limits.merge model).reservation = .ok amount

/-- The document of a valid configuration is valid over every valid environment
that registers its models and at whose prices its limits do not overflow. -/
theorem Policy.valid_merge
    {parse : String → Option Url}
    {config environment : Config}
    (valid : config.Valid parse)
    (environmentValid : environment.Valid parse)
    (registered : (fromConfig config).Registered environment)
    (affordable : (fromConfig config).Affordable environment) :
    ((fromConfig config).merge environment).Valid parse := by
  have sameIds := merge_ids (fromConfig config) environment
  have sameIssuers := merge_issuers (fromConfig config) environment
  refine {
    products := ?_
    models := ?_
    modelsValid := ?_
    modelsDistinct := sameIds ▸ environmentValid.modelsDistinct
    originsFew := valid.originsFew
    originsDistinct := valid.originsDistinct
    originsNormal := valid.originsNormal
    productsValid := ?_
    issuersDistinct := sameIssuers ▸ environmentValid.issuersDistinct }
  · intro none
    rw [none] at sameIssuers
    exact environmentValid.products (List.map_eq_nil_iff.mp sameIssuers.symm)
  · intro none
    rw [none] at sameIds
    exact environmentValid.models (List.map_eq_nil_iff.mp sameIds.symm)
  · intro merged member
    obtain ⟨model, present, rfl | ⟨limits, stored, sameId, rfl⟩⟩ :=
      mem_mergeByKey ModelLimits.merge_id (fun _ _ _ => rfl) member
    · exact environmentValid.modelsValid merged present
    · obtain ⟨amount, fits⟩ := affordable limits stored model present sameId
      obtain ⟨prior, priorMember, rfl⟩ := List.mem_map.mp stored
      exact ModelLimits.validate_merge (valid.modelsValid prior priorMember)
        (environmentValid.modelsValid model present) fits
  · rw [sameIds]
    intro merged member
    obtain ⟨product, present, rfl | ⟨policy, stored, sameIssuer, rfl⟩⟩ :=
      mem_mergeByKey ProductPolicy.merge_issuer (fun _ _ _ => rfl) member
    · exact environmentValid.productsValid merged present
    · have known := registered policy stored
        (sameIssuer ▸ List.mem_map_of_mem present)
      obtain ⟨prior, priorMember, rfl⟩ := List.mem_map.mp stored
      exact ProductPolicy.valid_merge
        (valid.productsValid prior priorMember)
        (environmentValid.productsValid product present) known

section Runs

variable
  {codec : PolicyCodec}
  {parse : String → Option Url}
  {environment : Config}
  {database : Database}

theorem loadPolicy_of_none
    (nothing : database.adminPolicy = none) :
    loadPolicy codec database = .ok .default := by
  rw [loadPolicy, nothing]

theorem loadPolicy_of_some
    {document : String}
    {policy : Policy}
    (found : database.adminPolicy = some document)
    (decoded : codec.fromText document = some policy) :
    loadPolicy codec database = .ok policy := by
  simp only [loadPolicy, found, PolicyCodec.read, decoded]

/-- A policy that applies is in effect, and saves start from it. -/
theorem loaded_of_apply
    {policy : Policy}
    {other effective : Config}
    (loaded : loadPolicy codec database = .ok policy)
    (applied : policy.apply parse other = .ok effective) :
    effectiveConfig codec parse other database = .ok effective ∧
      baseConfig codec parse other database.adminPolicy =
        .ok effective := by
  constructor
  · unfold effectiveConfig
    rw [loaded]
    exact applied
  · unfold loadPolicy at loaded
    cases row : database.adminPolicy with
    | none =>
        rw [row] at loaded
        obtain rfl := Except.ok.inj loaded
        rw [(Policy.apply_eq_ok_iff.mp applied).1]
        rfl
    | some document =>
        rw [row] at loaded
        simp only [baseConfig, loaded]
        exact applied

end Runs

/-- Deploying another environment is safe. Whatever was stored by a run of
saves under a valid environment, over every valid environment that registers
the models the stored document lists for its products, and at whose prices no
reservation with the stored limits overflows, the document applies and gives a
valid configuration: it is in effect, and saves start from it. -/
theorem redeploy_safe
    (codec : PolicyCodec)
    (parse : String → Option Url)
    (environment redeployed : Config)
    (roundTrip : ∀ policy, codec.fromText (codec.toText policy) = some policy)
    (accepted : environment.validate parse = .ok ())
    (calls : List AdminCall)
    (policy : Policy)
    (stored : loadPolicy codec
      ((administration codec parse environment).state calls) = .ok policy)
    (redeployedAccepted : redeployed.validate parse = .ok ())
    (registered : policy.Registered redeployed)
    (affordable : policy.Affordable redeployed) :
    ∃ effective,
      policy.apply parse redeployed = .ok effective ∧
      effective.validate parse = .ok () ∧
      effectiveConfig codec parse redeployed
          ((administration codec parse environment).state calls) =
        .ok effective ∧
      baseConfig codec parse redeployed
          ((administration codec parse environment).state calls).adminPolicy =
        .ok effective := by
  have redeployedValid := Config.validate_eq_ok_iff.mp redeployedAccepted
  obtain ⟨config, stores⟩ := stores_state roundTrip
    (Config.validate_eq_ok_iff.mp accepted) calls
  rcases stores.stored with ⟨nothing, _⟩ | ⟨document, found, decoded⟩
  · obtain rfl := Except.ok.inj (stored.symm.trans (loadPolicy_of_none nothing))
    have applied := Policy.apply_default redeployedValid
    exact ⟨redeployed, applied, redeployedAccepted,
      loaded_of_apply stored applied⟩
  · obtain rfl := Except.ok.inj
      (stored.symm.trans (loadPolicy_of_some found decoded))
    have valid := Policy.valid_merge stores.valid redeployedValid registered
      affordable
    have applied := Policy.apply_eq_ok_iff.mpr ⟨rfl, valid⟩
    exact ⟨_, applied, Config.validate_eq_ok_iff.mpr valid,
      loaded_of_apply stored applied⟩

/-- One successful save from scratch stores the document of the edited
environment. -/
theorem loadPolicy_single
    {codec : PolicyCodec}
    {parse : String → Option Url}
    {environment edited : Config}
    {edit : EditPolicy}
    (roundTrip : ∀ policy, codec.fromText (codec.toText policy) = some policy)
    (applied : edit.apply parse environment = .ok edited) :
    loadPolicy codec ((administration codec parse environment).state
      [.updatePolicy edit]) = .ok (.fromConfig edited) := by
  have saved : updatePolicy codec parse environment edit .empty = _ :=
    updatePolicy_of_ok codec parse environment rfl applied
  change loadPolicy codec
    (updatePolicy codec parse environment edit .empty).2 = _
  rw [saved]
  exact loadPolicy_of_some rfl (roundTrip _)

/-- The shop deployed again, at other prices and with one model more. -/
def grownShopConfig : Config :=
  { twinShopConfig with
    models := twinShopConfig.models ++ [{
      id := "n"
      provider := .anthropic
      model := "claude"
      keyEnv := "KEY"
      wireApi := .messages
      inputMicrosPerMillion := 1
      outputMicrosPerMillion := 1
      maxInputTokens := 1
      maxOutputTokens := 1 }] }

theorem redeploy_safe_shop :
    ∃ effective,
      shopPolicy.apply (fun _ => none) grownShopConfig = .ok effective ∧
      effectiveConfig shopCodec (fun _ => none) grownShopConfig
          ((administration shopCodec (fun _ => none) shopConfig).state
            [.updatePolicy shopEdit]) = .ok effective := by
  have applied : shopEdit.apply (fun _ => none) shopConfig =
      .ok (shopPolicy.merge shopConfig) := by decide
  have stored := loadPolicy_single shopCodec_roundTrip applied
  have sameDocument : Policy.fromConfig (shopPolicy.merge shopConfig) =
      shopPolicy := by decide
  rw [sameDocument] at stored
  have registered : shopPolicy.Registered grownShopConfig := by
    unfold Policy.Registered
    decide
  have affordable : shopPolicy.Affordable grownShopConfig := by
    intro limits stored model registered sameId
    obtain rfl := List.mem_singleton.mp stored
    have models : ∀ model ∈ grownShopConfig.models, model.id = "m" →
        ((⟨"m", 1000, 100⟩ : ModelLimits).merge model).reservation =
          .ok 3200 := by decide
    exact ⟨3200, models model registered sameId.symm⟩
  obtain ⟨effective, result, -, inEffect, -⟩ := redeploy_safe shopCodec
    (fun _ => none) shopConfig grownShopConfig shopCodec_roundTrip (by decide)
    [.updatePolicy shopEdit] shopPolicy stored (by decide) registered
    affordable
  exact ⟨effective, result, inEffect⟩

/-! ## Retiring a model -/

/-- An environment without one model: the model is out of the registry and out
of the lists of every product. -/
def Config.withoutModel (model : String) (environment : Config) : Config :=
  { environment with
    models := environment.models.filter fun other => other.id ≠ model
    products := environment.products.map fun product =>
      { product with
        models := product.models.filter fun other => other ≠ model
        defaultModel := product.defaultModel.filter fun other =>
          other ≠ model
        clientModels := product.clientModels.map fun client =>
          { client with
            models := client.models.filter fun other => other ≠ model } } }

/-- A valid environment in which one model is retired: the registry is without
it and the products are the same ones. What they list is up to the
environment. -/
structure Retires
    (parse : String → Option Url)
    (model : String)
    (environment retired : Config) : Prop where
  valid : retired.Valid parse
  models : retired.models =
    environment.models.filter fun other => other.id ≠ model
  products : retired.products.map Product.frame =
    environment.products.map Product.frame

/-- Taking a model out of a registry and of every list retires it. -/
theorem retires_withoutModel
    {parse : String → Option Url}
    {model : String}
    {environment : Config}
    (valid : (environment.withoutModel model).Valid parse) :
    Retires parse model environment (environment.withoutModel model) where
  valid := valid
  models := rfl
  products := by
    simp only [Config.withoutModel, List.map_map]
    rfl

/-- The product of an issuer lists a model. -/
def Config.Lists (config : Config) (issuer model : String) : Prop :=
  ∃ product ∈ config.products,
    product.issuer = issuer ∧ model ∈ product.models

namespace EditPolicy

variable
  {parse : String → Option Url}
  {edit : EditPolicy}
  {config edited : Config}
  {issuer model : String}

/-- An edit of a product takes no model off its list. -/
theorem changeProduct_models
    {models : List ModelConfig}
    {product changed : Product}
    (isChanged : edit.changeProduct models product = .ok changed)
    (listed : model ∈ product.models) :
    model ∈ changed.models := by
  cases changeProduct_eq_ok_iff.mp isChanged with
  | enabled =>
      change model ∈ if _ then product.models ++ [edit.model]
        else product.models
      split
      · exact List.mem_append_left _ listed
      · exact listed
  | restored => exact listed
  | assigned => exact listed

/-- No edit takes a model off the list of a product. -/
theorem change_lists
    (changed : edit.change parse config = .ok edited)
    (lists : config.Lists issuer model) :
    edited.Lists issuer model := by
  cases change_eq_ok_iff.mp changed with
  | originKnown => exact lists
  | originAdded => exact lists
  | originRemoved => exact lists
  | limited => exact lists
  | product notAdd notRemove notModel target result found changes =>
      have isChanged := changeProduct_eq_ok_iff.mpr changes
      obtain ⟨product, member, isIssuer, listed⟩ := lists
      rcases mem_modifyFirst_of_mem (fun _ => result) member with
        kept | ⟨isFirst, present⟩
      · exact ⟨product, kept, isIssuer, listed⟩
      · obtain rfl := Option.some.inj (found.symm.trans isFirst)
        have sameFrame := changeProduct_frame isChanged
        exact ⟨result, present,
          (congrArg Prod.fst sameFrame).trans isIssuer,
          changeProduct_models isChanged listed⟩

end EditPolicy

theorem applyEdits_lists
    {parse : String → Option Url}
    {edits : List EditPolicy}
    {config edited : Config}
    {issuer model : String}
    (applied : applyEdits parse edits config = .ok edited)
    (lists : config.Lists issuer model) :
    edited.Lists issuer model := by
  induction edits generalizing config with
  | nil =>
      cases applied
      exact lists
  | cons edit edits inductionHypothesis =>
      obtain ⟨middle, first, rest⟩ := bind_eq_ok_iff.mp applied
      exact inductionHypothesis rest
        (EditPolicy.change_lists (EditPolicy.apply_eq_ok_iff.mp first).1 lists)

section Retirement

variable
  {codec : PolicyCodec}
  {parse : String → Option Url}
  {environment retired config : Config}
  {model : String}
  {journal : List (AdminCall × Except AppError Unit)}
  {database : Database}

/-- A stored document that lists a retired model does not load. -/
theorem not_effective_of_lists
    (stores : Stores codec parse environment journal database config)
    (isStored : database.adminPolicy ≠ none)
    (retires : Retires parse model environment retired)
    {issuer : String}
    (lists : config.Lists issuer model)
    (effective : Config) :
    effectiveConfig codec parse retired database ≠ .ok effective := by
  intro loads
  obtain ⟨policy, loaded, applied⟩ := bind_eq_ok_iff.mp loads
  rcases stores.stored with ⟨nothing, _⟩ | ⟨document, found, decoded⟩
  · exact isStored nothing
  · obtain rfl := Except.ok.inj
      (loaded.symm.trans (loadPolicy_of_some found decoded))
    obtain ⟨rfl, valid⟩ := Policy.apply_eq_ok_iff.mp applied
    have products := Policy.merge_products stores.valid.issuersDistinct
      (retires.products.trans stores.sameFrame.products)
    obtain ⟨product, member, -, listed⟩ := lists
    have merged : product.explicit ∈
        ((Policy.fromConfig config).merge retired).products := by
      rw [products]
      exact List.mem_map_of_mem member
    have known := (valid.productsValid _ merged).modelsKnown model listed
    rw [Policy.merge_ids, retires.models] at known
    obtain ⟨other, isOther, isModel⟩ := List.mem_map.mp known
    simp [isModel] at isOther

/-- The document of a configuration that does not list the retired model for
any product is registered without it. -/
theorem registered_of_retires
    (valid : config.Valid parse)
    (sameFrame : SameFrame environment config)
    (retires : Retires parse model environment retired)
    (unlisted : ∀ product ∈ config.products, model ∉ product.models) :
    (Policy.fromConfig config).Registered retired := by
  have sameIds : config.models.map ModelConfig.id =
      environment.models.map ModelConfig.id := by
    have ids := congrArg (List.map ModelConfig.id) sameFrame.models
    simpa [Function.comp_def, ModelConfig.frame] using ids.symm
  intro policy stored _ named isNamed
  obtain ⟨product, member, rfl⟩ := List.mem_map.mp stored
  have known := (valid.productsValid product member).modelsKnown named isNamed
  rw [sameIds] at known
  obtain ⟨other, isOther, rfl⟩ := List.mem_map.mp known
  rw [retires.models]
  refine List.mem_map_of_mem (List.mem_filter.mpr ⟨isOther, ?_⟩)
  rw [decide_eq_true_eq]
  rintro rfl
  exact unlisted product member isNamed

/-- The models that stay keep their prices, so the limits stay affordable. -/
theorem affordable_of_retires
    (valid : config.Valid parse)
    (distinct : (environment.models.map ModelConfig.id).Nodup)
    (sameFrame : SameFrame environment config)
    (retires : Retires parse model environment retired) :
    (Policy.fromConfig config).Affordable retired := by
  intro limits stored other registered sameId
  obtain ⟨prior, member, rfl⟩ := List.mem_map.mp stored
  rw [retires.models] at registered
  have isRegistered := (List.mem_filter.mp registered).1
  have framed : prior.frame ∈ environment.models.map ModelConfig.frame := by
    rw [sameFrame.models]
    exact List.mem_map_of_mem member
  obtain ⟨twin, isTwin, sameAsPrior⟩ := List.mem_map.mp framed
  have twinId : twin.id = other.id :=
    (congrArg ModelConfig.id sameAsPrior).trans sameId
  obtain rfl := List.inj_on_of_nodup_map distinct isTwin isRegistered twinId
  rw [ModelLimits.merge_limits sameAsPrior.symm]
  exact (ModelConfig.validate_eq_ok_iff.mp
    (valid.modelsValid prior member)).2.2

/-- What is stored stays stored, with another document or the same. -/
theorem adminPolicy_ne_none_stateFrom
    (isStored : database.adminPolicy ≠ none)
    (calls : List AdminCall) :
    ((administration codec parse environment).stateFrom database
      calls).adminPolicy ≠ none := by
  induction calls generalizing database with
  | nil => exact isStored
  | cons call calls inductionHypothesis =>
      apply inductionHypothesis
      cases call with
      | unavailable => exact isStored
      | updatePolicy edit =>
          change (updatePolicy codec parse environment edit
            database).2.adminPolicy ≠ none
          rcases updatePolicy_cases codec parse environment edit database with
            ⟨base, edited, _, _, saved⟩ | ⟨error, failed⟩
          · rw [saved]
            exact Option.some_ne_none _
          · rw [failed]
            exact isStored

/-- Once a stored document lists a model, no run of saves makes it load over an
environment that has retired the model. -/
theorem no_run_retires
    (roundTrip : ∀ policy, codec.fromText (codec.toText policy) = some policy)
    (valid : environment.Valid parse)
    (calls more : List AdminCall)
    (retires : Retires parse model environment retired)
    {document : String}
    {policy : Policy}
    (stored : ((administration codec parse environment).state
      calls).adminPolicy = some document)
    (decoded : codec.fromText document = some policy)
    {product : ProductPolicy}
    (member : product ∈ policy.products)
    (listed : model ∈ product.models)
    (effective : Config) :
    effectiveConfig codec parse retired
        ((administration codec parse environment).state (calls ++ more)) ≠
      .ok effective := by
  obtain ⟨before, stores⟩ := stores_state roundTrip valid calls
  obtain ⟨after, storesAfter⟩ := stores_state roundTrip valid (calls ++ more)
  have isDocument : policy = .fromConfig before := by
    rcases stores.stored with ⟨nothing, _⟩ | ⟨other, found, otherDecoded⟩
    · rw [nothing] at stored
      cases stored
    · obtain rfl := Option.some.inj (stored.symm.trans found)
      exact Option.some.inj (decoded.symm.trans otherDecoded)
  obtain ⟨prior, priorMember, rfl⟩ :=
    List.mem_map.mp (isDocument ▸ member)
  have lists : before.Lists prior.issuer model :=
    ⟨prior, priorMember, rfl, listed⟩
  have edits : applyEdits parse
      (committedEdits ((administration codec parse environment).journalFrom
        ((administration codec parse environment).state calls) more))
      before = .ok after := by
    have edited := storesAfter.edited
    rw [Mealy.journal_append, committedEdits, List.filterMap_append] at edited
    rw [← applyEdits_append stores.edited]
    exact edited
  have isStored : ((administration codec parse environment).state
      (calls ++ more)).adminPolicy ≠ none := by
    rw [Mealy.state_append]
    apply adminPolicy_ne_none_stateFrom
    rw [stored]
    exact Option.some_ne_none document
  exact not_effective_of_lists storesAfter isStored retires
    (applyEdits_lists edits lists) effective

/-- When a model can be retired. After any run of saves under a valid
environment, some sequence of successful edits makes what is stored load over
an environment that has retired the model exactly when nothing is stored, or
the stored document lists the model for no product. -/
theorem model_retirement_iff
    (codec : PolicyCodec)
    (parse : String → Option Url)
    (environment : Config)
    (roundTrip : ∀ policy, codec.fromText (codec.toText policy) = some policy)
    (accepted : environment.validate parse = .ok ())
    (calls : List AdminCall)
    (model : String)
    (retired : Config)
    (retires : Retires parse model environment retired) :
    (∃ edits : List EditPolicy,
      AllSucceed ((administration codec parse environment).journalFrom
        ((administration codec parse environment).state calls)
        (edits.map .updatePolicy)) ∧
      ∃ effective, effectiveConfig codec parse retired
        ((administration codec parse environment).state
          (calls ++ edits.map .updatePolicy)) = .ok effective) ↔
    ∀ document policy,
      ((administration codec parse environment).state calls).adminPolicy =
          some document →
        codec.fromText document = some policy →
          ∀ product ∈ policy.products, model ∉ product.models := by
  have valid := Config.validate_eq_ok_iff.mp accepted
  constructor
  · rintro ⟨edits, -, effective, loads⟩ document policy stored decoded product
      member listed
    exact no_run_retires roundTrip valid calls (edits.map .updatePolicy)
      retires stored decoded member listed effective loads
  · intro unlisted
    obtain ⟨config, stores⟩ := stores_state roundTrip valid calls
    refine ⟨[], by simp [AllSucceed, Mealy.journalFrom], ?_⟩
    rw [List.map_nil, List.append_nil]
    rcases stores.stored with ⟨nothing, _⟩ | ⟨document, found, decoded⟩
    · exact ⟨retired, (loaded_of_apply (loadPolicy_of_none nothing)
        (Policy.apply_default retires.valid)).1⟩
    · have unlistedProducts : ∀ product ∈ config.products,
          model ∉ product.models := fun product member =>
        unlisted document _ found decoded product.policy
          (List.mem_map_of_mem member)
      have merged := Policy.valid_merge stores.valid retires.valid
        (registered_of_retires stores.valid stores.sameFrame retires
          unlistedProducts)
        (affordable_of_retires stores.valid valid.modelsDistinct
          stores.sameFrame retires)
      exact ⟨_, (loaded_of_apply (loadPolicy_of_some found decoded)
        (Policy.apply_eq_ok_iff.mpr ⟨rfl, merged⟩)).1⟩

end Retirement

/-- The shop with two models, both on the list of its product. -/
def pairShopConfig : Config :=
  { shopConfig with
    products := shopConfig.products.map fun product =>
      { product with models := ["m", "n"] }
    models := shopConfig.models ++ grownShopConfig.models.drop 1 }

/-- The assignment of the product moved to its other model. -/
def moveEdit : EditPolicy :=
  { shopEdit with model := "n" }

/-- The document that the move stores: both models are still listed. -/
def pairPolicy : Policy where
  products := [{
    issuer := "shop"
    models := ["m", "n"]
    defaultModel := "n"
    dailyTenantMicros := 200
    dailyUserMicros := 20
    clientModels := []
    budgetOverrides := [] }]
  models := [
    { id := "m", maxInputTokens := 1000, maxOutputTokens := 100 },
    { id := "n", maxInputTokens := 1, maxOutputTokens := 1 }]
  origins := some []

theorem pairShop_retires :
    Retires (fun _ => none) "m" pairShopConfig
      (pairShopConfig.withoutModel "m") :=
  retires_withoutModel (Config.validate_eq_ok_iff.mp (by decide))

theorem model_retirement_pair :
    ∃ edits : List EditPolicy,
      AllSucceed ((administration shopCodec (fun _ => none)
          pairShopConfig).journalFrom
        ((administration shopCodec (fun _ => none) pairShopConfig).state [])
        (edits.map .updatePolicy)) ∧
      ∃ effective, effectiveConfig shopCodec (fun _ => none)
        (pairShopConfig.withoutModel "m")
        ((administration shopCodec (fun _ => none) pairShopConfig).state
          ([] ++ edits.map .updatePolicy)) = .ok effective := by
  apply (model_retirement_iff shopCodec (fun _ => none) pairShopConfig
    shopCodec_roundTrip (by decide) [] "m" (pairShopConfig.withoutModel "m")
    pairShop_retires).mpr
  intro document policy stored
  cases stored

/-- The product of the shop lists two models and its assignment is moved from
one to the other, as the manual asks for. The document that this stores lists
both, and from then on no edits make it load without the first. -/
theorem model_retirement_fails :
    pairShopConfig.validate (fun _ => none) = .ok () ∧
      (pairShopConfig.withoutModel "m").validate (fun _ => none) = .ok () ∧
      AllSucceed ((administration shopCodec (fun _ => none)
        pairShopConfig).journal [.updatePolicy moveEdit]) ∧
      ¬ ∃ edits : List EditPolicy,
        AllSucceed ((administration shopCodec (fun _ => none)
            pairShopConfig).journalFrom
          ((administration shopCodec (fun _ => none) pairShopConfig).state
            [.updatePolicy moveEdit]) (edits.map .updatePolicy)) ∧
        ∃ effective, effectiveConfig shopCodec (fun _ => none)
          (pairShopConfig.withoutModel "m")
          ((administration shopCodec (fun _ => none) pairShopConfig).state
            ([.updatePolicy moveEdit] ++ edits.map .updatePolicy)) =
              .ok effective := by
  have applied : moveEdit.apply (fun _ => none) pairShopConfig =
      .ok (pairPolicy.merge pairShopConfig) := by decide
  have sameDocument : Policy.fromConfig (pairPolicy.merge pairShopConfig) =
      pairPolicy := by decide
  refine ⟨by decide, by decide, allSucceed_single shopCodec (by decide), ?_⟩
  rintro ⟨edits, -, effective, loads⟩
  have saved : updatePolicy shopCodec (fun _ => none) pairShopConfig moveEdit
      .empty = _ :=
    updatePolicy_of_ok shopCodec (fun _ => none) pairShopConfig rfl applied
  rw [sameDocument] at saved
  have stored : ((administration shopCodec (fun _ => none)
      pairShopConfig).state [.updatePolicy moveEdit]).adminPolicy =
        some (shopCodec.toText pairPolicy) :=
    congrArg (fun result => result.2.adminPolicy) saved
  exact no_run_retires shopCodec_roundTrip
    (Config.validate_eq_ok_iff.mp (by decide)) _ _ pairShop_retires stored
    (shopCodec_roundTrip pairPolicy) List.mem_cons_self
    (show "m" ∈ ["m", "n"] by decide) effective loads

end AsystantGateway
