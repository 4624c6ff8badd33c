import AsystantGateway.Library.KeyedList
import AsystantGateway.Model.Config

/-!
# The administration policy

Only nonsecret operational settings are persisted. `Policy.fromConfig` projects
a configuration to the document that is stored and `Policy.apply` merges a
document over the environment's configuration; an edit changes a configuration
in one of six ways.

Projecting and merging loses exactly one thing: that a product had no default
model of its own. `Config.explicit` is a configuration after that loss, with
every default model spelled out, and every edit commutes with it.
-/

namespace AsystantGateway

open Checks KeyedList

/-- The stored settings of one product. -/
structure ProductPolicy where
  issuer : String
  models : List String
  defaultModel : String
  dailyTenantMicros : Int64
  dailyUserMicros : Int64
  clientModels : List ClientModels
  budgetOverrides : List BudgetOverride
  deriving DecidableEq

/-- The stored limits of one model. -/
structure ModelLimits where
  id : String
  maxInputTokens : UInt32
  maxOutputTokens : UInt32
  deriving DecidableEq

/-- The stored document. Documents saved before origins were managed have
none. -/
structure Policy where
  products : List ProductPolicy
  models : List ModelLimits
  origins : Option (List String)
  deriving DecidableEq

/-- The policy when nothing is stored. -/
def Policy.default : Policy where
  products := []
  models := []
  origins := none

/-- The default model of a product, its first model when it names none. -/
def Product.explicitDefault (product : Product) : String :=
  (product.defaultModel.or product.models.head?).getD ""

/-- The settings of a product that are stored. -/
def Product.policy (product : Product) : ProductPolicy where
  issuer := product.issuer
  models := product.models
  defaultModel := product.explicitDefault
  dailyTenantMicros := product.dailyTenantMicros
  dailyUserMicros := product.dailyUserMicros
  clientModels := product.clientModels
  budgetOverrides := product.budgetOverrides

/-- The limits of a model that are stored. -/
def ModelConfig.limits (model : ModelConfig) : ModelLimits where
  id := model.id
  maxInputTokens := model.maxInputTokens
  maxOutputTokens := model.maxOutputTokens

/-- The document of a configuration. -/
def Policy.fromConfig (config : Config) : Policy where
  products := config.products.map Product.policy
  models := config.models.map ModelConfig.limits
  origins := some config.origins

/-- A product with the stored settings in place of its own. -/
def ProductPolicy.merge
    (policy : ProductPolicy)
    (product : Product) : Product :=
  { product with
    models := policy.models
    defaultModel := some policy.defaultModel
    dailyTenantMicros := policy.dailyTenantMicros
    dailyUserMicros := policy.dailyUserMicros
    clientModels := policy.clientModels
    budgetOverrides := policy.budgetOverrides }

/-- A model with the stored limits in place of its own. -/
def ModelLimits.merge
    (limits : ModelLimits)
    (model : ModelConfig) : ModelConfig :=
  { model with
    maxInputTokens := limits.maxInputTokens
    maxOutputTokens := limits.maxOutputTokens }

/-- A configuration with a document merged over it, before it is checked. -/
def Policy.merge (policy : Policy) (config : Config) : Config where
  products := mergeByKey Product.issuer ProductPolicy.issuer
    ProductPolicy.merge policy.products config.products
  models := mergeByKey ModelConfig.id ModelLimits.id ModelLimits.merge
    policy.models config.models
  origins := policy.origins.getD config.origins

@[simp] theorem ProductPolicy.merge_issuer
    (policy : ProductPolicy)
    (product : Product) :
    (policy.merge product).issuer = product.issuer := rfl

@[simp] theorem ModelLimits.merge_id
    (limits : ModelLimits)
    (model : ModelConfig) :
    (limits.merge model).id = model.id := rfl

/-- Merging leaves the issuers of the products. -/
theorem Policy.merge_issuers (policy : Policy) (config : Config) :
    (policy.merge config).products.map Product.issuer =
      config.products.map Product.issuer :=
  map_mergeByKey ProductPolicy.merge_issuer _ _

/-- Merging leaves the ids of the models. -/
theorem Policy.merge_ids (policy : Policy) (config : Config) :
    (policy.merge config).models.map ModelConfig.id =
      config.models.map ModelConfig.id :=
  map_mergeByKey ModelLimits.merge_id _ _

/-- Merge a document over a configuration and check the result. -/
def Policy.apply
    (parse : String → Option Url)
    (policy : Policy)
    (config : Config) : Except AppError Config := do
  let merged := policy.merge config
  merged.validate parse
  return merged

theorem Policy.apply_eq_ok_iff
    {parse : String → Option Url}
    {policy : Policy}
    {config merged : Config} :
    policy.apply parse config = .ok merged ↔
      merged = policy.merge config ∧ merged.Valid parse := by
  unfold apply
  rw [seq_eq_ok_iff, Config.validate_eq_ok_iff]
  constructor
  · rintro ⟨valid, same⟩
    obtain rfl := Except.ok.inj same
    exact ⟨rfl, valid⟩
  · rintro ⟨rfl, valid⟩
    exact ⟨valid, rfl⟩

/-- One edit, as an administrator submits it. -/
structure EditPolicy where
  kind : String
  issuer : String
  tenant : String
  model : String
  dailyTenantMicros : Int64
  dailyUserMicros : Int64
  maxInputTokens : UInt32
  maxOutputTokens : UInt32
  origin : String
  deriving DecidableEq

namespace EditPolicy

/-- The edit of a product, against the models of the configuration. -/
def changeProduct
    (edit : EditPolicy)
    (models : List ModelConfig)
    (product : Product) : Except AppError Product :=
  if edit.kind = "product" then
    if ¬ models.any (fun model => model.id = edit.model) then
      .error .invalid
    else
      .ok { product with
        models :=
          if ¬ product.models.contains edit.model then
            product.models ++ [edit.model]
          else product.models
        defaultModel := some edit.model
        dailyTenantMicros := edit.dailyTenantMicros
        dailyUserMicros := edit.dailyUserMicros }
  else if edit.kind = "inherit" then
    .ok { product with
      clientModels := product.clientModels.filter fun client =>
        client.tenant ≠ edit.tenant ∨ client.subject ≠ none
      budgetOverrides := product.budgetOverrides.filter fun budget =>
        budget.tenant ≠ edit.tenant ∨ budget.subject ≠ none }
  else if edit.kind = "client" ∧ Text.trim edit.tenant ≠ "" ∧
      edit.tenant.utf8ByteSize ≤ 200 then
    .ok { product with
      clientModels :=
        (product.clientModels.filter fun client =>
          client.tenant ≠ edit.tenant ∨ client.subject ≠ none) ++
        [{ tenant := edit.tenant
           subject := none
           models := [edit.model]
           defaultModel := edit.model
           allowSelection := false }]
      budgetOverrides :=
        (product.budgetOverrides.filter fun budget =>
          budget.tenant ≠ edit.tenant ∨ budget.subject ≠ none) ++
        [{ tenant := edit.tenant
           subject := none
           dailyMicros := edit.dailyTenantMicros }] }
  else
    .error .invalid

/-- The edit of a configuration, before the result is checked. -/
def change
    (parse : String → Option Url)
    (edit : EditPolicy)
    (config : Config) : Except AppError Config :=
  if edit.kind = "origin_add" then do
    let origin ← normalize parse edit.origin
    if ¬ config.origins.contains origin then
      if config.origins.length ≥ maxOrigins then
        .error .invalid
      else
        .ok { config with origins := config.origins ++ [origin] }
    else
      .ok config
  else if edit.kind = "origin_remove" then do
    let origin ← normalize parse edit.origin
    .ok { config with
      origins := config.origins.filter fun other => other ≠ origin }
  else if edit.kind = "model" then
    match config.models.find? fun model => model.id = edit.model with
    | none => .error .invalid
    | some _ =>
        .ok { config with
          models := modifyFirst (fun model => model.id = edit.model)
            (fun model => { model with
              maxInputTokens := edit.maxInputTokens
              maxOutputTokens := edit.maxOutputTokens })
            config.models }
  else
    match config.products.find? fun product =>
        product.issuer = edit.issuer with
    | none => .error .invalid
    | some product => do
        let changed ← edit.changeProduct config.models product
        .ok { config with
          products := modifyFirst
            (fun product => product.issuer = edit.issuer)
            (fun _ => changed) config.products }

/-- Edit a configuration and check the result. -/
def apply
    (parse : String → Option Url)
    (edit : EditPolicy)
    (config : Config) : Except AppError Config := do
  let changed ← edit.change parse config
  changed.validate parse
  return changed

end EditPolicy

/-- A configuration with every product and every model seen through a view. -/
def Config.view
    (product : Product → Product)
    (model : ModelConfig → ModelConfig)
    (config : Config) : Config :=
  { config with
    products := config.products.map product
    models := config.models.map model }

@[simp] theorem Config.view_products
    (product : Product → Product)
    (model : ModelConfig → ModelConfig)
    (config : Config) :
    (config.view product model).products = config.products.map product := rfl

@[simp] theorem Config.view_models
    (product : Product → Product)
    (model : ModelConfig → ModelConfig)
    (config : Config) :
    (config.view product model).models = config.models.map model := rfl

@[simp] theorem Config.view_origins
    (product : Product → Product)
    (model : ModelConfig → ModelConfig)
    (config : Config) :
    (config.view product model).origins = config.origins := rfl

/-- A product with its default model spelled out. -/
def Product.explicit (product : Product) : Product :=
  { product with defaultModel := some product.explicitDefault }

/-- A configuration with every default model spelled out. -/
def Config.explicit (config : Config) : Config :=
  { config with products := config.products.map Product.explicit }

@[simp] theorem Product.explicit_issuer (product : Product) :
    product.explicit.issuer = product.issuer := rfl

@[simp] theorem Product.explicit_models (product : Product) :
    product.explicit.models = product.models := rfl

@[simp] theorem Product.explicit_explicit (product : Product) :
    product.explicit.explicit = product.explicit := rfl

@[simp] theorem Product.policy_explicit (product : Product) :
    product.explicit.policy = product.policy := rfl

@[simp] theorem Config.explicit_models (config : Config) :
    config.explicit.models = config.models := rfl

@[simp] theorem Config.explicit_origins (config : Config) :
    config.explicit.origins = config.origins := rfl

@[simp] theorem Config.explicit_products (config : Config) :
    config.explicit.products = config.products.map Product.explicit := rfl

@[simp] theorem Config.explicit_explicit (config : Config) :
    config.explicit.explicit = config.explicit := by
  simp [Config.explicit, Function.comp_def]

/-- A document does not say whether a default model was spelled out. -/
@[simp] theorem Policy.fromConfig_explicit (config : Config) :
    fromConfig config.explicit = fromConfig config := by
  simp [fromConfig, Function.comp_def]

/-- Spelling the default models out is a view of the products. -/
theorem Config.explicit_eq_view (config : Config) :
    config.explicit = config.view Product.explicit id := by
  simp [explicit, view]

/-- Spelling the default model out changes no model policy. -/
@[simp] theorem Product.modelPolicy_explicit
    (product : Product)
    (tenant subject : String) :
    product.explicit.modelPolicy tenant subject =
      product.modelPolicy tenant subject := by
  have sameClient : product.explicit.client tenant subject =
      product.client tenant subject := rfl
  unfold modelPolicy
  rw [sameClient]
  cases product.client tenant subject with
  | some client => rfl
  | none =>
      cases isDefault : product.defaultModel.or product.models.head? with
      | some model => simp [explicit, explicitDefault, isDefault]
      | none =>
          have noModels : product.models = [] := by
            cases defaultModel : product.defaultModel with
            | none => simpa [defaultModel] using isDefault
            | some model => simp [defaultModel] at isDefault
          simp [explicit, explicitDefault, noModels, bind, Except.bind]

@[simp] theorem Product.limits_explicit
    (product : Product)
    (tenant subject : String) :
    product.explicit.limits tenant subject =
      product.limits tenant subject := rfl

theorem Product.valid_explicit_iff
    {ids : List String}
    {product : Product} :
    product.explicit.Valid ids ↔ product.Valid ids := by
  constructor
  · intro valid
    refine { valid with defaultModel := fun model isDefault => ?_ }
    have explicitMember := valid.defaultModel _ rfl
    simpa [explicitDefault, isDefault] using explicitMember
  · intro valid
    refine { valid with defaultModel := fun model isDefault => ?_ }
    obtain rfl := Option.some.inj isDefault
    cases defaultModel : product.defaultModel with
    | some model =>
        simpa [explicitDefault, defaultModel] using
          valid.defaultModel model defaultModel
    | none =>
        obtain ⟨head, tail, models⟩ := List.exists_cons_of_ne_nil valid.models
        simp [explicitDefault, defaultModel, models]

/-- Spelling the default models out changes no verdict. -/
theorem Config.valid_explicit_iff
    {parse : String → Option Url}
    {config : Config} :
    config.explicit.Valid parse ↔ config.Valid parse := by
  have sameIssuers : config.explicit.products.map Product.issuer =
      config.products.map Product.issuer := by
    simp [Function.comp_def]
  constructor
  · intro valid
    refine { valid with
      products := by simpa using valid.products
      productsValid := fun product member => ?_
      issuersDistinct := sameIssuers ▸ valid.issuersDistinct }
    exact Product.valid_explicit_iff.mp
      (valid.productsValid product.explicit (List.mem_map_of_mem member))
  · intro valid
    refine { valid with
      products := by simpa using valid.products
      productsValid := fun product member => ?_
      issuersDistinct := sameIssuers ▸ valid.issuersDistinct }
    obtain ⟨prior, present, rfl⟩ := List.mem_map.mp member
    exact Product.valid_explicit_iff.mpr (valid.productsValid prior present)

end AsystantGateway
