import AsystantGateway.Library.CheckedInt
import AsystantGateway.Library.Checks
import AsystantGateway.Model.Origins

/-!
# The configuration

Products, models and origins, as the environment and the administration policy
give them. A configuration is validated by one pass over its models, its
origins and its products. `Config.Valid` says what that pass accepts, and is
proved to be exactly that.
-/

namespace AsystantGateway

open Checks CheckedInt

/-- A daily limit of a tenant, or of one of its users, in place of the
product's. -/
structure BudgetOverride where
  tenant : String
  subject : Option String
  dailyMicros : Int64
  deriving DecidableEq

/-- The models of a tenant, or of one of its users. -/
structure ClientModels where
  tenant : String
  subject : Option String
  models : List String
  defaultModel : String
  allowSelection : Bool
  deriving DecidableEq

/-- What a user may infer with. -/
structure ModelPolicy where
  models : List String
  defaultModel : String
  allowSelection : Bool
  deriving DecidableEq

/-- Whether a policy lets a request name a model. -/
def ModelPolicy.permits (policy : ModelPolicy) (model : String) : Bool :=
  policy.models.any (fun allowed => allowed == model) &&
    (policy.allowSelection || model == policy.defaultModel)

/-- A product whose users the gateway serves. -/
structure Product where
  issuer : String
  secret : String
  dailyTenantMicros : Int64
  dailyUserMicros : Int64
  models : List String
  defaultModel : Option String
  clientModels : List ClientModels
  budgetOverrides : List BudgetOverride
  deriving DecidableEq

namespace Product

/-- The entry for a user: its own, or else that of its tenant. -/
def client
    (product : Product)
    (tenant subject : String) : Option ClientModels :=
  (product.clientModels.find? fun client =>
      client.tenant = tenant ∧ client.subject = some subject).or
    (product.clientModels.find? fun client =>
      client.tenant = tenant ∧ client.subject = none)

/-- The models of a user, refused when they are not models of the product. -/
def modelPolicy
    (product : Product)
    (tenant subject : String) : Except AppError ModelPolicy := do
  let (models, defaultModel, allowSelection) ←
    match product.client tenant subject with
    | some client =>
        .ok (client.models, client.defaultModel, client.allowSelection)
    | none =>
        match product.defaultModel.or product.models.head? with
        | some defaultModel => .ok (product.models, defaultModel, true)
        | none => .error .invalid
  if ¬ models.contains defaultModel ∨
      models.any fun model => ¬ product.models.contains model then
    .error .invalid
  else
    .ok {
      models := if allowSelection then models else [defaultModel]
      defaultModel
      allowSelection }

/-- The daily limits of a tenant and of one of its users. -/
def limits
    (product : Product)
    (tenant subject : String) : Int64 × Int64 :=
  let tenantLimit := (product.budgetOverrides.find? fun budget =>
      budget.tenant = tenant ∧ budget.subject = none).elim
    product.dailyTenantMicros BudgetOverride.dailyMicros
  let userLimit := (product.budgetOverrides.find? fun budget =>
      budget.tenant = tenant ∧ budget.subject = some subject).elim
    product.dailyUserMicros BudgetOverride.dailyMicros
  (tenantLimit, userLimit)

end Product

/-- The inference providers. -/
inductive Provider
  | openrouter
  | openai
  | gemini
  | anthropic
  | opencodeZen
  | opencodeGo
  deriving DecidableEq, Repr

/-- The wire formats of the providers. -/
inductive WireApi
  | chatCompletions
  | messages
  | responses
  deriving DecidableEq, Repr

/-- A model that requests can name, with its prices and its limits. -/
structure ModelConfig where
  id : String
  provider : Provider
  model : String
  keyEnv : String
  wireApi : WireApi
  inputMicrosPerMillion : Int64
  outputMicrosPerMillion : Int64
  maxInputTokens : UInt32
  maxOutputTokens : UInt32
  deriving DecidableEq

namespace ModelConfig

/-- The largest cost of one request, in micros rounded up. -/
def reservation (model : ModelConfig) : Except AppError Int64 :=
  let total := do
    let input ← checkedMul (.ofNat model.maxInputTokens.toNat)
      model.inputMicrosPerMillion
    let output ← checkedMul (.ofNat model.maxOutputTokens.toNat)
      model.outputMicrosPerMillion
    let sum ← checkedAdd input output
    checkedAdd sum 999999
  match total with
  | none => .error .invalid
  | some total => .ok (total / 1000000)

/-- Whether a wire format exists at a provider. -/
def speaks (model : ModelConfig) : Bool :=
  match model.wireApi with
  | .chatCompletions => true
  | .messages =>
      model.provider = .anthropic || model.provider = .opencodeZen ||
        model.provider = .opencodeGo
  | .responses =>
      model.provider = .openai || model.provider = .opencodeZen ||
        model.provider = .opencodeGo

def validate (model : ModelConfig) : Except AppError Unit := do
  refuse (model.id = "" ∨ model.model = "" ∨
    model.inputMicrosPerMillion ≤ 0 ∨ model.outputMicrosPerMillion ≤ 0 ∨
    model.maxInputTokens = 0 ∨ model.maxOutputTokens = 0 ∨
    model.maxInputTokens > 1000000 ∨ model.maxOutputTokens > 32768) .invalid
  refuse (¬ model.speaks) .invalid
  let _ ← model.reservation
  return ()

end ModelConfig

/-- The whole configuration. -/
structure Config where
  products : List Product
  models : List ModelConfig
  origins : List String
  deriving DecidableEq

/-- The check of one client entry of a product with some models. -/
def ClientModels.validate
    (productModels : List String)
    (client : ClientModels) : Except AppError Unit :=
  refuse (client.tenant = "" ∨ client.subject = some "" ∨
    client.models = [] ∨ ¬ client.models.contains client.defaultModel ∨
    (client.models.any fun model => ¬ productModels.contains model) ∨
    ¬ client.models.Nodup) .invalid

def BudgetOverride.validate (budget : BudgetOverride) :
    Except AppError Unit :=
  refuse (budget.tenant = "" ∨ budget.dailyMicros < 0) .invalid

/-- The check of one product against the ids of the models. The test for a
repeated issuer, which the source makes within the last condition, is made by
the loop over the products; every refusal is the same error. -/
def Product.validate
    (ids : List String)
    (product : Product) : Except AppError Unit := do
  refuse (product.defaultModel.any fun model =>
    ¬ product.models.contains model) .invalid
  let _ ← distinctBy (fun client => (client.tenant, client.subject))
    (ClientModels.validate product.models) .invalid [] product.clientModels
  let _ ← distinctBy
    (fun budget : BudgetOverride => (budget.tenant, budget.subject))
    BudgetOverride.validate .invalid [] product.budgetOverrides
  refuse (product.secret.utf8ByteSize < 32 ∨ product.issuer = "" ∨
    product.dailyTenantMicros ≤ 0 ∨ product.dailyUserMicros ≤ 0 ∨
    product.models = [] ∨
    (product.models.any fun model => ¬ ids.contains model)) .invalid

/-- Check a whole configuration. -/
def Config.validate
    (parse : String → Option Url)
    (config : Config) : Except AppError Unit := do
  refuse (config.products = [] ∨ config.models = []) .invalid
  let ids ← distinctBy ModelConfig.id ModelConfig.validate .invalid []
    config.models
  refuse (config.origins.length > maxOrigins ∨ ¬ config.origins.Nodup ∨
    (config.origins.any fun origin =>
      (normalize parse origin).toOption ≠ some origin)) .invalid
  let _ ← distinctBy Product.issuer (Product.validate ids) .invalid []
    config.products
  return ()

/-- What is checked of a model. -/
theorem ModelConfig.validate_eq_ok_iff
    {model : ModelConfig} :
    model.validate = .ok () ↔
      (model.id ≠ "" ∧ model.model ≠ "" ∧
        0 < model.inputMicrosPerMillion ∧ 0 < model.outputMicrosPerMillion ∧
        model.maxInputTokens ≠ 0 ∧ model.maxOutputTokens ≠ 0 ∧
        model.maxInputTokens ≤ 1000000 ∧ model.maxOutputTokens ≤ 32768) ∧
      model.speaks = true ∧ ∃ amount, model.reservation = .ok amount := by
  unfold validate
  simp only [bind_eq_ok_iff, refuse_eq_ok_iff, not_or, not_not, gt_iff_lt,
    UInt32.not_lt, Int64.not_le, pure, Except.pure, and_true, ne_eq,
    exists_const]

/-- What is checked of a product besides its issuer being its own. -/
structure Product.Valid (ids : List String) (product : Product) : Prop where
  defaultModel : ∀ model, product.defaultModel = some model →
    model ∈ product.models
  clients : ∀ client ∈ product.clientModels,
    client.validate product.models = .ok ()
  clientsDistinct : (product.clientModels.map fun client =>
    (client.tenant, client.subject)).Nodup
  budgets : ∀ budget ∈ product.budgetOverrides, budget.validate = .ok ()
  budgetsDistinct : (product.budgetOverrides.map fun budget =>
    (budget.tenant, budget.subject)).Nodup
  secret : 32 ≤ product.secret.utf8ByteSize
  issuer : product.issuer ≠ ""
  dailyTenantMicros : 0 < product.dailyTenantMicros
  dailyUserMicros : 0 < product.dailyUserMicros
  models : product.models ≠ []
  modelsKnown : ∀ model ∈ product.models, model ∈ ids

theorem Product.validate_eq_ok_iff
    {ids : List String}
    {product : Product} :
    product.validate ids = .ok () ↔ product.Valid ids := by
  unfold validate
  simp only [bind_eq_ok_iff, refuse_eq_ok_iff, distinctBy_eq_ok_iff]
  constructor
  · rintro ⟨-, defaultModel, -, ⟨clients, clientsDistinct, -, -⟩, -,
      ⟨budgets, budgetsDistinct, -, -⟩, rest⟩
    simp only [not_or, Nat.not_lt, List.any_eq_true, not_exists, not_and,
      List.contains_iff_mem, decide_eq_true_eq, not_not] at rest
    obtain ⟨secret, issuer, tenantMicros, userMicros, models, known⟩ := rest
    refine ⟨fun model isDefault => ?_, clients, clientsDistinct, budgets,
      budgetsDistinct, secret, issuer, Int64.not_le.mp tenantMicros,
      Int64.not_le.mp userMicros, models, known⟩
    simpa [isDefault] using defaultModel
  · intro valid
    refine ⟨(), ?_, _, ⟨valid.clients, valid.clientsDistinct, by simp, rfl⟩, _,
      ⟨valid.budgets, valid.budgetsDistinct, by simp, rfl⟩, ?_⟩
    · cases isDefault : product.defaultModel with
      | none => simp
      | some model => simpa using valid.defaultModel model isDefault
    · simp only [not_or, Nat.not_lt, List.any_eq_true, not_exists, not_and,
        List.contains_iff_mem, decide_eq_true_eq, not_not]
      exact ⟨valid.secret, valid.issuer,
        Int64.not_le.mpr valid.dailyTenantMicros,
        Int64.not_le.mpr valid.dailyUserMicros, valid.models,
        valid.modelsKnown⟩

/-- What is checked of a configuration. -/
structure Config.Valid
    (parse : String → Option Url)
    (config : Config) : Prop where
  products : config.products ≠ []
  models : config.models ≠ []
  modelsValid : ∀ model ∈ config.models, model.validate = .ok ()
  modelsDistinct : (config.models.map ModelConfig.id).Nodup
  originsFew : config.origins.length ≤ maxOrigins
  originsDistinct : config.origins.Nodup
  originsNormal : ∀ origin ∈ config.origins,
    normalize parse origin = .ok origin
  productsValid : ∀ product ∈ config.products,
    product.Valid (config.models.map ModelConfig.id)
  issuersDistinct : (config.products.map Product.issuer).Nodup

theorem Product.Valid.congr
    {ids otherIds : List String}
    {product : Product}
    (same : ∀ id, id ∈ ids ↔ id ∈ otherIds)
    (valid : product.Valid ids) :
    product.Valid otherIds :=
  { valid with
    modelsKnown := fun model member =>
      (same model).mp (valid.modelsKnown model member) }

theorem toOption_eq_some_iff
    {result : Except AppError String}
    {value : String} :
    result.toOption = some value ↔ result = .ok value := by
  cases result <;> simp [Except.toOption]

theorem Config.validate_eq_ok_iff
    {parse : String → Option Url}
    {config : Config} :
    config.validate parse = .ok () ↔ config.Valid parse := by
  unfold validate
  simp only [bind_eq_ok_iff, refuse_eq_ok_iff, distinctBy_eq_ok_iff,
    Product.validate_eq_ok_iff]
  have sameIds : ∀ id, id ∈ (config.models.map ModelConfig.id).reverse ++ [] ↔
      id ∈ config.models.map ModelConfig.id := by
    simp
  constructor
  · rintro ⟨-, present, ids, ⟨modelsValid, modelsDistinct, -, rfl⟩, -, origins, -,
      ⟨productsValid, issuersDistinct, -, -⟩, -⟩
    simp only [not_or, Nat.not_lt, gt_iff_lt, not_not, List.any_eq_true,
      not_exists, not_and, decide_eq_true_eq, ne_eq,
      toOption_eq_some_iff] at present origins
    exact ⟨present.1, present.2, modelsValid, modelsDistinct, origins.1,
      origins.2.1, origins.2.2,
      fun product member => (productsValid product member).congr sameIds,
      issuersDistinct⟩
  · intro valid
    refine ⟨(), ?_, _, ⟨valid.modelsValid, valid.modelsDistinct, by simp, rfl⟩,
      (), ?_, _, ⟨fun product member =>
        (valid.productsValid product member).congr fun id =>
          (sameIds id).symm, valid.issuersDistinct, by simp, rfl⟩, rfl⟩
    · exact not_or.mpr ⟨valid.products, valid.models⟩
    · simp only [not_or, Nat.not_lt, gt_iff_lt, not_not, List.any_eq_true,
        not_exists, not_and, decide_eq_true_eq, ne_eq, toOption_eq_some_iff]
      exact ⟨valid.originsFew, valid.originsDistinct, valid.originsNormal⟩

theorem ModelPolicy.permits_iff
    {policy : ModelPolicy}
    {model : String} :
    policy.permits model = true ↔
      model ∈ policy.models ∧
        (policy.allowSelection = true ∨ model = policy.defaultModel) := by
  simp [permits]

namespace Product

/-- The models, the default model and the selection of a user, before they are
checked. -/
def assignment
    (product : Product)
    (tenant subject : String) : Option (List String × String × Bool) :=
  match product.client tenant subject with
  | some client =>
      some (client.models, client.defaultModel, client.allowSelection)
  | none =>
      (product.defaultModel.or product.models.head?).map fun defaultModel =>
        (product.models, defaultModel, true)

/-- The policy of a user is its assignment, when that is about models of the
product. -/
theorem modelPolicy_eq_ok_iff
    {product : Product}
    {tenant subject : String}
    {policy : ModelPolicy} :
    product.modelPolicy tenant subject = .ok policy ↔
      ∃ models defaultModel allowSelection,
        product.assignment tenant subject =
            some (models, defaultModel, allowSelection) ∧
          defaultModel ∈ models ∧
          (∀ model ∈ models, model ∈ product.models) ∧
          policy = ⟨if allowSelection then models else [defaultModel],
            defaultModel, allowSelection⟩ := by
  have computed : product.modelPolicy tenant subject =
      match product.assignment tenant subject with
      | none => .error .invalid
      | some (models, defaultModel, allowSelection) =>
          if ¬ models.contains defaultModel ∨
              models.any fun model => ¬ product.models.contains model then
            .error .invalid
          else
            .ok ⟨if allowSelection then models else [defaultModel],
              defaultModel, allowSelection⟩ := by
    unfold modelPolicy assignment
    cases product.client tenant subject with
    | some client => rfl
    | none => cases product.defaultModel.or product.models.head? <;> rfl
  rw [computed]
  cases product.assignment tenant subject with
  | none => simp
  | some assigned =>
      obtain ⟨models, defaultModel, allowSelection⟩ := assigned
      simp only [Option.some.injEq, Prod.mk.injEq]
      split
      · rename_i refused
        refine iff_of_false (fun impossible => by cases impossible) ?_
        rintro ⟨_, _, _, ⟨rfl, rfl, rfl⟩, isDefault, known, _⟩
        simp [isDefault] at refused
        obtain ⟨model, member, unknown⟩ := refused
        exact unknown (known model member)
      · rename_i passes
        simp only [List.contains_iff_mem, List.any_eq_true, not_or, not_not,
          not_exists, not_and, decide_eq_true_eq] at passes
        constructor
        · intro same
          exact ⟨_, _, _, ⟨rfl, rfl, rfl⟩, passes.1, passes.2,
            (Except.ok.inj same).symm⟩
        · rintro ⟨_, _, _, ⟨rfl, rfl, rfl⟩, _, _, rfl⟩
          rfl

end Product

/-- What is known of a policy that a product gives to a user. -/
structure ModelPolicy.OfProduct
    (product : Product)
    (policy : ModelPolicy) : Prop where
  defaultModel : policy.defaultModel ∈ policy.models
  models : ∀ model ∈ policy.models, model ∈ product.models
  fixed : policy.allowSelection = false →
    policy.models = [policy.defaultModel]

theorem Product.modelPolicy_ofProduct
    {product : Product}
    {tenant subject : String}
    {policy : ModelPolicy}
    (given : product.modelPolicy tenant subject = .ok policy) :
    policy.OfProduct product := by
  obtain ⟨models, defaultModel, allowSelection, -, isDefault, known, rfl⟩ :=
    modelPolicy_eq_ok_iff.mp given
  cases allowSelection with
  | true => exact ⟨isDefault, known, fun fixed => by cases fixed⟩
  | false =>
      refine ⟨List.mem_singleton_self _, fun model member => ?_, fun _ => rfl⟩
      rw [List.mem_singleton.mp member]
      exact known defaultModel isDefault

end AsystantGateway
