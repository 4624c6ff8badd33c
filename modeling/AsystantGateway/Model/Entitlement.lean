import AsystantGateway.Library.Lookup
import AsystantGateway.Model.Config

/-!
# What a user is entitled to

A product gives models to its users by rules: one for a user, one for a tenant,
and the product's own models where there is neither. `Product.Grants` says
which policy the rules give, as a statement about which rules there are.

The source looks rules up by first matches in a list. For a product that
validation accepts the two agree, so that the policy depends on no order, on no
rule of anyone else, and is about registered models only.
-/

namespace AsystantGateway

open KeyedList

/-- Whom a rule is for: a tenant, or one of its users. -/
def ClientModels.target (rule : ClientModels) : String × Option String :=
  (rule.tenant, rule.subject)

/-- Whom a limit is for: a tenant, or one of its users. -/
def BudgetOverride.target (budget : BudgetOverride) : String × Option String :=
  (budget.tenant, budget.subject)

namespace Product

/-- The rule for a tenant or for one of its users. -/
def rules (product : Product) : String × Option String → Option ClientModels :=
  lookup ClientModels.target product.clientModels

/-- The limit for a tenant or for one of its users. -/
def budgets
    (product : Product) : String × Option String → Option BudgetOverride :=
  lookup BudgetOverride.target product.budgetOverrides

/-- The rule of a user comes before that of its tenant. -/
theorem client_eq_rules
    (product : Product)
    (tenant subject : String) :
    product.client tenant subject =
      (product.rules (tenant, some subject)).or
        (product.rules (tenant, none)) := by
  simp [client, rules, lookup, ClientModels.target]

theorem limits_eq_budgets
    (product : Product)
    (tenant subject : String) :
    product.limits tenant subject =
      ((product.budgets (tenant, none)).elim product.dailyTenantMicros
          BudgetOverride.dailyMicros,
        (product.budgets (tenant, some subject)).elim product.dailyUserMicros
          BudgetOverride.dailyMicros) := by
  simp [limits, budgets, lookup, BudgetOverride.target]

/-- A policy depends on a product by its models, its default model and the
rules for the user and the tenant. -/
theorem modelPolicy_congr
    {product other : Product}
    {tenant subject : String}
    (models : other.models = product.models)
    (defaultModel : other.defaultModel = product.defaultModel)
    (ofSubject : other.rules (tenant, some subject) =
      product.rules (tenant, some subject))
    (ofTenant : (∀ rule, product.rules (tenant, some subject) ≠ some rule) →
      other.rules (tenant, none) = product.rules (tenant, none)) :
    other.modelPolicy tenant subject = product.modelPolicy tenant subject := by
  have sameClient : other.client tenant subject =
      product.client tenant subject := by
    rw [client_eq_rules, client_eq_rules, ofSubject]
    cases own : product.rules (tenant, some subject) with
    | some rule => rfl
    | none => rw [ofTenant (by simp [own])]
  unfold modelPolicy
  rw [sameClient, models, defaultModel]

/-- The limits depend on a product by its own limits and the two for the user
and the tenant. -/
theorem limits_congr
    {product other : Product}
    {tenant subject : String}
    (dailyTenantMicros : other.dailyTenantMicros = product.dailyTenantMicros)
    (dailyUserMicros : other.dailyUserMicros = product.dailyUserMicros)
    (ofTenant : other.budgets (tenant, none) = product.budgets (tenant, none))
    (ofSubject : other.budgets (tenant, some subject) =
      product.budgets (tenant, some subject)) :
    other.limits tenant subject = product.limits tenant subject := by
  rw [limits_eq_budgets, limits_eq_budgets, dailyTenantMicros,
    dailyUserMicros, ofTenant, ofSubject]

end Product

/-- The policy that a rule gives. -/
def ClientModels.policy (rule : ClientModels) : ModelPolicy where
  models := if rule.allowSelection then rule.models else [rule.defaultModel]
  defaultModel := rule.defaultModel
  allowSelection := rule.allowSelection

/-- The policy that the rules of a product give to a user: that of the rule for
the user, or else that of the rule for its tenant, or else all models of the
product. -/
inductive Product.Grants
    (product : Product)
    (tenant subject : String) : ModelPolicy → Prop
  | ofSubject
      (rule : ClientModels)
      (isRule : rule ∈ product.clientModels)
      (isTarget : rule.target = (tenant, some subject)) :
      Grants product tenant subject rule.policy
  | ofTenant
      (rule : ClientModels)
      (isRule : rule ∈ product.clientModels)
      (isTarget : rule.target = (tenant, none))
      (noOwn : ∀ other ∈ product.clientModels,
        other.target ≠ (tenant, some subject)) :
      Grants product tenant subject rule.policy
  | ofProduct
      (defaultModel : String)
      (isDefault : product.defaultModel.or product.models.head? =
        some defaultModel)
      (noOwn : ∀ other ∈ product.clientModels,
        other.target ≠ (tenant, some subject))
      (noTenant : ∀ other ∈ product.clientModels,
        other.target ≠ (tenant, none)) :
      Grants product tenant subject {
        models := product.models
        defaultModel
        allowSelection := true }

/-! ## Valid products -/

theorem ClientModels.listed_of_validate
    {productModels : List String}
    {rule : ClientModels}
    (valid : rule.validate productModels = .ok ()) :
    rule.defaultModel ∈ rule.models ∧
      ∀ model ∈ rule.models, model ∈ productModels := by
  unfold ClientModels.validate at valid
  simp only [Checks.refuse_eq_ok_iff, not_or, not_not, List.any_eq_true,
    not_exists, not_and, List.contains_iff_mem, decide_eq_true_eq] at valid
  obtain ⟨-, -, -, isDefault, known, -⟩ := valid
  exact ⟨isDefault, known⟩

namespace Product.Valid

variable
  {ids : List String}
  {product : Product}
  {tenant subject : String}
  {policy : ModelPolicy}

/-- The rule for a target is the only one there is. -/
theorem rules_eq_some_iff
    (valid : product.Valid ids)
    {target : String × Option String}
    {rule : ClientModels} :
    product.rules target = some rule ↔
      rule ∈ product.clientModels ∧ rule.target = target :=
  lookup_eq_some_iff valid.clientsDistinct

/-- There is a default model for the users without a rule. -/
theorem exists_defaultModel (valid : product.Valid ids) :
    ∃ defaultModel,
      product.defaultModel.or product.models.head? = some defaultModel ∧
        defaultModel ∈ product.models := by
  cases isDefault : product.defaultModel with
  | some defaultModel =>
      exact ⟨defaultModel, rfl, valid.defaultModel defaultModel isDefault⟩
  | none =>
      obtain ⟨head, tail, models⟩ := List.exists_cons_of_ne_nil valid.models
      rw [models]
      exact ⟨head, rfl, List.mem_cons_self⟩

/-- What a user of a valid product is assigned are models of the product, the
default among them. -/
theorem assignment_sound
    (valid : product.Valid ids)
    {models : List String}
    {defaultModel : String}
    {allowSelection : Bool}
    (assigned : product.assignment tenant subject =
      some (models, defaultModel, allowSelection)) :
    defaultModel ∈ models ∧ ∀ model ∈ models, model ∈ product.models := by
  unfold assignment at assigned
  split at assigned
  case h_1 rule found =>
    cases assigned
    apply ClientModels.listed_of_validate
    apply valid.clients
    rw [client_eq_rules, Option.or_eq_some_iff] at found
    rcases found with own | ⟨-, ofTenant⟩
    · exact (valid.rules_eq_some_iff.mp own).1
    · exact (valid.rules_eq_some_iff.mp ofTenant).1
  case h_2 =>
    obtain ⟨found, isDefault, isListed⟩ := valid.exists_defaultModel
    rw [isDefault] at assigned
    cases assigned
    exact ⟨isListed, fun model member => member⟩

/-- What is granted is what is assigned. -/
theorem grants_iff (valid : product.Valid ids) :
    product.Grants tenant subject policy ↔
      ∃ models defaultModel allowSelection,
        product.assignment tenant subject =
            some (models, defaultModel, allowSelection) ∧
          policy = ⟨if allowSelection then models else [defaultModel],
            defaultModel, allowSelection⟩ := by
  have noneOfForall {target : String × Option String}
      (absent : ∀ other ∈ product.clientModels, other.target ≠ target) :
      product.rules target = none :=
    lookup_eq_none_iff.mpr absent
  unfold assignment
  rw [client_eq_rules]
  constructor
  · intro granted
    cases granted with
    | ofSubject rule isRule isTarget =>
        rw [valid.rules_eq_some_iff.mpr ⟨isRule, isTarget⟩]
        exact ⟨_, _, _, rfl, rfl⟩
    | ofTenant rule isRule isTarget noOwn =>
        rw [noneOfForall noOwn,
          valid.rules_eq_some_iff.mpr ⟨isRule, isTarget⟩]
        exact ⟨_, _, _, rfl, rfl⟩
    | ofProduct defaultModel isDefault noOwn noTenant =>
        rw [noneOfForall noOwn, noneOfForall noTenant, isDefault]
        exact ⟨_, _, _, rfl, rfl⟩
  · rintro ⟨models, defaultModel, allowSelection, assigned, rfl⟩
    cases own : product.rules (tenant, some subject) with
    | some rule =>
        rw [own] at assigned
        cases assigned
        obtain ⟨isRule, isTarget⟩ := valid.rules_eq_some_iff.mp own
        exact .ofSubject rule isRule isTarget
    | none =>
        have noOwn := lookup_eq_none_iff.mp own
        cases shared : product.rules (tenant, none) with
        | some rule =>
            rw [own, shared] at assigned
            cases assigned
            obtain ⟨isRule, isTarget⟩ := valid.rules_eq_some_iff.mp shared
            exact .ofTenant rule isRule isTarget noOwn
        | none =>
            rw [own, shared] at assigned
            obtain ⟨default, isDefault, same⟩ :=
              Option.map_eq_some_iff.mp assigned
            cases same
            exact .ofProduct _ isDefault noOwn (lookup_eq_none_iff.mp shared)

/-- The policy of a user is the one that the rules grant. -/
theorem modelPolicy_eq_ok_iff_grants (valid : product.Valid ids) :
    product.modelPolicy tenant subject = .ok policy ↔
      product.Grants tenant subject policy := by
  rw [modelPolicy_eq_ok_iff, valid.grants_iff]
  constructor
  · rintro ⟨models, defaultModel, allowSelection, assigned, -, -, same⟩
    exact ⟨models, defaultModel, allowSelection, assigned, same⟩
  · rintro ⟨models, defaultModel, allowSelection, assigned, same⟩
    obtain ⟨isDefault, known⟩ := valid.assignment_sound assigned
    exact ⟨models, defaultModel, allowSelection, assigned, isDefault, known,
      same⟩

/-- Every user of a valid product has a policy. -/
theorem exists_modelPolicy
    (valid : product.Valid ids)
    (tenant subject : String) :
    ∃ policy, product.modelPolicy tenant subject = .ok policy := by
  simp only [valid.modelPolicy_eq_ok_iff_grants, valid.grants_iff]
  unfold assignment
  cases product.client tenant subject with
  | some rule => exact ⟨_, _, _, _, rfl, rfl⟩
  | none =>
      obtain ⟨defaultModel, isDefault, -⟩ := valid.exists_defaultModel
      rw [isDefault]
      exact ⟨_, _, _, _, rfl, rfl⟩

end Product.Valid

/-! ## Other rules -/

/-- A product with other rules and limits. -/
def Product.withRules
    (product : Product)
    (clientModels : List ClientModels)
    (budgetOverrides : List BudgetOverride) : Product :=
  { product with clientModels, budgetOverrides }

/-- Whether a target is a user or its tenant. -/
def concerns
    (tenant subject : String)
    (target : String × Option String) : Bool :=
  target = (tenant, some subject) ∨ target = (tenant, none)

/-- The rules and the limits for others are not looked at. -/
theorem Product.withRules_foreign
    {product : Product}
    {tenant subject : String}
    {clientModels : List ClientModels}
    {budgetOverrides : List BudgetOverride}
    (sameRules :
      clientModels.filter
          (fun rule => concerns tenant subject rule.target) =
        product.clientModels.filter
          fun rule => concerns tenant subject rule.target)
    (sameBudgets :
      budgetOverrides.filter
          (fun budget => concerns tenant subject budget.target) =
        product.budgetOverrides.filter
          fun budget => concerns tenant subject budget.target) :
    (product.withRules clientModels budgetOverrides).modelPolicy
          tenant subject =
        product.modelPolicy tenant subject ∧
      (product.withRules clientModels budgetOverrides).limits
          tenant subject =
        product.limits tenant subject := by
  have rules {target : String × Option String}
      (concerned : concerns tenant subject target = true) :
      (product.withRules clientModels budgetOverrides).rules target =
        product.rules target := by
    have kept : ∀ rule : ClientModels, rule.target = target →
        concerns tenant subject rule.target = true := by
      rintro rule rfl
      exact concerned
    exact (lookup_filter_of_forall kept).symm.trans
      ((congrArg (fun rules => lookup ClientModels.target rules target)
        sameRules).trans (lookup_filter_of_forall kept))
  have budgets {target : String × Option String}
      (concerned : concerns tenant subject target = true) :
      (product.withRules clientModels budgetOverrides).budgets target =
        product.budgets target := by
    have kept : ∀ budget : BudgetOverride, budget.target = target →
        concerns tenant subject budget.target = true := by
      rintro budget rfl
      exact concerned
    exact (lookup_filter_of_forall kept).symm.trans
      ((congrArg (fun budgets => lookup BudgetOverride.target budgets target)
        sameBudgets).trans (lookup_filter_of_forall kept))
  have ofSubject : concerns tenant subject (tenant, some subject) = true := by
    simp [concerns]
  have ofTenant : concerns tenant subject (tenant, none) = true := by
    simp [concerns]
  exact ⟨modelPolicy_congr rfl rfl (rules ofSubject) fun _ => rules ofTenant,
    limits_congr rfl rfl (budgets ofTenant) (budgets ofSubject)⟩

/-- A product with its rules and its limits in another order. -/
def Product.Reordered (product other : Product) : Prop :=
  ∃ clientModels budgetOverrides,
    clientModels.Perm product.clientModels ∧
      budgetOverrides.Perm product.budgetOverrides ∧
        other = product.withRules clientModels budgetOverrides

/-- A configuration with the rules and the limits of its products in another
order. -/
structure Config.Reordered (config other : Config) : Prop where
  products : List.Forall₂ Product.Reordered config.products other.products
  models : other.models = config.models
  origins : other.origins = config.origins

namespace Product.Reordered

variable
  {ids : List String}
  {product other : Product}

theorem issuer (reordered : product.Reordered other) :
    other.issuer = product.issuer := by
  obtain ⟨clientModels, budgetOverrides, -, -, rfl⟩ := reordered
  rfl

/-- The order is not checked. -/
theorem valid
    (reordered : product.Reordered other)
    (valid : product.Valid ids) :
    other.Valid ids := by
  obtain ⟨clientModels, budgetOverrides, rules, budgets, rfl⟩ := reordered
  exact { valid with
    clients := fun rule isRule => valid.clients rule (rules.mem_iff.mp isRule)
    clientsDistinct := (rules.map _).nodup_iff.mpr valid.clientsDistinct
    budgets := fun budget isBudget =>
      valid.budgets budget (budgets.mem_iff.mp isBudget)
    budgetsDistinct := (budgets.map _).nodup_iff.mpr valid.budgetsDistinct }

/-- The order gives no user another policy or another limit. -/
theorem same
    (reordered : product.Reordered other)
    (valid : product.Valid ids)
    (tenant subject : String) :
    other.modelPolicy tenant subject = product.modelPolicy tenant subject ∧
      other.limits tenant subject = product.limits tenant subject := by
  obtain ⟨clientModels, budgetOverrides, rules, budgets, rfl⟩ := reordered
  have sameRules : (product.withRules clientModels budgetOverrides).rules =
      product.rules :=
    lookup_perm valid.clientsDistinct rules
  have sameBudgets : (product.withRules clientModels budgetOverrides).budgets =
      product.budgets :=
    lookup_perm valid.budgetsDistinct budgets
  exact ⟨modelPolicy_congr rfl rfl (congrFun sameRules _)
      fun _ => congrFun sameRules _,
    limits_congr rfl rfl (congrFun sameBudgets _) (congrFun sameBudgets _)⟩

theorem issuers
    {products others : List Product}
    (reordered : List.Forall₂ Product.Reordered products others) :
    others.map Product.issuer = products.map Product.issuer := by
  induction reordered with
  | nil => rfl
  | cons isReordered _ inductionHypothesis =>
      rw [List.map_cons, List.map_cons, isReordered.issuer,
        inductionHypothesis]

theorem forall_valid
    {products others : List Product}
    (reordered : List.Forall₂ Product.Reordered products others)
    (valid : ∀ product ∈ products, product.Valid ids) :
    ∀ other ∈ others, other.Valid ids := by
  induction reordered with
  | nil => exact valid
  | cons isReordered _ inductionHypothesis =>
      rw [List.forall_mem_cons] at valid ⊢
      exact ⟨isReordered.valid valid.1, inductionHypothesis valid.2⟩

/-- No product of the list gives any user another policy or another limit. -/
theorem forall_same
    {products others : List Product}
    (reordered : List.Forall₂ Product.Reordered products others)
    (valid : ∀ product ∈ products, product.Valid ids) :
    List.Forall₂ (fun product other => ∀ tenant subject,
        other.modelPolicy tenant subject =
            product.modelPolicy tenant subject ∧
          other.limits tenant subject = product.limits tenant subject)
      products others := by
  induction reordered with
  | nil => exact .nil
  | cons isReordered _ inductionHypothesis =>
      rw [List.forall_mem_cons] at valid
      exact .cons (isReordered.same valid.1) (inductionHypothesis valid.2)

end Product.Reordered

/-- The order of the rules is not checked. -/
theorem Config.Reordered.valid
    {parse : String → Option Url}
    {config other : Config}
    (reordered : config.Reordered other)
    (valid : config.Valid parse) :
    other.Valid parse := by
  have issuers := Product.Reordered.issuers reordered.products
  refine {
    products := ?_
    models := reordered.models ▸ valid.models
    modelsValid := reordered.models ▸ valid.modelsValid
    modelsDistinct := reordered.models ▸ valid.modelsDistinct
    originsFew := reordered.origins ▸ valid.originsFew
    originsDistinct := reordered.origins ▸ valid.originsDistinct
    originsNormal := reordered.origins ▸ valid.originsNormal
    productsValid := ?_
    issuersDistinct := issuers ▸ valid.issuersDistinct }
  · intro empty
    rw [empty] at issuers
    exact valid.products (List.map_eq_nil_iff.mp issuers.symm)
  · rw [reordered.models]
    exact Product.Reordered.forall_valid reordered.products
      valid.productsValid

/-! ## What validation promises a user -/

/-- What a user gets from a product of a configuration. -/
structure Config.Entitles
    (config : Config)
    (product : Product)
    (tenant subject : String)
    (policy : ModelPolicy) : Prop where
  given : product.modelPolicy tenant subject = .ok policy
  granted : product.Grants tenant subject policy
  unique : ∀ other, product.Grants tenant subject other → other = policy
  listed : policy.defaultModel ∈ policy.models
  permitted : policy.permits policy.defaultModel = true
  registered : ∀ id, policy.permits id = true →
    ∃ model, config.models.find? (fun model => model.id = id) = some model
  fixed : policy.allowSelection = false →
    ∀ id, policy.permits id = true → id = policy.defaultModel

theorem Config.Valid.exists_entitles
    {parse : String → Option Url}
    {config : Config}
    (valid : config.Valid parse)
    {product : Product}
    (isProduct : product ∈ config.products)
    (tenant subject : String) :
    ∃ policy, config.Entitles product tenant subject policy := by
  have productValid := valid.productsValid product isProduct
  obtain ⟨policy, given⟩ := productValid.exists_modelPolicy tenant subject
  have ofProduct := Product.modelPolicy_ofProduct given
  refine ⟨policy, {
    given
    granted := productValid.modelPolicy_eq_ok_iff_grants.mp given
    unique := ?_
    listed := ofProduct.defaultModel
    permitted := ?_
    registered := ?_
    fixed := ?_ }⟩
  · intro other granted
    have same := productValid.modelPolicy_eq_ok_iff_grants.mpr granted
    exact Except.ok.inj (same.symm.trans given)
  · exact ModelPolicy.permits_iff.mpr ⟨ofProduct.defaultModel, .inr rfl⟩
  · intro id permits
    have isListed := ofProduct.models id (ModelPolicy.permits_iff.mp permits).1
    obtain ⟨model, isModel, sameId⟩ :=
      List.mem_map.mp (productValid.modelsKnown id isListed)
    apply Option.isSome_iff_exists.mp
    exact List.find?_isSome.mpr ⟨model, isModel, by simpa using sameId⟩
  · intro fixed id permits
    have isListed := (ModelPolicy.permits_iff.mp permits).1
    rw [ofProduct.fixed fixed] at isListed
    exact List.mem_singleton.mp isListed

/-- A configuration that validation accepts entitles every user of every
product to one policy, that of the rules for it. No rule for anyone else
matters, and neither does the order. -/
theorem Config.entitlement_of_validate
    {parse : String → Option Url}
    {config : Config}
    (accepted : config.validate parse = .ok ()) :
    (∀ product ∈ config.products, ∀ tenant subject,
      (∃ policy, config.Entitles product tenant subject policy) ∧
      ∀ clientModels budgetOverrides,
        clientModels.filter (fun rule =>
            concerns tenant subject rule.target) =
          product.clientModels.filter (fun rule =>
            concerns tenant subject rule.target) →
        budgetOverrides.filter (fun budget =>
            concerns tenant subject budget.target) =
          product.budgetOverrides.filter (fun budget =>
            concerns tenant subject budget.target) →
        (product.withRules clientModels budgetOverrides).modelPolicy
              tenant subject =
            product.modelPolicy tenant subject ∧
          (product.withRules clientModels budgetOverrides).limits
              tenant subject =
            product.limits tenant subject) ∧
    ∀ other, config.Reordered other →
      other.validate parse = .ok () ∧
      List.Forall₂ (fun product other => ∀ tenant subject,
          other.modelPolicy tenant subject =
              product.modelPolicy tenant subject ∧
            other.limits tenant subject = product.limits tenant subject)
        config.products other.products := by
  have valid := Config.validate_eq_ok_iff.mp accepted
  constructor
  · intro product isProduct tenant subject
    refine ⟨valid.exists_entitles isProduct tenant subject, ?_⟩
    intro clientModels budgetOverrides sameRules sameBudgets
    exact Product.withRules_foreign sameRules sameBudgets
  · intro other reordered
    exact ⟨Config.validate_eq_ok_iff.mpr (reordered.valid valid),
      Product.Reordered.forall_same reordered.products valid.productsValid⟩

/-- A school with a rule of its own, and one for a teacher. -/
def schoolProduct : Product where
  issuer := "school"
  secret := "0123456789abcdef0123456789abcdef"
  dailyTenantMicros := 100
  dailyUserMicros := 10
  models := ["small", "large"]
  defaultModel := some "small"
  clientModels := [
    { tenant := "a"
      subject := none
      models := ["large"]
      defaultModel := "large"
      allowSelection := false },
    { tenant := "a"
      subject := some "teacher"
      models := ["small", "large"]
      defaultModel := "large"
      allowSelection := true }]
  budgetOverrides := [{ tenant := "a", subject := none, dailyMicros := 0 }]

/-- A model under a name. -/
def schoolModel (id : String) : ModelConfig where
  id
  provider := .openrouter
  model := id
  keyEnv := "KEY"
  wireApi := .chatCompletions
  inputMicrosPerMillion := 100
  outputMicrosPerMillion := 100
  maxInputTokens := 10000
  maxOutputTokens := 100

def schoolConfig : Config where
  products := [schoolProduct]
  models := [schoolModel "small", schoolModel "large"]
  origins := []

theorem Config.entitlement_of_validate_school :
    schoolConfig.validate (fun _ => none) = .ok () ∧
      ∃ policy,
        schoolConfig.Entitles schoolProduct "a" "teacher" policy := by
  have accepted : schoolConfig.validate (fun _ => none) = .ok () := by decide
  obtain ⟨entitled, -⟩ := Config.entitlement_of_validate accepted
  have isProduct : schoolProduct ∈ schoolConfig.products :=
    List.mem_singleton_self _
  exact ⟨accepted, (entitled schoolProduct isProduct "a" "teacher").1⟩

end AsystantGateway
