import AsystantGateway.Admin.RoundTrip
import AsystantGateway.Model.Entitlement

/-!
# What an edit changes for whom

An edit rebuilds lists, but the rules of a product stand for a function of
their targets, and an edit for a tenant updates that function at the tenant
alone. So an edit that is made twice changes nothing the second time, an edit
for one tenant reaches no one else, and restoring the defaults undoes what was
assigned, whatever the order of the lists.
-/

namespace AsystantGateway

open Checks KeyedList

namespace EditPolicy

variable
  {parse : String → Option Url}
  {edit other : EditPolicy}
  {config edited : Config}
  {product : Product}

@[simp] theorem assign_issuer
    (edit : EditPolicy)
    (product : Product) :
    (edit.assign product).issuer = product.issuer := rfl

theorem restore_clientModels :
    (edit.restore product).clientModels =
      product.clientModels.filter fun rule =>
        rule.target ≠ (edit.tenant, none) := by
  apply List.filter_congr
  intro rule _
  simp [ClientModels.target, imp_iff_not_or]

theorem restore_budgetOverrides :
    (edit.restore product).budgetOverrides =
      product.budgetOverrides.filter fun budget =>
        budget.target ≠ (edit.tenant, none) := by
  apply List.filter_congr
  intro budget _
  simp [BudgetOverride.target, imp_iff_not_or]

theorem rules_restore :
    (edit.restore product).rules =
      Function.update product.rules (edit.tenant, none) none := by
  unfold Product.rules
  rw [restore_clientModels]
  exact lookup_filter_ne _

theorem budgets_restore :
    (edit.restore product).budgets =
      Function.update product.budgets (edit.tenant, none) none := by
  unfold Product.budgets
  rw [restore_budgetOverrides]
  exact lookup_filter_ne _

theorem rules_assign :
    (edit.assign product).rules =
      Function.update product.rules (edit.tenant, none) (some edit.rule) := by
  unfold Product.rules assign
  simp only
  rw [restore_clientModels]
  exact lookup_replace edit.rule

theorem budgets_assign :
    (edit.assign product).budgets =
      Function.update product.budgets (edit.tenant, none)
        (some edit.budget) := by
  unfold Product.budgets assign
  simp only
  rw [restore_budgetOverrides]
  exact lookup_replace edit.budget

/-! ## Edits that are made twice -/

/-- What is restored does not depend on what a tenant had. -/
theorem restore_assign
    (sameTenant : other.tenant = edit.tenant) :
    other.restore (edit.assign product) = other.restore product := by
  simp [restore, assign, rule, budget, sameTenant, List.filter_filter]

theorem restore_restore :
    edit.restore (edit.restore product) = edit.restore product := by
  simp [restore, List.filter_filter]

theorem assign_assign :
    edit.assign (edit.assign product) = edit.assign product :=
  congrArg (fun restored : Product =>
    { restored with
      clientModels := restored.clientModels ++ [edit.rule]
      budgetOverrides := restored.budgetOverrides ++ [edit.budget] })
    (restore_assign rfl)

theorem enable_enable :
    edit.enable (edit.enable product) = edit.enable product := by
  by_cases listed : edit.model ∈ product.models
  · simp [enable, listed]
  · simp [enable, listed]

/-- An edit of a product, made again, changes nothing. -/
theorem ChangesProduct.again
    {models : List ModelConfig}
    {changed : Product}
    (changes : edit.ChangesProduct models product changed) :
    edit.ChangesProduct models changed changed := by
  cases changes with
  | enabled kind registered =>
      have twice : edit.ChangesProduct models (edit.enable product)
          (edit.enable (edit.enable product)) := .enabled kind registered
      rwa [enable_enable] at twice
  | restored kind =>
      have twice : edit.ChangesProduct models (edit.restore product)
          (edit.restore (edit.restore product)) := .restored kind
      rwa [restore_restore] at twice
  | assigned kind named short =>
      have twice : edit.ChangesProduct models (edit.assign product)
          (edit.assign (edit.assign product)) := .assigned kind named short
      rwa [assign_assign] at twice

theorem ChangesProduct.issuer
    {models : List ModelConfig}
    {changed : Product}
    (changes : edit.ChangesProduct models product changed) :
    changed.issuer = product.issuer := by
  cases changes with
  | enabled => rfl
  | restored => rfl
  | assigned => rfl

section Products

variable
  {issuer : String}
  {products : List Product}
  {changed : Product}
  (found : (products.find? fun product => product.issuer = issuer) =
    some product)
  (sameIssuer : changed.issuer = product.issuer)

include found sameIssuer

/-- The changed product is the one that is edited next. -/
theorem find?_changed :
    (modifyFirst (fun product => product.issuer = issuer) (fun _ => changed)
        products).find? (fun product => product.issuer = issuer) =
      some changed := by
  have isIssuer : product.issuer = issuer := by
    simpa using List.find?_some found
  rw [find?_modifyFirst, found]
  · rfl
  · intro _ _
    simpa [sameIssuer] using isIssuer

/-- The second change of a product hides the first. -/
theorem modifyFirst_changed (final : Product) :
    modifyFirst (fun product => product.issuer = issuer) (fun _ => final)
        (modifyFirst (fun product => product.issuer = issuer)
          (fun _ => changed) products) =
      modifyFirst (fun product => product.issuer = issuer) (fun _ => final)
        products := by
  have isIssuer : product.issuer = issuer := by
    simpa using List.find?_some found
  apply modifyFirst_modifyFirst
  · intro _ _
    simpa [sameIssuer] using isIssuer
  · intro _ _
    rfl

end Products

/-- An edit of a configuration, made again, changes nothing. -/
theorem Changes.again
    (changes : edit.Changes parse config edited) :
    edit.Changes parse edited edited := by
  cases changes with
  | originKnown kind origin normal known =>
      exact .originKnown kind origin normal known
  | originAdded kind origin normal unknown room =>
      exact .originKnown kind origin normal (by simp)
  | originRemoved kind origin normal =>
      let removed : Config := { config with
        origins := config.origins.filter fun other => other ≠ origin }
      have twice : edit.Changes parse removed { removed with
          origins := removed.origins.filter fun other => other ≠ origin } :=
        .originRemoved kind origin normal
      simpa [removed, List.filter_filter] using twice
  | limited kind model found =>
      have isModel : model.id = edit.model := by
        simpa using List.find?_some found
      have stays : ∀ item : ModelConfig,
          config.models.find? (fun model => model.id = edit.model) =
              some item →
            decide ((edit.setLimits item).id = edit.model) = true := by
        intro item isItem
        obtain rfl := Option.some.inj (found.symm.trans isItem)
        exact decide_eq_true isModel
      have foundAgain := find?_modifyFirst stays
      rw [found] at foundAgain
      let limited : Config := { config with
        models := modifyFirst (fun model => model.id = edit.model)
          edit.setLimits config.models }
      have twice : edit.Changes parse limited { limited with
          models := modifyFirst (fun model => model.id = edit.model)
            edit.setLimits limited.models } :=
        .limited kind (edit.setLimits model) foundAgain
      have same : modifyFirst (fun model => model.id = edit.model)
          edit.setLimits limited.models = limited.models :=
        modifyFirst_modifyFirst stays fun _ _ => rfl
      rwa [same] at twice
  | product notAdd notRemove notModel product changed found changes =>
      let edited : Config := { config with
        products := modifyFirst (fun product => product.issuer = edit.issuer)
          (fun _ => changed) config.products }
      have twice : edit.Changes parse edited { edited with
          products := modifyFirst
            (fun product => product.issuer = edit.issuer)
            (fun _ => changed) edited.products } :=
        .product notAdd notRemove notModel changed changed
          (find?_changed found changes.issuer) changes.again
      rwa [modifyFirst_changed found changes.issuer] at twice

/-! ## Whom an edit for a tenant reaches -/

/-- What an edit for a tenant makes of the product it is for. -/
structure Reassigns
    (edit : EditPolicy)
    (before after : Product) : Prop where
  otherTenants : ∀ tenant subject, tenant ≠ edit.tenant →
    after.modelPolicy tenant subject = before.modelPolicy tenant subject ∧
      after.limits tenant subject = before.limits tenant subject
  ownRules : ∀ subject,
    (∃ rule ∈ before.clientModels,
      rule.target = (edit.tenant, some subject)) →
    after.modelPolicy edit.tenant subject =
      before.modelPolicy edit.tenant subject
  userLimits : ∀ subject,
    (after.limits edit.tenant subject).2 =
      (before.limits edit.tenant subject).2
  assigned : edit.kind = "client" → ∀ subject,
    (after.limits edit.tenant subject).1 = edit.dailyTenantMicros ∧
      ((∀ rule ∈ before.clientModels,
          rule.target ≠ (edit.tenant, some subject)) →
        after.modelPolicy edit.tenant subject = .ok {
          models := [edit.model]
          defaultModel := edit.model
          allowSelection := false })
  restored : edit.kind = "inherit" → ∀ subject,
    (after.limits edit.tenant subject).1 = before.dailyTenantMicros ∧
      ((∀ rule ∈ before.clientModels,
          rule.target ≠ (edit.tenant, some subject)) →
        ∃ defaultModel,
          before.defaultModel.or before.models.head? = some defaultModel ∧
            after.modelPolicy edit.tenant subject = .ok {
              models := before.models
              defaultModel
              allowSelection := true })

/-- A product with another rule and another limit for one tenant. -/
structure UpdatedAt
    (tenant : String)
    (rule : Option ClientModels)
    (budget : Option BudgetOverride)
    (before after : Product) : Prop where
  models : after.models = before.models
  defaultModel : after.defaultModel = before.defaultModel
  dailyTenantMicros : after.dailyTenantMicros = before.dailyTenantMicros
  dailyUserMicros : after.dailyUserMicros = before.dailyUserMicros
  rules : after.rules = Function.update before.rules (tenant, none) rule
  budgets : after.budgets =
    Function.update before.budgets (tenant, none) budget

theorem updatedAt_restore
    (edit : EditPolicy)
    (product : Product) :
    UpdatedAt edit.tenant none none product (edit.restore product) :=
  ⟨rfl, rfl, rfl, rfl, rules_restore, budgets_restore⟩

theorem updatedAt_assign
    (edit : EditPolicy)
    (product : Product) :
    UpdatedAt edit.tenant (some edit.rule) (some edit.budget) product
      (edit.assign product) :=
  ⟨rfl, rfl, rfl, rfl, rules_assign, budgets_assign⟩

namespace UpdatedAt

variable
  {before after : Product}
  {tenant : String}
  {rule : Option ClientModels}
  {budget : Option BudgetOverride}

/-- The policy of another tenant's user, or of one with a rule of its own, is
as before. -/
theorem modelPolicy
    (updated : UpdatedAt tenant rule budget before after)
    {user subject : String}
    (spared : user ≠ tenant ∨
      ∃ own ∈ before.clientModels, own.target = (tenant, some subject)) :
    after.modelPolicy user subject = before.modelPolicy user subject := by
  apply Product.modelPolicy_congr updated.models updated.defaultModel
  · rw [updated.rules, Function.update_of_ne (by simp)]
  · intro noOwn
    by_cases sameTenant : user = tenant
    · subst sameTenant
      rcases spared with different | ⟨own, isOwn, isTarget⟩
      · exact absurd rfl different
      · have absent : before.rules (user, some subject) = none :=
          Option.eq_none_iff_forall_ne_some.mpr noOwn
        exact absurd isTarget (lookup_eq_none_iff.mp absent own isOwn)
    · rw [updated.rules, Function.update_of_ne (by simpa using sameTenant)]

/-- Only the tenant's own limit differs. -/
theorem limits
    (updated : UpdatedAt tenant rule budget before after)
    (user subject : String) :
    after.limits user subject =
      (if user = tenant then
          budget.elim before.dailyTenantMicros BudgetOverride.dailyMicros
        else (before.limits user subject).1,
        (before.limits user subject).2) := by
  rw [Product.limits_eq_budgets, Product.limits_eq_budgets,
    updated.budgets, updated.dailyTenantMicros, updated.dailyUserMicros,
    Function.update_of_ne (a := (user, some subject)) (by simp)]
  by_cases sameTenant : user = tenant
  · subst sameTenant
    simp
  · rw [Function.update_of_ne (by simpa using sameTenant),
      if_neg sameTenant]

theorem limits_of_ne
    (updated : UpdatedAt tenant rule budget before after)
    {user : String}
    (different : user ≠ tenant)
    (subject : String) :
    after.limits user subject = before.limits user subject := by
  rw [updated.limits, if_neg different]

theorem tenantLimit
    (updated : UpdatedAt tenant rule budget before after)
    (subject : String) :
    (after.limits tenant subject).1 =
      budget.elim before.dailyTenantMicros BudgetOverride.dailyMicros := by
  rw [updated.limits, if_pos rfl]

theorem userLimit
    (updated : UpdatedAt tenant rule budget before after)
    (user subject : String) :
    (after.limits user subject).2 = (before.limits user subject).2 := by
  rw [updated.limits]

end UpdatedAt

theorem noOwn_of_restore
    {subject : String}
    (noOwn : ∀ rule ∈ product.clientModels,
      rule.target ≠ (edit.tenant, some subject)) :
    ∀ rule ∈ (edit.restore product).clientModels,
      rule.target ≠ (edit.tenant, some subject) := by
  intro rule isRule
  exact noOwn rule (List.mem_of_mem_filter isRule)

/-- After an assignment the users without a rule have the assigned model. -/
theorem modelPolicy_assign
    {ids : List String}
    (valid : (edit.assign product).Valid ids)
    {subject : String}
    (noOwn : ∀ rule ∈ product.clientModels,
      rule.target ≠ (edit.tenant, some subject)) :
    (edit.assign product).modelPolicy edit.tenant subject = .ok {
      models := [edit.model]
      defaultModel := edit.model
      allowSelection := false } := by
  rw [valid.modelPolicy_eq_ok_iff_grants]
  have isRule : edit.rule ∈ (edit.assign product).clientModels :=
    List.mem_append_right _ (List.mem_singleton_self _)
  refine Product.Grants.ofTenant edit.rule isRule rfl fun other isOther => ?_
  rcases List.mem_append.mp isOther with kept | new
  · exact noOwn_of_restore noOwn other kept
  · rw [List.mem_singleton.mp new]
    simp [rule, ClientModels.target]

/-- After restoring the defaults the users without a rule have the models of
the product. -/
theorem modelPolicy_restore
    {ids : List String}
    (valid : (edit.restore product).Valid ids)
    {subject : String}
    (noOwn : ∀ rule ∈ product.clientModels,
      rule.target ≠ (edit.tenant, some subject)) :
    ∃ defaultModel,
      product.defaultModel.or product.models.head? = some defaultModel ∧
        (edit.restore product).modelPolicy edit.tenant subject = .ok {
          models := product.models
          defaultModel
          allowSelection := true } := by
  obtain ⟨defaultModel, isDefault, -⟩ := valid.exists_defaultModel
  refine ⟨defaultModel, isDefault,
    valid.modelPolicy_eq_ok_iff_grants.mpr ?_⟩
  refine Product.Grants.ofProduct defaultModel isDefault
    (noOwn_of_restore noOwn) fun other isOther => ?_
  rw [restore_clientModels] at isOther
  simpa using (List.mem_filter.mp isOther).2

theorem reassigns_assign
    {ids : List String}
    (kind : edit.kind = "client")
    (valid : (edit.assign product).Valid ids) :
    edit.Reassigns product (edit.assign product) := by
  have updated := updatedAt_assign edit product
  refine {
    otherTenants := fun tenant subject different =>
      ⟨updated.modelPolicy (.inl different),
        updated.limits_of_ne different subject⟩
    ownRules := fun subject hasOwn => updated.modelPolicy (.inr hasOwn)
    userLimits := updated.userLimit edit.tenant
    assigned := fun _ subject =>
      ⟨updated.tenantLimit subject, modelPolicy_assign valid⟩
    restored := fun restores => ?_ }
  rw [kind] at restores
  exact absurd restores (by decide)

theorem reassigns_restore
    {ids : List String}
    (kind : edit.kind = "inherit")
    (valid : (edit.restore product).Valid ids) :
    edit.Reassigns product (edit.restore product) := by
  have updated := updatedAt_restore edit product
  refine {
    otherTenants := fun tenant subject different =>
      ⟨updated.modelPolicy (.inl different),
        updated.limits_of_ne different subject⟩
    ownRules := fun subject hasOwn => updated.modelPolicy (.inr hasOwn)
    userLimits := updated.userLimit edit.tenant
    assigned := fun assigns => ?_
    restored := fun _ subject =>
      ⟨updated.tenantLimit subject, modelPolicy_restore valid⟩ }
  rw [kind] at assigns
  exact absurd assigns (by decide)

/-- An edit for a tenant. -/
def IsForTenant (edit : EditPolicy) : Prop :=
  edit.kind = "client" ∨ edit.kind = "inherit"

/-- An edit for a tenant changes one product, and that for the tenant only. -/
theorem Changes.reassigns
    (forTenant : edit.IsForTenant)
    (changes : edit.Changes parse config edited)
    (valid : edited.Valid parse) :
    edited.models = config.models ∧ edited.origins = config.origins ∧
      (∃ product ∈ config.products, product.issuer = edit.issuer) ∧
      List.Forall₂ (fun before after =>
          after.issuer = before.issuer ∧
            (before.issuer ≠ edit.issuer → after = before) ∧
            (before.issuer = edit.issuer → edit.Reassigns before after))
        config.products edited.products := by
  have notOther {kind : String}
      (isKind : edit.kind = kind)
      (other : kind ≠ "client" ∧ kind ≠ "inherit") : False :=
    forTenant.elim (fun client => other.1 (isKind.symm.trans client))
      fun inherit => other.2 (isKind.symm.trans inherit)
  cases changes with
  | originKnown kind => exact (notOther kind (by decide)).elim
  | originAdded kind => exact (notOther kind (by decide)).elim
  | originRemoved kind => exact (notOther kind (by decide)).elim
  | limited kind => exact (notOther kind (by decide)).elim
  | product notAdd notRemove notModel product changed found changes =>
      have isIssuer : product.issuer = edit.issuer := by
        simpa using List.find?_some found
      have isProduct := List.mem_of_find?_eq_some found
      refine ⟨rfl, rfl, ⟨product, isProduct, isIssuer⟩, ?_⟩
      have reassigns : edit.Reassigns product changed := by
        have present := List.mem_of_find?_eq_some
          (find?_changed found changes.issuer)
        have changedValid := valid.productsValid changed present
        cases changes with
        | enabled kind => exact (notOther kind (by decide)).elim
        | restored kind => exact reassigns_restore kind changedValid
        | assigned kind => exact reassigns_assign kind changedValid
      have distinct : (config.products.map Product.issuer).Nodup := by
        have sameIssuers : (modifyFirst
            (fun product => product.issuer = edit.issuer) (fun _ => changed)
            config.products).map Product.issuer =
              config.products.map Product.issuer := by
          apply map_modifyFirst
          intro item isItem
          obtain rfl := Option.some.inj (found.symm.trans isItem)
          exact changes.issuer
        rw [← sameIssuers]
        exact valid.issuersDistinct
      refine (forall₂_modifyFirst distinct).imp fun before after outcome => ?_
      rcases outcome with ⟨different, rfl⟩ | ⟨isFound, rfl⟩
      · exact ⟨rfl, fun _ => rfl, fun same => absurd same different⟩
      · obtain rfl := Option.some.inj (found.symm.trans isFound)
        exact ⟨changes.issuer, fun different => absurd isIssuer different,
          fun _ => reassigns⟩

theorem change_inherit
    (isRestore : edit.kind = "inherit")
    (found : (config.products.find? fun product =>
      product.issuer = edit.issuer) = some product) :
    edit.change parse config = .ok { config with
      products := modifyFirst (fun product => product.issuer = edit.issuer)
        (fun _ => edit.restore product) config.products } := by
  rw [change_eq_ok_iff]
  exact .product (by simp [isRestore]) (by simp [isRestore])
    (by simp [isRestore]) product _ found (.restored isRestore)

/-- Restoring the defaults of a tenant undoes what was assigned to it. -/
theorem change_restore
    (kind : edit.kind = "client")
    (changes : edit.Changes parse config edited)
    (isRestore : other.kind = "inherit")
    (sameIssuer : other.issuer = edit.issuer)
    (sameTenant : other.tenant = edit.tenant) :
    other.change parse edited = other.change parse config := by
  have isClient {wanted : String}
      (different : wanted ≠ "client") : edit.kind ≠ wanted :=
    fun same => different (same.symm.trans kind)
  cases changes with
  | originKnown isKind => exact absurd isKind (isClient (by decide))
  | originAdded isKind => exact absurd isKind (isClient (by decide))
  | originRemoved isKind => exact absurd isKind (isClient (by decide))
  | limited isKind => exact absurd isKind (isClient (by decide))
  | product notAdd notRemove notModel product changed found changes =>
      cases changes with
      | enabled isKind => exact absurd isKind (isClient (by decide))
      | restored isKind => exact absurd isKind (isClient (by decide))
      | assigned =>
          have foundAgain := find?_changed found (assign_issuer edit product)
          have hidden := modifyFirst_changed found
            (assign_issuer edit product) (other.restore product)
          rw [← sameIssuer] at found foundAgain hidden ⊢
          rw [change_inherit isRestore found,
            change_inherit isRestore foundAgain, restore_assign sameTenant,
            hidden]

/-- An edit can be made again, an edit for a tenant reaches that tenant only,
and restoring the defaults of a tenant undoes what was assigned to it. -/
theorem apply_reaches
    (applied : edit.apply parse config = .ok edited) :
    edit.apply parse edited = .ok edited ∧
      (edit.IsForTenant →
        edited.models = config.models ∧ edited.origins = config.origins ∧
          (∃ product ∈ config.products, product.issuer = edit.issuer) ∧
          List.Forall₂ (fun before after =>
              after.issuer = before.issuer ∧
                (before.issuer ≠ edit.issuer → after = before) ∧
                (before.issuer = edit.issuer → edit.Reassigns before after))
            config.products edited.products) ∧
      (edit.kind = "client" →
        ∀ restore : EditPolicy, restore.kind = "inherit" →
          restore.issuer = edit.issuer → restore.tenant = edit.tenant →
          restore.apply parse edited = restore.apply parse config) := by
  obtain ⟨changed, valid⟩ := apply_eq_ok_iff.mp applied
  have changes := change_eq_ok_iff.mp changed
  refine ⟨?_, fun forTenant => changes.reassigns forTenant valid, ?_⟩
  · exact apply_eq_ok_iff.mpr ⟨change_eq_ok_iff.mpr changes.again, valid⟩
  · intro kind restore isRestore sameIssuer sameTenant
    have same := change_restore kind changes isRestore sameIssuer sameTenant
    unfold apply
    rw [same]

end EditPolicy

/-- The assignment of a model to a school that has one of its own. -/
def schoolEdit : EditPolicy where
  kind := "client"
  issuer := "school"
  tenant := "a"
  model := "small"
  dailyTenantMicros := 50
  dailyUserMicros := 0
  maxInputTokens := 0
  maxOutputTokens := 0
  origin := ""

def assignedSchoolConfig : Config :=
  { schoolConfig with products := [schoolEdit.assign schoolProduct] }

theorem EditPolicy.apply_reaches_school :
    schoolEdit.apply (fun _ => none) assignedSchoolConfig =
        .ok assignedSchoolConfig ∧
      List.Forall₂ (fun before after =>
          after.issuer = before.issuer ∧
            (before.issuer ≠ schoolEdit.issuer → after = before) ∧
            (before.issuer = schoolEdit.issuer →
              schoolEdit.Reassigns before after))
        schoolConfig.products assignedSchoolConfig.products := by
  have applied : schoolEdit.apply (fun _ => none) schoolConfig =
      .ok assignedSchoolConfig := by decide
  obtain ⟨again, reaches, -⟩ := EditPolicy.apply_reaches applied
  exact ⟨again, (reaches (.inl rfl)).2.2.2⟩

end AsystantGateway
