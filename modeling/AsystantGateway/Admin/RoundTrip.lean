import AsystantGateway.Admin.Document

/-!
# No edit is lost

A stored document, merged over the environment's configuration, gives back the
configuration it was projected from, up to default models being spelled out.
Every edit commutes with spelling them out, and none touches what belongs to
the environment. So after any list of saves the effective configuration is the
environment's with exactly the successful edits applied in their order.
-/

namespace AsystantGateway

open Checks KeyedList

/-- What of a product belongs to the environment. -/
def Product.frame (product : Product) : String × String :=
  (product.issuer, product.secret)

/-- What of a model belongs to the environment: all but its limits. -/
def ModelConfig.frame (model : ModelConfig) : ModelConfig :=
  { model with maxInputTokens := 0, maxOutputTokens := 0 }

/-- Two configurations agree on what belongs to the environment. -/
structure SameFrame (environment config : Config) : Prop where
  products : environment.products.map Product.frame =
    config.products.map Product.frame
  models : environment.models.map ModelConfig.frame =
    config.models.map ModelConfig.frame

theorem SameFrame.refl (config : Config) : SameFrame config config :=
  ⟨rfl, rfl⟩

theorem ProductPolicy.merge_policy
    {product other : Product}
    (sameFrame : product.frame = other.frame) :
    product.policy.merge other = product.explicit := by
  obtain ⟨sameIssuer, sameSecret⟩ := Prod.mk.inj sameFrame
  simp [merge, Product.policy, Product.explicit, ← sameIssuer, ← sameSecret]

theorem ModelLimits.merge_limits
    {model other : ModelConfig}
    (sameFrame : model.frame = other.frame) :
    model.limits.merge other = model := by
  cases model
  cases other
  simp_all [merge, ModelConfig.limits, ModelConfig.frame]

/-- Merging the document of a configuration over products with the same issuers
and secrets gives its products back. -/
theorem Policy.merge_products
    {environment config : Config}
    (distinct : (config.products.map Product.issuer).Nodup)
    (sameFrame : environment.products.map Product.frame =
      config.products.map Product.frame) :
    ((fromConfig config).merge environment).products =
      config.products.map Product.explicit := by
  have sameIssuers : environment.products.map Product.issuer =
      (config.products.map Product.policy).map ProductPolicy.issuer := by
    have issuers := congrArg (List.map Prod.fst) sameFrame
    simpa [Function.comp_def, Product.frame, Product.policy] using issuers
  have issuersDistinct : (environment.products.map Product.issuer).Nodup := by
    rw [sameIssuers]
    simpa [Function.comp_def, Product.policy] using distinct
  refine (mergeByKey_eq_zipWith ProductPolicy.merge (fun _ _ => rfl)
    sameIssuers issuersDistinct).trans ?_
  exact zipWith_map_eq_map (fun _ _ => ProductPolicy.merge_policy)
    sameFrame.symm

/-- Merging the document of a valid configuration over the environment's gives
the configuration back. -/
theorem Policy.merge_fromConfig
    {parse : String → Option Url}
    {environment config : Config}
    (valid : config.Valid parse)
    (sameFrame : SameFrame environment config) :
    (fromConfig config).merge environment = config.explicit := by
  have sameIds : environment.models.map ModelConfig.id =
      (config.models.map ModelConfig.limits).map ModelLimits.id := by
    have ids := congrArg (List.map ModelConfig.id) sameFrame.models
    simpa [Function.comp_def, ModelConfig.frame, ModelConfig.limits] using ids
  have idsDistinct : (environment.models.map ModelConfig.id).Nodup := by
    rw [sameIds]
    simpa [Function.comp_def, ModelConfig.limits] using valid.modelsDistinct
  have products := merge_products valid.issuersDistinct sameFrame.products
  have models : mergeByKey ModelConfig.id ModelLimits.id ModelLimits.merge
      (config.models.map ModelConfig.limits) environment.models =
        config.models := by
    rw [mergeByKey_eq_zipWith ModelLimits.merge (fun _ _ => rfl) sameIds
      idsDistinct]
    refine (zipWith_map_eq_map (fun _ _ => ModelLimits.merge_limits)
      sameFrame.models.symm).trans ?_
    exact List.map_id _
  exact congrArg₂ (fun products models =>
    Config.mk products models config.origins) products models

/-- A document round trips through a merge and its check. -/
theorem Policy.apply_fromConfig
    {parse : String → Option Url}
    {environment config : Config}
    (valid : config.Valid parse)
    (sameFrame : SameFrame environment config) :
    (fromConfig config).apply parse environment = .ok config.explicit := by
  rw [apply_eq_ok_iff]
  exact ⟨(merge_fromConfig valid sameFrame).symm,
    Config.valid_explicit_iff.mpr valid⟩

theorem Policy.apply_default
    {parse : String → Option Url}
    {environment : Config}
    (valid : environment.Valid parse) :
    default.apply parse environment = .ok environment :=
  apply_eq_ok_iff.mpr ⟨rfl, valid⟩

/-! ## Edits -/

namespace EditPolicy

variable
  {parse : String → Option Url}
  {edit : EditPolicy}
  {config edited : Config}

theorem apply_eq_ok_iff :
    edit.apply parse config = .ok edited ↔
      edit.change parse config = .ok edited ∧ edited.Valid parse := by
  unfold apply
  rw [bind_eq_ok_iff]
  constructor
  · rintro ⟨changed, isChanged, checked⟩
    obtain ⟨passed, same⟩ := seq_eq_ok_iff.mp checked
    obtain rfl := Except.ok.inj same
    exact ⟨isChanged, Config.validate_eq_ok_iff.mp passed⟩
  · rintro ⟨isChanged, valid⟩
    exact ⟨edited, isChanged,
      seq_eq_ok_iff.mpr ⟨Config.validate_eq_ok_iff.mpr valid, rfl⟩⟩

/-- An edit of the limits of one model. -/
def setLimits (edit : EditPolicy) (model : ModelConfig) : ModelConfig :=
  { model with
    maxInputTokens := edit.maxInputTokens
    maxOutputTokens := edit.maxOutputTokens }

/-- A product with a model made its default, and with other limits. -/
def enable (edit : EditPolicy) (product : Product) : Product :=
  { product with
    models :=
      if ¬ product.models.contains edit.model then
        product.models ++ [edit.model]
      else product.models
    defaultModel := some edit.model
    dailyTenantMicros := edit.dailyTenantMicros
    dailyUserMicros := edit.dailyUserMicros }

/-- A product without a rule or a limit for a tenant. -/
def restore (edit : EditPolicy) (product : Product) : Product :=
  { product with
    clientModels := product.clientModels.filter fun client =>
      client.tenant ≠ edit.tenant ∨ client.subject ≠ none
    budgetOverrides := product.budgetOverrides.filter fun budget =>
      budget.tenant ≠ edit.tenant ∨ budget.subject ≠ none }

/-- The rule that assigns a model to a tenant. -/
def rule (edit : EditPolicy) : ClientModels where
  tenant := edit.tenant
  subject := none
  models := [edit.model]
  defaultModel := edit.model
  allowSelection := false

/-- The limit that is given to a tenant. -/
def budget (edit : EditPolicy) : BudgetOverride where
  tenant := edit.tenant
  subject := none
  dailyMicros := edit.dailyTenantMicros

/-- A product with a rule and a limit for a tenant, in place of those it
had. -/
def assign (edit : EditPolicy) (product : Product) : Product :=
  { edit.restore product with
    clientModels := (edit.restore product).clientModels ++ [edit.rule]
    budgetOverrides := (edit.restore product).budgetOverrides ++ [edit.budget] }

/-- The kinds of edits of a product. -/
inductive ChangesProduct
    (edit : EditPolicy)
    (models : List ModelConfig)
    (product : Product) : Product → Prop
  | enabled
      (kind : edit.kind = "product")
      (registered : models.any (fun model => model.id = edit.model) = true) :
      ChangesProduct edit models product (edit.enable product)
  | restored
      (kind : edit.kind = "inherit") :
      ChangesProduct edit models product (edit.restore product)
  | assigned
      (kind : edit.kind = "client")
      (named : Text.trim edit.tenant ≠ "")
      (short : edit.tenant.utf8ByteSize ≤ 200) :
      ChangesProduct edit models product (edit.assign product)

/-- An edit of a product succeeds in one way for each of its kinds. -/
theorem changeProduct_eq_ok_iff
    {models : List ModelConfig}
    {product changed : Product} :
    edit.changeProduct models product = .ok changed ↔
      edit.ChangesProduct models product changed := by
  constructor
  · intro isChanged
    unfold changeProduct at isChanged
    split at isChanged
    case isTrue kind =>
      split at isChanged
      case isTrue => cases isChanged
      case isFalse registered =>
        cases isChanged
        exact .enabled kind (not_not.mp registered)
    case isFalse =>
      split at isChanged
      case isTrue kind =>
        cases isChanged
        exact .restored kind
      case isFalse =>
        split at isChanged
        case isTrue assigns =>
          cases isChanged
          exact .assigned assigns.1 assigns.2.1 assigns.2.2
        case isFalse => cases isChanged
  · intro changes
    unfold changeProduct
    cases changes with
    | enabled kind registered =>
        rw [if_pos kind, if_neg (not_not.mpr registered)]
        rfl
    | restored kind =>
        rw [if_neg (by simp [kind]), if_pos kind]
        rfl
    | assigned kind named short =>
        rw [if_neg (by simp [kind]), if_neg (by simp [kind]),
          if_pos ⟨kind, named, short⟩]
        rfl

/-- The kinds of edits of a configuration. -/
inductive Changes
    (parse : String → Option Url)
    (edit : EditPolicy)
    (config : Config) : Config → Prop
  | originKnown
      (kind : edit.kind = "origin_add")
      (origin : String)
      (normal : normalize parse edit.origin = .ok origin)
      (known : origin ∈ config.origins) :
      Changes parse edit config config
  | originAdded
      (kind : edit.kind = "origin_add")
      (origin : String)
      (normal : normalize parse edit.origin = .ok origin)
      (unknown : origin ∉ config.origins)
      (room : config.origins.length < maxOrigins) :
      Changes parse edit config
        { config with origins := config.origins ++ [origin] }
  | originRemoved
      (kind : edit.kind = "origin_remove")
      (origin : String)
      (normal : normalize parse edit.origin = .ok origin) :
      Changes parse edit config
        { config with
          origins := config.origins.filter fun other => other ≠ origin }
  | limited
      (kind : edit.kind = "model")
      (model : ModelConfig)
      (found : (config.models.find? fun model => model.id = edit.model) =
        some model) :
      Changes parse edit config
        { config with
          models := modifyFirst (fun model => model.id = edit.model)
            edit.setLimits config.models }
  | product
      (notAdd : edit.kind ≠ "origin_add")
      (notRemove : edit.kind ≠ "origin_remove")
      (notModel : edit.kind ≠ "model")
      (product changed : Product)
      (found : (config.products.find? fun product =>
        product.issuer = edit.issuer) = some product)
      (changes : edit.ChangesProduct config.models product changed) :
      Changes parse edit config
        { config with
          products := modifyFirst
            (fun product => product.issuer = edit.issuer)
            (fun _ => changed) config.products }

/-- An edit succeeds in one way for each of its kinds, and for an origin that
is known already. -/
theorem change_eq_ok_iff :
    edit.change parse config = .ok edited ↔
      edit.Changes parse config edited := by
  constructor
  · intro changed
    unfold change at changed
    split at changed
    case isTrue kind =>
      obtain ⟨origin, normal, pushed⟩ := bind_eq_ok_iff.mp changed
      split at pushed
      case isTrue unknown =>
        split at pushed
        case isTrue => cases pushed
        case isFalse room =>
          cases pushed
          rw [List.contains_iff_mem] at unknown
          exact .originAdded kind origin normal unknown (Nat.not_le.mp room)
      case isFalse known =>
        cases pushed
        rw [not_not, List.contains_iff_mem] at known
        exact .originKnown kind origin normal known
    case isFalse notAdd =>
      split at changed
      case isTrue kind =>
        obtain ⟨origin, normal, removed⟩ := bind_eq_ok_iff.mp changed
        cases removed
        exact .originRemoved kind origin normal
      case isFalse notRemove =>
        split at changed
        case isTrue kind =>
          split at changed
          case h_1 => cases changed
          case h_2 model found =>
            cases changed
            exact .limited kind model found
        case isFalse notModel =>
          split at changed
          case h_1 => cases changed
          case h_2 product found =>
            obtain ⟨result, isChanged, replaced⟩ :=
              bind_eq_ok_iff.mp changed
            cases replaced
            exact .product notAdd notRemove notModel product result found
              (changeProduct_eq_ok_iff.mp isChanged)
  · intro changes
    unfold change
    cases changes with
    | originKnown kind origin normal known =>
        simp [kind, normal, known, bind, Except.bind]
    | originAdded kind origin normal unknown room =>
        simp [kind, normal, unknown, Nat.not_le.mpr room, bind, Except.bind]
    | originRemoved kind origin normal =>
        simp [kind, normal, bind, Except.bind]
    | limited kind model found =>
        simp only [kind, found]
        rfl
    | product notAdd notRemove notModel product changed found changes =>
        rw [if_neg notAdd, if_neg notRemove, if_neg notModel, found]
        simp only [changeProduct_eq_ok_iff.mpr changes, bind, Except.bind]

/-- An edit of a product keeps what belongs to the environment. -/
theorem changeProduct_frame
    {models : List ModelConfig}
    {product changed : Product}
    (isChanged : edit.changeProduct models product = .ok changed) :
    changed.frame = product.frame := by
  cases changeProduct_eq_ok_iff.mp isChanged with
  | enabled => rfl
  | restored => rfl
  | assigned => rfl

/-- An edit of a product looks at the models for their ids only. -/
theorem changeProduct_map
    {modelView : ModelConfig → ModelConfig}
    (sameId : ∀ model, (modelView model).id = model.id)
    (models : List ModelConfig)
    (product : Product) :
    edit.changeProduct (models.map modelView) product =
      edit.changeProduct models product := by
  simp only [changeProduct, List.any_map, Function.comp_def, sameId]

section Views

variable
  {productView : Product → Product}
  {modelView : ModelConfig → ModelConfig}

/-- An edit commutes with a view of the products and the models that it cannot
look behind: the view keeps issuers and ids, and the changes of a product and
of a model's limits commute with it. -/
theorem change_view
    (sameIssuer : ∀ product, (productView product).issuer = product.issuer)
    (sameId : ∀ model, (modelView model).id = model.id)
    (limits : ∀ model, edit.setLimits (modelView model) =
      modelView (edit.setLimits model))
    (products : ∀ models product,
      edit.changeProduct models (productView product) =
        (edit.changeProduct models product).map productView)
    (parse : String → Option Url)
    (config : Config) :
    edit.change parse (config.view productView modelView) =
      (edit.change parse config).map (Config.view productView modelView) := by
  unfold change
  split
  case isTrue =>
    cases normalize parse edit.origin with
    | error error => rfl
    | ok origin =>
        by_cases present : origin ∈ config.origins
        · simp [present, bind, Except.bind, Except.map]
        · by_cases full : config.origins.length ≥ maxOrigins
          · simp [present, full, bind, Except.bind, Except.map]
          · simp [present, full, bind, Except.bind, Except.map, Config.view]
  case isFalse =>
    split
    case isTrue =>
      cases normalize parse edit.origin with
      | error error => rfl
      | ok origin => simp [bind, Except.bind, Except.map, Config.view]
    case isFalse =>
      split
      case isTrue =>
        have foundView : (config.models.map modelView).find?
              (fun model => model.id = edit.model) =
            (config.models.find? fun model =>
              model.id = edit.model).map modelView := by
          simp only [List.find?_map, Function.comp_def, sameId]
        rw [Config.view_models, foundView]
        cases config.models.find? fun model => model.id = edit.model with
        | none => rfl
        | some model =>
            have models := modifyFirst_map
              (fun model : ModelConfig => decide (model.id = edit.model))
              edit.setLimits edit.setLimits modelView
              (fun model _ => limits model) config.models
            simp only [sameId] at models
            exact congrArg (fun models : List ModelConfig =>
              Except.ok { config.view productView modelView with models })
              models
      case isFalse =>
        have foundView : (config.products.map productView).find?
              (fun product => product.issuer = edit.issuer) =
            (config.products.find? fun product =>
              product.issuer = edit.issuer).map productView := by
          simp only [List.find?_map, Function.comp_def, sameIssuer]
        rw [Config.view_products, foundView, Config.view_models]
        cases config.products.find? fun product =>
            product.issuer = edit.issuer with
        | none => rfl
        | some product =>
            simp only [Option.map_some, changeProduct_map sameId, products]
            cases edit.changeProduct config.models product with
            | error error => rfl
            | ok changed =>
                have replaced := modifyFirst_map
                  (fun product : Product =>
                    decide (product.issuer = edit.issuer))
                  (fun _ => changed) (fun _ => productView changed)
                  productView (fun _ _ => rfl) config.products
                simp only [sameIssuer] at replaced
                exact congrArg (fun products : List Product =>
                  Except.ok
                    { config.view productView modelView with products })
                  replaced

end Views

/-- An edit of a product commutes with spelling its default model out. -/
theorem changeProduct_explicit
    (models : List ModelConfig)
    (product : Product) :
    edit.changeProduct models product.explicit =
      (edit.changeProduct models product).map Product.explicit := by
  unfold changeProduct
  split
  · split
    · rfl
    · rfl
  · split
    · rfl
    · split
      · rfl
      · rfl

/-- An edit commutes with spelling the default models out. -/
theorem change_explicit
    (parse : String → Option Url)
    (edit : EditPolicy)
    (config : Config) :
    edit.change parse config.explicit =
      (edit.change parse config).map Config.explicit := by
  have viewed : edit.change parse (config.view Product.explicit id) =
      (edit.change parse config).map (Config.view Product.explicit id) :=
    change_view Product.explicit_issuer (fun _ => rfl) (fun _ => rfl)
      changeProduct_explicit parse config
  rw [Config.explicit_eq_view, viewed]
  congr 1
  funext other
  exact other.explicit_eq_view.symm

/-- Edits of configurations with the same explicit form have results with the
same explicit form. -/
theorem apply_congr
    {other : Config}
    (same : config.explicit = other.explicit)
    (applied : edit.apply parse config = .ok edited) :
    ∃ otherEdited, edit.apply parse other = .ok otherEdited ∧
      otherEdited.explicit = edited.explicit := by
  obtain ⟨changed, valid⟩ := apply_eq_ok_iff.mp applied
  have sameChange : (edit.change parse other).map Config.explicit =
      .ok edited.explicit := by
    rw [← change_explicit, ← same, change_explicit, changed]
    rfl
  cases otherChanged : edit.change parse other with
  | error error =>
      rw [otherChanged] at sameChange
      cases sameChange
  | ok otherEdited =>
      rw [otherChanged] at sameChange
      have sameExplicit := Except.ok.inj sameChange
      refine ⟨otherEdited, apply_eq_ok_iff.mpr ⟨otherChanged, ?_⟩,
        sameExplicit⟩
      rw [← Config.valid_explicit_iff, sameExplicit]
      exact Config.valid_explicit_iff.mpr valid

/-- An edit touches nothing that belongs to the environment. -/
theorem change_sameFrame
    {environment : Config}
    (sameFrame : SameFrame environment config)
    (changed : edit.change parse config = .ok edited) :
    SameFrame environment edited := by
  cases change_eq_ok_iff.mp changed with
  | originKnown => exact sameFrame
  | originAdded => exact ⟨sameFrame.products, sameFrame.models⟩
  | originRemoved => exact ⟨sameFrame.products, sameFrame.models⟩
  | limited kind model found =>
      refine ⟨sameFrame.products, sameFrame.models.trans ?_⟩
      symm
      apply map_modifyFirst
      intro model _
      rfl
  | product notAdd notRemove notModel product result found changes =>
      refine ⟨sameFrame.products.trans ?_, sameFrame.models⟩
      symm
      apply map_modifyFirst
      intro first isFirst
      obtain rfl := Option.some.inj (found.symm.trans isFirst)
      exact changeProduct_frame (changeProduct_eq_ok_iff.mpr changes)

end EditPolicy

/-! ## Runs -/

/-- Apply edits in their order. -/
def applyEdits
    (parse : String → Option Url)
    (edits : List EditPolicy)
    (config : Config) : Except AppError Config :=
  edits.foldlM (fun config edit => edit.apply parse config) config

theorem applyEdits_append
    {parse : String → Option Url}
    {first second : List EditPolicy}
    {config middle : Config}
    (applied : applyEdits parse first config = .ok middle) :
    applyEdits parse (first ++ second) config =
      applyEdits parse second middle := by
  unfold applyEdits at applied ⊢
  rw [List.foldlM_append, applied]
  rfl

theorem applyEdits_single
    (parse : String → Option Url)
    (edit : EditPolicy)
    (config : Config) :
    applyEdits parse [edit] config = edit.apply parse config :=
  bind_pure (edit.apply parse config)

/-- The edit of a journal entry, when it succeeded. -/
def committedEdit : AdminCall × Except AppError Unit → Option EditPolicy
  | (.updatePolicy edit, .ok ()) => some edit
  | _ => none

/-- The edits that succeeded, in the order in which they committed. -/
def committedEdits
    (journal : List (AdminCall × Except AppError Unit)) : List EditPolicy :=
  journal.filterMap committedEdit

section Runs

variable
  (codec : PolicyCodec)
  (parse : String → Option Url)
  (environment : Config)

/-- What is stored after a run: nothing before the first successful edit, and
then the document of the configuration the successful edits lead to. -/
structure Stores
    (journal : List (AdminCall × Except AppError Unit))
    (database : Database)
    (config : Config) : Prop where
  edited : applyEdits parse (committedEdits journal) environment = .ok config
  valid : config.Valid parse
  sameFrame : SameFrame environment config
  stored : database.adminPolicy = none ∧ config = environment ∨
    ∃ document, database.adminPolicy = some document ∧
      codec.fromText document = some (.fromConfig config)

variable {codec parse environment}

/-- What a save starts from is the edited configuration, up to its default
models being spelled out. -/
theorem Stores.baseConfig
    {journal : List (AdminCall × Except AppError Unit)}
    {database : Database}
    {config : Config}
    (stores : Stores codec parse environment journal database config) :
    ∃ base, AsystantGateway.baseConfig codec parse environment
        database.adminPolicy = .ok base ∧
      base.explicit = config.explicit := by
  rcases stores.stored with ⟨nothing, rfl⟩ | ⟨document, found, decoded⟩
  · exact ⟨_, by rw [nothing]; rfl, rfl⟩
  · refine ⟨config.explicit, ?_, Config.explicit_explicit config⟩
    have applied := Policy.apply_fromConfig stores.valid stores.sameFrame
    simp [AsystantGateway.baseConfig, found, PolicyCodec.read, decoded,
      applied, bind, Except.bind]

/-- The effective configuration is the edited one, up to its default models
being spelled out. -/
theorem Stores.effectiveConfig
    {journal : List (AdminCall × Except AppError Unit)}
    {database : Database}
    {config : Config}
    (stores : Stores codec parse environment journal database config) :
    ∃ effective, AsystantGateway.effectiveConfig codec parse environment
        database = .ok effective ∧
      effective.explicit = config.explicit := by
  rcases stores.stored with ⟨nothing, rfl⟩ | ⟨document, found, decoded⟩
  · refine ⟨config, ?_, rfl⟩
    have applied := Policy.apply_default stores.valid
    simp [AsystantGateway.effectiveConfig, loadPolicy, nothing, applied, bind,
      Except.bind]
  · refine ⟨config.explicit, ?_, Config.explicit_explicit config⟩
    have applied := Policy.apply_fromConfig stores.valid stores.sameFrame
    simp [AsystantGateway.effectiveConfig, loadPolicy, found,
      PolicyCodec.read, decoded, applied, bind, Except.bind]

/-- A journal entry without a committed edit leaves what is stored. -/
theorem Stores.append_failure
    {journal : List (AdminCall × Except AppError Unit)}
    {database : Database}
    {config : Config}
    (stores : Stores codec parse environment journal database config)
    (call : AdminCall)
    (error : AppError) :
    Stores codec parse environment (journal ++ [(call, .error error)])
      database config := by
  have sameEdits : committedEdits (journal ++ [(call, .error error)]) =
      committedEdits journal := by
    cases call <;> simp [committedEdits, committedEdit]
  exact { stores with edited := sameEdits ▸ stores.edited }

/-- A call stores the document of the configuration with its edit, or leaves
what is stored. -/
theorem Stores.respond
    (roundTrip : ∀ policy, codec.fromText (codec.toText policy) = some policy)
    {journal : List (AdminCall × Except AppError Unit)}
    {database : Database}
    {config : Config}
    (stores : Stores codec parse environment journal database config)
    (call : AdminCall) :
    ∃ next, Stores codec parse environment
      (journal ++ [(call,
        ((administration codec parse environment).respond database call).1)])
      ((administration codec parse environment).respond database call).2
      next := by
  cases call with
  | unavailable => exact ⟨config, stores.append_failure _ .internal⟩
  | updatePolicy edit =>
      change ∃ next, Stores codec parse environment
        (journal ++ [(_,
          (updatePolicy codec parse environment edit database).1)])
        (updatePolicy codec parse environment edit database).2 next
      rcases updatePolicy_cases codec parse environment edit database with
        ⟨base, edited, based, applied, saved⟩ | ⟨error, failed⟩
      · obtain ⟨start, started, sameExplicit⟩ := stores.baseConfig
        obtain rfl := Except.ok.inj (based.symm.trans started)
        obtain ⟨next, isNext, nextExplicit⟩ :=
          EditPolicy.apply_congr sameExplicit applied
        obtain ⟨changed, nextValid⟩ := EditPolicy.apply_eq_ok_iff.mp isNext
        have sameDocument : Policy.fromConfig edited = .fromConfig next := by
          rw [← Policy.fromConfig_explicit, ← nextExplicit,
            Policy.fromConfig_explicit]
        have committed : committedEdits
            (journal ++ [(.updatePolicy edit, .ok ())]) =
              committedEdits journal ++ [edit] := by
          simp [committedEdits, committedEdit]
        rw [saved]
        refine ⟨next, ?_, nextValid,
          EditPolicy.change_sameFrame stores.sameFrame changed,
          .inr ⟨_, rfl, ?_⟩⟩
        · rw [committed, applyEdits_append stores.edited, applyEdits_single]
          exact isNext
        · rw [roundTrip, sameDocument]
      · rw [failed]
        exact ⟨config, stores.append_failure _ error⟩

/-- Nothing is stored at the start. -/
theorem Stores.empty (valid : environment.Valid parse) :
    Stores codec parse environment [] .empty environment :=
  ⟨rfl, valid, .refl environment, .inl ⟨rfl, rfl⟩⟩

/-- After every run the document of the edited configuration is stored. -/
theorem stores_state
    (roundTrip : ∀ policy, codec.fromText (codec.toText policy) = some policy)
    (valid : environment.Valid parse)
    (calls : List AdminCall) :
    ∃ config, Stores codec parse environment
      ((administration codec parse environment).journal calls)
      ((administration codec parse environment).state calls) config :=
  Mealy.run_induction (motive := fun journal database => ∃ config,
      Stores codec parse environment journal database config)
    ⟨environment, .empty valid⟩
    (fun _ call ⟨_, stores⟩ => stores.respond roundTrip call) calls

end Runs

/-- No edit is lost. After every run of saves, successful or failed, the
effective configuration loads, is valid, and is the environment's with exactly
the successful edits applied in their order, up to default models being spelled
out, which no model policy and no limit shows. A failed call changes
nothing. -/
theorem policy_round_trip
    (codec : PolicyCodec)
    (parse : String → Option Url)
    (environment : Config)
    (roundTrip : ∀ policy, codec.fromText (codec.toText policy) = some policy)
    (accepted : environment.validate parse = .ok ())
    (calls : List AdminCall) :
    (∃ config effective,
      applyEdits parse
          (committedEdits
            ((administration codec parse environment).journal calls))
          environment = .ok config ∧
        effectiveConfig codec parse environment
          ((administration codec parse environment).state calls) =
            .ok effective ∧
        effective.validate parse = .ok () ∧
        effective.explicit = config.explicit ∧
        ∀ tenant subject,
          (effective.products.map fun product =>
              product.modelPolicy tenant subject) =
            (config.products.map fun product =>
              product.modelPolicy tenant subject) ∧
          (effective.products.map fun product =>
              product.limits tenant subject) =
            (config.products.map fun product =>
              product.limits tenant subject)) ∧
    (∀ call error,
      ((administration codec parse environment).respond
          ((administration codec parse environment).state calls) call).1 =
        .error error →
      effectiveConfig codec parse environment
          ((administration codec parse environment).respond
            ((administration codec parse environment).state calls) call).2 =
        effectiveConfig codec parse environment
          ((administration codec parse environment).state calls)) := by
  have valid := Config.validate_eq_ok_iff.mp accepted
  constructor
  · obtain ⟨config, stores⟩ := stores_state roundTrip valid calls
    obtain ⟨effective, loaded, sameExplicit⟩ := stores.effectiveConfig
    have effectiveValid : effective.Valid parse := by
      rw [← Config.valid_explicit_iff, sameExplicit,
        Config.valid_explicit_iff]
      exact stores.valid
    have sameProducts : effective.products.map Product.explicit =
        config.products.map Product.explicit :=
      congrArg Config.products sameExplicit
    refine ⟨config, effective, stores.edited, loaded,
      Config.validate_eq_ok_iff.mpr effectiveValid, sameExplicit, ?_⟩
    intro tenant subject
    constructor
    · have policies := congrArg (List.map fun product : Product =>
        product.modelPolicy tenant subject) sameProducts
      simpa [Function.comp_def] using policies
    · have limits := congrArg (List.map fun product : Product =>
        product.limits tenant subject) sameProducts
      simpa [Function.comp_def] using limits
  · intro call error failed
    cases call with
    | unavailable => rfl
    | updatePolicy edit =>
        have unchanged : ((administration codec parse environment).respond
            ((administration codec parse environment).state calls)
            (.updatePolicy edit)).2 =
              (administration codec parse environment).state calls :=
          immediateTransaction_error (Prod.ext failed rfl)
        rw [unchanged]

/-! ## One saved edit -/

/-- A configuration of one product with one model. -/
def shopConfig : Config where
  products := [{
    issuer := "shop"
    secret := "0123456789abcdef0123456789abcdef"
    dailyTenantMicros := 100
    dailyUserMicros := 10
    models := ["m"]
    defaultModel := none
    clientModels := []
    budgetOverrides := [] }]
  models := [{
    id := "m"
    provider := .openai
    model := "gpt"
    keyEnv := "KEY"
    wireApi := .chatCompletions
    inputMicrosPerMillion := 1000000
    outputMicrosPerMillion := 2000000
    maxInputTokens := 1000
    maxOutputTokens := 100 }]
  origins := []

/-- An edit of the budgets of the product. -/
def shopEdit : EditPolicy where
  kind := "product"
  issuer := "shop"
  tenant := ""
  model := "m"
  dailyTenantMicros := 200
  dailyUserMicros := 20
  maxInputTokens := 0
  maxOutputTokens := 0
  origin := ""

/-- The document that the edit stores. -/
def shopPolicy : Policy where
  products := [{
    issuer := "shop"
    models := ["m"]
    defaultModel := "m"
    dailyTenantMicros := 200
    dailyUserMicros := 20
    clientModels := []
    budgetOverrides := [] }]
  models := [{ id := "m", maxInputTokens := 1000, maxOutputTokens := 100 }]
  origins := some []

/-- The codec of the shop's documents. -/
def shopCodec : PolicyCodec :=
  policyCodec some

theorem shopCodec_roundTrip (policy : Policy) :
    shopCodec.fromText (shopCodec.toText policy) = some policy :=
  policyCodec_roundTrip some policy

theorem policy_round_trip_shop :
    ∃ config effective,
      applyEdits (fun _ => none)
          (committedEdits ((administration shopCodec (fun _ => none)
            shopConfig).journal [.updatePolicy shopEdit]))
          shopConfig = .ok config ∧
        effectiveConfig shopCodec (fun _ => none) shopConfig
          ((administration shopCodec (fun _ => none) shopConfig).state
            [.updatePolicy shopEdit]) = .ok effective ∧
        effective.explicit = config.explicit := by
  have accepted : shopConfig.validate (fun _ => none) = .ok () := by decide
  obtain ⟨⟨config, effective, edited, loaded, -, same, -⟩, -⟩ :=
    policy_round_trip shopCodec (fun _ => none) shopConfig shopCodec_roundTrip
      accepted [.updatePolicy shopEdit]
  exact ⟨config, effective, edited, loaded, same⟩

end AsystantGateway
