import AsystantGateway.Admin.RoundTrip

/-!
# What the policy layer cannot touch

A document is merged and an edit is made in place: the configuration that is
handed in is changed also when the result is refused. Whatever the documents
and the edits are, what belongs to the environment stays as it was.

Conversely nothing of it is stored. Edits and merges commute with erasing the
secrets, the prices and the addresses of the models, and the document of a
configuration is the document of its erasure. So environments with the same
erasure store the same documents.
-/

namespace AsystantGateway

open Checks KeyedList

/-- `Policy::apply`: its result, and the configuration it leaves. -/
def Policy.applyInPlace
    (parse : String → Option Url)
    (policy : Policy)
    (config : Config) : Except AppError Unit × Config :=
  let merged := policy.merge config
  (merged.validate parse, merged)

/-- `EditPolicy::apply`: its result, and the configuration it leaves. An edit
that is refused before it changes anything leaves the one it was given. -/
def EditPolicy.applyInPlace
    (parse : String → Option Url)
    (edit : EditPolicy)
    (config : Config) : Except AppError Unit × Config :=
  match edit.change parse config with
  | .error error => (.error error, config)
  | .ok changed => (changed.validate parse, changed)

/-- What a caller goes on with: the changed configuration, when there was no
error. -/
def unlessRefused :
    Except AppError Unit × Config → Except AppError Config
  | (.error error, _) => .error error
  | (.ok (), config) => .ok config

theorem unlessRefused_mk
    (result : Except AppError Unit)
    (config : Config) :
    unlessRefused (result, config) = (do result; return config) := by
  cases result <;> rfl

theorem Policy.apply_eq_unlessRefused
    (parse : String → Option Url)
    (policy : Policy)
    (config : Config) :
    policy.apply parse config =
      unlessRefused (policy.applyInPlace parse config) :=
  (unlessRefused_mk _ _).symm

theorem EditPolicy.apply_eq_unlessRefused
    (parse : String → Option Url)
    (edit : EditPolicy)
    (config : Config) :
    edit.apply parse config =
      unlessRefused (edit.applyInPlace parse config) := by
  unfold apply applyInPlace
  cases edit.change parse config with
  | error error => rfl
  | ok changed => exact (unlessRefused_mk _ changed).symm

/-- One use of the policy layer on a configuration. -/
inductive PolicyChange
  | merge (policy : Policy)
  | edit (change : EditPolicy)

/-- The configuration that one use leaves. -/
def PolicyChange.run
    (parse : String → Option Url)
    (config : Config) : PolicyChange → Config
  | .merge policy => (policy.applyInPlace parse config).2
  | .edit change => (change.applyInPlace parse config).2

/-- The configuration that a sequence of uses leaves. -/
def runChanges
    (parse : String → Option Url)
    (changes : List PolicyChange)
    (config : Config) : Config :=
  changes.foldl (PolicyChange.run parse) config

/-- Merging any document touches nothing that belongs to the environment. -/
theorem Policy.merge_sameFrame
    {environment config : Config}
    (policy : Policy)
    (sameFrame : SameFrame environment config) :
    SameFrame environment (policy.merge config) := by
  constructor
  · refine sameFrame.products.trans (Eq.symm ?_)
    apply map_mergeByKey
    intro record product
    rfl
  · refine sameFrame.models.trans (Eq.symm ?_)
    apply map_mergeByKey
    intro record model
    rfl

/-- An edit leaves what belongs to the environment, whether it succeeds or
not. -/
theorem EditPolicy.applyInPlace_sameFrame
    {parse : String → Option Url}
    {environment config : Config}
    (edit : EditPolicy)
    (sameFrame : SameFrame environment config) :
    SameFrame environment (edit.applyInPlace parse config).2 := by
  unfold applyInPlace
  cases changed : edit.change parse config with
  | error error => exact sameFrame
  | ok edited => exact change_sameFrame sameFrame changed

/-- One use keeps what belongs to the environment, whether it succeeds or
not. -/
theorem PolicyChange.run_sameFrame
    {parse : String → Option Url}
    {environment config : Config}
    (change : PolicyChange)
    (sameFrame : SameFrame environment config) :
    SameFrame environment (change.run parse config) := by
  cases change with
  | merge policy => exact Policy.merge_sameFrame policy sameFrame
  | edit change => exact EditPolicy.applyInPlace_sameFrame change sameFrame

theorem runChanges_sameFrame
    {parse : String → Option Url}
    {environment config : Config}
    (changes : List PolicyChange)
    (sameFrame : SameFrame environment config) :
    SameFrame environment (runChanges parse changes config) := by
  induction changes generalizing config with
  | nil => exact sameFrame
  | cons change changes inductionHypothesis =>
      exact inductionHypothesis (change.run_sameFrame sameFrame)

/-- A product without its secret. -/
def Product.erase (product : Product) : Product :=
  { product with secret := "" }

/-- A model without what says where it runs and what it costs. -/
def ModelConfig.erase (model : ModelConfig) : ModelConfig :=
  { model with
    provider := .openrouter
    model := ""
    keyEnv := ""
    wireApi := .chatCompletions
    inputMicrosPerMillion := 0
    outputMicrosPerMillion := 0 }

@[simp] theorem Product.erase_issuer (product : Product) :
    product.erase.issuer = product.issuer := rfl

@[simp] theorem ModelConfig.erase_id (model : ModelConfig) :
    model.erase.id = model.id := rfl

/-- The operational settings of a configuration. -/
def Config.erase (config : Config) : Config :=
  config.view Product.erase ModelConfig.erase

/-- The document of a configuration is made of its operational settings. -/
theorem Policy.fromConfig_erase (config : Config) :
    fromConfig config.erase = fromConfig config := by
  have products : config.erase.products.map Product.policy =
      config.products.map Product.policy := by
    simp only [Config.erase, Config.view_products, List.map_map]
    rfl
  have models : config.erase.models.map ModelConfig.limits =
      config.models.map ModelConfig.limits := by
    simp only [Config.erase, Config.view_models, List.map_map]
    rfl
  unfold fromConfig
  rw [products, models]
  rfl

/-- Merging a document commutes with erasing. -/
theorem Policy.merge_erase (policy : Policy) (config : Config) :
    policy.merge config.erase = (policy.merge config).erase := by
  have products : mergeByKey Product.issuer ProductPolicy.issuer
      ProductPolicy.merge policy.products
        (config.products.map Product.erase) =
      (policy.merge config).products.map Product.erase := by
    apply mergeByKey_map Product.erase_issuer
    intro record product
    rfl
  have models : mergeByKey ModelConfig.id ModelLimits.id ModelLimits.merge
      policy.models (config.models.map ModelConfig.erase) =
        (policy.merge config).models.map ModelConfig.erase := by
    apply mergeByKey_map ModelConfig.erase_id
    intro record model
    rfl
  exact congrArg₂ (fun products models =>
    Config.mk products models (policy.origins.getD config.origins))
    products models

/-- An edit of a product commutes with erasing its secret. -/
theorem EditPolicy.changeProduct_erase
    {edit : EditPolicy}
    (models : List ModelConfig)
    (product : Product) :
    edit.changeProduct models product.erase =
      (edit.changeProduct models product).map Product.erase := by
  unfold changeProduct
  split
  · split
    · rfl
    · rfl
  · split
    · rfl
    · split
      · rfl
      · rfl

/-- An edit commutes with erasing. -/
theorem EditPolicy.change_erase
    (parse : String → Option Url)
    (edit : EditPolicy)
    (config : Config) :
    edit.change parse config.erase =
      (edit.change parse config).map Config.erase :=
  change_view Product.erase_issuer ModelConfig.erase_id (fun _ => rfl)
    changeProduct_erase parse config

theorem EditPolicy.apply_erase
    {parse : String → Option Url}
    {edit : EditPolicy}
    {first second firstEdited secondEdited : Config}
    (same : first.erase = second.erase)
    (firstApplied : edit.apply parse first = .ok firstEdited)
    (secondApplied : edit.apply parse second = .ok secondEdited) :
    firstEdited.erase = secondEdited.erase := by
  have firstErased := change_erase parse edit first
  have secondErased := change_erase parse edit second
  rw [(apply_eq_ok_iff.mp firstApplied).1] at firstErased
  rw [(apply_eq_ok_iff.mp secondApplied).1] at secondErased
  rw [same, secondErased] at firstErased
  exact (Except.ok.inj firstErased).symm

/-- What a save starts from has the operational settings of the document, or
those of the environment. -/
theorem baseConfig_erase
    {codec : PolicyCodec}
    {parse : String → Option Url}
    {first second firstBase secondBase : Config}
    (same : first.erase = second.erase)
    {row : Option String}
    (firstBased : baseConfig codec parse first row = .ok firstBase)
    (secondBased : baseConfig codec parse second row = .ok secondBase) :
    firstBase.erase = secondBase.erase := by
  cases row with
  | none =>
      cases firstBased
      cases secondBased
      exact same
  | some document =>
      obtain ⟨policy, read, firstApplied⟩ := bind_eq_ok_iff.mp firstBased
      obtain ⟨other, readOther, secondApplied⟩ :=
        bind_eq_ok_iff.mp secondBased
      obtain rfl := Except.ok.inj (read.symm.trans readOther)
      have firstMerged := Policy.apply_eq_ok_iff.mp firstApplied
      have secondMerged := Policy.apply_eq_ok_iff.mp secondApplied
      rw [firstMerged.1, secondMerged.1, ← policy.merge_erase,
        ← policy.merge_erase, same]

/-- A save that succeeds from two environments with the same operational
settings stores the same document. -/
theorem updatePolicy_erase
    {codec : PolicyCodec}
    {parse : String → Option Url}
    {first second : Config}
    (same : first.erase = second.erase)
    {edit : EditPolicy}
    {database : Database}
    (firstSaved :
      (updatePolicy codec parse first edit database).1 = .ok ())
    (secondSaved :
      (updatePolicy codec parse second edit database).1 = .ok ()) :
    (updatePolicy codec parse first edit database).2 =
      (updatePolicy codec parse second edit database).2 := by
  rcases updatePolicy_cases codec parse first edit database with
    ⟨base, edited, based, applied, saved⟩ | ⟨error, failed⟩
  · rcases updatePolicy_cases codec parse second edit database with
      ⟨otherBase, otherEdited, otherBased, otherApplied, otherSaved⟩ |
      ⟨error, failed⟩
    · have sameEdited := EditPolicy.apply_erase
        (baseConfig_erase same based otherBased) applied otherApplied
      have sameDocument : Policy.fromConfig edited =
          .fromConfig otherEdited := by
        rw [← Policy.fromConfig_erase, sameEdited, Policy.fromConfig_erase]
      rw [saved, otherSaved, sameDocument]
    · rw [failed] at secondSaved
      cases secondSaved
  · rw [failed] at firstSaved
    cases firstSaved

/-- Whether every call of a journal succeeded. -/
def AllSucceed (journal : List (AdminCall × Except AppError Unit)) : Prop :=
  ∀ entry ∈ journal, entry.2 = .ok ()

/-- Runs of the same calls that all succeed, from environments with the same
operational settings, store the same. -/
theorem state_erase
    {codec : PolicyCodec}
    {parse : String → Option Url}
    {first second : Config}
    (same : first.erase = second.erase)
    {calls : List AdminCall}
    (firstSucceeds :
      AllSucceed ((administration codec parse first).journal calls))
    (secondSucceeds :
      AllSucceed ((administration codec parse second).journal calls)) :
    (administration codec parse first).state calls =
      (administration codec parse second).state calls := by
  induction calls using List.reverseRecOn with
  | nil => rfl
  | append_singleton calls call inductionHypothesis =>
      unfold AllSucceed at firstSucceeds secondSucceeds inductionHypothesis
      simp only [Mealy.journal_concat, List.forall_mem_append,
        List.forall_mem_singleton] at firstSucceeds secondSucceeds
      have before := inductionHypothesis firstSucceeds.1 secondSucceeds.1
      rw [Mealy.state_concat, Mealy.state_concat, before]
      rw [before] at firstSucceeds
      cases call with
      | unavailable => rfl
      | updatePolicy edit =>
          exact updatePolicy_erase same firstSucceeds.2 secondSucceeds.2

/-- The policy layer neither replaces nor stores what belongs to the
environment. Whatever documents are merged and whatever edits are made, and
whether they succeed or not, the issuers and secrets of the products and
everything of the models but their limits stay as they are, in the same order;
so it is with the configuration that requests are served with. Runs of the
same saves that all succeed, from environments that differ only in secrets,
providers, addresses and prices, store the same document. -/
theorem policy_layer_frame
    (codec : PolicyCodec)
    (parse : String → Option Url) :
    (∀ changes config,
      SameFrame config (runChanges parse changes config)) ∧
    (∀ environment database effective,
      effectiveConfig codec parse environment database = .ok effective →
        SameFrame environment effective) ∧
    ∀ first second calls, first.erase = second.erase →
      AllSucceed ((administration codec parse first).journal calls) →
      AllSucceed ((administration codec parse second).journal calls) →
        ((administration codec parse first).state calls).adminPolicy =
          ((administration codec parse second).state calls).adminPolicy := by
  refine ⟨?_, ?_, ?_⟩
  · intro changes config
    exact runChanges_sameFrame changes (.refl config)
  · intro environment database effective loaded
    obtain ⟨policy, _, applied⟩ := bind_eq_ok_iff.mp loaded
    rw [(Policy.apply_eq_ok_iff.mp applied).1]
    exact policy.merge_sameFrame (.refl environment)
  · intro first second calls same firstSucceeds secondSucceeds
    rw [state_erase same firstSucceeds secondSucceeds]

/-- A run of one save whose edit applies succeeds. -/
theorem allSucceed_single
    (codec : PolicyCodec)
    {parse : String → Option Url}
    {environment : Config}
    {edit : EditPolicy}
    (applies : (edit.apply parse environment).isOk = true) :
    AllSucceed ((administration codec parse environment).journal
      [.updatePolicy edit]) := by
  cases applied : edit.apply parse environment with
  | error error =>
      rw [applied] at applies
      cases applies
  | ok edited =>
      have saved : updatePolicy codec parse environment edit .empty = _ :=
        updatePolicy_of_ok codec parse environment rfl applied
      intro entry member
      rw [List.mem_singleton.mp member]
      exact congrArg Prod.fst saved

/-- The shop with another secret, another key and other prices. -/
def twinShopConfig : Config :=
  shopConfig.view
    (fun product =>
      { product with secret := "ffffffffffffffffffffffffffffffff" })
    (fun model =>
      { model with keyEnv := "OTHER", inputMicrosPerMillion := 3000000 })

theorem policy_layer_frame_shop :
    ((administration shopCodec (fun _ => none) shopConfig).state
          [.updatePolicy shopEdit]).adminPolicy =
        ((administration shopCodec (fun _ => none) twinShopConfig).state
          [.updatePolicy shopEdit]).adminPolicy ∧
      (∃ effective,
        effectiveConfig shopCodec (fun _ => none) shopConfig .empty =
            .ok effective ∧ SameFrame shopConfig effective) ∧
      SameFrame shopConfig
        (runChanges (fun _ => none) [.edit shopEdit, .merge shopPolicy]
          shopConfig) := by
  have frame := policy_layer_frame shopCodec fun _ => none
  have sameErasure : shopConfig.erase = twinShopConfig.erase := by decide
  have valid : shopConfig.Valid fun _ => none :=
    Config.validate_eq_ok_iff.mp (by decide)
  have loaded : effectiveConfig shopCodec (fun _ => none) shopConfig .empty =
      .ok shopConfig := by
    change Policy.default.apply (fun _ => none) shopConfig = .ok shopConfig
    exact Policy.apply_default valid
  refine ⟨?_, ⟨shopConfig, loaded, frame.2.1 _ _ _ loaded⟩,
    frame.1 _ shopConfig⟩
  exact frame.2.2 shopConfig twinShopConfig _ sameErasure
    (allSucceed_single shopCodec (by decide))
    (allSucceed_single shopCodec (by decide))

end AsystantGateway
