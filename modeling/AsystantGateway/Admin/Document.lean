import AsystantGateway.Admin.Repository
import AsystantGateway.Model.Environment

/-!
# The stored document

The policy is stored as JSON text. Its records are read by the names of their
members, whatever their order, and names that are not known are passed over, at
every level: a document from before origins were managed has no origins, and one
with members besides is read as without them.
-/

namespace AsystantGateway

open Json

namespace BudgetOverride

def members (budget : BudgetOverride) : List (String × Value) :=
  [("tenant", .string budget.tenant),
    ("subject", .ofOption .string budget.subject),
    ("daily_micros", .ofI64 budget.dailyMicros)]

def toValue (budget : BudgetOverride) : Value :=
  .object budget.members

/-- A value that gives the members of an override. -/
def Document (budget : BudgetOverride) : Value → Prop :=
  Value.Holds ["tenant", "subject", "daily_micros"] budget.members

theorem document_toValue (budget : BudgetOverride) :
    budget.Document budget.toValue :=
  Value.holds_object (by simp [members])

theorem ofValue_of_document
    {budget : BudgetOverride}
    {value : Value}
    (document : budget.Document value) :
    ofValue value = some budget := by
  unfold ofValue
  rw [Value.fields_of_holds (by simp [members]) document]
  simp [members, Fields.required, Fields.optional, KeyedList.lookup,
    Value.asStr, readOption_string, Value.asI64_ofI64]

end BudgetOverride

namespace ClientModels

def members (client : ClientModels) : List (String × Value) :=
  [("tenant", .string client.tenant),
    ("subject", .ofOption .string client.subject),
    ("models", strings client.models),
    ("default_model", .string client.defaultModel),
    ("allow_selection", .bool client.allowSelection)]

def toValue (client : ClientModels) : Value :=
  .object client.members

/-- A value that gives the members of a client's models. -/
def Document (client : ClientModels) : Value → Prop :=
  Value.Holds
    ["tenant", "subject", "models", "default_model", "allow_selection"]
    client.members

theorem document_toValue (client : ClientModels) :
    client.Document client.toValue :=
  Value.holds_object (by simp [members])

theorem ofValue_of_document
    {client : ClientModels}
    {value : Value}
    (document : client.Document value) :
    ofValue value = some client := by
  unfold ofValue
  rw [Value.fields_of_holds (by simp [members]) document]
  simp [members, Fields.required, Fields.withDefault, KeyedList.lookup,
    Value.asStr, Value.asBool, readOption_string, readList_strings]

end ClientModels

namespace ModelLimits

def members (limits : ModelLimits) : List (String × Value) :=
  [("id", .string limits.id),
    ("max_input_tokens", .ofU32 limits.maxInputTokens),
    ("max_output_tokens", .ofU32 limits.maxOutputTokens)]

def toValue (limits : ModelLimits) : Value :=
  .object limits.members

def ofValue (value : Value) : Option ModelLimits := do
  let fields ← value.fields
    ["id", "max_input_tokens", "max_output_tokens"] false
  let id ← fields.required "id" Value.asStr
  let maxInputTokens ← fields.required "max_input_tokens" Value.asU32
  let maxOutputTokens ← fields.required "max_output_tokens" Value.asU32
  return { id, maxInputTokens, maxOutputTokens }

/-- A value that gives the members of a model's limits. -/
def Document (limits : ModelLimits) : Value → Prop :=
  Value.Holds ["id", "max_input_tokens", "max_output_tokens"] limits.members

theorem document_toValue (limits : ModelLimits) :
    limits.Document limits.toValue :=
  Value.holds_object (by simp [members])

theorem ofValue_of_document
    {limits : ModelLimits}
    {value : Value}
    (document : limits.Document value) :
    ofValue value = some limits := by
  unfold ofValue
  rw [Value.fields_of_holds (by simp [members]) document]
  simp [members, Fields.required, KeyedList.lookup, Value.asStr,
    Value.asU32_ofU32]

end ModelLimits

namespace ProductPolicy

/-- The members of a product's policy, with the items of its lists of
records. -/
def members
    (policy : ProductPolicy)
    (clients budgets : List Value) : List (String × Value) :=
  [("issuer", .string policy.issuer),
    ("models", strings policy.models),
    ("default_model", .string policy.defaultModel),
    ("daily_tenant_micros", .ofI64 policy.dailyTenantMicros),
    ("daily_user_micros", .ofI64 policy.dailyUserMicros),
    ("client_models", .array clients),
    ("budget_overrides", .array budgets)]

def toValue (policy : ProductPolicy) : Value :=
  .object (policy.members (policy.clientModels.map ClientModels.toValue)
    (policy.budgetOverrides.map BudgetOverride.toValue))

def memberNames : List String :=
  ["issuer", "models", "default_model", "daily_tenant_micros",
    "daily_user_micros", "client_models", "budget_overrides"]

def ofValue (value : Value) : Option ProductPolicy := do
  let fields ← value.fields memberNames false
  let issuer ← fields.required "issuer" Value.asStr
  let models ← fields.required "models" (readList Value.asStr)
  let defaultModel ← fields.required "default_model" Value.asStr
  let dailyTenantMicros ← fields.required "daily_tenant_micros" Value.asI64
  let dailyUserMicros ← fields.required "daily_user_micros" Value.asI64
  let clientModels ← fields.required "client_models"
    (readList ClientModels.ofValue)
  let budgetOverrides ← fields.required "budget_overrides"
    (readList BudgetOverride.ofValue)
  return {
    issuer
    models
    defaultModel
    dailyTenantMicros
    dailyUserMicros
    clientModels
    budgetOverrides }

/-- A value that gives the members of a product's policy, its items values that
give theirs. -/
def Document (policy : ProductPolicy) (value : Value) : Prop :=
  ∃ clients budgets,
    List.Forall₂ ClientModels.Document policy.clientModels clients ∧
      List.Forall₂ BudgetOverride.Document policy.budgetOverrides budgets ∧
      value.Holds memberNames (policy.members clients budgets)

theorem document_toValue (policy : ProductPolicy) :
    policy.Document policy.toValue :=
  ⟨_, _,
    List.forall₂_map_right_iff.mpr (List.forall₂_same.mpr
      fun client _ => client.document_toValue),
    List.forall₂_map_right_iff.mpr (List.forall₂_same.mpr
      fun budget _ => budget.document_toValue),
    Value.holds_object (by simp [members, memberNames])⟩

theorem ofValue_of_document
    {policy : ProductPolicy}
    {value : Value}
    (document : policy.Document value) :
    ofValue value = some policy := by
  obtain ⟨clients, budgets, areClients, areBudgets, holds⟩ := document
  have clientModels : readList ClientModels.ofValue (.array clients) =
      some policy.clientModels :=
    readList_of_forall₂ (areClients.imp fun _ _ =>
      ClientModels.ofValue_of_document)
  have budgetOverrides : readList BudgetOverride.ofValue (.array budgets) =
      some policy.budgetOverrides :=
    readList_of_forall₂ (areBudgets.imp fun _ _ =>
      BudgetOverride.ofValue_of_document)
  unfold ofValue
  rw [Value.fields_of_holds (by simp [members]) holds]
  simp [members, Fields.required, KeyedList.lookup, Value.asStr,
    Value.asI64_ofI64, readList_strings, clientModels, budgetOverrides]

end ProductPolicy

namespace Policy

/-- The members of a document, with the items of its lists of records. Absent
origins are left out. -/
def members
    (policy : Policy)
    (products models : List Value) : List (String × Value) :=
  [("products", .array products), ("models", .array models)] ++
    policy.origins.toList.map fun origins => ("origins", strings origins)

def toValue (policy : Policy) : Value :=
  .object (policy.members (policy.products.map ProductPolicy.toValue)
    (policy.models.map ModelLimits.toValue))

def memberNames : List String :=
  ["products", "models", "origins"]

def ofValue (value : Value) : Option Policy := do
  let fields ← value.fields memberNames false
  let products ← fields.required "products" (readList ProductPolicy.ofValue)
  let models ← fields.required "models" (readList ModelLimits.ofValue)
  let origins ← fields.withDefault "origins"
    (readOption (readList Value.asStr)) none
  return { products, models, origins }

/-- A document of a policy: at every level of its records the members are in any
order, with any others besides. -/
def Document (policy : Policy) (value : Value) : Prop :=
  ∃ products models,
    List.Forall₂ ProductPolicy.Document policy.products products ∧
      List.Forall₂ ModelLimits.Document policy.models models ∧
      value.Holds memberNames (policy.members products models)

theorem document_toValue (policy : Policy) :
    policy.Document policy.toValue := by
  refine ⟨_, _,
    List.forall₂_map_right_iff.mpr (List.forall₂_same.mpr
      fun product _ => product.document_toValue),
    List.forall₂_map_right_iff.mpr (List.forall₂_same.mpr
      fun model _ => model.document_toValue),
    Value.holds_object ?_⟩
  unfold members memberNames
  cases policy.origins <;> simp

theorem ofValue_of_document
    {policy : Policy}
    {value : Value}
    (document : policy.Document value) :
    ofValue value = some policy := by
  obtain ⟨products, models, areProducts, areModels, holds⟩ := document
  have productPolicies : readList ProductPolicy.ofValue (.array products) =
      some policy.products :=
    readList_of_forall₂ (areProducts.imp fun _ _ =>
      ProductPolicy.ofValue_of_document)
  have limits : readList ModelLimits.ofValue (.array models) =
      some policy.models :=
    readList_of_forall₂ (areModels.imp fun _ _ =>
      ModelLimits.ofValue_of_document)
  have nodup : ((policy.members products models).map Prod.fst).Nodup := by
    unfold members
    cases policy.origins <;> simp
  unfold ofValue
  rw [Value.fields_of_holds nodup holds]
  unfold members
  obtain ⟨_, _, origins⟩ := policy
  cases origins with
  | none =>
      simp [Fields.required, Fields.withDefault, KeyedList.lookup,
        productPolicies, limits]
  | some origins =>
      have read : readOption (readList Value.asStr) (strings origins) =
          some (some origins) :=
        congrArg (Option.map some) (readList_strings origins)
      simp [Fields.required, Fields.withDefault, KeyedList.lookup,
        productPolicies, limits, read]

end Policy

section Text

variable
  (round : String → Option String)
  (depth : Nat)

theorem BudgetOverride.readable_toValue (budget : BudgetOverride) :
    budget.toValue.Readable round (depth + 1) := by
  simp [toValue, members]

theorem ClientModels.readable_toValue (client : ClientModels) :
    client.toValue.Readable round (depth + 2) := by
  simp [toValue, members]

theorem ModelLimits.readable_toValue (limits : ModelLimits) :
    limits.toValue.Readable round (depth + 1) := by
  simp [toValue, members]

theorem ProductPolicy.readable_toValue (policy : ProductPolicy) :
    policy.toValue.Readable round (depth + 4) := by
  have clients : ∀ client ∈ policy.clientModels,
      client.toValue.Readable round (depth + 2) :=
    fun client _ => client.readable_toValue round depth
  have budgets : ∀ budget ∈ policy.budgetOverrides,
      budget.toValue.Readable round (depth + 2) :=
    fun budget _ => budget.readable_toValue round (depth + 1)
  simpa [toValue, members] using ⟨clients, budgets⟩

theorem Policy.readable_toValue (policy : Policy) :
    policy.toValue.Readable round (depth + 6) := by
  have products : ∀ product ∈ policy.products,
      product.toValue.Readable round (depth + 4) :=
    fun product _ => product.readable_toValue round depth
  have models : ∀ model ∈ policy.models,
      model.toValue.Readable round (depth + 4) :=
    fun model _ => model.readable_toValue round (depth + 3)
  unfold toValue members
  cases policy.origins <;> simpa using ⟨products, models⟩

/-- Documents as JSON text, with what doubles are rounded to. -/
def policyCodec : PolicyCodec where
  toText policy := policy.toValue.compact
  fromText text := (readJson round text).bind Policy.ofValue

variable {round}

theorem policyCodec_fromText
    {policy : Policy}
    {document : Value}
    (isDocument : policy.Document document)
    (readable : document.Readable round 127) :
    (policyCodec round).fromText document.compact = some policy := by
  change (readJson round document.compact).bind Policy.ofValue = some policy
  rw [readJson_compact readable, Option.bind_some,
    Policy.ofValue_of_document isDocument]

variable (round)

/-- A document that was written is read back. -/
theorem policyCodec_roundTrip (policy : Policy) :
    (policyCodec round).fromText ((policyCodec round).toText policy) =
      some policy :=
  policyCodec_fromText policy.document_toValue
    (policy.readable_toValue round 121)

end Text

/-- A policy that was saved is the policy that is loaded: the one of the edited
configuration, whatever its texts. A document is loaded as well with the members
of its records in any order at every level, with others besides, and without
origins. -/
theorem policy_document_loaded
    (round : String → Option String)
    (database : Database) :
    (∀ parse environment edit,
      (updatePolicy (policyCodec round) parse environment edit
        database).1 = .ok () →
      ∃ base edited,
        baseConfig (policyCodec round) parse environment
            database.adminPolicy = .ok base ∧
          edit.apply parse base = .ok edited ∧
          loadPolicy (policyCodec round)
            (updatePolicy (policyCodec round) parse environment edit
              database).2 = .ok (.fromConfig edited)) ∧
    ∀ policy document,
      policy.Document document →
      document.Readable round 127 →
      database.adminPolicy = some document.compact →
      loadPolicy (policyCodec round) database = .ok policy := by
  refine ⟨fun parse environment edit saved => ?_, ?_⟩
  · rcases updatePolicy_cases (policyCodec round) parse environment edit
      database with ⟨base, edited, based, applied, stored⟩ | ⟨error, failed⟩
    · refine ⟨base, edited, based, applied, ?_⟩
      rw [stored]
      simp only [loadPolicy, PolicyCodec.read, policyCodec_roundTrip]
    · rw [failed] at saved
      cases saved
  · intro policy document isDocument readable stored
    simp only [loadPolicy, stored, PolicyCodec.read,
      policyCodec_fromText isDocument readable]

/-- An override's document with its members backwards and a note. -/
def olderOverride : Value :=
  .object
    [("daily_micros", .ofI64 3),
      ("note", .null),
      ("subject", .null),
      ("tenant", .string "t")]

/-- A product's document with its members backwards and a note. -/
def olderProduct : Value :=
  .object
    [("budget_overrides", .array [olderOverride]),
      ("client_models", .array []),
      ("daily_user_micros", .ofI64 5),
      ("daily_tenant_micros", .ofI64 7),
      ("note", .null),
      ("default_model", .string "small"),
      ("models", strings ["small"]),
      ("issuer", .string "shop")]

/-- A document from before origins were managed, backwards, with a note. -/
def olderDocument : Value :=
  .object
    [("note", .null),
      ("models", .array []),
      ("products", .array [olderProduct])]

/-- What the product's document means. -/
def olderProductPolicy : ProductPolicy where
  issuer := "shop"
  models := ["small"]
  defaultModel := "small"
  dailyTenantMicros := 7
  dailyUserMicros := 5
  clientModels := []
  budgetOverrides := [{
    tenant := "t"
    subject := none
    dailyMicros := 3 }]

/-- What the document means. -/
def olderPolicy : Policy where
  products := [olderProductPolicy]
  models := []
  origins := none

theorem document_olderDocument : olderPolicy.Document olderDocument := by
  have override : BudgetOverride.Document ⟨"t", none, 3⟩ olderOverride :=
    .object _ (List.reverse_perm (BudgetOverride.members ⟨"t", none, 3⟩))
  have product : olderProductPolicy.Document olderProduct :=
    ⟨[], [olderOverride], .nil, .cons override .nil, .object _
      (List.reverse_perm (olderProductPolicy.members [] [olderOverride]))⟩
  exact ⟨[olderProduct], [], .cons product .nil, .nil, .object _
    (List.reverse_perm (olderPolicy.members [olderProduct] []))⟩

theorem policy_document_loaded_older :
    loadPolicy (policyCodec fun _ => none)
        { Database.empty with adminPolicy := some olderDocument.compact } =
      .ok olderPolicy := by
  refine (policy_document_loaded (fun _ => none) _).2 _ _
    document_olderDocument ?_ rfl
  simp [olderDocument, olderProduct, olderOverride]

end AsystantGateway
