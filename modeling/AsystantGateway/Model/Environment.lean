import AsystantGateway.Library.Json.Fields
import AsystantGateway.Model.Config

/-!
# The configuration of the environment

A process reads its products, its models and its first origins from variables.
It starts only with a valid configuration and with a key for each of its models.
-/

namespace AsystantGateway

open Json

/-- Read one of some names, as a text or as the only key of an object. -/
def readVariant (variants : List (String × α)) : Value → Option α
  | .string name => (variants.find? fun variant => variant.1 = name).map Prod.snd
  | .object [(name, .null)] =>
      (variants.find? fun variant => variant.1 = name).map Prod.snd
  | _ => none

def Provider.ofValue : Value → Option Provider :=
  readVariant
    [("openrouter", .openrouter),
      ("openai", .openai),
      ("gemini", .gemini),
      ("anthropic", .anthropic),
      ("opencode_zen", .opencodeZen),
      ("opencode_go", .opencodeGo)]

def WireApi.ofValue : Value → Option WireApi :=
  readVariant
    [("chat_completions", .chatCompletions),
      ("messages", .messages),
      ("responses", .responses)]

def BudgetOverride.ofValue (value : Value) : Option BudgetOverride := do
  let fields ← value.fields ["tenant", "subject", "daily_micros"] false
  let tenant ← fields.required "tenant" Value.asStr
  let subject ← fields.optional "subject" Value.asStr
  let dailyMicros ← fields.required "daily_micros" Value.asI64
  return { tenant, subject, dailyMicros }

def ClientModels.ofValue (value : Value) : Option ClientModels := do
  let fields ← value.fields
    ["tenant", "subject", "models", "default_model", "allow_selection"] false
  let tenant ← fields.required "tenant" Value.asStr
  let subject ← fields.withDefault "subject" (readOption Value.asStr) none
  let models ← fields.required "models" (readList Value.asStr)
  let defaultModel ← fields.required "default_model" Value.asStr
  let allowSelection ← fields.withDefault "allow_selection" Value.asBool false
  return { tenant, subject, models, defaultModel, allowSelection }

def Product.ofValue (value : Value) : Option Product := do
  let fields ← value.fields
    ["issuer", "secret", "daily_tenant_micros", "daily_user_micros", "models",
      "default_model", "client_models", "budget_overrides"] false
  let issuer ← fields.required "issuer" Value.asStr
  let secret ← fields.required "secret" Value.asStr
  let dailyTenantMicros ← fields.required "daily_tenant_micros" Value.asI64
  let dailyUserMicros ← fields.required "daily_user_micros" Value.asI64
  let models ← fields.required "models" (readList Value.asStr)
  let defaultModel ← fields.withDefault "default_model"
    (readOption Value.asStr) none
  let clientModels ← fields.withDefault "client_models"
    (readList ClientModels.ofValue) []
  let budgetOverrides ← fields.withDefault "budget_overrides"
    (readList BudgetOverride.ofValue) []
  return {
    issuer
    secret
    dailyTenantMicros
    dailyUserMicros
    models
    defaultModel
    clientModels
    budgetOverrides }

def ModelConfig.ofValue (value : Value) : Option ModelConfig := do
  let fields ← value.fields
    ["id", "provider", "model", "key_env", "wire_api",
      "input_micros_per_million", "output_micros_per_million",
      "max_input_tokens", "max_output_tokens"] false
  let id ← fields.required "id" Value.asStr
  let provider ← fields.required "provider" Provider.ofValue
  let model ← fields.required "model" Value.asStr
  let keyEnv ← fields.required "key_env" Value.asStr
  let wireApi ← fields.withDefault "wire_api" WireApi.ofValue .chatCompletions
  let inputMicrosPerMillion ← fields.required "input_micros_per_million"
    Value.asI64
  let outputMicrosPerMillion ← fields.required "output_micros_per_million"
    Value.asI64
  let maxInputTokens ← fields.required "max_input_tokens" Value.asU32
  let maxOutputTokens ← fields.required "max_output_tokens" Value.asU32
  return {
    id
    provider
    model
    keyEnv
    wireApi
    inputMicrosPerMillion
    outputMicrosPerMillion
    maxInputTokens
    maxOutputTokens }

namespace Config

end Config

end AsystantGateway
