import AsystantGateway.Library.Json.Value
import AsystantGateway.Model.Config
import AsystantGateway.Model.Turn

/-!
# Charges

What a provider's usage report costs. A report of OpenRouter can give the cost
itself as a decimal; what that decimal is in micros, and reading JSON text, are
given by the runtime.
-/

namespace AsystantGateway

open CheckedInt

/-- What the program takes from its libraries. -/
structure ProviderRuntime where
  /-- Read a JSON text. -/
  parse : String → Option Json.Value
  /-- A reported cost in micros, rounded up, when it is a finite number that is
  not negative and below one million. -/
  costMicros : Json.Value → Option Int64

/-- An integer under the first of two names. -/
def Json.Value.firstI64
    (value : Json.Value)
    (first second : String) : Option Int64 :=
  (value.index first).asI64.or (value.index second).asI64

/-- The cost of all tokens at the uncached rates, rounded up. -/
def tokenCharge (model : ModelConfig) (usage : Json.Value) : Option Int64 := do
  let input ← usage.firstI64 "prompt_tokens" "input_tokens"
  let output ← usage.firstI64 "completion_tokens" "output_tokens"
  if input < 0 ∨ output < 0 then none
  let cachedWrite := (usage.index "cache_creation_input_tokens").asI64.getD 0
  let cachedRead := (usage.index "cache_read_input_tokens").asI64.getD 0
  let input ← checkedAdd input cachedWrite
  let input ← checkedAdd input cachedRead
  let inputCost ← checkedMul input model.inputMicrosPerMillion
  let outputCost ← checkedMul output model.outputMicrosPerMillion
  let cost ← checkedAdd inputCost outputCost
  let total ← checkedAdd cost 999999
  return total / 1000000

/-- The charge for a usage report. -/
def usageCharge
    (runtime : ProviderRuntime)
    (model : ModelConfig)
    (usage : Json.Value) : Option Int64 :=
  let reported :=
    if model.provider = .openrouter then
      runtime.costMicros (usage.index "cost")
    else
      none
  reported.or (tokenCharge model usage)

end AsystantGateway
