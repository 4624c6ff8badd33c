import AsystantGateway.Admin.Repository
import AsystantGateway.Provider.ChatRequest

/-!
# What a turn is checked for

A turn's messages must pair every proposed call with one result. Before its
inference the turn is checked against the assistant's manifest, the effective
configuration and the policy of its user, its input is estimated by the bytes of
its encoding, and the most that it can cost is what will be reserved.
-/

namespace AsystantGateway

/-- Add the calls of an assistant's message to the pending ones. -/
def checkCall
    (pending : List String)
    (call : ToolCall) : Except AppError (List String) :=
  if call.id = "" ∨ ¬ call.arguments.isObject ∨ call.id ∈ pending then
    .error .invalid
  else
    .ok (call.id :: pending)

/-- Check one message against the calls whose results are pending. -/
def checkMessage
    (pending : List String)
    (message : Message) : Except AppError (List String) :=
  if message.role = "user" then
    if pending ≠ [] ∨ message.calls ≠ [] then .error .invalid
    else .ok pending
  else if message.role = "assistant" then
    if pending ≠ [] then .error .invalid
    else message.calls.foldlM checkCall pending
  else if message.role = "tool" then
    if message.calls ≠ [] ∨ message.callId ∉ pending then .error .invalid
    else .ok (pending.erase message.callId)
  else
    .error .invalid

/-- Check the sizes of a turn and the pairing of its messages. -/
def validateTurn (turn : Turn) : Except AppError Unit :=
  if turn.requestId = "" ∨ turn.requestId.utf8ByteSize > 100 ∨
      turn.messages = [] ∨ turn.messages.length > 256 then
    .error .invalid
  else do
    let pending ← turn.messages.foldlM checkMessage []
    if pending ≠ [] then .error .invalid
    else .ok ()

/-- A byte-based upper bound of the input, plus protocol overhead. -/
def inputEstimate (manifest : Manifest) (turn : Turn) : Nat :=
  (Json.Value.array
      (openaiMessages manifest turn.messages)).compact.utf8ByteSize +
    (Json.Value.array manifest.tools).compact.utf8ByteSize +
    turn.messages.length * 128 + manifest.tools.length * 1024 + 4096

/-- What is reserved for a turn, and within which limits. -/
structure ReserveJob where
  amount : Int64
  tenantLimit : Int64
  userLimit : Int64
  deriving DecidableEq

/-- Check a turn against the configuration. -/
def prepareTurn
    (session : Session)
    (turn : Turn)
    (manifest : Manifest)
    (config : Config) : Except AppError ReserveJob := do
  match config.models.find? fun model => model.id = turn.model with
  | none => .error .invalid
  | some model =>
      match config.products.find? fun product =>
          product.issuer = session.issuer with
      | none => .error .authentication
      | some product =>
          let policy ← product.modelPolicy session.tenant session.subject
          if ¬ policy.permits model.id then .error .invalid
          else
            let input := inputEstimate manifest turn
            if input > model.maxInputTokens.toNat then
              .error (.inputLimit input model.maxInputTokens)
            else
              let amount ← model.reservation
              let (tenantLimit, userLimit) :=
                product.limits session.tenant session.subject
              .ok { amount, tenantLimit, userLimit }

end AsystantGateway
