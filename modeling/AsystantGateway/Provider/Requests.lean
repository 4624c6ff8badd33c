import AsystantGateway.Library.Json.Edit
import AsystantGateway.Model.Config
import AsystantGateway.Provider.ChatRequest

/-!
# Request bodies

A request is written in one of three formats. A chat request has one message
for each message of the turn. A messages request nests texts, calls and results
as blocks in its messages. A responses request is a flat list of items. Where
the program assigns to a member of a value the body is `none` when the value
has no members, since the program panics there.
-/

namespace AsystantGateway

/-- The most tokens of an answer, as a JSON number. -/
def outputLimit (model : ModelConfig) : Json.Value :=
  .number (.posInt model.maxOutputTokens.toUInt64)

/-- A tool as a chat request shows it. -/
def chatTool (tool : Json.Value) : Json.Value :=
  .object [("function", tool), ("type", .string "function")]

/-- What an answer may cost at most. -/
def maxPrice
    (dollars : Int64 → Json.Value)
    (model : ModelConfig) : Json.Value :=
  .object [
    ("max_price", .object [
      ("completion", dollars model.outputMicrosPerMillion),
      ("prompt", dollars model.inputMicrosPerMillion)]),
    ("require_parameters", .bool true)]

/-- The body of a chat request. Prices are converted to dollars by a division of
doubles. -/
def chatBody
    (dollars : Int64 → Json.Value)
    (model : ModelConfig)
    (manifest : Manifest)
    (messages : List Message) : Option Json.Value := do
  let body := Json.Value.object [
    ("messages", .array (openaiMessages manifest messages)),
    ("model", .string model.model),
    ("stream", .bool true),
    ("stream_options", .object [("include_usage", .bool true)])]
  let limit :=
    if model.provider = .openai then "max_completion_tokens" else "max_tokens"
  let body ← body.assign limit (outputLimit model)
  let body ←
    if manifest.tools.isEmpty then some body
    else body.assign "tools" (.array (manifest.tools.map chatTool))
  if model.provider = .openrouter then
    body.assign "provider" (maxPrice dollars model)
  else
    some body

/-- A message of a chat request as the program builds it, member by member. -/
def Message.openaiValue (message : Message) : Option Json.Value :=
  let value := Json.Value.object [
    ("content", .string message.content),
    ("role", .string message.role)]
  let withCalls :=
    if message.calls ≠ [] then
      value.assign "tool_calls"
        (.array (message.calls.map ToolCall.chatValue))
    else
      some value
  withCalls.bind fun value =>
    if message.role = "tool" then
      value.assign "tool_call_id" (.string message.callId)
    else
      some value

/-- The assignments succeed and leave the members in key order. -/
theorem Message.openaiValue_eq (message : Message) :
    message.openaiValue = some message.chatValue := by
  unfold openaiValue chatValue
  dsimp only
  by_cases proposes : message.calls ≠ []
  · by_cases isResult : message.role = "tool"
    · rw [if_pos proposes, if_pos proposes]
      simp only [isResult, ↓reduceIte]
      rfl
    · rw [if_pos proposes, if_pos proposes]
      simp only [isResult, ↓reduceIte]
      rfl
  · by_cases isResult : message.role = "tool"
    · rw [if_neg proposes, if_neg proposes]
      simp only [isResult, ↓reduceIte]
      rfl
    · rw [if_neg proposes, if_neg proposes]
      simp only [isResult, ↓reduceIte]
      rfl

/-- A proposed call as a messages request shows it. -/
def ToolCall.anthropicValue (call : ToolCall) : Json.Value :=
  .object [
    ("id", .string call.id),
    ("input", call.arguments),
    ("name", .string call.name),
    ("type", .string "tool_use")]

/-- A message as a messages request shows it. A result is a message of the
user, and an empty text is left out. -/
def anthropicMessage (message : Message) : Json.Value :=
  if message.role = "tool" then
    .object [
      ("content", .array [.object [
        ("content", .string message.content),
        ("tool_use_id", .string message.callId),
        ("type", .string "tool_result")]]),
      ("role", .string "user")]
  else
    let text :=
      if message.content ≠ "" then
        [Json.Value.object [
          ("text", .string message.content), ("type", .string "text")]]
      else
        []
    .object [
      ("content",
        .array (text ++ message.calls.map ToolCall.anthropicValue)),
      ("role", .string message.role)]

/-- A tool as a messages request shows it. -/
def anthropicTool (tool : Json.Value) : Json.Value :=
  .object [
    ("description", tool.index "description"),
    ("input_schema", tool.index "parameters"),
    ("name", tool.index "name")]

/-- The body of a messages request. -/
def anthropicBody
    (model : ModelConfig)
    (manifest : Manifest)
    (messages : List Message) : Json.Value :=
  .object [
    ("max_tokens", outputLimit model),
    ("messages", .array (messages.map anthropicMessage)),
    ("model", .string model.model),
    ("system", .string (instructions manifest.prompts)),
    ("tools", .array (manifest.tools.map anthropicTool))]

/-- A proposed call as an item. -/
def ToolCall.responsesItem (call : ToolCall) : Json.Value :=
  .object [
    ("arguments", .string call.arguments.compact),
    ("call_id", .string call.id),
    ("name", .string call.name),
    ("type", .string "function_call")]

/-- The items of a message. An empty text is left out. -/
def responsesItems (message : Message) : List Json.Value :=
  if message.role = "tool" then
    [.object [
      ("call_id", .string message.callId),
      ("output", .string message.content),
      ("type", .string "function_call_output")]]
  else
    let text :=
      if message.content ≠ "" then
        [Json.Value.object [
          ("content", .string message.content),
          ("role", .string message.role)]]
      else
        []
    text ++ message.calls.map ToolCall.responsesItem

/-- A tool as a responses request shows it. -/
def responsesTool (tool : Json.Value) : Option Json.Value :=
  tool.assign "type" (.string "function")

/-- The body of a responses request. -/
def responsesBody
    (model : ModelConfig)
    (manifest : Manifest)
    (messages : List Message) : Option Json.Value := do
  let tools ← manifest.tools.mapM responsesTool
  return .object [
    ("input", .array (messages.flatMap responsesItems)),
    ("instructions", .string (instructions manifest.prompts)),
    ("max_output_tokens", outputLimit model),
    ("model", .string model.model),
    ("store", .bool false),
    ("tools", .array tools)]

end AsystantGateway
