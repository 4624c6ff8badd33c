import AsystantGateway.Provider.Readback

/-!
# The bound of the input

The input of a turn is estimated by the bytes of its chat encoding, with fixed
allowances for each message and each tool. A call is never longer in another
format than in a chat request, where its arguments stand escaped and in a
deeper object, and whatever else a format wraps around a message or a tool is
within the allowances.
-/

namespace AsystantGateway

open Json

/-- The bytes of what a request tells a model. -/
def promptBytes (keys : List String) (body : Json.Value) : Nat :=
  (body.only keys).compact.utf8ByteSize

theorem promptBytes_eq (keys : List String) (body : Json.Value) :
    promptBytes keys body = (body.only keys).size :=
  Value.utf8ByteSize_compact _

/-- The bytes of the texts that the formats are made of. -/
private theorem textSize_words :
    textSize "arguments" = 11 ∧ textSize "call_id" = 9 ∧
      textSize "content" = 9 ∧ textSize "description" = 13 ∧
      textSize "function" = 10 ∧ textSize "function_call" = 15 ∧
      textSize "function_call_output" = 22 ∧ textSize "id" = 4 ∧
      textSize "input" = 7 ∧ textSize "input_schema" = 14 ∧
      textSize "instructions" = 14 ∧ textSize "messages" = 10 ∧
      textSize "name" = 6 ∧ textSize "output" = 8 ∧
      textSize "role" = 6 ∧ textSize "system" = 8 ∧ textSize "text" = 6 ∧
      textSize "tool" = 6 ∧ textSize "tool_call_id" = 14 ∧
      textSize "tool_calls" = 12 ∧ textSize "tool_result" = 13 ∧
      textSize "tool_use" = 10 ∧ textSize "tool_use_id" = 13 ∧
      textSize "tools" = 7 ∧ textSize "type" = 6 ∧ textSize "user" = 6 := by
  decide

section Calls

variable (call : ToolCall)

theorem ToolCall.size_chatValue :
    call.chatValue.size =
      textSize call.arguments.compact + textSize call.name +
        textSize call.id + 59 := by
  simp only [chatValue, Value.size_object, Value.size_string,
    membersSize_cons, membersSize_nil, textSize_words]
  omega

/-- Arguments that stand as a value are shorter than as a text. -/
theorem ToolCall.size_anthropicValue_le :
    call.anthropicValue.size ≤ call.chatValue.size := by
  have escaped : call.arguments.size + 2 ≤
      textSize call.arguments.compact := by
    have asText := utf8ByteSize_le_textSize call.arguments.compact
    rwa [Value.utf8ByteSize_compact] at asText
  rw [size_chatValue]
  simp only [anthropicValue, Value.size_object, Value.size_string,
    membersSize_cons, membersSize_nil, textSize_words]
  omega

theorem ToolCall.size_responsesItem_le :
    call.responsesItem.size ≤ call.chatValue.size := by
  rw [size_chatValue]
  simp only [responsesItem, Value.size_object, Value.size_string,
    membersSize_cons, membersSize_nil, textSize_words]
  omega

end Calls

section Messages

variable (message : Message)

/-- A message in a chat request has at least its parts. -/
theorem Message.size_chatValue_ge :
    textSize message.content + textSize message.role +
        (if message.role = "tool" then textSize message.callId else 0) +
        itemsSize (message.calls.map ToolCall.chatValue) + 20 ≤
      message.chatValue.size := by
  have noCalls : ¬ message.calls ≠ [] →
      itemsSize (message.calls.map ToolCall.chatValue) = 0 := by
    intro none
    rw [not_not.mp none]
    rfl
  unfold chatValue
  simp only [Value.size_object, membersSize_append, membersSize_cons,
    membersSize_nil, Value.size_string, textSize_words]
  split_ifs with isResult proposes proposes
  · simp only [membersSize_cons, membersSize_nil, Value.size_string,
      Value.size_array, textSize_words]
    omega
  · have none := noCalls proposes
    simp only [membersSize_cons, membersSize_nil, Value.size_string,
      textSize_words]
    omega
  · simp only [membersSize_cons, membersSize_nil, Value.size_array,
      textSize_words]
    omega
  · have none := noCalls proposes
    simp only [membersSize_nil]
    omega

/-- The wrapper of a message in a messages request is within its allowance. -/
theorem size_anthropicMessage_le :
    (anthropicMessage message).size ≤ message.chatValue.size + 128 := by
  have parts := message.size_chatValue_ge
  have calls := itemsSize_map_le fun call (_ : call ∈ message.calls) =>
    call.size_anthropicValue_le
  unfold anthropicMessage
  split_ifs at parts ⊢ with isResult hasText
  · simp only [Value.size_object, Value.size_array, Value.size_string,
      membersSize_cons, membersSize_nil, itemsSize_cons, itemsSize_nil,
      isResult, textSize_words] at parts ⊢
    omega
  · simp only [Value.size_object, Value.size_array, Value.size_string,
      membersSize_cons, membersSize_nil, itemsSize_append, itemsSize_cons,
      itemsSize_nil, textSize_words]
    omega
  · simp only [Value.size_object, Value.size_array, Value.size_string,
      membersSize_cons, membersSize_nil, itemsSize_append, itemsSize_nil,
      textSize_words]
    omega

/-- So are the wrappers of its items in a responses request, with their
separators. -/
theorem itemsSize_responsesItems_le :
    itemsSize (responsesItems message) ≤
      message.chatValue.size + 1 + 128 := by
  have parts := message.size_chatValue_ge
  have calls := itemsSize_map_le fun call (_ : call ∈ message.calls) =>
    call.size_responsesItem_le
  unfold responsesItems
  split_ifs at parts ⊢ with isResult hasText
  · simp only [Value.size_object, Value.size_string, membersSize_cons,
      membersSize_nil, itemsSize_cons, itemsSize_nil, isResult,
      textSize_words] at parts ⊢
    omega
  · simp only [Value.size_object, Value.size_string, membersSize_cons,
      membersSize_nil, itemsSize_append, itemsSize_cons, itemsSize_nil,
      textSize_words]
    omega
  · simp only [itemsSize_append, itemsSize_nil]
    omega

end Messages

/-- The items of all messages, each message with its allowance. -/
theorem itemsSize_flatMap_responsesItems_le (messages : List Message) :
    itemsSize (messages.flatMap responsesItems) ≤
      itemsSize (messages.map Message.chatValue) + messages.length * 128 := by
  induction messages with
  | nil => simp
  | cons message rest inductionHypothesis =>
      have first := itemsSize_responsesItems_le message
      simp only [List.flatMap_cons, itemsSize_append, List.map_cons,
        itemsSize_cons, List.length_cons, Nat.succ_mul]
      omega

section Tools

variable (tool : Json.Value)

theorem size_chatTool_le :
    (chatTool tool).size ≤ tool.size + 1024 := by
  simp only [chatTool, Value.size_object, Value.size_string,
    membersSize_cons, membersSize_nil, textSize_words]
  omega

theorem size_anthropicTool_le :
    (anthropicTool tool).size ≤ tool.size + 1024 := by
  have distinct : ["description", "parameters", "name"].Nodup := by decide
  have parts := sum_size_index_le distinct tool
  simp only [List.map_cons, List.map_nil, List.sum_cons, List.sum_nil,
    List.length_cons, List.length_nil] at parts
  simp only [anthropicTool, Value.size_object, membersSize_cons,
    membersSize_nil, textSize_words]
  omega

theorem size_responsesTool_le
    {tool typed : Json.Value}
    (isTyped : responsesTool tool = some typed) :
    typed.size ≤ tool.size + 1024 := by
  unfold responsesTool at isTyped
  cases tool with
  | object members =>
      rw [Value.assign_object, Option.some.injEq] at isTyped
      rw [← isTyped]
      have bounded := size_assign_object_le "type" (.string "function") members
      simp only [Value.size_string, textSize_words] at bounded
      omega
  | null =>
      cases isTyped
      decide
  | _ => cases isTyped

theorem itemsSize_responsesTools_le
    {tools typed : List Json.Value}
    (areTyped : tools.mapM responsesTool = some typed) :
    itemsSize typed ≤ itemsSize tools + tools.length * 1024 := by
  induction tools generalizing typed with
  | nil =>
      cases areTyped
      simp
  | cons tool rest inductionHypothesis =>
      rw [List.mapM_cons] at areTyped
      simp only [Option.bind_eq_bind, Option.bind_eq_some_iff,
        Option.pure_def, Option.some.injEq] at areTyped
      obtain ⟨first, isFirst, others, areOthers, rfl⟩ := areTyped
      have firstBound := size_responsesTool_le isFirst
      have restBound := inductionHypothesis areOthers
      simp only [itemsSize_cons, List.length_cons, Nat.succ_mul]
      omega

end Tools

/-- The estimate has the instructions, the messages and the tools in their chat
encoding, and the allowances. -/
theorem inputEstimate_ge (manifest : Manifest) (turn : Turn) :
    textSize (instructions manifest.prompts) +
        itemsSize (turn.messages.map Message.chatValue) +
        turn.messages.length * 128 +
        itemsSize manifest.tools + manifest.tools.length * 1024 + 4096 ≤
      inputEstimate manifest turn := by
  have messages : (Json.Value.array
      (openaiMessages manifest turn.messages)).compact.utf8ByteSize =
        (Json.Value.array (openaiMessages manifest turn.messages)).size :=
    Value.utf8ByteSize_compact _
  have tools : (Json.Value.array manifest.tools).compact.utf8ByteSize =
      (Json.Value.array manifest.tools).size :=
    Value.utf8ByteSize_compact _
  unfold inputEstimate
  rw [messages, tools]
  simp only [openaiMessages, Value.size_array, Value.size_object,
    Value.size_string, itemsSize_cons, membersSize_cons, membersSize_nil,
    textSize_words]
  omega

section Bodies

variable
  {dollars : Int64 → Json.Value}
  {model : ModelConfig}
  {manifest : Manifest}
  {turn : Turn}

/-- An assignment to a member that is not looked at. -/
theorem size_only_assign_le_of_not_mem
    {keys : List String}
    {target assigned value : Json.Value}
    {key : String}
    (unlooked : keys.contains key = false)
    (isObject : target.isObject = true)
    (isAssigned : target.assign key value = some assigned) :
    assigned.isObject = true ∧
      (assigned.only keys).size ≤ (target.only keys).size := by
  obtain ⟨stays, bounded⟩ := size_only_assign_le keys isObject isAssigned
  rw [List.filter_cons, unlooked] at bounded
  exact ⟨stays, bounded⟩

/-- The limit of an answer and its price are not looked at. -/
theorem promptBytes_chatBody_le
    {body : Json.Value}
    (isBody : chatBody dollars model manifest turn.messages = some body) :
    promptBytes ["messages", "tools"] body ≤ inputEstimate manifest turn := by
  let keys := ["messages", "tools"]
  let messages := Json.Value.array (openaiMessages manifest turn.messages)
  have estimate := inputEstimate_ge manifest turn
  have tools := @itemsSize_map_le_add _ chatTool id 1024 manifest.tools
    fun tool _ => size_chatTool_le tool
  rw [List.map_id] at tools
  have unpriced : ∀ {target : Json.Value}, target.isObject = true →
      (if model.provider = .openrouter then
          target.assign "provider" (maxPrice dollars model)
        else some target) = some body →
      (body.only keys).size ≤ (target.only keys).size := by
    intro target isObject isPriced
    split at isPriced
    · exact (size_only_assign_le_of_not_mem rfl isObject isPriced).2
    · cases isPriced
      exact Nat.le_refl _
  unfold chatBody at isBody
  dsimp only at isBody
  obtain ⟨limited, isLimited, isBody⟩ := Option.bind_eq_some_iff.mp isBody
  have unlooked : keys.contains (if model.provider = .openai then
      "max_completion_tokens" else "max_tokens") = false := by
    split <;> rfl
  obtain ⟨limitedObject, limitedSize⟩ :=
    size_only_assign_le_of_not_mem unlooked rfl isLimited
  have start : (limited.only keys).size ≤
      (Json.Value.object [("messages", messages)]).size := limitedSize
  rw [promptBytes_eq]
  change (body.only keys).size ≤ _
  split at isBody
  · have bounded := unpriced limitedObject isBody
    simp only [messages, openaiMessages, Value.size_array, Value.size_object,
      Value.size_string, itemsSize_cons, membersSize_cons, membersSize_nil,
      textSize_words] at start
    omega
  · obtain ⟨tooled, isTooled, isBody⟩ := Option.bind_eq_some_iff.mp isBody
    obtain ⟨tooledObject, tooledSize⟩ :=
      size_only_assign_le keys limitedObject isTooled
    have bounded := unpriced tooledObject isBody
    have added : membersSize ([("tools",
        Json.Value.array (manifest.tools.map chatTool))].filter
          fun member => keys.contains member.1) =
        membersSize [("tools", .array (manifest.tools.map chatTool))] := rfl
    simp only [added, membersSize_cons, membersSize_nil, Value.size_array,
      textSize_words] at tooledSize
    simp only [messages, openaiMessages, Value.size_array, Value.size_object,
      Value.size_string, itemsSize_cons, membersSize_cons, membersSize_nil,
      textSize_words] at start
    omega

theorem promptBytes_anthropicBody_le :
    promptBytes ["system", "messages", "tools"]
        (anthropicBody model manifest turn.messages) ≤
      inputEstimate manifest turn := by
  have estimate := inputEstimate_ge manifest turn
  have messages := itemsSize_map_le_add
    fun message (_ : message ∈ turn.messages) =>
      size_anthropicMessage_le message
  have tools := @itemsSize_map_le_add _ anthropicTool id 1024 manifest.tools
    fun tool _ => size_anthropicTool_le tool
  rw [List.map_id] at tools
  have looked : (anthropicBody model manifest turn.messages).only
      ["system", "messages", "tools"] = .object [
        ("messages", .array (turn.messages.map anthropicMessage)),
        ("system", .string (instructions manifest.prompts)),
        ("tools", .array (manifest.tools.map anthropicTool))] := rfl
  rw [promptBytes_eq, looked]
  simp only [Value.size_array, Value.size_object, Value.size_string,
    membersSize_cons, membersSize_nil, textSize_words]
  omega

theorem promptBytes_responsesBody_le
    {body : Json.Value}
    (isBody : responsesBody model manifest turn.messages = some body) :
    promptBytes ["instructions", "input", "tools"] body ≤
      inputEstimate manifest turn := by
  have estimate := inputEstimate_ge manifest turn
  have items := itemsSize_flatMap_responsesItems_le turn.messages
  obtain ⟨typed, areTyped, written⟩ := Option.bind_eq_some_iff.mp isBody
  have tools := itemsSize_responsesTools_le areTyped
  have looked : body.only ["instructions", "input", "tools"] = .object [
      ("input", .array (turn.messages.flatMap responsesItems)),
      ("instructions", .string (instructions manifest.prompts)),
      ("tools", .array typed)] := by
    cases written
    rfl
  rw [promptBytes_eq, looked]
  simp only [Value.size_array, Value.size_object, Value.size_string,
    membersSize_cons, membersSize_nil, textSize_words]
  omega

end Bodies

/-- A valid registration's responses request is written without a panic. -/
theorem responsesBody_eq_some
    (model : ModelConfig)
    {manifest : Manifest}
    (registered : validateManifest manifest = .ok ())
    (messages : List Message) :
    ∃ body, responsesBody model manifest messages = some body := by
  obtain ⟨typed, areTyped, -⟩ :=
    collect_responsesTools (described_of_validateManifest registered)
  unfold responsesBody
  rw [areTyped]
  exact ⟨_, rfl⟩

/-- For a valid registration the requests of the three formats are written, and
what each of them tells the model is within the estimate of the input, whatever
the turn. -/
theorem promptBytes_le_inputEstimate
    (dollars : Int64 → Json.Value)
    (model : ModelConfig)
    {manifest : Manifest}
    (registered : validateManifest manifest = .ok ())
    (turn : Turn) :
    (∃ body, chatBody dollars model manifest turn.messages = some body ∧
      promptBytes ["messages", "tools"] body ≤
        inputEstimate manifest turn) ∧
    promptBytes ["system", "messages", "tools"]
        (anthropicBody model manifest turn.messages) ≤
      inputEstimate manifest turn ∧
    ∃ body, responsesBody model manifest turn.messages = some body ∧
      promptBytes ["instructions", "input", "tools"] body ≤
        inputEstimate manifest turn := by
  obtain ⟨chat, isChat, -⟩ :=
    chatBody_eq_some dollars model manifest turn.messages
  obtain ⟨responses, isResponses⟩ :=
    responsesBody_eq_some model registered turn.messages
  exact ⟨⟨chat, isChat, promptBytes_chatBody_le isChat⟩,
    promptBytes_anthropicBody_le,
    ⟨responses, isResponses, promptBytes_responsesBody_le isResponses⟩⟩

theorem promptBytes_le_inputEstimate_toolTurn :
    promptBytes ["system", "messages", "tools"]
        (anthropicBody chatModel toolManifest toolTurn.messages) ≤
      inputEstimate toolManifest toolTurn := by
  obtain ⟨-, bounded, -⟩ := promptBytes_le_inputEstimate (fun _ => .null)
    chatModel validateManifest_toolManifest toolTurn
  exact bounded

end AsystantGateway
