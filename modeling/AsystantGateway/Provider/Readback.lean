import AsystantGateway.Library.Json.Size
import AsystantGateway.Provider.ChatStream
import AsystantGateway.Provider.Requests
import AsystantGateway.Service.Registration
import AsystantGateway.Service.Transcript

/-!
# What a request tells a provider

A request is read as its provider reads it: the instructions it is to follow,
the texts with their speakers, the calls it has proposed with their results, and
the tools it may call. The three formats of a request tell the same, and no
message of a client is ever read as an instruction.
-/

namespace AsystantGateway

open Checks

/-- Who says a text. -/
inductive Speaker
  | user
  | assistant

/-- What a provider is told, one utterance at a time. -/
inductive Utterance
  | instruction (text : String)
  | text (speaker : Speaker) (content : String)
  | call (id name : String) (arguments : Json.Value)
  | result (callId content : String)

/-- Whether an utterance stands above the conversation. -/
def Utterance.IsInstruction : Utterance → Prop
  | instruction _ => True
  | text _ _ => False
  | call _ _ _ => False
  | result _ _ => False

/-- A tool that may be called. -/
structure ToolSpec where
  name : String
  description : String
  parameters : Json.Value

/-- What a request tells. -/
structure Briefing where
  utterances : List Utterance
  tools : List ToolSpec

/-- A text, unless it is empty. -/
def Utterance.texts (speaker : Speaker) (content : String) : List Utterance :=
  if content = "" then [] else [.text speaker content]

/-- What a proposed call says. -/
def ToolCall.utterance (call : ToolCall) : Utterance :=
  .call call.id call.name call.arguments

/-- What a message says. -/
def Message.utterances (message : Message) : List Utterance :=
  if message.role = "tool" then
    [.result message.callId message.content]
  else
    let speaker := if message.role = "assistant" then .assistant else .user
    Utterance.texts speaker message.content ++
      message.calls.map ToolCall.utterance

/-- What a registered tool is. -/
def toolSpec (tool : Json.Value) : ToolSpec where
  name := (tool.index "name").asStr.getD ""
  description := (tool.index "description").asStr.getD ""
  parameters := tool.index "parameters"

/-- What a turn of a registered assistant is to tell. -/
def briefing (manifest : Manifest) (messages : List Message) : Briefing where
  utterances := .instruction (instructions manifest.prompts) ::
    messages.flatMap Message.utterances
  tools := manifest.tools.map toolSpec

/-! ## Reading -/

/-- A text under a role. -/
def readText (role content : String) : Option (List Utterance) :=
  if role = "system" ∨ role = "developer" then some [.instruction content]
  else if role = "user" then some (Utterance.texts .user content)
  else if role = "assistant" then some (Utterance.texts .assistant content)
  else none

/-- A tool whose parameters stand under the given name. -/
def readTool
    (parameters : String)
    (tool : Json.Value) : Option (List ToolSpec) := do
  let name ← (tool.index "name").asStr
  let description ← (tool.index "description").asStr
  return [⟨name, description, tool.index parameters⟩]

section Read

variable (runtime : ProviderRuntime)

/-- A proposed call with its arguments as a text. -/
def readCall
    (id name arguments : Json.Value) : Option (List Utterance) := do
  let id ← id.asStr
  let name ← name.asStr
  let text ← arguments.asStr
  let arguments ← runtime.parse text
  return [.call id name arguments]

/-- A call of a chat request. -/
def readChatCall (call : Json.Value) : Option (List Utterance) :=
  readCall runtime (call.index "id") ((call.index "function").index "name")
    ((call.index "function").index "arguments")

/-- A message of a chat request. -/
def readChatMessage (message : Json.Value) : Option (List Utterance) := do
  let role ← (message.index "role").asStr
  let content ← (message.index "content").asStr
  if role = "tool" then
    let callId ← (message.index "tool_call_id").asStr
    return [.result callId content]
  else
    let texts ← readText role content
    let calls ← collect (readChatCall runtime)
      ((message.index "tool_calls").asArray.getD [])
    return texts ++ calls

/-- A chat request. -/
def readChat (body : Json.Value) : Option Briefing := do
  let messages ← (body.index "messages").asArray
  let utterances ← collect (readChatMessage runtime) messages
  let tools ← collect (fun tool => readTool "parameters" (tool.index "function"))
    ((body.index "tools").asArray.getD [])
  return ⟨utterances, tools⟩

/-- A block in a message of a messages request. -/
def readBlock
    (role : String)
    (block : Json.Value) : Option (List Utterance) := do
  let kind ← (block.index "type").asStr
  if kind = "text" then
    let text ← (block.index "text").asStr
    readText role text
  else if kind = "tool_use" then
    let id ← (block.index "id").asStr
    let name ← (block.index "name").asStr
    return [.call id name (block.index "input")]
  else if kind = "tool_result" then
    let callId ← (block.index "tool_use_id").asStr
    let content ← (block.index "content").asStr
    return [.result callId content]
  else
    none

/-- A message of a messages request. -/
def readAnthropicMessage (message : Json.Value) : Option (List Utterance) := do
  let role ← (message.index "role").asStr
  let blocks ← (message.index "content").asArray
  collect (readBlock role) blocks

/-- A messages request. -/
def readAnthropic (body : Json.Value) : Option Briefing := do
  let system ← (body.index "system").asStr
  let messages ← (body.index "messages").asArray
  let utterances ← collect readAnthropicMessage messages
  let tools ← (body.index "tools").asArray
  let specs ← collect (readTool "input_schema") tools
  return ⟨.instruction system :: utterances, specs⟩

/-- An item of a responses request. One without a type is a text. -/
def readItem (item : Json.Value) : Option (List Utterance) :=
  match (item.index "type").asStr with
  | none => do
      let role ← (item.index "role").asStr
      let content ← (item.index "content").asStr
      readText role content
  | some kind =>
      if kind = "function_call" then
        readCall runtime (item.index "call_id") (item.index "name")
          (item.index "arguments")
      else if kind = "function_call_output" then do
        let callId ← (item.index "call_id").asStr
        let content ← (item.index "output").asStr
        return [.result callId content]
      else
        none

/-- A responses request. -/
def readResponses (body : Json.Value) : Option Briefing := do
  let text ← (body.index "instructions").asStr
  let items ← (body.index "input").asArray
  let utterances ← collect (readItem runtime) items
  let tools ← (body.index "tools").asArray
  let specs ← collect (readTool "parameters") tools
  return ⟨.instruction text :: utterances, specs⟩

end Read

section Messages

variable
  {runtime : ProviderRuntime}
  {message : Message}

/-- The roles of a valid turn. -/
def Message.HasRole (message : Message) : Prop :=
  message.role = "user" ∨ message.role = "assistant" ∨ message.role = "tool"

/-- The arguments of the calls of a message can be read back. -/
def Message.ReadsBack (runtime : ProviderRuntime) (message : Message) : Prop :=
  ∀ call ∈ message.calls,
    runtime.parse call.arguments.compact = some call.arguments

/-- A text of a message that is no result is read with its speaker. -/
theorem readText_role
    (hasRole : message.HasRole)
    (noResult : message.role ≠ "tool")
    (content : String) :
    readText message.role content = some (Utterance.texts
      (if message.role = "assistant" then .assistant else .user) content) := by
  rcases hasRole with isUser | isAssistant | isResult
  · rw [isUser]
    rfl
  · rw [isAssistant]
    rfl
  · exact absurd isResult noResult

theorem collect_calls
    {read : Json.Value → Option (List Utterance)}
    {write : ToolCall → Json.Value}
    (reads : ∀ call ∈ message.calls,
      read (write call) = some [call.utterance]) :
    collect read (message.calls.map write) =
      some (message.calls.map ToolCall.utterance) := by
  rw [List.map_eq_flatMap (f := ToolCall.utterance)]
  exact collect_map reads

/-- A text, unless it is empty, and the calls that follow it are read back. -/
theorem collect_text_calls
    {speaker : Speaker}
    {content : String}
    {text : Json.Value}
    {read : Json.Value → Option (List Utterance)}
    {write : ToolCall → Json.Value}
    (readsText : read text = some (Utterance.texts speaker content))
    (reads : ∀ call ∈ message.calls,
      read (write call) = some [call.utterance]) :
    collect read ((if content ≠ "" then [text] else []) ++
        message.calls.map write) =
      some (Utterance.texts speaker content ++
        message.calls.map ToolCall.utterance) := by
  refine collect_append_eq_some ?_ (collect_calls reads)
  by_cases isEmpty : content = ""
  · rw [if_neg (not_not.mpr isEmpty), isEmpty]
    rfl
  · rw [if_pos isEmpty]
    exact collect_singleton_eq_some readsText

theorem readChatCall_chatValue
    (readsBack : message.ReadsBack runtime) :
    ∀ call ∈ message.calls,
      readChatCall runtime call.chatValue = some [call.utterance] := by
  intro call isCall
  have parsed := readsBack call isCall
  change (runtime.parse call.arguments.compact).bind _ = _
  rw [parsed]
  rfl

theorem readChatMessage_chatValue
    (hasRole : message.HasRole)
    (readsBack : message.ReadsBack runtime) :
    readChatMessage runtime message.chatValue = some message.utterances := by
  have isRole : (message.chatValue.index "role").asStr = some message.role :=
    rfl
  have isContent : (message.chatValue.index "content").asStr =
      some message.content := rfl
  unfold readChatMessage Message.utterances
  rw [isRole, isContent]
  by_cases isResult : message.role = "tool"
  · have isCallId : (message.chatValue.index "tool_call_id").asStr =
        some message.callId := by
      unfold Message.chatValue
      rw [if_pos isResult]
      rfl
    rw [isCallId]
    simp [isResult]
  · have calls : (message.chatValue.index "tool_calls").asArray.getD [] =
        message.calls.map ToolCall.chatValue := by
      unfold Message.chatValue
      rw [if_neg isResult]
      by_cases proposes : message.calls ≠ []
      · rw [if_pos proposes]
        rfl
      · rw [if_neg proposes, not_not.mp proposes]
        rfl
    have said := collect_calls (readChatCall_chatValue readsBack)
    rw [calls, said]
    have texts := readText_role hasRole isResult message.content
    simp [isResult, texts]

theorem readAnthropicMessage_anthropicMessage
    (hasRole : message.HasRole) :
    readAnthropicMessage (anthropicMessage message) =
      some message.utterances := by
  unfold anthropicMessage Message.utterances
  by_cases isResult : message.role = "tool"
  · rw [if_pos isResult, if_pos isResult]
    rfl
  · rw [if_neg isResult, if_neg isResult]
    have texts := readText_role hasRole isResult message.content
    change collect (readBlock message.role) _ = _
    apply collect_text_calls
    · exact texts
    · intro call _
      rfl

theorem collect_responsesItems
    (hasRole : message.HasRole)
    (readsBack : message.ReadsBack runtime) :
    collect (readItem runtime) (responsesItems message) =
      some message.utterances := by
  unfold responsesItems Message.utterances
  by_cases isResult : message.role = "tool"
  · rw [if_pos isResult, if_pos isResult]
    rfl
  · rw [if_neg isResult, if_neg isResult]
    have texts := readText_role hasRole isResult message.content
    apply collect_text_calls
    · exact texts
    · intro call isCall
      have parsed := readsBack call isCall
      change (runtime.parse call.arguments.compact).bind _ = _
      rw [parsed]
      rfl

end Messages

/-- A tool with the texts that a registration asks for. -/
structure Described (tool : Json.Value) : Prop where
  name : ∃ name, (tool.index "name").asStr = some name
  description : ∃ description, (tool.index "description").asStr =
    some description

theorem described_of_checkTool
    {names after : List String}
    {tool : Json.Value}
    (checked : checkTool names tool = .ok after) :
    Described tool := by
  unfold checkTool at checked
  split at checked
  · cases checked
  case h_2 name isName =>
    split at checked
    · cases checked
    case isFalse passes =>
      push Not at passes
      exact ⟨⟨name, isName⟩, Option.ne_none_iff_exists'.mp passes.2.2.2.2.1⟩

/-- The tools of a valid manifest are described. -/
theorem described_of_validateManifest
    {manifest : Manifest}
    (valid : validateManifest manifest = .ok ()) :
    ∀ tool ∈ manifest.tools, Described tool := by
  have each : ∀ (tools : List Json.Value) (names after : List String),
      tools.foldlM checkTool names = .ok after →
        ∀ tool ∈ tools, Described tool := by
    intro tools
    induction tools with
    | nil =>
        intro names after _ tool impossible
        cases impossible
    | cons tool rest inductionHypothesis =>
        intro names after checked
        rw [List.foldlM_cons, bind_eq_ok_iff] at checked
        obtain ⟨middle, checkedTool, checkedRest⟩ := checked
        exact List.forall_mem_cons.mpr ⟨described_of_checkTool checkedTool,
          inductionHypothesis middle after checkedRest⟩
  unfold validateManifest at valid
  split at valid
  · cases valid
  · obtain ⟨names, checked, _⟩ := bind_eq_ok_iff.mp valid
    exact each manifest.tools [] names checked

section Tools

variable
  {tool shown : Json.Value}
  {parameters : String}

/-- A tool is read where its name, its description and its parameters are
shown. -/
theorem readTool_eq_some
    (described : Described tool)
    (name : shown.index "name" = tool.index "name")
    (description : shown.index "description" = tool.index "description")
    (isParameters : shown.index parameters = tool.index "parameters") :
    readTool parameters shown = some [toolSpec tool] := by
  obtain ⟨⟨nameText, isName⟩, ⟨descriptionText, isDescription⟩⟩ := described
  unfold readTool toolSpec
  rw [name, description, isParameters, isName, isDescription]
  rfl

/-- A described tool is an object, so that its type can be assigned. -/
theorem readTool_responsesTool
    (described : Described tool) :
    ∃ typed, responsesTool tool = some typed ∧
      readTool "parameters" typed = some [toolSpec tool] := by
  obtain ⟨name, isName⟩ := described.name
  cases tool with
  | object members =>
      refine ⟨_, rfl, readTool_eq_some described ?_ ?_ ?_⟩
      · exact Json.Value.index_assignMember_of_ne _ _ _ (by decide)
      · exact Json.Value.index_assignMember_of_ne _ _ _ (by decide)
      · exact Json.Value.index_assignMember_of_ne _ _ _ (by decide)
  | null => cases isName
  | bool _ => cases isName
  | number _ => cases isName
  | string _ => cases isName
  | array _ => cases isName

theorem collect_responsesTools
    {tools : List Json.Value}
    (described : ∀ tool ∈ tools, Described tool) :
    ∃ typed, tools.mapM responsesTool = some typed ∧
      collect (readTool "parameters") typed = some (tools.map toolSpec) := by
  induction tools with
  | nil => exact ⟨[], rfl, rfl⟩
  | cons tool rest inductionHypothesis =>
      have ⟨isDescribed, restDescribed⟩ := List.forall_mem_cons.mp described
      obtain ⟨typed, isTyped, read⟩ := readTool_responsesTool isDescribed
      obtain ⟨others, areOthers, readOthers⟩ :=
        inductionHypothesis restDescribed
      refine ⟨typed :: others, ?_, collect_cons_eq_some read readOthers⟩
      rw [List.mapM_cons, isTyped, areOthers]
      rfl

/-- Tools are read where each of them is shown. -/
theorem collect_tools
    {read : Json.Value → Option (List ToolSpec)}
    {write : Json.Value → Json.Value}
    {tools : List Json.Value}
    (reads : ∀ tool ∈ tools, read (write tool) = some [toolSpec tool]) :
    collect read (tools.map write) = some (tools.map toolSpec) := by
  rw [List.map_eq_flatMap (f := toolSpec)]
  exact collect_map reads

end Tools

/-- The text of the instructions begins with the baseline. -/
theorem securityPrompt_le_instructions (prompts : List String) :
    securityPrompt.toList <+: (instructions prompts).toList := by
  unfold instructions
  generalize prompts.filter (fun text => text ≠ securityPrompt) = others
  cases others with
  | nil =>
      rw [String.intercalate_singleton]
  | cons other rest =>
      rw [String.intercalate_cons_cons, String.toList_append,
        String.toList_append, List.append_assoc]
      exact List.prefix_append _ _

/-- The price is assigned without touching the messages and the tools. -/
theorem assign_provider
    (dollars : Int64 → Json.Value)
    (model : ModelConfig)
    (members : List (String × Json.Value)) :
    ∃ body,
      (if model.provider = .openrouter then
        (Json.Value.object members).assign "provider" (maxPrice dollars model)
      else
        some (.object members)) = some body ∧
        body.index "messages" = (Json.Value.object members).index "messages" ∧
        body.index "tools" = (Json.Value.object members).index "tools" := by
  split
  · refine ⟨_, rfl, ?_, ?_⟩
    · exact Json.Value.index_assignMember_of_ne _ _ _ (by decide)
    · exact Json.Value.index_assignMember_of_ne _ _ _ (by decide)
  · exact ⟨_, rfl, rfl, rfl⟩

/-- The assignments of a chat request succeed, and leave its messages and its
tools. -/
theorem chatBody_eq_some
    (dollars : Int64 → Json.Value)
    (model : ModelConfig)
    (manifest : Manifest)
    (messages : List Message) :
    ∃ body, chatBody dollars model manifest messages = some body ∧
      body.index "messages" = .array (openaiMessages manifest messages) ∧
      (body.index "tools").asArray.getD [] = manifest.tools.map chatTool := by
  unfold chatBody
  dsimp only
  rw [Json.Value.assign_object, Option.bind_eq_bind, Option.bind_some]
  generalize isLimit : (if model.provider = .openai then
    "max_completion_tokens" else "max_tokens") = limit
  have noMessages : "messages" ≠ limit := by
    rw [← isLimit]
    split <;> decide
  have noToolsKey : "tools" ≠ limit := by
    rw [← isLimit]
    split <;> decide
  split
  · rename_i noTools
    obtain ⟨body, isBody, messagesShown, toolsShown⟩ :=
      assign_provider dollars model _
    refine ⟨body, isBody, ?_, ?_⟩
    · rw [messagesShown, Json.Value.index_assignMember_of_ne _ _ _ noMessages]
      rfl
    · rw [toolsShown, Json.Value.index_assignMember_of_ne _ _ _ noToolsKey,
        List.isEmpty_iff.mp noTools]
      rfl
  · rw [Json.Value.assign_object, Option.bind_some]
    obtain ⟨body, isBody, messagesShown, toolsShown⟩ :=
      assign_provider dollars model _
    refine ⟨body, isBody, ?_, ?_⟩
    · rw [messagesShown,
        Json.Value.index_assignMember_of_ne _ _ _ (by decide),
        Json.Value.index_assignMember_of_ne _ _ _ noMessages]
      rfl
    · rw [toolsShown, Json.Value.index_assignMember_self]
      rfl

/-! ## The formats agree -/

section Agree

variable
  {runtime : ProviderRuntime}
  {manifest : Manifest}
  {messages : List Message}

/-- What every reader needs of a registration and a turn. -/
structure Tellable
    (runtime : ProviderRuntime)
    (manifest : Manifest)
    (messages : List Message) : Prop where
  described : ∀ tool ∈ manifest.tools, Described tool
  hasRole : ∀ message ∈ messages, message.HasRole
  readsBack : ∀ message ∈ messages, message.ReadsBack runtime

/-- A chat request tells what is to be told. -/
theorem Tellable.chat
    (tellable : Tellable runtime manifest messages)
    (dollars : Int64 → Json.Value)
    (model : ModelConfig) :
    (chatBody dollars model manifest messages).bind (readChat runtime) =
      some (briefing manifest messages) := by
  obtain ⟨body, isBody, areMessages, areTools⟩ :=
    chatBody_eq_some dollars model manifest messages
  have system : readChatMessage runtime (.object [
      ("content", .string (instructions manifest.prompts)),
      ("role", .string "system")]) =
        some [.instruction (instructions manifest.prompts)] := rfl
  have conversation : collect (readChatMessage runtime)
      (messages.map Message.chatValue) =
        some (messages.flatMap Message.utterances) :=
    collect_map fun message isMessage => readChatMessage_chatValue
      (tellable.hasRole message isMessage)
      (tellable.readsBack message isMessage)
  have tools : collect
      (fun tool => readTool "parameters" (tool.index "function"))
      (manifest.tools.map chatTool) = some (manifest.tools.map toolSpec) :=
    collect_tools fun tool isTool =>
      readTool_eq_some (tellable.described tool isTool) rfl rfl rfl
  rw [isBody, Option.bind_some]
  unfold readChat
  rw [areMessages, areTools, tools]
  change (collect (readChatMessage runtime)
    (openaiMessages manifest messages)).bind _ = _
  rw [openaiMessages, collect_cons_eq_some system conversation]
  rfl

/-- A messages request tells it. -/
theorem Tellable.anthropic
    (tellable : Tellable runtime manifest messages)
    (model : ModelConfig) :
    readAnthropic (anthropicBody model manifest messages) =
      some (briefing manifest messages) := by
  have conversation : collect readAnthropicMessage
      (messages.map anthropicMessage) =
        some (messages.flatMap Message.utterances) :=
    collect_map fun message isMessage =>
      readAnthropicMessage_anthropicMessage (tellable.hasRole message isMessage)
  have tools : collect (readTool "input_schema")
      (manifest.tools.map anthropicTool) =
        some (manifest.tools.map toolSpec) :=
    collect_tools fun tool isTool =>
      readTool_eq_some (tellable.described tool isTool) rfl rfl rfl
  change (collect readAnthropicMessage
    (messages.map anthropicMessage)).bind _ = _
  rw [conversation, Option.bind_some]
  change (collect (readTool "input_schema")
    (manifest.tools.map anthropicTool)).bind _ = _
  rw [tools]
  rfl

/-- A responses request tells it. -/
theorem Tellable.responses
    (tellable : Tellable runtime manifest messages)
    (model : ModelConfig) :
    (responsesBody model manifest messages).bind (readResponses runtime) =
      some (briefing manifest messages) := by
  obtain ⟨typed, areTyped, tools⟩ := collect_responsesTools tellable.described
  have conversation : collect (readItem runtime)
      (messages.flatMap responsesItems) =
        some (messages.flatMap Message.utterances) :=
    collect_flatMap fun message isMessage => collect_responsesItems
      (tellable.hasRole message isMessage)
      (tellable.readsBack message isMessage)
  unfold responsesBody
  rw [areTyped]
  change (collect (readItem runtime)
    (messages.flatMap responsesItems)).bind _ = _
  rw [conversation, Option.bind_some]
  change (collect (readTool "parameters") typed).bind _ = _
  rw [tools]
  rfl

end Agree

/-- No message of a client says an instruction. -/
theorem Message.not_isInstruction
    (message : Message) :
    ∀ utterance ∈ message.utterances, ¬ utterance.IsInstruction := by
  intro utterance isSaid
  unfold Message.utterances at isSaid
  split at isSaid
  · rw [List.mem_singleton.mp isSaid]
    exact not_false
  · rcases List.mem_append.mp isSaid with isText | isCall
    · unfold Utterance.texts at isText
      split at isText
      · cases isText
      · rw [List.mem_singleton.mp isText]
        exact not_false
    · obtain ⟨call, _, isCall⟩ := List.mem_map.mp isCall
      rw [← isCall]
      exact not_false

/-- The roles of an accepted turn. -/
theorem hasRole_of_validateTurn
    {turn : Turn}
    (accepted : validateTurn turn = .ok ()) :
    ∀ message ∈ turn.messages, message.HasRole := by
  have paired := (validateTurn_eq_ok_iff.mp accepted).2.2
  rw [checkMessages_iff, completes_nil_iff] at paired
  exact fun message isMessage => paired.role isMessage

/-- For a valid registration and a valid turn the three formats are written
without a panic and tell the same: the one instruction, which begins with the
baseline, the conversation of the turn, and the registered tools. -/
theorem formats_agree
    (runtime : ProviderRuntime)
    (dollars : Int64 → Json.Value)
    (model : ModelConfig)
    (manifest : Manifest)
    (turn : Turn)
    (registered : validateManifest manifest = .ok ())
    (accepted : validateTurn turn = .ok ())
    (readsBack : ∀ message ∈ turn.messages, ∀ call ∈ message.calls,
      runtime.parse call.arguments.compact = some call.arguments) :
    (chatBody dollars model manifest turn.messages).bind (readChat runtime) =
        some (briefing manifest turn.messages) ∧
      readAnthropic (anthropicBody model manifest turn.messages) =
        some (briefing manifest turn.messages) ∧
      (responsesBody model manifest turn.messages).bind
          (readResponses runtime) =
        some (briefing manifest turn.messages) ∧
      (∀ message ∈ turn.messages,
        message.openaiValue = some message.chatValue) ∧
      (∀ utterance ∈ turn.messages.flatMap Message.utterances,
        ¬ utterance.IsInstruction) ∧
      securityPrompt.toList <+: (instructions manifest.prompts).toList := by
  have tellable : Tellable runtime manifest turn.messages :=
    ⟨described_of_validateManifest registered,
      hasRole_of_validateTurn accepted, readsBack⟩
  refine ⟨tellable.chat dollars model, tellable.anthropic model,
    tellable.responses model, ?_, ?_,
    securityPrompt_le_instructions manifest.prompts⟩
  · intro message _
    exact message.openaiValue_eq
  · intro utterance isSaid
    obtain ⟨message, _, isSaid⟩ := List.mem_flatMap.mp isSaid
    exact message.not_isInstruction utterance isSaid

/-! ## A turn with a call and its result -/

/-- A registration with one tool. -/
def toolManifest : Manifest where
  tools := [.object [
    ("description", .string "Look up"),
    ("name", .string "look_up"),
    ("parameters", .object [("type", .string "object")])]]
  prompts := ["Be brief"]
  models := ["m"]

/-- The registration with one tool is accepted. -/
theorem validateManifest_toolManifest :
    validateManifest toolManifest = .ok () := by
  have small : toolManifest.text.utf8ByteSize ≤ 64000 := by
    rw [Manifest.text, Json.Value.utf8ByteSize_compact]
    decide +kernel
  unfold validateManifest
  rw [if_neg (not_or.mpr ⟨by decide, not_or.mpr ⟨by decide,
    not_or.mpr ⟨by decide, Nat.not_lt.mpr small⟩⟩⟩)]
  decide +kernel

/-- A question, a call without a text, and its result. -/
def toolTurn : Turn where
  registrationId := "assistant"
  requestId := "request"
  model := "m"
  messages := [
    { role := "user", content := "Hello", calls := [], callId := "" },
    { role := "assistant", content := "",
      calls := [{ id := "c", name := "look_up", arguments := .object [] }],
      callId := "" },
    { role := "tool", content := "Found", calls := [], callId := "c" }]

/-- A runtime that reads the text of an empty object. -/
def objectRuntime : ProviderRuntime where
  parse text := if text = "\x7b\x7d" then some (.object []) else none
  costMicros _ := none

theorem formats_agree_toolTurn :
    readAnthropic (anthropicBody chatModel toolManifest toolTurn.messages) =
        some (briefing toolManifest toolTurn.messages) ∧
      (chatBody (fun _ => .null) chatModel toolManifest
          toolTurn.messages).bind (readChat objectRuntime) =
        some (briefing toolManifest toolTurn.messages) := by
  have accepted : validateTurn toolTurn = .ok () := by
    decide +kernel
  have readsBack : ∀ message ∈ toolTurn.messages, ∀ call ∈ message.calls,
      objectRuntime.parse call.arguments.compact = some call.arguments := by
    intro message isMessage call isCall
    have isObject : call.arguments = .object [] := by
      simp only [toolTurn, List.mem_cons, List.not_mem_nil, or_false]
        at isMessage
      rcases isMessage with rfl | rfl | rfl
      · cases isCall
      · rw [List.mem_singleton.mp isCall]
      · cases isCall
    rw [isObject]
    rfl
  have agree := formats_agree objectRuntime (fun _ => .null) chatModel
    toolManifest toolTurn validateManifest_toolManifest accepted readsBack
  exact ⟨agree.2.1, agree.1⟩

end AsystantGateway
