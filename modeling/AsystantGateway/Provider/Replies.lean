import AsystantGateway.Library.Checks
import AsystantGateway.Provider.Acceptance

/-!
# Answers in three formats

A chat answer is streamed. An answer in one of the other formats is one JSON
value, whose parts are read in a loop that collects the text and the calls. The
loop stops at a part that lacks what its type calls for and skips the types that
it does not know.
-/

namespace AsystantGateway

/-- What a provider replies. A chunk is missing when the connection fails. -/
structure Reply where
  success : Bool
  chunks : List (Option (List UInt8))

/-- What is not there is the provider's error. -/
def orProvider {α : Type} : Option α → Except AppError α
  | some value => .ok value
  | none => .error .provider

@[simp] theorem orProvider_eq_ok_iff
    {α : Type}
    {found : Option α}
    {value : α} :
    orProvider found = .ok value ↔ found = some value := by
  cases found with
  | none => exact iff_of_false (nomatch ·) (nomatch ·)
  | some other =>
      unfold orProvider
      rw [Except.ok.injEq, Option.some.injEq]

/-- The most bytes that are read of an answer that is not streamed. -/
def maxBodyBytes : Nat := 2000000

/-- Read one more chunk. -/
def readChunk
    (bytes : List UInt8)
    (chunk : Option (List UInt8)) : Except AppError (List UInt8) := do
  let chunk ← orProvider chunk
  if bytes.length + chunk.length > maxBodyBytes then .error .provider
  else .ok (bytes ++ chunk)

/-- Read an answer to its end. -/
def readBounded
    (chunks : List (Option (List UInt8))) : Except AppError (List UInt8) :=
  chunks.foldlM readChunk []

/-- Read the JSON text of an answer. -/
def readValue
    (runtime : ProviderRuntime)
    (bytes : List UInt8) : Except AppError Json.Value :=
  orProvider ((String.fromUTF8? ⟨bytes.toArray⟩).bind runtime.parse)

/-- The text and the calls that are collected. -/
structure Collected where
  text : String
  calls : List ToolCall

namespace Collected

/-- Nothing is collected yet. -/
def empty : Collected := ⟨"", []⟩

/-- What is collected first, and then. -/
def append (first second : Collected) : Collected :=
  ⟨first.text ++ second.text, first.calls ++ second.calls⟩

/-- What is collected one after the other. -/
def join (pieces : List Collected) : Collected :=
  ⟨String.join (pieces.map text), pieces.flatMap calls⟩

/-- The message with what is collected. -/
def message (collected : Collected) : Message where
  role := "assistant"
  content := collected.text
  calls := collected.calls
  callId := ""

@[simp] theorem append_empty (collected : Collected) :
    collected.append empty = collected := by
  unfold append empty
  rw [String.append_empty, List.append_nil]

theorem foldl_append (pieces : List Collected) (start : Collected) :
    pieces.foldl append start = start.append (join pieces) := by
  induction pieces generalizing start with
  | nil => exact start.append_empty.symm
  | cons piece rest inductionHypothesis =>
      rw [List.foldl_cons, inductionHypothesis]
      unfold join append
      rw [List.map_cons, String.join_cons, List.flatMap_cons,
        String.append_assoc, List.append_assoc]

theorem foldl_append_empty (pieces : List Collected) :
    pieces.foldl append empty = join pieces := by
  rw [foldl_append]
  unfold append empty
  rw [String.empty_append, List.nil_append]

end Collected

/-- The message with what is collected of the parts, and the charge. -/
def collectReply
    (add : Collected → Json.Value → Except AppError Collected)
    (parts : Option (List Json.Value))
    (charge : Option Int64) : Except AppError (Message × Int64) := do
  let parts ← orProvider parts
  let collected ← parts.foldlM add .empty
  let charge ← orProvider charge
  return (collected.message, charge)

/-- Collect a part of the content. -/
def addPart
    (collected : Collected)
    (part : Json.Value) : Except AppError Collected := do
  if (part.index "type").asStr = some "text" then
    let text ← orProvider (part.index "text").asStr
    return { collected with text := collected.text ++ text }
  else if (part.index "type").asStr = some "tool_use" then
    let id ← orProvider (part.index "id").asStr
    let name ← orProvider (part.index "name").asStr
    let call := { id, name, arguments := part.index "input" }
    return { collected with calls := collected.calls ++ [call] }
  else
    return collected

/-- The message and the charge of an answer in the messages format. -/
def anthropicReply
    (runtime : ProviderRuntime)
    (model : ModelConfig)
    (value : Json.Value) : Except AppError (Message × Int64) :=
  let reason := (value.index "stop_reason").asStr
  if reason ≠ some "end_turn" ∧ reason ≠ some "tool_use" then
    .error .provider
  else
    collectReply addPart (value.index "content").asArray
      (usageCharge runtime model (value.index "usage"))

/-- The text of a part. -/
def partText (part : Json.Value) : Option String :=
  (part.index "text").asStr

/-- Append the text of a part, if it has one. -/
def addPartText (text : String) (part : Json.Value) : String :=
  match partText part with
  | some more => text ++ more
  | none => text

/-- Collect an item of the output. -/
def addItem
    (runtime : ProviderRuntime)
    (collected : Collected)
    (item : Json.Value) : Except AppError Collected := do
  if (item.index "type").asStr = some "message" then
    let parts ← orProvider (item.index "content").asArray
    return { collected with text := parts.foldl addPartText collected.text }
  else if (item.index "type").asStr = some "function_call" then
    let id ← orProvider (item.index "call_id").asStr
    let name ← orProvider (item.index "name").asStr
    let text ← orProvider (item.index "arguments").asStr
    let arguments ← orProvider (runtime.parse text)
    let call := { id, name, arguments }
    return { collected with calls := collected.calls ++ [call] }
  else
    return collected

/-- The message and the charge of an answer in the responses format. -/
def responsesReply
    (runtime : ProviderRuntime)
    (model : ModelConfig)
    (value : Json.Value) : Except AppError (Message × Int64) :=
  if (value.index "status").asStr ≠ some "completed" then
    .error .provider
  else
    collectReply (addItem runtime) (value.index "output").asArray
      (usageCharge runtime model (value.index "usage"))

/-- Where chat completions are requested. -/
def Provider.chatUrl : Provider → Option String
  | .openrouter => some "https://openrouter.ai/api/v1/chat/completions"
  | .openai => some "https://api.openai.com/v1/chat/completions"
  | .gemini => some ("https://generativelanguage.googleapis.com" ++
      "/v1beta/openai/chat/completions")
  | .opencodeZen => some "https://opencode.ai/zen/v1/chat/completions"
  | .opencodeGo => some "https://opencode.ai/zen/go/v1/chat/completions"
  | .anthropic => none

/-- Where messages are requested. -/
def Provider.messagesUrl : Provider → Option String
  | .anthropic => some "https://api.anthropic.com/v1/messages"
  | .opencodeZen => some "https://opencode.ai/zen/v1/messages"
  | .opencodeGo => some "https://opencode.ai/zen/go/v1/messages"
  | _ => none

/-- Where responses are requested. -/
def Provider.responsesUrl : Provider → Option String
  | .openai => some "https://api.openai.com/v1/responses"
  | .opencodeZen => some "https://opencode.ai/zen/v1/responses"
  | .opencodeGo => some "https://opencode.ai/zen/go/v1/responses"
  | _ => none

namespace ModelConfig

/-- The format that a model is spoken to in. -/
def format (model : ModelConfig) : WireApi :=
  if model.provider = .anthropic ∨ model.wireApi = .messages then .messages
  else if model.wireApi = .responses then .responses
  else .chatCompletions

/-- Where a model's answers are requested. -/
def url (model : ModelConfig) : Option String :=
  match model.format with
  | .chatCompletions => model.provider.chatUrl
  | .messages => model.provider.messagesUrl
  | .responses => model.provider.responsesUrl

end ModelConfig

/-- The result of a reply, by the format of the model. -/
def readReply
    (runtime : ProviderRuntime)
    (model : ModelConfig)
    (reply : Reply) : Except AppError (Message × Int64) :=
  if ¬ reply.success then
    .error .provider
  else
    match model.format with
    | .chatCompletions => do
        let chunks ← reply.chunks.mapM orProvider
        (inferChat runtime model chunks).1
    | .messages => do
        let bytes ← readBounded reply.chunks
        let value ← readValue runtime bytes
        anthropicReply runtime model value
    | .responses => do
        let bytes ← readBounded reply.chunks
        let value ← readValue runtime bytes
        responsesReply runtime model value

/-- The result of an inference. The key of the model is looked up first, and
there is no reply when the request cannot be sent. -/
def infer
    (environment : String → Option String)
    (runtime : ProviderRuntime)
    (model : ModelConfig)
    (reply : Option Reply) : Except AppError (Message × Int64) :=
  if (environment model.keyEnv).isNone then .error .internal
  else if model.url.isNone then .error .invalid
  else do
    let reply ← orProvider reply
    readReply runtime model reply

/-! ## What is read -/

/-- The bytes of a reply that arrives whole. -/
def Reply.Delivers (reply : Reply) (bytes : List UInt8) : Prop :=
  ∃ chunks : List (List UInt8),
    reply.chunks = chunks.map some ∧ chunks.flatten = bytes

theorem mapM_orProvider_eq_ok_iff
    {α : Type}
    {found : List (Option α)}
    {values : List α} :
    found.mapM orProvider = .ok values ↔ found = values.map some := by
  rw [Checks.mapM_eq_ok_iff]
  simp only [orProvider_eq_ok_iff]
  constructor
  · intro same
    induction same with
    | nil => rfl
    | cons isFirst _ isRest => rw [isFirst, isRest, List.map_cons]
  · rintro rfl
    apply List.forall₂_map_left_iff.mpr
    exact List.forall₂_same.mpr fun _ _ => rfl

theorem readChunk_eq_ok_iff
    {bytes more : List UInt8}
    {chunk : Option (List UInt8)} :
    readChunk bytes chunk = .ok more ↔
      ∃ arrived, chunk = some arrived ∧ bytes ++ arrived = more ∧
        more.length ≤ maxBodyBytes := by
  unfold readChunk
  rw [Checks.bind_eq_ok_iff]
  apply exists_congr
  intro arrived
  rw [orProvider_eq_ok_iff, and_congr_right_iff]
  rintro -
  by_cases large : bytes.length + arrived.length > maxBodyBytes
  · rw [if_pos large]
    refine iff_of_false (nomatch ·) ?_
    rintro ⟨rfl, small⟩
    rw [List.length_append] at small
    omega
  · rw [if_neg large, Except.ok.injEq, iff_self_and]
    rintro rfl
    rw [List.length_append]
    omega

theorem readChunks_eq_ok_iff
    {chunks : List (Option (List UInt8))}
    {start bytes : List UInt8}
    (small : start.length ≤ maxBodyBytes) :
    chunks.foldlM readChunk start = .ok bytes ↔
      ∃ arrived : List (List UInt8), chunks = arrived.map some ∧
        start ++ arrived.flatten = bytes ∧ bytes.length ≤ maxBodyBytes := by
  induction chunks generalizing start with
  | nil =>
      constructor
      · intro isStart
        cases isStart
        exact ⟨[], rfl, List.append_nil _, small⟩
      · rintro ⟨arrived, isNil, rfl, -⟩
        obtain rfl := List.map_eq_nil_iff.mp isNil.symm
        rw [List.flatten_nil, List.append_nil]
        rfl
  | cons chunk rest inductionHypothesis =>
      rw [List.foldlM_cons, Checks.bind_eq_ok_iff]
      constructor
      · rintro ⟨middle, isMiddle, others⟩
        obtain ⟨first, rfl, rfl, fits⟩ := readChunk_eq_ok_iff.mp isMiddle
        obtain ⟨arrived, rfl, rfl, isSmall⟩ :=
          (inductionHypothesis fits).mp others
        refine ⟨first :: arrived, rfl, ?_, isSmall⟩
        rw [List.flatten_cons, List.append_assoc]
      · rintro ⟨arrived, isArrived, rfl, isSmall⟩
        cases arrived with
        | nil => cases isArrived
        | cons first others =>
            cases isArrived
            have fits : (start ++ first).length ≤ maxBodyBytes := by
              rw [List.flatten_cons, ← List.append_assoc,
                List.length_append] at isSmall
              omega
            refine ⟨start ++ first,
              readChunk_eq_ok_iff.mpr ⟨first, rfl, rfl, fits⟩, ?_⟩
            apply (inductionHypothesis fits).mpr
            refine ⟨others, rfl, ?_, isSmall⟩
            rw [List.flatten_cons, List.append_assoc]

/-- What is read of a reply does not depend on how it is cut. -/
theorem readBounded_eq_ok_iff
    {reply : Reply}
    {bytes : List UInt8} :
    readBounded reply.chunks = .ok bytes ↔
      reply.Delivers bytes ∧ bytes.length ≤ maxBodyBytes := by
  unfold readBounded
  rw [readChunks_eq_ok_iff (Nat.zero_le _)]
  constructor
  · rintro ⟨arrived, isArrived, isBytes, small⟩
    exact ⟨⟨arrived, isArrived, isBytes⟩, small⟩
  · rintro ⟨⟨arrived, isArrived, isBytes⟩, small⟩
    exact ⟨arrived, isArrived, isBytes, small⟩

/-- Bytes that are the text of a JSON value. -/
def IsJson
    (runtime : ProviderRuntime)
    (bytes : List UInt8)
    (value : Json.Value) : Prop :=
  ∃ text, String.fromUTF8? ⟨bytes.toArray⟩ = some text ∧
    runtime.parse text = some value

theorem readValue_eq_ok_iff
    {runtime : ProviderRuntime}
    {bytes : List UInt8}
    {value : Json.Value} :
    readValue runtime bytes = .ok value ↔ IsJson runtime bytes value := by
  unfold readValue
  rw [orProvider_eq_ok_iff, Option.bind_eq_some_iff]
  rfl

/-- What a part of the content adds. -/
inductive AnthropicSays (part : Json.Value) : Collected → Prop
  | text
      {text : String}
      (isText : (part.index "type").asStr = some "text")
      (hasText : (part.index "text").asStr = some text) :
      AnthropicSays part ⟨text, []⟩
  | toolUse
      {id name : String}
      (isToolUse : (part.index "type").asStr = some "tool_use")
      (hasId : (part.index "id").asStr = some id)
      (hasName : (part.index "name").asStr = some name) :
      AnthropicSays part ⟨"", [⟨id, name, part.index "input"⟩]⟩
  | other
      (notText : (part.index "type").asStr ≠ some "text")
      (notToolUse : (part.index "type").asStr ≠ some "tool_use") :
      AnthropicSays part .empty

/-- What an item of the output adds. -/
inductive ResponsesSays
    (runtime : ProviderRuntime)
    (item : Json.Value) : Collected → Prop
  | message
      {parts : List Json.Value}
      (isMessage : (item.index "type").asStr = some "message")
      (hasParts : (item.index "content").asArray = some parts) :
      ResponsesSays runtime item
        ⟨String.join (parts.filterMap partText), []⟩
  | call
      {id name text : String}
      {arguments : Json.Value}
      (isCall : (item.index "type").asStr = some "function_call")
      (hasId : (item.index "call_id").asStr = some id)
      (hasName : (item.index "name").asStr = some name)
      (hasText : (item.index "arguments").asStr = some text)
      (reads : runtime.parse text = some arguments) :
      ResponsesSays runtime item ⟨"", [⟨id, name, arguments⟩]⟩
  | other
      (notMessage : (item.index "type").asStr ≠ some "message")
      (notCall : (item.index "type").asStr ≠ some "function_call") :
      ResponsesSays runtime item .empty

/-- The loop adds what a part says. -/
theorem AnthropicSays.addPart_eq
    {part : Json.Value}
    {piece : Collected}
    (isPiece : AnthropicSays part piece)
    (collected : Collected) :
    addPart collected part = .ok (collected.append piece) := by
  unfold addPart
  cases isPiece with
  | text isText hasText =>
      rw [if_pos isText, hasText]
      unfold Collected.append
      rw [List.append_nil]
      rfl
  | toolUse isToolUse hasId hasName =>
      rw [isToolUse, if_neg (by decide), if_pos rfl, hasId, hasName]
      unfold Collected.append
      rw [String.append_empty]
      rfl
  | other notText notToolUse =>
      rw [if_neg notText, if_neg notToolUse, Collected.append_empty]
      rfl

/-- The loop goes on after a part that says something. -/
theorem exists_anthropicSays
    {collected more : Collected}
    {part : Json.Value}
    (added : addPart collected part = .ok more) :
    ∃ piece, AnthropicSays part piece := by
  unfold addPart at added
  by_cases isText : (part.index "type").asStr = some "text"
  · rw [if_pos isText] at added
    obtain ⟨text, hasText, -⟩ := Checks.bind_eq_ok_iff.mp added
    exact ⟨_, .text isText (orProvider_eq_ok_iff.mp hasText)⟩
  · rw [if_neg isText] at added
    by_cases isToolUse : (part.index "type").asStr = some "tool_use"
    · rw [if_pos isToolUse] at added
      obtain ⟨id, hasId, added⟩ := Checks.bind_eq_ok_iff.mp added
      obtain ⟨name, hasName, -⟩ := Checks.bind_eq_ok_iff.mp added
      exact ⟨_, .toolUse isToolUse (orProvider_eq_ok_iff.mp hasId)
        (orProvider_eq_ok_iff.mp hasName)⟩
    · exact ⟨_, .other isText isToolUse⟩

/-- The loop appends the texts of a message. -/
theorem foldl_addPartText (parts : List Json.Value) (text : String) :
    parts.foldl addPartText text =
      text ++ String.join (parts.filterMap partText) := by
  induction parts generalizing text with
  | nil =>
      rw [List.filterMap_nil, String.join_nil, String.append_empty]
      rfl
  | cons part rest inductionHypothesis =>
      rw [List.foldl_cons, inductionHypothesis]
      unfold addPartText
      cases hasText : partText part with
      | none => rw [List.filterMap_cons_none hasText]
      | some more =>
          rw [List.filterMap_cons_some hasText, String.join_cons,
            String.append_assoc]

/-- The loop adds what an item says. -/
theorem ResponsesSays.addItem_eq
    {runtime : ProviderRuntime}
    {item : Json.Value}
    {piece : Collected}
    (isPiece : ResponsesSays runtime item piece)
    (collected : Collected) :
    addItem runtime collected item = .ok (collected.append piece) := by
  unfold addItem
  cases isPiece with
  | message isMessage hasParts =>
      rw [if_pos isMessage, hasParts]
      unfold Collected.append
      rw [List.append_nil, ← foldl_addPartText]
      rfl
  | call isCall hasId hasName hasText reads =>
      rw [isCall, if_neg (by decide), if_pos rfl, hasId, hasName, hasText]
      unfold Collected.append
      rw [String.append_empty]
      change (orProvider (runtime.parse _) >>= _) = _
      rw [reads]
      rfl
  | other notMessage notCall =>
      rw [if_neg notMessage, if_neg notCall, Collected.append_empty]
      rfl

/-- The loop goes on after an item that says something. -/
theorem exists_responsesSays
    {runtime : ProviderRuntime}
    {collected more : Collected}
    {item : Json.Value}
    (added : addItem runtime collected item = .ok more) :
    ∃ piece, ResponsesSays runtime item piece := by
  unfold addItem at added
  by_cases isMessage : (item.index "type").asStr = some "message"
  · rw [if_pos isMessage] at added
    obtain ⟨parts, hasParts, -⟩ := Checks.bind_eq_ok_iff.mp added
    exact ⟨_, .message isMessage (orProvider_eq_ok_iff.mp hasParts)⟩
  · rw [if_neg isMessage] at added
    by_cases isCall : (item.index "type").asStr = some "function_call"
    · rw [if_pos isCall] at added
      obtain ⟨id, hasId, added⟩ := Checks.bind_eq_ok_iff.mp added
      obtain ⟨name, hasName, added⟩ := Checks.bind_eq_ok_iff.mp added
      obtain ⟨text, hasText, added⟩ := Checks.bind_eq_ok_iff.mp added
      obtain ⟨arguments, reads, -⟩ := Checks.bind_eq_ok_iff.mp added
      exact ⟨_, .call isCall (orProvider_eq_ok_iff.mp hasId)
        (orProvider_eq_ok_iff.mp hasName) (orProvider_eq_ok_iff.mp hasText)
        (orProvider_eq_ok_iff.mp reads)⟩
    · exact ⟨_, .other isMessage isCall⟩

/-! ## What the answers say -/

/-- Parts that say a message, with a charge. -/
structure Collects
    (Says : Json.Value → Collected → Prop)
    (parts : Option (List Json.Value))
    (cost : Option Int64)
    (message : Message)
    (charge : Int64) : Prop where
  content : ∃ items pieces, parts = some items ∧
    List.Forall₂ Says items pieces ∧ message = (Collected.join pieces).message
  charge : cost = some charge

theorem collectReply_eq_ok_iff
    {add : Collected → Json.Value → Except AppError Collected}
    {Says : Json.Value → Collected → Prop}
    (adds : ∀ part piece, Says part piece →
      ∀ collected, add collected part = .ok (collected.append piece))
    (goesOn : ∀ collected part more, add collected part = .ok more →
      ∃ piece, Says part piece)
    {parts : Option (List Json.Value)}
    {cost : Option Int64}
    {message : Message}
    {charge : Int64} :
    collectReply add parts cost = .ok (message, charge) ↔
      Collects Says parts cost message charge := by
  unfold collectReply
  simp only [Checks.bind_eq_ok_iff, orProvider_eq_ok_iff,
    Checks.foldlM_eq_ok_iff adds goesOn, Collected.foldl_append_empty]
  constructor
  · rintro ⟨items, hasItems, _, ⟨pieces, say, rfl⟩, _, hasCharge, isAnswer⟩
    cases isAnswer
    exact ⟨⟨items, pieces, hasItems, say, rfl⟩, hasCharge⟩
  · rintro ⟨⟨items, pieces, hasItems, say, rfl⟩, hasCharge⟩
    exact ⟨items, hasItems, _, ⟨pieces, say, rfl⟩, charge, hasCharge, rfl⟩

section Answers

variable
  {runtime : ProviderRuntime}
  {model : ModelConfig}
  {value : Json.Value}
  {message : Message}
  {charge : Int64}

theorem anthropicReply_eq_ok_iff :
    anthropicReply runtime model value = .ok (message, charge) ↔
      ((value.index "stop_reason").asStr = some "end_turn" ∨
        (value.index "stop_reason").asStr = some "tool_use") ∧
      Collects AnthropicSays (value.index "content").asArray
        (usageCharge runtime model (value.index "usage")) message charge := by
  unfold anthropicReply
  dsimp only
  rw [← collectReply_eq_ok_iff
    (fun _ _ isPiece => isPiece.addPart_eq)
    fun _ _ _ added => exists_anthropicSays added]
  by_cases irregular :
      (value.index "stop_reason").asStr ≠ some "end_turn" ∧
        (value.index "stop_reason").asStr ≠ some "tool_use"
  · rw [if_pos irregular]
    refine iff_of_false (nomatch ·) fun answers => ?_
    exact answers.1.elim irregular.1 irregular.2
  · rw [if_neg irregular]
    have regular := not_and_or.mp irregular
    rw [not_not, not_not] at regular
    exact (and_iff_right regular).symm

theorem responsesReply_eq_ok_iff :
    responsesReply runtime model value = .ok (message, charge) ↔
      (value.index "status").asStr = some "completed" ∧
      Collects (ResponsesSays runtime) (value.index "output").asArray
        (usageCharge runtime model (value.index "usage")) message charge := by
  unfold responsesReply
  rw [← collectReply_eq_ok_iff
    (fun _ _ isPiece => isPiece.addItem_eq)
    fun _ _ _ added => exists_responsesSays added]
  by_cases irregular : (value.index "status").asStr ≠ some "completed"
  · rw [if_pos irregular]
    exact iff_of_false (nomatch ·) fun answers => irregular answers.1
  · rw [if_neg irregular]
    exact (and_iff_right (not_not.mp irregular)).symm

/-- The replies that have a message and a charge, in each of the formats. -/
inductive Replied
    (runtime : ProviderRuntime)
    (model : ModelConfig)
    (reply : Reply)
    (message : Message)
    (charge : Int64) : WireApi → Prop
  | chat
      {bytes : List UInt8}
      (delivers : reply.Delivers bytes)
      (small : bytes.length ≤ ChatStream.maxBytes)
      (accepted : Accepted runtime model (splitLines bytes).1 message charge) :
      Replied runtime model reply message charge .chatCompletions
  | messages
      {bytes : List UInt8}
      {value : Json.Value}
      (delivers : reply.Delivers bytes)
      (small : bytes.length ≤ maxBodyBytes)
      (isJson : IsJson runtime bytes value)
      (reason : (value.index "stop_reason").asStr = some "end_turn" ∨
        (value.index "stop_reason").asStr = some "tool_use")
      (collects : Collects AnthropicSays (value.index "content").asArray
        (usageCharge runtime model (value.index "usage")) message charge) :
      Replied runtime model reply message charge .messages
  | responses
      {bytes : List UInt8}
      {value : Json.Value}
      (delivers : reply.Delivers bytes)
      (small : bytes.length ≤ maxBodyBytes)
      (isJson : IsJson runtime bytes value)
      (status : (value.index "status").asStr = some "completed")
      (collects : Collects (ResponsesSays runtime)
        (value.index "output").asArray
        (usageCharge runtime model (value.index "usage")) message charge) :
      Replied runtime model reply message charge .responses

/-- A successful reply has a result exactly when it is one of these. -/
theorem readReply_eq_ok_iff {reply : Reply} :
    readReply runtime model reply = .ok (message, charge) ↔
      reply.success = true ∧
        Replied runtime model reply message charge model.format := by
  unfold readReply
  by_cases failed : ¬ reply.success
  · rw [if_pos failed]
    exact iff_of_false (nomatch ·) fun replied => failed replied.1
  · rw [if_neg failed, and_iff_right (not_not.mp failed)]
    cases model.format with
    | chatCompletions =>
        simp only [Checks.bind_eq_ok_iff, mapM_orProvider_eq_ok_iff,
          inferChat_eq_ok_iff]
        constructor
        · rintro ⟨chunks, areChunks, small, accepted⟩
          exact .chat ⟨chunks, areChunks, rfl⟩ small accepted
        · intro replied
          cases replied with
          | chat delivers small accepted =>
              obtain ⟨chunks, areChunks, rfl⟩ := delivers
              exact ⟨chunks, areChunks, small, accepted⟩
    | messages =>
        simp only [Checks.bind_eq_ok_iff, readBounded_eq_ok_iff,
          readValue_eq_ok_iff, anthropicReply_eq_ok_iff]
        constructor
        · rintro ⟨bytes, ⟨delivers, small⟩, value, isJson, reason, collects⟩
          exact .messages delivers small isJson reason collects
        · intro replied
          cases replied with
          | messages delivers small isJson reason collects =>
              exact ⟨_, ⟨delivers, small⟩, _, isJson, reason, collects⟩
    | responses =>
        simp only [Checks.bind_eq_ok_iff, readBounded_eq_ok_iff,
          readValue_eq_ok_iff, responsesReply_eq_ok_iff]
        constructor
        · rintro ⟨bytes, ⟨delivers, small⟩, value, isJson, status, collects⟩
          exact .responses delivers small isJson status collects
        · intro replied
          cases replied with
          | responses delivers small isJson status collects =>
              exact ⟨_, ⟨delivers, small⟩, _, isJson, status, collects⟩

/-- An inference has a result exactly when the model has a key and an address
and a reply that has one comes. -/
theorem infer_eq_ok_iff
    {environment : String → Option String}
    {reply : Option Reply} :
    infer environment runtime model reply = .ok (message, charge) ↔
      (environment model.keyEnv).isSome = true ∧ model.url.isSome = true ∧
        ∃ arrived, reply = some arrived ∧ arrived.success = true ∧
          Replied runtime model arrived message charge model.format := by
  unfold infer
  cases environment model.keyEnv with
  | none => exact iff_of_false (nomatch ·) fun replied => nomatch replied.1
  | some key =>
      cases model.url with
      | none =>
          exact iff_of_false (nomatch ·) fun replied => nomatch replied.2.1
      | some url =>
          change (orProvider reply >>= readReply runtime model) = _ ↔ _
          simp only [Checks.bind_eq_ok_iff, orProvider_eq_ok_iff,
            readReply_eq_ok_iff, Option.isSome_some, true_and]

end Answers

end AsystantGateway
