import AsystantGateway.Provider.Replies
import AsystantGateway.Service.Transcript

/-!
# Sending an answer back

A conversation goes on with the message that was inferred and a result for each
of its calls. The validator asks for calls with names of their own and with
arguments that are objects. The decoders pass on whatever the provider gave, so
what the client is handed can be sent back exactly when the provider's calls
already have these properties.
-/

namespace AsystantGateway

/-- What a provider gives of a call. -/
structure Proposal where
  id : Option String
  arguments : Option Json.Value

/-- Calls that can be sent back. -/
structure Fit (proposals : List Proposal) : Prop where
  named : ∀ proposal ∈ proposals, proposal.id ≠ some ""
  objects : ∀ proposal ∈ proposals,
    ∃ members, proposal.arguments = some (.object members)
  distinct : (proposals.map Proposal.id).Nodup

/-- The calls that events give, put together. -/
def eventProposals
    (runtime : ProviderRuntime)
    (events : List ChatEvent) : List Proposal :=
  (receivedIndices events).map fun index =>
    { id := some (gathered events index).id
      arguments := runtime.parse (gathered events index).arguments }

/-- The call that a part of the content gives. -/
def partProposals (part : Json.Value) : List Proposal :=
  if (part.index "type").asStr = some "tool_use" then
    [{ id := (part.index "id").asStr
       arguments := some (part.index "input") }]
  else
    []

/-- The call that an item of the output gives. -/
def itemProposals
    (runtime : ProviderRuntime)
    (item : Json.Value) : List Proposal :=
  if (item.index "type").asStr = some "function_call" then
    [{ id := (item.index "call_id").asStr
       arguments := (item.index "arguments").asStr.bind runtime.parse }]
  else
    []

/-- The calls that a reply gives, in each of the formats. -/
inductive Proposes
    (runtime : ProviderRuntime)
    (reply : Reply) : WireApi → List Proposal → Prop
  | chat
      {bytes : List UInt8}
      {tales : List Tale}
      (delivers : reply.Delivers bytes)
      (tell : List.Forall₂ (Tells runtime) (splitLines bytes).1 tales) :
      Proposes runtime reply .chatCompletions
        (eventProposals runtime (eventsOf tales))
  | messages
      {bytes : List UInt8}
      {value : Json.Value}
      {parts : List Json.Value}
      (delivers : reply.Delivers bytes)
      (isJson : IsJson runtime bytes value)
      (hasParts : (value.index "content").asArray = some parts) :
      Proposes runtime reply .messages (parts.flatMap partProposals)
  | responses
      {bytes : List UInt8}
      {value : Json.Value}
      {items : List Json.Value}
      (delivers : reply.Delivers bytes)
      (isJson : IsJson runtime bytes value)
      (hasItems : (value.index "output").asArray = some items) :
      Proposes runtime reply .responses (items.flatMap (itemProposals runtime))

/-- A reply whose calls can be sent back. -/
def Answerable
    (runtime : ProviderRuntime)
    (reply : Reply)
    (format : WireApi) : Prop :=
  ∃ proposals, Proposes runtime reply format proposals ∧ Fit proposals

/-- A conversation that goes on. -/
def Turn.extend (turn : Turn) (messages : List Message) : Turn :=
  { turn with messages := turn.messages ++ messages }

@[simp] theorem Turn.messages_extend (turn : Turn) (messages : List Message) :
    (turn.extend messages).messages = turn.messages ++ messages := rfl

@[simp] theorem Turn.requestId_extend (turn : Turn) (messages : List Message) :
    (turn.extend messages).requestId = turn.requestId := rfl

/-- After an accepted transcript with room for it, a message of the assistant
with its results is accepted when its calls can be answered. -/
theorem validateTurn_extend_iff
    {turn : Turn}
    {message : Message}
    {results : List Message}
    (accepted : validateTurn turn = .ok ())
    (room : turn.messages.length + message.calls.length ≤ 255)
    (role : message.role = "assistant")
    (answers : Answers message.callIds results) :
    validateTurn (turn.extend (message :: results)) = .ok () ↔
      message.IsProposal := by
  obtain ⟨named, ⟨some, -⟩, ran⟩ := validateTurn_eq_ok_iff.mp accepted
  have sameLength : results.length = message.calls.length := by
    have same := answers.paired.length_eq
    unfold Message.callIds at same
    rwa [List.length_map, List.length_map] at same
  have few : (turn.messages ++ message :: results).length ≤ 256 := by
    rw [List.length_append, List.length_cons]
    omega
  have nonempty : turn.messages ++ message :: results ≠ [] :=
    List.append_ne_nil_of_left_ne_nil some _
  have passes : (turn.messages ++ message :: results).foldlM checkMessage [] =
      .ok [] ↔ WellPaired (message :: results) := by
    rw [List.foldlM_append, ran, ← completes_nil_iff, ← checkMessages_iff]
    rfl
  rw [validateTurn_eq_ok_iff, Turn.messages_extend, Turn.requestId_extend,
    and_iff_right named, and_iff_right ⟨nonempty, few⟩, passes,
    wellPaired_cons_iff]
  constructor
  · rintro (⟨asked, -⟩ | ⟨proposed, -⟩)
    · exact absurd (asked.role.symm.trans role) (by decide)
    · exact proposed
  · intro proposed
    right
    exact ⟨proposed, results, [], (List.append_nil _).symm, answers, .nil⟩

/-! ## What the decoders pass on -/

/-- A call as the provider gave it. -/
def ToolCall.proposal (call : ToolCall) : Proposal where
  id := some call.id
  arguments := some call.arguments

/-- The validator asks that the calls are fit. -/
theorem isProposal_iff_fit
    {message : Message}
    (role : message.role = "assistant") :
    message.IsProposal ↔ Fit (message.calls.map ToolCall.proposal) := by
  have sameIds : (message.calls.map ToolCall.proposal).map Proposal.id =
      message.callIds.map some := by
    unfold Message.callIds
    rw [List.map_map, List.map_map]
    rfl
  have nodup : ((message.calls.map ToolCall.proposal).map
      Proposal.id).Nodup ↔ message.callIds.Nodup := by
    rw [sameIds]
    exact List.nodup_map_iff (Option.some_injective String)
  have named : (∀ proposal ∈ message.calls.map ToolCall.proposal,
      proposal.id ≠ some "") ↔ ∀ call ∈ message.calls, call.id ≠ "" := by
    rw [List.forall_mem_map]
    simp only [ToolCall.proposal, ne_eq, Option.some.injEq]
  have objects : (∀ proposal ∈ message.calls.map ToolCall.proposal,
      ∃ members, proposal.arguments = some (.object members)) ↔
      ∀ call ∈ message.calls, call.arguments.isObject = true := by
    rw [List.forall_mem_map]
    simp only [ToolCall.proposal, Option.some.injEq,
      Json.Value.isObject_iff]
  constructor
  · intro proposed
    exact ⟨named.mpr proposed.named, objects.mpr proposed.objects,
      nodup.mpr proposed.distinct⟩
  · intro fit
    exact ⟨role, named.mp fit.named, objects.mp fit.objects,
      nodup.mp fit.distinct⟩

theorem AnthropicSays.partProposals_eq
    {part : Json.Value}
    {piece : Collected}
    (isPiece : AnthropicSays part piece) :
    partProposals part = piece.calls.map ToolCall.proposal := by
  unfold partProposals
  cases isPiece with
  | text isText => rw [isText, if_neg (by decide)]; rfl
  | toolUse isToolUse hasId => rw [isToolUse, if_pos rfl, hasId]; rfl
  | other _ notToolUse => rw [if_neg notToolUse]; rfl

theorem ResponsesSays.itemProposals_eq
    {runtime : ProviderRuntime}
    {item : Json.Value}
    {piece : Collected}
    (isPiece : ResponsesSays runtime item piece) :
    itemProposals runtime item = piece.calls.map ToolCall.proposal := by
  unfold itemProposals
  cases isPiece with
  | message isMessage => rw [isMessage, if_neg (by decide)]; rfl
  | call isCall hasId _ hasText reads =>
      rw [isCall, if_pos rfl, hasId, hasText, Option.bind_some, reads]
      rfl
  | other _ notCall => rw [if_neg notCall]; rfl

/-- The calls of a message are those that its parts give. -/
theorem Collects.proposals_eq
    {Says : Json.Value → Collected → Prop}
    {items : List Json.Value}
    {cost : Option Int64}
    {message : Message}
    {charge : Int64}
    {proposals : Json.Value → List Proposal}
    (gives : ∀ item piece, Says item piece →
      proposals item = piece.calls.map ToolCall.proposal)
    (collects : Collects Says (some items) cost message charge) :
    items.flatMap proposals = message.calls.map ToolCall.proposal := by
  obtain ⟨_, pieces, isItems, say, rfl⟩ := collects.content
  cases isItems
  change _ = (pieces.flatMap Collected.calls).map ToolCall.proposal
  clear collects
  induction say with
  | nil => rfl
  | cons isFirst _ isRest =>
      rw [List.flatMap_cons, List.flatMap_cons, List.map_append,
        gives _ _ isFirst, isRest]

/-- The calls of a streamed message are those that its events give. -/
theorem Yields.eventProposals_eq
    {runtime : ProviderRuntime}
    {model : ModelConfig}
    {tales : List Tale}
    {message : Message}
    {charge : Int64}
    (yields : Yields runtime model tales message charge) :
    eventProposals runtime (eventsOf tales) =
      message.calls.map ToolCall.proposal := by
  unfold eventProposals
  rw [← List.forall₂_eq_eq_eq, List.forall₂_map_left_iff,
    List.forall₂_map_right_iff]
  apply yields.calls.imp
  intro index call are
  rw [are.id, are.arguments]
  rfl

theorem Reply.Delivers.unique
    {reply : Reply}
    {bytes others : List UInt8}
    (delivers : reply.Delivers bytes)
    (deliversOthers : reply.Delivers others) : bytes = others := by
  obtain ⟨chunks, areChunks, rfl⟩ := delivers
  obtain ⟨otherChunks, areOthers, rfl⟩ := deliversOthers
  have same : chunks = otherChunks :=
    List.map_injective_iff.mpr (Option.some_injective _)
      (areChunks.symm.trans areOthers)
  rw [same]

theorem IsJson.unique
    {runtime : ProviderRuntime}
    {bytes : List UInt8}
    {value other : Json.Value}
    (isJson : IsJson runtime bytes value)
    (isOther : IsJson runtime bytes other) : value = other := by
  obtain ⟨text, isText, reads⟩ := isJson
  obtain ⟨otherText, isOtherText, readsOther⟩ := isOther
  cases isText.symm.trans isOtherText
  exact Option.some.inj (reads.symm.trans readsOther)

section Replied

variable
  {runtime : ProviderRuntime}
  {model : ModelConfig}
  {reply : Reply}
  {message : Message}
  {charge : Int64}
  {format : WireApi}
  (replied : Replied runtime model reply message charge format)

include replied

/-- Every message that is inferred is one of the assistant. -/
theorem Replied.role : message.role = "assistant" := by
  cases replied with
  | chat _ _ accepted =>
      obtain ⟨_, _, yields⟩ := accepted
      exact yields.role
  | messages _ _ _ _ collects =>
      obtain ⟨_, _, _, _, rfl⟩ := collects.content
      rfl
  | responses _ _ _ _ collects =>
      obtain ⟨_, _, _, _, rfl⟩ := collects.content
      rfl

/-- The calls are passed on as the reply gives them. -/
theorem Replied.proposals_eq
    {proposals : List Proposal}
    (proposes : Proposes runtime reply format proposals) :
    proposals = message.calls.map ToolCall.proposal := by
  cases replied with
  | chat delivers _ accepted =>
      cases proposes with
      | chat delivered tell =>
          cases delivers.unique delivered
          exact (accepted.yields tell).eventProposals_eq
  | messages delivers _ isJson _ collects =>
      cases proposes with
      | messages delivered isSame hasParts =>
          cases delivers.unique delivered
          cases isJson.unique isSame
          rw [hasParts] at collects
          exact collects.proposals_eq fun _ _ isPiece =>
            isPiece.partProposals_eq
  | responses delivers _ isJson _ collects =>
      cases proposes with
      | responses delivered isSame hasItems =>
          cases delivers.unique delivered
          cases isJson.unique isSame
          rw [hasItems] at collects
          exact collects.proposals_eq fun _ _ isPiece =>
            isPiece.itemProposals_eq

/-- A reply with a message gives calls. -/
theorem Replied.exists_proposes :
    ∃ proposals, Proposes runtime reply format proposals := by
  cases replied with
  | chat delivers _ accepted =>
      obtain ⟨_, tell, _⟩ := accepted
      exact ⟨_, .chat delivers tell⟩
  | messages delivers _ isJson _ collects =>
      obtain ⟨_, _, hasParts, _⟩ := collects.content
      exact ⟨_, .messages delivers isJson hasParts⟩
  | responses delivers _ isJson _ collects =>
      obtain ⟨_, _, hasItems, _⟩ := collects.content
      exact ⟨_, .responses delivers isJson hasItems⟩

/-- The calls of a message can be answered when those of its reply can. -/
theorem Replied.isProposal_iff :
    message.IsProposal ↔ Answerable runtime reply format := by
  rw [isProposal_iff_fit replied.role]
  constructor
  · intro fit
    obtain ⟨proposals, proposes⟩ := replied.exists_proposes
    rw [← replied.proposals_eq proposes] at fit
    exact ⟨proposals, proposes, fit⟩
  · rintro ⟨proposals, proposes, fit⟩
    rw [← replied.proposals_eq proposes]
    exact fit

end Replied

/-- What a client was handed can be sent back, with a result for each call,
exactly when the provider's calls have names of their own and arguments that are
objects. -/
theorem sendBack_accepted_iff
    {environment : String → Option String}
    {runtime : ProviderRuntime}
    {model : ModelConfig}
    {reply : Reply}
    {message : Message}
    {charge : Int64}
    (inferred : infer environment runtime model (some reply) =
      .ok (message, charge))
    {turn : Turn}
    {results : List Message}
    (accepted : validateTurn turn = .ok ())
    (room : turn.messages.length + message.calls.length ≤ 255)
    (answers : Answers message.callIds results) :
    validateTurn (turn.extend (message :: results)) = .ok () ↔
      Answerable runtime reply model.format := by
  obtain ⟨-, -, arrived, isReply, -, replied⟩ := infer_eq_ok_iff.mp inferred
  cases isReply
  rw [validateTurn_extend_iff accepted room replied.role answers]
  exact replied.isProposal_iff

/-! ## A call without arguments -/

/-- A model that is spoken to in the messages format. -/
def messagesModel : ModelConfig :=
  { chatModel with provider := .anthropic, wireApi := .messages }

/-- A call, with an input if there is one. -/
def toolUsePart (input : Option Json.Value) : Json.Value :=
  .object (("id", .string "c") ::
    (input.map fun value => ("input", value)).toList ++
    [("name", .string "f"), ("type", .string "tool_use")])

/-- An answer with the call. -/
def toolUseBody (input : Option Json.Value) : Json.Value :=
  .object [
    ("content", .array [toolUsePart input]),
    ("stop_reason", .string "tool_use"),
    ("usage", .object [
      ("input_tokens", .number (.posInt 1)),
      ("output_tokens", .number (.posInt 1))])]

/-- A runtime that reads one body. -/
def bodyRuntime (body : Json.Value) : ProviderRuntime where
  parse text := if text = body.compact then some body else none
  costMicros _ := none

/-- The reply with a body. -/
def bodyReply (body : Json.Value) : Reply where
  success := true
  chunks := [some (Percent.ascii body.compact)]

/-- The message that is inferred of it. -/
def toolUseMessage (arguments : Json.Value) : Message where
  role := "assistant"
  content := ""
  calls := [{ id := "c", name := "f", arguments }]
  callId := ""

/-- A question. -/
def questionTurn : Turn where
  registrationId := "assistant"
  requestId := "request"
  model := "m"
  messages := [
    { role := "user", content := "Hello", calls := [], callId := "" }]

/-- The result of the call. -/
def toolResult : Message where
  role := "tool"
  content := "Found"
  calls := []
  callId := "c"

theorem answers_toolUseMessage (arguments : Json.Value) :
    Answers (toolUseMessage arguments).callIds [toolResult] where
  areResults := List.forall_mem_singleton.mpr ⟨rfl, rfl⟩
  paired := .refl _

/-- Without an input the arguments are `null`. -/
theorem anthropicSays_toolUsePart (input : Option Json.Value) :
    AnthropicSays (toolUsePart input)
      ⟨"", (toolUseMessage (input.getD .null)).calls⟩ := by
  cases input with
  | none => exact .toolUse rfl rfl rfl
  | some value => exact .toolUse rfl rfl rfl

section ToolUse

variable
  {input : Option Json.Value}
  (plain : (Json.write (toolUseBody input)).all
    (fun character => character.toNat < 128) = true)

theorem delivers_bodyReply (body : Json.Value) :
    (bodyReply body).Delivers (Percent.ascii body.compact) :=
  ⟨[Percent.ascii body.compact], rfl, List.flatten_singleton⟩

include plain

theorem isJson_toolUseBody :
    IsJson (bodyRuntime (toolUseBody input))
      (Percent.ascii (toolUseBody input).compact) (toolUseBody input) := by
  refine ⟨(toolUseBody input).compact, ?_, if_pos rfl⟩
  apply Percent.fromUTF8?_ascii
  rw [Json.Value.toList_compact]
  intro character member
  exact of_decide_eq_true (List.all_eq_true.mp plain character member)

/-- The call is passed on with whatever stands for its input. -/
theorem infer_toolUseBody
    (short : (Json.write (toolUseBody input)).length ≤ maxBodyBytes) :
    infer (fun _ => some "key") (bodyRuntime (toolUseBody input))
        messagesModel (some (bodyReply (toolUseBody input))) =
      .ok (toolUseMessage (input.getD .null), 3) := by
  have small : (Percent.ascii (toolUseBody input).compact).length ≤
      maxBodyBytes := by
    rw [Percent.ascii, List.length_map, Json.Value.toList_compact]
    exact short
  have isCharge : tokenCharge messagesModel
      ((toolUseBody input).index "usage") = some 3 := by
    change tokenCharge messagesModel ((toolUseBody none).index "usage") = _
    decide
  have collects : Collects AnthropicSays
      ((toolUseBody input).index "content").asArray
      (usageCharge (bodyRuntime (toolUseBody input)) messagesModel
        ((toolUseBody input).index "usage"))
      (toolUseMessage (input.getD .null)) 3 :=
    ⟨⟨_, _, rfl, .cons (anthropicSays_toolUsePart input) .nil, rfl⟩, isCharge⟩
  apply infer_eq_ok_iff.mpr
  exact ⟨rfl, rfl, _, rfl, rfl, .messages (delivers_bodyReply _) small
    (isJson_toolUseBody plain) (.inr rfl) collects⟩

end ToolUse

/-- A call without an input is handed out and then refused. -/
theorem sendBack_refused :
    infer (fun _ => some "key") (bodyRuntime (toolUseBody none)) messagesModel
        (some (bodyReply (toolUseBody none))) =
      .ok (toolUseMessage .null, 3) ∧
    validateTurn questionTurn = .ok () ∧
    questionTurn.messages.length + (toolUseMessage .null).calls.length ≤ 255 ∧
    Answers (toolUseMessage .null).callIds [toolResult] ∧
    validateTurn (questionTurn.extend [toolUseMessage .null, toolResult]) =
      .error .invalid :=
  ⟨infer_toolUseBody (by decide +kernel) (by decide +kernel), by decide,
    by decide, answers_toolUseMessage .null, by decide⟩

/-- With an object it is accepted. -/
theorem sendBack_accepted_toolUse :
    validateTurn
        (questionTurn.extend [toolUseMessage (.object []), toolResult]) =
      .ok () := by
  have plain : (Json.write (toolUseBody (some (.object [])))).all
      (fun character => character.toNat < 128) = true := by
    decide +kernel
  have inferred := infer_toolUseBody plain (by decide +kernel)
  apply (sendBack_accepted_iff inferred (by decide) (by decide)
    (answers_toolUseMessage (.object []))).mpr
  refine ⟨_, .messages (delivers_bodyReply _) (isJson_toolUseBody plain) rfl,
    ?_, ?_, ?_⟩
  · exact List.forall_mem_singleton.mpr (by decide)
  · exact List.forall_mem_singleton.mpr ⟨[], rfl⟩
  · exact List.nodup_singleton _

end AsystantGateway
