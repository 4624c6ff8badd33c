import AsystantGateway.Library.Json.Canonical
import AsystantGateway.Library.Json.Fields
import AsystantGateway.Model.Config
import AsystantGateway.Model.Turn

/-!
# Request bodies

A body is read as JSON into a manifest or a turn. Their records are closed: a
member that is not known refuses the body. Definitions of tools and arguments of
calls are kept as values, with their objects in key order.

A manifest is stored as text and read again from it, and what a message is sent
as can be sent back.
-/

namespace AsystantGateway

open Json

/-- Read a value that is kept as it is. -/
def readKept (value : Value) : Option Value :=
  some value.sorted

namespace Manifest

def ofValue (value : Value) : Option Manifest := do
  let fields ← value.fields ["tools", "prompts", "models"] true
  let tools ← fields.required "tools" (readList readKept)
  let prompts ← fields.required "prompts" (readList Value.asStr)
  let models ← fields.required "models" (readList Value.asStr)
  return { tools, prompts, models }

def fromText
    (round : String → Option String)
    (text : String) : Option Manifest :=
  (readJson round text).bind ofValue

end Manifest

namespace ToolCall

/-- A call as it is sent, with its members in key order. -/
def toValue (call : ToolCall) : Value :=
  .object
    [("arguments", call.arguments),
      ("id", .string call.id),
      ("name", .string call.name)]

def ofValue (value : Value) : Option ToolCall := do
  let fields ← value.fields ["id", "name", "arguments"] true
  let id ← fields.required "id" Value.asStr
  let name ← fields.required "name" Value.asStr
  let arguments ← fields.required "arguments" readKept
  return { id, name, arguments }

end ToolCall

namespace Message

/-- A message as it is sent, with its members in key order. -/
def toValue (message : Message) : Value :=
  .object
    [("call_id", .string message.callId),
      ("calls", .ofList ToolCall.toValue message.calls),
      ("content", .string message.content),
      ("role", .string message.role)]

def ofValue (value : Value) : Option Message := do
  let fields ← value.fields ["role", "content", "calls", "call_id"] true
  let role ← fields.required "role" Value.asStr
  let content ← fields.required "content" Value.asStr
  let calls ← fields.withDefault "calls" (readList ToolCall.ofValue) []
  let callId ← fields.withDefault "call_id" Value.asStr ""
  return { role, content, calls, callId }

end Message

namespace Turn

def ofValue (value : Value) : Option Turn := do
  let fields ← value.fields
    ["registration_id", "request_id", "model", "messages"] true
  let registrationId ← fields.required "registration_id" Value.asStr
  let requestId ← fields.required "request_id" Value.asStr
  let model ← fields.required "model" Value.asStr
  let messages ← fields.required "messages" (readList Message.ofValue)
  return { registrationId, requestId, model, messages }

end Turn

/-- What a handler is given for a body, of at most 262144 bytes. -/
def readBody
    (round : String → Option String)
    (ofValue : Value → Option α)
    (body : String) : Except AppError α :=
  if body.utf8ByteSize > 262144 then .error .invalid
  else
    match (readJson round body).bind ofValue with
    | none => .error .invalid
    | some input => .ok input

/-- What a handler is given was read from a body that is not too long. -/
theorem exists_of_readBody
    {round : String → Option String}
    {ofValue : Value → Option α}
    {body : String}
    {input : α}
    (read : readBody round ofValue body = .ok input) :
    body.utf8ByteSize ≤ 262144 ∧
      ∃ value, readJson round body = some value ∧
        ofValue value = some input := by
  unfold readBody at read
  split at read
  · cases read
  · rename_i small
    split at read
    · cases read
    · rename_i isInput
      cases read
      exact ⟨not_lt.mp small, Option.bind_eq_some_iff.mp isInput⟩

section Texts

variable
  {round : String → Option String}

theorem readKept_of_kept
    {depth : Nat}
    {value : Value}
    (kept : value.Kept round depth) :
    readKept value = some value :=
  congrArg some kept.sorted.sorted_eq

theorem readList_readKept
    {depth : Nat}
    {values : List Value}
    (kept : ∀ value ∈ values, value.Kept round depth) :
    readList readKept (.array values) = some values := by
  have read : readList readKept (.ofList id values) = some values :=
    readList_ofList fun value present => readKept_of_kept (kept value present)
  rwa [Value.ofList, List.map_id] at read

/-- A manifest is read from its stored text. -/
theorem Manifest.fromText_text
    {manifest : Manifest}
    (kept : ∀ tool ∈ manifest.tools, tool.Kept round 125) :
    fromText round manifest.text = some manifest := by
  have readable : (Value.object
      [("tools", .array manifest.tools),
        ("prompts", strings manifest.prompts),
        ("models", strings manifest.models)]).Readable round 127 := by
    have tools : (Value.array manifest.tools).Readable round 126 :=
      .array 125 _ fun tool present => (kept tool present).readable
    simpa using tools
  have tools := readList_readKept kept
  unfold fromText text
  rw [readJson_compact readable, Option.bind_some]
  unfold ofValue
  rw [Value.fields_object (by simp) (by simp)]
  simp [Fields.required, KeyedList.lookup, tools, readList_strings]

/-- The tools of a manifest that was read are as they are kept, two levels below
the body. -/
theorem Manifest.tools_of_fromText
    {text : String}
    {manifest : Manifest}
    (read : fromText round text = some manifest) :
    ∀ tool ∈ manifest.tools,
      tool.Sorted ∧ tool.Nested (Number.IsRead round) 125 := by
  obtain ⟨value, isValue, read⟩ := Option.bind_eq_some_iff.mp read
  have nested := readJson_nested isValue
  unfold ofValue at read
  simp only [Option.bind_eq_bind, Option.bind_eq_some_iff] at read
  obtain ⟨fields, hasFields, tools, isTools, _, _, _, _, same⟩ := read
  cases same
  obtain ⟨held, found, isList⟩ := Fields.find_of_required isTools
  intro tool present
  obtain ⟨item, isNested, kept⟩ := nested_of_readList
    (nested_of_find nested hasFields found) isList tool present
  cases kept
  exact ⟨item.sorted_sorted, isNested.sorted⟩

theorem Manifest.fromText_of_readBody
    {body : String}
    {manifest : Manifest}
    (read : readBody round ofValue body = .ok manifest) :
    fromText round body = some manifest := by
  obtain ⟨-, value, isValue, isManifest⟩ := exists_of_readBody read
  exact Option.bind_eq_some_iff.mpr ⟨value, isValue, isManifest⟩

/-- A manifest that was read, with stable numbers in its tools, is read again
from its stored text, whatever models it is stored with. -/
theorem Manifest.fromText_text_of_fromText
    {text : String}
    {manifest : Manifest}
    (read : fromText round text = some manifest)
    (stable : ∀ tool ∈ manifest.tools, tool.Stable round)
    (models : List String) :
    fromText round ({ manifest with models }.text) =
      some { manifest with models } := by
  refine fromText_text fun tool present => ?_
  obtain ⟨sorted, nested⟩ := tools_of_fromText read tool present
  obtain ⟨depth, numbers⟩ := stable tool present
  exact ⟨sorted, nested.refit numbers⟩

end Texts

/-- The members of a turn. -/
def Turn.members (turn : Turn) : List (String × Value) :=
  [("registration_id", .string turn.registrationId),
    ("request_id", .string turn.requestId),
    ("model", .string turn.model),
    ("messages", .ofList Message.toValue turn.messages)]

/-- A message whose calls have arguments as they are kept. -/
def Message.Kept
    (round : String → Option String)
    (depth : Nat)
    (message : Message) : Prop :=
  ∀ call ∈ message.calls, call.arguments.Kept round depth

section Turns

variable
  {round : String → Option String}
  {depth : Nat}

theorem ToolCall.ofValue_toValue
    {call : ToolCall}
    (kept : call.arguments.Kept round depth) :
    ofValue call.toValue = some call := by
  unfold ofValue toValue
  rw [Value.fields_object (by simp) (by simp)]
  simp [Fields.required, KeyedList.lookup, Value.asStr, readKept_of_kept kept]

theorem Message.ofValue_toValue
    {message : Message}
    (kept : message.Kept round depth) :
    ofValue message.toValue = some message := by
  have calls : readList ToolCall.ofValue
      (.ofList ToolCall.toValue message.calls) = some message.calls :=
    readList_ofList fun call present =>
      ToolCall.ofValue_toValue (kept call present)
  unfold ofValue toValue
  rw [Value.fields_object (by simp) (by simp)]
  simp [Fields.required, Fields.withDefault, KeyedList.lookup, Value.asStr,
    calls]

theorem Turn.ofValue_of_perm
    {turn : Turn}
    {members : List (String × Value)}
    (kept : ∀ message ∈ turn.messages, message.Kept round depth)
    (order : members.Perm turn.members) :
    ofValue (.object members) = some turn := by
  have messages : readList Message.ofValue
      (.ofList Message.toValue turn.messages) = some turn.messages :=
    readList_ofList fun message present =>
      Message.ofValue_toValue (kept message present)
  unfold ofValue
  rw [Value.fields_of_perm_known (by simp [Turn.members])
    (by simp [Turn.members]) order]
  simp [Turn.members, Fields.required, KeyedList.lookup, Value.asStr, messages]

theorem ToolCall.readable_toValue
    {call : ToolCall}
    (readable : call.arguments.Readable round depth) :
    call.toValue.Readable round (depth + 1) := by
  simpa [toValue] using readable

theorem Message.readable_toValue
    {message : Message}
    (readable : ∀ call ∈ message.calls,
      call.arguments.Readable round depth) :
    message.toValue.Readable round (depth + 3) := by
  have calls : ∀ call ∈ message.calls,
      call.toValue.Readable round (depth + 1) :=
    fun call present => ToolCall.readable_toValue (readable call present)
  simpa [toValue] using calls

/-- A turn is read from its body, with its members in any order. -/
theorem Turn.readBody_of_perm
    {turn : Turn}
    {members : List (String × Value)}
    (kept : ∀ message ∈ turn.messages, message.Kept round 122)
    (order : members.Perm turn.members)
    (small : (Value.object members).compact.utf8ByteSize ≤ 262144) :
    readBody round ofValue (Value.object members).compact = .ok turn := by
  have messages : ∀ message ∈ turn.messages,
      message.toValue.Readable round 125 :=
    fun message present => Message.readable_toValue fun call isCall =>
      (kept message present call isCall).readable
  have areReadable : ∀ member ∈ turn.members, member.2.Readable round 126 := by
    simpa [Turn.members] using messages
  have readable : (Value.object members).Readable round 127 :=
    .object 126 members fun member present =>
      areReadable member (order.subset present)
  unfold readBody
  rw [if_neg (not_lt.mpr small), readJson_compact readable, Option.bind_some,
    ofValue_of_perm kept order]

end Turns

section Arguments

variable
  {fit : Number → Prop}
  {depth : Nat}
  {value : Value}

theorem ToolCall.arguments_of_ofValue
    {call : ToolCall}
    (nested : value.Nested fit (depth + 1))
    (read : ofValue value = some call) :
    call.arguments.Sorted ∧ call.arguments.Nested fit depth := by
  unfold ofValue at read
  simp only [Option.bind_eq_bind, Option.bind_eq_some_iff] at read
  obtain ⟨fields, hasFields, _, _, _, _, arguments, isArguments, same⟩ := read
  cases same
  obtain ⟨held, found, kept⟩ := Fields.find_of_required isArguments
  cases kept
  exact ⟨held.sorted_sorted, (nested_of_find nested hasFields found).sorted⟩

theorem Message.arguments_of_ofValue
    {message : Message}
    (nested : value.Nested fit (depth + 3))
    (read : ofValue value = some message) :
    ∀ call ∈ message.calls,
      call.arguments.Sorted ∧ call.arguments.Nested fit depth := by
  unfold ofValue at read
  simp only [Option.bind_eq_bind, Option.bind_eq_some_iff] at read
  obtain ⟨fields, hasFields, _, _, _, _, calls, areCalls, _, _, same⟩ := read
  cases same
  unfold Fields.withDefault at areCalls
  split at areCalls
  · cases areCalls
    exact fun _ absent => absurd absent List.not_mem_nil
  · rename_i held found
    intro call present
    obtain ⟨item, isNested, isCall⟩ := nested_of_readList
      (nested_of_find nested hasFields found) areCalls call present
    exact ToolCall.arguments_of_ofValue isNested isCall

/-- The arguments of a turn that was read are as they are kept, five levels
below the body. -/
theorem Turn.arguments_of_ofValue
    {turn : Turn}
    (nested : value.Nested fit (depth + 5))
    (read : ofValue value = some turn) :
    ∀ message ∈ turn.messages, ∀ call ∈ message.calls,
      call.arguments.Sorted ∧ call.arguments.Nested fit depth := by
  unfold ofValue at read
  simp only [Option.bind_eq_bind, Option.bind_eq_some_iff] at read
  obtain ⟨fields, hasFields, _, _, _, _, _, _, messages, areMessages,
    same⟩ := read
  cases same
  obtain ⟨held, found, isList⟩ := Fields.find_of_required areMessages
  intro message present
  obtain ⟨item, isNested, isMessage⟩ := nested_of_readList
    (nested_of_find nested hasFields found) isList message present
  exact Message.arguments_of_ofValue isNested isMessage

/-- A turn that was read, with stable numbers in its calls, keeps its
arguments. -/
theorem Turn.kept_of_readBody
    {round : String → Option String}
    {body : String}
    {turn : Turn}
    (read : readBody round ofValue body = .ok turn)
    (stable : ∀ message ∈ turn.messages, ∀ call ∈ message.calls,
      call.arguments.Stable round) :
    ∀ message ∈ turn.messages, message.Kept round 122 := by
  obtain ⟨-, value, isValue, isTurn⟩ := exists_of_readBody read
  intro message isMessage call isCall
  obtain ⟨sorted, nested⟩ := arguments_of_ofValue (readJson_nested isValue)
    isTurn message isMessage call isCall
  obtain ⟨depth, numbers⟩ := stable message isMessage call isCall
  exact ⟨sorted, nested.refit numbers⟩

end Arguments

end AsystantGateway
