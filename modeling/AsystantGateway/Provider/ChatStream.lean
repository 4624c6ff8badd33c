import AsystantGateway.Library.Percent
import AsystantGateway.Library.Stateful
import AsystantGateway.Library.Text
import AsystantGateway.Provider.Usage

/-!
# Decoding a chat stream

The provider's answer arrives in chunks of bytes. A line is decoded when its
newline has arrived, so a chunk can complete any number of lines. The loop
collects the text and the fragments of calls, and passes every piece of text on
as it comes; what it passed on before an error stays passed on.
-/

namespace AsystantGateway

/-- What has arrived of one call. -/
structure CallParts where
  id : String
  name : String
  arguments : String
  deriving DecidableEq, Repr

/-- The call of which nothing has arrived. -/
def CallParts.empty : CallParts := ⟨"", "", ""⟩

/-- The variables of the loop. -/
structure ChatStream where
  buffer : List UInt8
  text : String
  /-- The calls by their index. An index is below sixteen. -/
  calls : Fin 16 → Option CallParts
  charge : Option Int64
  finished : Bool
  done : Bool
  received : Nat
  /-- The pieces of text that were passed on, in order. -/
  deltas : List String

namespace ChatStream

/-- The variables before the first chunk. -/
def start : ChatStream where
  buffer := []
  text := ""
  calls _ := none
  charge := none
  finished := false
  done := false
  received := 0
  deltas := []

/-- The most bytes that are read of one answer. -/
def maxBytes : Nat := 2000000

end ChatStream

/-- A part of the decoding loop. -/
abbrev Decoding (α : Type) := Stateful ChatStream AppError α

/-- The text after a given beginning. -/
def stripStart (beginning text : String) : Option String :=
  if beginning.toList.isPrefixOf text.toList then
    some (String.ofList (text.toList.drop beginning.toList.length))
  else
    none

/-- The bytes up to each newline, and the bytes after the last one. -/
def splitLines : List UInt8 → List (List UInt8) × List UInt8
  | [] => ([], [])
  | byte :: rest =>
      let (lines, last) := splitLines rest
      if byte = 0x0a then
        ([byte] :: lines, last)
      else
        match lines with
        | [] => ([], byte :: last)
        | line :: others => ((byte :: line) :: others, last)

section Decoder

variable (runtime : ProviderRuntime) (model : ModelConfig)

/-- Append a fragment to its call. -/
def decodeCall (fragment : Json.Value) : Decoding Unit := do
  match (fragment.index "index").asU64 with
  | none => throw .provider
  | some index =>
      if bound : index.toNat < 16 then
        let function := fragment.index "function"
        modify fun stream =>
          let entry := (stream.calls ⟨index.toNat, bound⟩).getD .empty
          { stream with
            calls := Function.update stream.calls ⟨index.toNat, bound⟩ (some {
              id := entry.id ++ (fragment.index "id").asStr.getD ""
              name := entry.name ++ (function.index "name").asStr.getD ""
              arguments :=
                entry.arguments ++ (function.index "arguments").asStr.getD ""
            }) }
      else
        throw .provider

/-- A reason to finish must be one of the two regular ones. -/
def decodeFinish (choice : Json.Value) : Decoding Unit := do
  match (choice.index "finish_reason").asStr with
  | none => pure ()
  | some reason =>
      if reason ≠ "stop" ∧ reason ≠ "tool_calls" then
        throw .provider
      else
        modify fun stream => { stream with finished := true }

/-- Collect a piece of text and pass it on. -/
def decodeText (delta : Json.Value) : Decoding Unit := do
  match (delta.index "content").asStr with
  | none => pure ()
  | some part =>
      modify fun stream => { stream with
        text := stream.text ++ part
        deltas := stream.deltas ++ [part] }

/-- Collect the fragments of calls. -/
def decodeCalls (delta : Json.Value) : Decoding Unit := do
  match (delta.index "tool_calls").asArray with
  | none => pure ()
  | some fragments => fragments.forM decodeCall

/-- Decode the first choice of an event. -/
def decodeChoice (choice : Json.Value) : Decoding Unit := do
  decodeFinish choice
  decodeText (choice.index "delta")
  decodeCalls (choice.index "delta")

/-- Take the charge of an event that reports a usage. -/
def decodeUsage (value : Json.Value) : Decoding Unit := do
  match value.get "usage" with
  | none => pure ()
  | some usage =>
      modify fun stream =>
        { stream with charge := usageCharge runtime model usage }

/-- Decode one event. -/
def decodeEvent (value : Json.Value) : Decoding Unit :=
  if (value.get "error").isSome then
    throw .provider
  else do
    decodeUsage runtime model value
    match ((value.get "choices").bind Json.Value.asArray).bind List.head? with
    | none => pure ()
    | some choice => decodeChoice choice

/-- Decode what follows `data:` on a line. -/
def decodeData (data : String) : Decoding Unit := do
  if data = "[DONE]" then
    modify fun stream => { stream with done := true }
  else if data = "" then
    pure ()
  else
    match runtime.parse data with
    | none => throw .provider
    | some value => decodeEvent runtime model value

/-- Decode one line with its newline. -/
def decodeLine (line : List UInt8) : Decoding Unit := do
  match String.fromUTF8? ⟨line.toArray⟩ with
  | none => throw .provider
  | some line =>
      match stripStart "data:" (Text.trim line) with
      | none => pure ()
      | some data => decodeData runtime model (Text.trim data)

/-- Take one chunk and decode the lines it completes. -/
def decodeChunk (chunk : List UInt8) : Decoding Unit := do
  modify fun stream =>
    { stream with received := stream.received + chunk.length }
  let stream ← get
  if stream.received > ChatStream.maxBytes then
    throw .provider
  else
    let (lines, last) := splitLines (stream.buffer ++ chunk)
    modify fun stream => { stream with buffer := last }
    lines.forM (decodeLine runtime model)

/-- A collected call with its arguments read. -/
def CallParts.toolCall (parts : CallParts) : Except AppError ToolCall :=
  match runtime.parse parts.arguments with
  | none => .error .provider
  | some arguments => .ok { id := parts.id, name := parts.name, arguments }

/-- The calls in the order of their indices. -/
def ChatStream.parts (stream : ChatStream) : List CallParts :=
  (List.finRange 16).filterMap stream.calls

/-- The result of a stream that has ended. -/
def ChatStream.finish
    (stream : ChatStream) : Except AppError (Message × Int64) :=
  if ¬ stream.finished ∨ ¬ stream.done then
    .error .provider
  else do
    let calls ← stream.parts.mapM (CallParts.toolCall runtime)
    match stream.charge with
    | none => .error .provider
    | some charge =>
        .ok ({
          role := "assistant"
          content := stream.text
          calls
          callId := "" }, charge)

end Decoder

/-- A chunk within the limit is appended to the buffer, and the lines that it
completes are decoded. -/
theorem run_decodeChunk
    (runtime : ProviderRuntime)
    (model : ModelConfig)
    {chunk : List UInt8}
    {stream : ChatStream}
    (small : ¬ stream.received + chunk.length > ChatStream.maxBytes) :
    (decodeChunk runtime model chunk).run.run stream =
      ((splitLines (stream.buffer ++ chunk)).1.forM
        (decodeLine runtime model)).run.run { stream with
          received := stream.received + chunk.length
          buffer := (splitLines (stream.buffer ++ chunk)).2 } := by
  unfold decodeChunk
  rw [Stateful.run_modify_bind, Stateful.run_get_bind, if_neg small]
  rfl

/-- The message of a finished stream has the collected text. -/
theorem content_of_finish
    {runtime : ProviderRuntime}
    {stream : ChatStream}
    {message : Message}
    {charge : Int64}
    (finished : stream.finish runtime = .ok (message, charge)) :
    message.content = stream.text := by
  unfold ChatStream.finish at finished
  split at finished
  · cases finished
  · obtain ⟨calls, -, built⟩ := Checks.bind_eq_ok_iff.mp finished
    split at built
    · cases built
    · cases built
      rfl

namespace ChatStream

/-- A later state has passed on further pieces, and its text is longer by
them. -/
def Advances (first second : ChatStream) : Prop :=
  ∃ pieces, second.deltas = first.deltas ++ pieces ∧
    second.text = first.text ++ String.join pieces

theorem advances_of_same
    {first second : ChatStream}
    (sameDeltas : second.deltas = first.deltas)
    (sameText : second.text = first.text) :
    first.Advances second := by
  refine ⟨[], ?_, ?_⟩
  · rw [sameDeltas, List.append_nil]
  · rw [sameText, String.join_nil, String.append_empty]

theorem Advances.refl (stream : ChatStream) : stream.Advances stream :=
  advances_of_same rfl rfl

theorem Advances.trans
    (first second third : ChatStream)
    (before : first.Advances second)
    (after : second.Advances third) :
    first.Advances third := by
  obtain ⟨pieces, deltas, text⟩ := before
  obtain ⟨others, otherDeltas, otherText⟩ := after
  refine ⟨pieces ++ others, ?_, ?_⟩
  · rw [otherDeltas, deltas, List.append_assoc]
  · rw [otherText, text, String.join_append, String.append_assoc]

end ChatStream

/-! ## What a line can change -/

namespace ChatStream

/-- The variables with another buffer and another count of bytes. -/
def refill
    (buffer : List UInt8)
    (received : Nat)
    (stream : ChatStream) : ChatStream :=
  { stream with buffer, received }

/-- A change of what was decoded: it passes on what it appends to the text, and
it has nothing to do with the buffer and the count of bytes. -/
structure Decodes (change : ChatStream → ChatStream) : Prop where
  advances : ∀ stream : ChatStream, stream.Advances (change stream)
  refills : ∀ buffer received (stream : ChatStream),
    change (stream.refill buffer received) =
      (change stream).refill buffer received

/-- A change of the other variables decodes. -/
theorem Decodes.of_same
    {change : ChatStream → ChatStream}
    (sameDeltas : ∀ stream : ChatStream, (change stream).deltas = stream.deltas)
    (sameText : ∀ stream : ChatStream, (change stream).text = stream.text)
    (refills : ∀ buffer received (stream : ChatStream),
      change (stream.refill buffer received) =
        (change stream).refill buffer received) :
    Decodes change where
  advances stream :=
    advances_of_same (sameDeltas stream) (sameText stream)
  refills := refills

end ChatStream

section Decoding

open ChatStream Stateful

variable (runtime : ProviderRuntime) (model : ModelConfig)

/-- A part of the loop only decodes, and its only error is the provider's. -/
abbrev IsDecoding (body : Decoding α) : Prop :=
  MadeOf Decodes (· = AppError.provider) body

theorem decodeCall_isDecoding (fragment : Json.Value) :
    IsDecoding (decodeCall fragment) := by
  unfold decodeCall
  split
  · exact .throw rfl
  · split
    · apply MadeOf.modify
      exact .of_same (fun _ => rfl) (fun _ => rfl) fun _ _ _ => rfl
    · exact .throw rfl

theorem decodeFinish_isDecoding (choice : Json.Value) :
    IsDecoding (decodeFinish choice) := by
  unfold decodeFinish
  split
  · exact .pure _
  · split
    · exact .throw rfl
    · apply MadeOf.modify
      exact .of_same (fun _ => rfl) (fun _ => rfl) fun _ _ _ => rfl

/-- The one part that passes something on. -/
theorem decodeText_isDecoding (delta : Json.Value) :
    IsDecoding (decodeText delta) := by
  unfold decodeText
  split
  · exact .pure _
  case h_2 part _ =>
    apply MadeOf.modify
    constructor
    · intro stream
      refine ⟨[part], rfl, ?_⟩
      rw [String.join_cons, String.join_nil, String.append_empty]
    · intro buffer received stream
      rfl

theorem decodeCalls_isDecoding (delta : Json.Value) :
    IsDecoding (decodeCalls delta) := by
  unfold decodeCalls
  split
  · exact .pure _
  · exact .forM decodeCall_isDecoding _

theorem decodeChoice_isDecoding (choice : Json.Value) :
    IsDecoding (decodeChoice choice) := by
  apply MadeOf.bind (decodeFinish_isDecoding choice)
  intro _
  apply MadeOf.bind (decodeText_isDecoding _)
  intro _
  exact decodeCalls_isDecoding _

theorem decodeUsage_isDecoding (value : Json.Value) :
    IsDecoding (decodeUsage runtime model value) := by
  unfold decodeUsage
  split
  · exact .pure _
  · apply MadeOf.modify
    exact .of_same (fun _ => rfl) (fun _ => rfl) fun _ _ _ => rfl

theorem decodeEvent_isDecoding (value : Json.Value) :
    IsDecoding (decodeEvent runtime model value) := by
  unfold decodeEvent
  split
  · exact .throw rfl
  · apply MadeOf.bind (decodeUsage_isDecoding runtime model value)
    intro _
    split
    · exact .pure _
    · exact decodeChoice_isDecoding _

theorem decodeData_isDecoding (data : String) :
    IsDecoding (decodeData runtime model data) := by
  unfold decodeData
  split
  · apply MadeOf.modify
    exact .of_same (fun _ => rfl) (fun _ => rfl) fun _ _ _ => rfl
  · split
    · exact .pure _
    · split
      · exact .throw rfl
      · exact decodeEvent_isDecoding runtime model _

theorem decodeLine_isDecoding (line : List UInt8) :
    IsDecoding (decodeLine runtime model line) := by
  unfold decodeLine
  split
  · exact .throw rfl
  · split
    · exact .pure _
    · exact decodeData_isDecoding runtime model _

/-- A chunk appends to the text exactly the pieces that it passes on, also when
it ends in an error. -/
theorem decodeChunk_advancing (chunk : List UInt8) :
    Follows Advances (decodeChunk runtime model chunk) := by
  apply Follows.bind Advances.trans
  · apply Follows.modify
    intro stream
    exact advances_of_same rfl rfl
  intro _
  apply Follows.bind Advances.trans (Follows.get Advances.refl)
  intro stream
  split
  · exact Follows.throw Advances.refl _
  · apply Follows.bind Advances.trans
    · apply Follows.modify
      intro stream
      exact advances_of_same rfl rfl
    intro _
    apply MadeOf.follows Advances.refl Advances.trans
      fun change (decodes : Decodes change) => decodes.advances
    exact .forM (decodeLine_isDecoding runtime model) _

end Decoding

/-! ## One piece -/

/-- A model whose answers are streamed. -/
def chatModel : ModelConfig where
  id := "m"
  provider := .openai
  model := "gpt"
  keyEnv := "KEY"
  wireApi := .chatCompletions
  inputMicrosPerMillion := 1000000
  outputMicrosPerMillion := 2000000
  maxInputTokens := 1000
  maxOutputTokens := 100

/-- An event with one piece of text. -/
def pieceEvent : Json.Value :=
  .object [("choices", .array [
    .object [("delta", .object [("content", .string "x")])]])]

/-- A runtime that reads the one event, and the text of an empty object. -/
def pieceRuntime : ProviderRuntime where
  parse text :=
    if text = pieceEvent.compact then some pieceEvent
    else if text = "{}" then some (.object [])
    else none
  costMicros _ := none

/-- The line of the event. -/
def pieceLine : List UInt8 :=
  Percent.ascii ("data: " ++ pieceEvent.compact ++ "\n")

/-- The line passes one piece on, whatever else the runtime reads. -/
theorem decode_pieceLine
    {runtime : ProviderRuntime}
    {stream : ChatStream}
    (reads : runtime.parse pieceEvent.compact = some pieceEvent)
    (noBuffer : stream.buffer = [])
    (small : ¬ stream.received + pieceLine.length > ChatStream.maxBytes) :
    (decodeChunk runtime chatModel pieceLine).run.run stream =
      (.ok (), { stream with
        received := stream.received + pieceLine.length
        text := stream.text ++ "x"
        deltas := stream.deltas ++ ["x"] }) := by
  have oneLine : splitLines (stream.buffer ++ pieceLine) =
      ([pieceLine], []) := by
    rw [noBuffer]
    decide
  have isData : decodeLine runtime chatModel pieceLine =
      decodeData runtime chatModel pieceEvent.compact := rfl
  have isEvent : decodeData runtime chatModel pieceEvent.compact =
      decodeEvent runtime chatModel pieceEvent := by
    unfold decodeData
    rw [if_neg (by decide), if_neg (by decide), reads]
  have passed : [pieceLine].forM (decodeLine runtime chatModel) =
      (decodeEvent runtime chatModel pieceEvent >>= fun _ => pure ()) := by
    rw [← isEvent, ← isData]
    rfl
  rw [run_decodeChunk runtime chatModel small, oneLine, ← noBuffer, passed]
  rfl

theorem reads_pieceEvent :
    pieceRuntime.parse pieceEvent.compact = some pieceEvent := by
  simp [pieceRuntime]

theorem length_pieceLine : pieceLine.length < 100 := by decide

end AsystantGateway
