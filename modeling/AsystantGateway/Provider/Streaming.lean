import AsystantGateway.Library.Checks
import AsystantGateway.Provider.ChatEvents

/-!
# Streaming a message

A provider cuts a message into events: pieces of its text, and fragments of its
calls under increasing indices. The fragments of different calls may come in any
interleaving. One event a line, the loop puts the message together again, and it
takes no beginning of the stream for the whole.
-/

namespace AsystantGateway

open Stateful

/-- The fragments for one index, put together. -/
def gathered
    (events : List ChatEvent)
    (index : Fin 16) : CallParts :=
  let parts := Gather.piecesOf index (fragmentsOf events)
  { id := String.join (parts.map CallParts.id)
    name := String.join (parts.map CallParts.name)
    arguments := String.join (parts.map CallParts.arguments) }

/-- Parts that are a call. The arguments may be any text of their value. -/
structure CallParts.Are
    (runtime : ProviderRuntime)
    (parts : CallParts)
    (call : ToolCall) : Prop where
  id : parts.id = call.id
  name : parts.name = call.name
  arguments : runtime.parse parts.arguments = some call.arguments

/-- Events that a message is cut into, with the indices of its calls. -/
structure Assembles
    (runtime : ProviderRuntime)
    (events : List ChatEvent)
    (indices : List (Fin 16))
    (message : Message) : Prop where
  role : message.role = "assistant"
  callId : message.callId = ""
  text : String.join (events.filterMap ChatEvent.content) = message.content
  increasing : indices.Pairwise (· < ·)
  assigned : ∀ fragment ∈ fragmentsOf events, fragment.1 ∈ indices
  calls : List.Forall₂
    (fun index call => (gathered events index).Are runtime call)
    indices message.calls
  finishes : ∃ event ∈ events, event.finishes = true

/-- A message as a stream of lines: lines with its events, the line that says
that the stream is done, and lines that say nothing. -/
structure Streaming
    (runtime : ProviderRuntime)
    (message : Message) where
  lines : List (List UInt8 × Option ChatEvent)
  doneLine : List UInt8
  trailing : List (List UInt8)
  indices : List (Fin 16)
  isLine : ∀ line ∈ lines, IsLine line.1
  carries : ∀ line ∈ lines, Carries runtime line.1 line.2
  isDoneLine : IsLine doneLine
  isDone : IsData doneLine "[DONE]"
  trailingLine : ∀ line ∈ trailing, IsLine line
  trailingCarries : ∀ line ∈ trailing, Carries runtime line none
  assembles : Assembles runtime (lines.filterMap Prod.snd) indices message
  small : ((lines.map Prod.fst).flatten ++ doneLine ++
    trailing.flatten).length ≤ ChatStream.maxBytes

namespace Streaming

variable {runtime : ProviderRuntime} {message : Message}

/-- The events of a stream. -/
def events (streaming : Streaming runtime message) : List ChatEvent :=
  streaming.lines.filterMap Prod.snd

/-- The bytes up to the newline of the line that says that the stream is
done. -/
def complete (streaming : Streaming runtime message) : List UInt8 :=
  (streaming.lines.map Prod.fst).flatten ++ streaming.doneLine

/-- All bytes of a stream. -/
def bytes (streaming : Streaming runtime message) : List UInt8 :=
  streaming.complete ++ streaming.trailing.flatten

end Streaming

/-- Fragments of a call, one after the other. -/
theorem foldl_append_callParts
    (first : CallParts)
    (parts : List CallParts) :
    parts.foldl CallParts.append first =
      { id := first.id ++ String.join (parts.map CallParts.id)
        name := first.name ++ String.join (parts.map CallParts.name)
        arguments :=
          first.arguments ++ String.join (parts.map CallParts.arguments) } := by
  induction parts generalizing first with
  | nil => simp
  | cons part rest inductionHypothesis =>
      rw [List.foldl_cons, inductionHypothesis]
      simp [CallParts.append, String.append_assoc]

section Assembles

variable
  {runtime : ProviderRuntime}
  {events : List ChatEvent}
  {indices : List (Fin 16)}
  {message : Message}

/-- A fragment has arrived of each call, since no text of a value is empty. -/
theorem Assembles.exists_fragment
    (noEmpty : runtime.parse "" = none)
    (assembles : Assembles runtime events indices message) :
    ∀ index ∈ indices, Gather.piecesOf index (fragmentsOf events) ≠ [] := by
  have each : List.Forall₂
      (fun index call =>
        Gather.piecesOf index (fragmentsOf events) ≠ [] ∧
          (gathered events index).Are runtime call)
      indices message.calls := by
    apply assembles.calls.imp
    intro index call are
    refine ⟨fun noFragment => ?_, are⟩
    have parsed := are.arguments
    rw [gathered, noFragment, List.map_nil, List.map_nil, List.map_nil,
      String.join_nil, noEmpty] at parsed
    cases parsed
  exact ((List.forall₂_and_left indices message.calls).mp each).1

/-- The collected calls, in the order of their indices, are those of the
message. -/
theorem Assembles.parts_eq
    (noEmpty : runtime.parse "" = none)
    (assembles : Assembles runtime events indices message)
    {stream : ChatStream}
    (isTable : stream.calls = Gather.addAll CallParts.append .empty
      (fun _ => none) (fragmentsOf events)) :
    stream.parts = indices.map (gathered events) := by
  apply filterMap_finRange assembles.increasing
  intro index
  rw [isTable, Gather.addAll_apply]
  by_cases isIndex : index ∈ indices
  · rw [if_neg (assembles.exists_fragment noEmpty index isIndex),
      if_pos isIndex, Option.getD_none, foldl_append_callParts]
    simp [gathered, CallParts.empty]
  · have noFragment : Gather.piecesOf index (fragmentsOf events) = [] := by
      rw [Gather.piecesOf, List.map_eq_nil_iff, List.filter_eq_nil_iff]
      intro fragment isFragment isOf
      rw [← of_decide_eq_true isOf] at isIndex
      exact isIndex (assembles.assigned fragment isFragment)
    rw [if_pos noFragment, if_neg isIndex]

/-- A stream that has taken the events of a message, and that is done, finishes
with the message, when it has a charge. -/
theorem Assembles.finish_eq
    (model : ModelConfig)
    (noEmpty : runtime.parse "" = none)
    (assembles : Assembles runtime events indices message) :
    ChatStream.finish runtime { ChatStream.start.takeAll runtime model events
      with done := true } =
        match (ChatStream.start.takeAll runtime model events).charge with
        | none => .error .provider
        | some charge => .ok (message, charge) := by
  have isFinished : (ChatStream.start.takeAll runtime model events).finished =
      true := by
    rw [ChatStream.finished_takeAll, List.any_eq_true.mpr assembles.finishes,
      Bool.or_true]
  have parts := assembles.parts_eq noEmpty
    (ChatStream.calls_takeAll runtime model events .start)
  have calls : (indices.map (gathered events)).mapM
      (CallParts.toolCall runtime) = .ok message.calls := by
    apply Checks.mapM_eq_ok
    rw [List.forall₂_map_left_iff]
    apply assembles.calls.imp
    intro index call are
    unfold CallParts.toolCall
    rw [are.arguments, are.id, are.name]
  have text : (ChatStream.start.takeAll runtime model events).text =
      message.content := by
    rw [ChatStream.text_takeAll, assembles.text, ChatStream.start,
      String.empty_append]
  unfold ChatStream.finish
  rw [if_neg (by simp [isFinished])]
  change ((ChatStream.start.takeAll runtime model events).parts.mapM
    (CallParts.toolCall runtime) >>= _) = _
  rw [parts, calls]
  change (match (ChatStream.start.takeAll runtime model events).charge with
    | none => _
    | some charge => _) = _
  rw [text, ← assembles.role, ← assembles.callId]

end Assembles

/-! ## The lines of a stream -/

theorem splitLines_of_not_mem
    {body : List UInt8}
    (noNewline : 0x0a ∉ body) :
    splitLines body = ([], body) := by
  induction body with
  | nil => rfl
  | cons byte rest inductionHypothesis =>
      have ⟨isOther, restOther⟩ :=
        List.ne_and_not_mem_of_not_mem_cons noNewline
      rw [splitLines_cons_of_ne (Ne.symm isOther),
        inductionHypothesis restOther]

theorem splitLines_line
    {line : List UInt8}
    (isLine : IsLine line) :
    splitLines line = ([line], []) := by
  obtain ⟨body, rfl, noNewline⟩ := isLine
  induction body with
  | nil => rfl
  | cons byte rest inductionHypothesis =>
      have ⟨isOther, restOther⟩ :=
        List.ne_and_not_mem_of_not_mem_cons noNewline
      rw [List.cons_append, splitLines_cons_of_ne (Ne.symm isOther),
        inductionHypothesis restOther]

/-- Lines with their newlines are cut into themselves. -/
theorem splitLines_flatten_append
    {lines : List (List UInt8)}
    (areLines : ∀ line ∈ lines, IsLine line)
    (rest : List UInt8) :
    splitLines (lines.flatten ++ rest) =
      (lines ++ (splitLines rest).1, (splitLines rest).2) := by
  induction lines with
  | nil => rfl
  | cons line others inductionHypothesis =>
      have ⟨isLine, othersAre⟩ := List.forall_mem_cons.mp areLines
      rw [List.flatten_cons, List.append_assoc, splitLines_append,
        splitLines_line isLine, List.nil_append,
        inductionHypothesis othersAre]
      rfl

/-- A beginning that ends before the newline of a line completes only lines
before it. -/
theorem splitLines_of_cut
    {lines : List (List UInt8)}
    {last cut more : List UInt8}
    (areLines : ∀ line ∈ lines, IsLine line)
    (isLast : IsLine last)
    (isPrefix : cut <+: lines.flatten ++ last ++ more)
    (ends : cut.length < (lines.flatten ++ last).length) :
    (splitLines cut).1 <+: lines := by
  obtain ⟨body, rfl, noNewline⟩ := isLast
  have shorter : cut <+: lines.flatten ++ body := by
    apply List.prefix_of_prefix_length_le isPrefix
    · rw [List.append_assoc, List.append_assoc, ← List.append_assoc _ body]
      exact List.prefix_append _ _
    · simp only [List.length_append, List.length_singleton] at ends ⊢
      omega
  have ⟨rest, isWhole⟩ := shorter
  have split := splitLines_append cut rest
  rw [isWhole, splitLines_flatten_append areLines,
    splitLines_of_not_mem noNewline, List.append_nil] at split
  exact ⟨_, (congrArg Prod.fst split).symm⟩

namespace Streaming

variable
  {runtime : ProviderRuntime}
  {model : ModelConfig}
  {message : Message}
  (streaming : Streaming runtime message)

theorem splitLines_bytes :
    splitLines streaming.bytes =
      (streaming.lines.map Prod.fst ++ [streaming.doneLine] ++
        streaming.trailing, []) := by
  have areLines : ∀ line ∈ streaming.lines.map Prod.fst ++
      [streaming.doneLine] ++ streaming.trailing, IsLine line := by
    intro line isLine
    simp only [List.mem_append, List.mem_map, List.mem_singleton] at isLine
    obtain (⟨carrying, isCarrying, rfl⟩ | rfl) | isTrailing := isLine
    · exact streaming.isLine carrying isCarrying
    · exact streaming.isDoneLine
    · exact streaming.trailingLine line isTrailing
  have split := splitLines_flatten_append areLines []
  simpa [bytes, complete, splitLines] using split

/-- The lines of a stream take its events and note that it is done. -/
theorem decodeLines_bytes :
    Does
      (fun stream =>
        { stream.takeAll runtime model streaming.events with done := true })
      (decodeLines runtime model (splitLines streaming.bytes).1) := by
  have trailingEvents : (streaming.trailing.map
      fun line => (line, (none : Option ChatEvent))).filterMap Prod.snd =
        [] := by
    simp [List.filterMap_map]
  have trailingLines : (streaming.trailing.map
      fun line => (line, (none : Option ChatEvent))).map Prod.fst =
        streaming.trailing := by
    rw [List.map_map]
    exact List.map_id _
  have trailingDoes := @decodeLines_does runtime model
    (streaming.trailing.map fun line => (line, none))
    (by simpa using streaming.trailingCarries)
  rw [trailingEvents, trailingLines] at trailingDoes
  have doneDoes : Does (fun stream => { stream with done := true })
      (decodeLines runtime model [streaming.doneLine]) :=
    (decodeDoneLine_does streaming.isDone).bind Does.pure
  have linesDoes := @decodeLines_does runtime model _ streaming.carries
  rw [splitLines_bytes, decodeLines_append, decodeLines_append]
  exact (linesDoes.bind doneDoes).bind trailingDoes

/-- The loop puts a streamed message together again, however its bytes are cut
into chunks, and returns it when a charge is left. -/
theorem inferChat_eq
    (noEmpty : runtime.parse "" = none)
    {chunks : List (List UInt8)}
    (isStream : chunks.flatten = streaming.bytes) :
    (inferChat runtime model chunks).1 =
      match (ChatStream.start.takeAll runtime model streaming.events).charge with
      | none => .error .provider
      | some charge => .ok (message, charge) := by
  have small : chunks.flatten.length ≤ ChatStream.maxBytes := by
    rw [isStream]
    exact streaming.small
  have does := @decodeLines_bytes runtime model message streaming
  rw [inferChat_of_le runtime model small, isStream]
  unfold inferLines
  dsimp only
  rw [does.answer_eq, does.after_eq]
  exact streaming.assembles.finish_eq model noEmpty

/-- A beginning of a stream that ends before the newline of the line that says
that it is done is an error. -/
theorem inferChat_of_cut
    {chunks : List (List UInt8)}
    (isPrefix : chunks.flatten <+: streaming.bytes)
    (ends : chunks.flatten.length < streaming.complete.length) :
    (inferChat runtime model chunks).1 = .error .provider := by
  have small : chunks.flatten.length ≤ ChatStream.maxBytes :=
    isPrefix.length_le.trans streaming.small
  have areLines : ∀ line ∈ streaming.lines.map Prod.fst, IsLine line := by
    simpa using streaming.isLine
  have first := splitLines_of_cut areLines streaming.isDoneLine isPrefix ends
  rw [List.prefix_iff_eq_take, ← List.map_take] at first
  generalize (splitLines chunks.flatten).1.length = count at first
  have does := @decodeLines_does runtime model (streaming.lines.take count)
    fun line isLine => streaming.carries line (List.mem_of_mem_take isLine)
  rw [inferChat_of_le runtime model small, first]
  unfold inferLines
  dsimp only
  rw [does.answer_eq, does.after_eq]
  change ChatStream.finish runtime _ = _
  unfold ChatStream.finish
  rw [ChatStream.done_takeAll]
  exact if_pos (.inr Bool.false_ne_true)

end Streaming

/-- The loop returns exactly the message that was streamed, with the charge of
the last usage, and no beginning of the stream is taken for it. -/
theorem streaming_inferred
    {runtime : ProviderRuntime}
    {model : ModelConfig}
    {message : Message}
    {charge : Int64}
    (noEmpty : runtime.parse "" = none)
    (streaming : Streaming runtime message)
    (reports : ReportsLast runtime model charge streaming.events) :
    (∀ chunks : List (List UInt8), chunks.flatten = streaming.bytes →
      (inferChat runtime model chunks).1 = .ok (message, charge)) ∧
      ∀ chunks : List (List UInt8), chunks.flatten <+: streaming.bytes →
        chunks.flatten.length < streaming.complete.length →
        (inferChat runtime model chunks).1 = .error .provider := by
  constructor
  · intro chunks isStream
    rw [streaming.inferChat_eq noEmpty isStream,
      ChatStream.charge_takeAll runtime model reports]
  · intro chunks isPrefix ends
    exact streaming.inferChat_of_cut isPrefix ends

/-! ## Usages after the charged one -/

section Usages

variable
  {runtime : ProviderRuntime}
  {model : ModelConfig}
  {message : Message}
  {charge : Int64}

/-- No event after one with a usage object has a usage, not even `null`. -/
def EndsWithUsageObject (events : List ChatEvent) : Prop :=
  ∃ before event after members, events = before ++ event :: after ∧
    event.usage = some (.object members) ∧
    ∀ later ∈ after, later.usage = none

/-- A usage that is no object has no charge. -/
theorem usageCharge_of_not_object
    (noCost : runtime.costMicros .null = none)
    {usage : Json.Value}
    (noObject : ∀ members, usage ≠ .object members) :
    usageCharge runtime model usage = none := by
  have absent : ∀ key, usage.index key = .null := by
    intro key
    cases usage with
    | object members => exact absurd rfl (noObject members)
    | _ => rfl
  have noTokens : tokenCharge model usage = none := by
    simp [tokenCharge, Json.Value.firstI64, absent, Json.Value.asI64]
  unfold usageCharge
  rw [absent, noCost, ite_self, noTokens]
  rfl

/-- A usage that is no object takes the charge away. -/
theorem charge_takeAll_of_not_object
    (noCost : runtime.costMicros .null = none)
    {events : List ChatEvent}
    (reported : ∃ event ∈ events, event.usage ≠ none)
    (noObject : ∀ event ∈ events, ∀ members,
      event.usage ≠ some (.object members))
    (stream : ChatStream) :
    (stream.takeAll runtime model events).charge = none := by
  induction events generalizing stream with
  | nil => exact absurd reported (by simp)
  | cons event rest inductionHypothesis =>
      obtain ⟨first, others⟩ := List.forall_mem_cons.mp noObject
      rw [ChatStream.takeAll_cons]
      by_cases later : ∃ event ∈ rest, event.usage ≠ none
      · exact inductionHypothesis later others _
      · have noLater : ∀ event ∈ rest, event.usage = none := by
          intro event isLater
          by_contra hasUsage
          exact later ⟨event, isLater, hasUsage⟩
        rw [ChatStream.charge_takeAll_of_none runtime model noLater]
        obtain ⟨reporting, member, hasUsage⟩ := reported
        obtain rfl : reporting = event := by
          rcases List.mem_cons.mp member with same | isLater
          · exact same
          · exact absurd (noLater reporting isLater) hasUsage
        obtain ⟨usage, isUsage⟩ := Option.ne_none_iff_exists'.mp hasUsage
        unfold ChatStream.take
        rw [isUsage]
        exact usageCharge_of_not_object noCost fun members isObject =>
          first members (isUsage.trans (congrArg some isObject))

/-- When the one usage object is the last usage, its charge is reported
last. -/
theorem ReportsOnce.reportsLast
    {events : List ChatEvent}
    (once : ReportsOnce runtime model charge events)
    (ends : EndsWithUsageObject events) :
    ReportsLast runtime model charge events := by
  obtain ⟨before, event, after, members, rfl, isUsage, isCharge, others⟩ :=
    once
  obtain ⟨earlier, last, later, lastMembers, split, isLast, noLater⟩ := ends
  have member : last ∈ before ++ event :: after := by
    rw [split]
    exact List.mem_append_right _ List.mem_cons_self
  obtain rfl : last = event := by
    by_contra different
    refine others last ?_ lastMembers isLast
    simpa [different] using member
  exact ⟨earlier, last, later, _, split, isUsage, isCharge, noLater⟩

/-- A stream with exactly one usage object, whose charge can be computed, is
put together again with this charge, and no beginning of it is taken for it,
exactly when no event after that usage has a usage, not even `null`. -/
theorem streaming_inferred_iff
    (noEmpty : runtime.parse "" = none)
    (noCost : runtime.costMicros .null = none)
    (streaming : Streaming runtime message)
    (once : ReportsOnce runtime model charge streaming.events) :
    ((∀ chunks : List (List UInt8), chunks.flatten = streaming.bytes →
        (inferChat runtime model chunks).1 = .ok (message, charge)) ∧
      ∀ chunks : List (List UInt8), chunks.flatten <+: streaming.bytes →
        chunks.flatten.length < streaming.complete.length →
        (inferChat runtime model chunks).1 = .error .provider) ↔
      EndsWithUsageObject streaming.events := by
  constructor
  · rintro ⟨inferred, -⟩
    have result := inferred [streaming.bytes] List.flatten_singleton
    rw [streaming.inferChat_eq noEmpty List.flatten_singleton] at result
    obtain ⟨before, event, after, members, split, isUsage, -, others⟩ := once
    refine ⟨before, event, after, members, split, isUsage, ?_⟩
    intro later isLater
    by_contra hasUsage
    have lost : (ChatStream.start.takeAll runtime model
        streaming.events).charge = none := by
      rw [split, ChatStream.takeAll_append, ChatStream.takeAll_cons]
      exact charge_takeAll_of_not_object noCost ⟨later, isLater, hasUsage⟩
        (fun other isOther => others other (List.mem_append_right _ isOther)) _
    rw [lost] at result
    cases result
  · intro ends
    exact streaming_inferred noEmpty streaming (once.reportsLast ends)

end Usages

/-! ## A stream with a text and a call -/

/-- An event with a whole call, which is the reason to finish. -/
def callEvent : Json.Value :=
  .object [("choices", .array [.object [
    ("delta", .object [("tool_calls", .array [.object [
      ("function", .object [
        ("arguments", .string "\x7b\x7d"), ("name", .string "f")]),
      ("id", .string "c"),
      ("index", .number (.posInt 3))]])]),
    ("finish_reason", .string "tool_calls")]])]

/-- An event with a usage. -/
def usageEvent : Json.Value :=
  .object [("usage", .object [
    ("completion_tokens", .number (.posInt 1)),
    ("prompt_tokens", .number (.posInt 1))])]

/-- An event that has no usage to report. -/
def nullUsageEvent : Json.Value :=
  .object [("usage", .null)]

/-- A runtime that reads these events. -/
def sampleRuntime : ProviderRuntime where
  parse text :=
    if text = "\x7b\x7d" then some (.object [])
    else [pieceEvent, callEvent, usageEvent, nullUsageEvent].find?
      (·.compact = text)
  costMicros _ := none

/-- The line of an event. -/
def dataLine (value : Json.Value) : List UInt8 :=
  Percent.ascii ("data: " ++ value.compact ++ "\n")

/-- What the events carry. -/
def pieceCarried : ChatEvent where
  content := some "x"
  fragments := []
  finishes := false
  usage := none

def callCarried : ChatEvent where
  content := none
  fragments := [(3, ⟨"c", "f", "\x7b\x7d"⟩)]
  finishes := true
  usage := none

def usageCarried (usage : Json.Value) : ChatEvent where
  content := none
  fragments := []
  finishes := false
  usage := some usage

/-- The message of the events. -/
def sampleMessage : Message where
  role := "assistant"
  content := "x"
  calls := [{ id := "c", name := "f", arguments := .object [] }]
  callId := ""

section Samples

variable
  {members : List (String × Json.Value)}
  (plain : (Json.write (.object members)).all
    (fun character => character.toNat < 128 ∧ character ≠ '\n') = true)

include plain

/-- The line of an object with plain characters is one line. -/
theorem isLine_dataLine : IsLine (dataLine (.object members)) := by
  refine ⟨Percent.ascii ("data: " ++ (Json.Value.object members).compact),
    ?_, ?_⟩
  · simp [dataLine, Percent.ascii]
  · unfold Percent.ascii
    rw [String.toList_append, Json.Value.toList_compact, List.map_append,
      List.mem_append, not_or]
    refine ⟨by decide, fun isNewline => ?_⟩
    have ⟨character, isCharacter, isByte⟩ := List.mem_map.mp isNewline
    have ⟨small, other⟩ :=
      of_decide_eq_true (List.all_eq_true.mp plain character isCharacter)
    have isTen : character.toNat % 256 = 10 :=
      congrArg UInt8.toNat isByte
    rw [Nat.mod_eq_of_lt (by omega)] at isTen
    exact other (Char.ext (UInt32.toNat_inj.mp isTen))

/-- It says what the compact text of the object is. -/
theorem isData_dataLine :
    IsData (dataLine (.object members))
      (Json.Value.object members).compact := by
  have isAscii : ∀ character ∈
      ("data: " ++ (Json.Value.object members).compact ++ "\n").toList,
      character.toNat < 128 := by
    have start : "data: ".toList.all (fun character => character.toNat < 128) =
        true := by
      decide
    have newline : "\n".toList.all (fun character => character.toNat < 128) =
        true := by
      decide
    rw [String.toList_append, String.toList_append, Json.Value.toList_compact]
    intro character isCharacter
    rcases List.mem_append.mp isCharacter with isText | isEnd
    · rcases List.mem_append.mp isText with isStart | isObject
      · exact of_decide_eq_true (List.all_eq_true.mp start character isStart)
      · exact (of_decide_eq_true
          (List.all_eq_true.mp plain character isObject)).1
    · exact of_decide_eq_true (List.all_eq_true.mp newline character isEnd)
  refine ⟨_, " " ++ (Json.Value.object members).compact,
    Percent.fromUTF8?_ascii isAscii, ?_, ?_⟩
  · have trimmed := @Text.trim_of_solid []
      ("ata: ".toList ++ '\x7b' :: Json.writeMembers members) ['\n'] 'd'
      '\x7d' rfl (by decide) rfl rfl
    have characters :
        ("data: " ++ (Json.Value.object members).compact ++ "\n").toList =
          [] ++ ('d' :: (("ata: ".toList ++ '\x7b' ::
            Json.writeMembers members) ++ ['\x7d']) ++ ['\n']) := by
      rw [String.toList_append, String.toList_append,
        Json.Value.toList_compact]
      rfl
    have dataCharacters :
        ("data:" ++ (" " ++ (Json.Value.object members).compact)).toList =
          'd' :: (("ata: ".toList ++ '\x7b' :: Json.writeMembers members) ++
            ['\x7d']) := by
      rw [String.toList_append, String.toList_append,
        Json.Value.toList_compact]
      rfl
    rw [← characters, ← dataCharacters, String.ofList_toList,
      String.ofList_toList] at trimmed
    exact trimmed
  · have trimmed := @Text.trim_of_solid [' '] (Json.writeMembers members) []
      '\x7b' '\x7d' (by decide) rfl rfl rfl
    simpa [Json.Value.compact, Json.write] using trimmed

/-- The line of an object that is read carries the event of the object. -/
theorem carries_dataLine
    {event : ChatEvent}
    (parsed : sampleRuntime.parse (Json.Value.object members).compact =
      some (.object members))
    (isEvent : IsEvent (.object members) event) :
    IsLine (dataLine (.object members)) ∧
      Carries sampleRuntime (dataLine (.object members)) (some event) := by
  have first : (Json.Value.object members).compact.toList.head? =
      some '\x7b' := by
    rw [Json.Value.toList_compact]
    rfl
  refine ⟨isLine_dataLine plain,
    .event (isData_dataLine plain) ?_ ?_ parsed isEvent⟩
  · intro isBlank
    rw [isBlank] at first
    cases first
  · intro isDone
    rw [isDone] at first
    revert first
    decide

end Samples

theorem parse_of_find
    {value : Json.Value}
    {rest : List Char}
    (isObject : Json.write value = '\x7b' :: '"' :: rest)
    {event : Json.Value}
    (found : [pieceEvent, callEvent, usageEvent, nullUsageEvent].find?
      (fun event => Json.write event = Json.write value) = some event) :
    sampleRuntime.parse value.compact = some event := by
  have notEmpty : value.compact ≠ "\x7b\x7d" := by
    intro isEmpty
    have characters := congrArg String.toList isEmpty
    rw [Json.Value.toList_compact, isObject] at characters
    revert characters
    simp
  unfold sampleRuntime
  dsimp only
  rw [if_neg notEmpty, ← found]
  congr 1
  funext other
  apply decide_eq_decide.mpr
  constructor
  · intro same
    have characters := congrArg String.toList same
    rwa [Json.Value.toList_compact, Json.Value.toList_compact] at characters
  · exact congrArg String.ofList

theorem carries_piece :
    IsLine (dataLine pieceEvent) ∧
      Carries sampleRuntime (dataLine pieceEvent) (some pieceCarried) := by
  apply carries_dataLine (by decide) (parse_of_find rfl rfl)
  exact ⟨rfl, rfl, ⟨rfl, .nil, by decide⟩⟩

theorem carries_call :
    IsLine (dataLine callEvent) ∧
      Carries sampleRuntime (dataLine callEvent) (some callCarried) := by
  apply carries_dataLine (by decide +kernel) (parse_of_find rfl rfl)
  refine ⟨rfl, rfl, ⟨rfl, .cons ?_ .nil, by decide⟩⟩
  exact ⟨⟨3, rfl, rfl⟩, rfl, rfl, rfl⟩

theorem carries_usage :
    IsLine (dataLine usageEvent) ∧
      Carries sampleRuntime (dataLine usageEvent)
        (some (usageCarried (usageEvent.index "usage"))) := by
  apply carries_dataLine (by decide) (parse_of_find rfl rfl)
  exact ⟨rfl, rfl, ⟨rfl, rfl, rfl⟩⟩

theorem carries_nullUsage :
    IsLine (dataLine nullUsageEvent) ∧
      Carries sampleRuntime (dataLine nullUsageEvent)
        (some (usageCarried .null)) := by
  apply carries_dataLine (by decide) (parse_of_find rfl rfl)
  exact ⟨rfl, rfl, ⟨rfl, rfl, rfl⟩⟩

/-- The line that says that a stream is done. -/
def doneLine : List UInt8 :=
  Percent.ascii "data: [DONE]\n"

/-- The lines of the two usages, in either order. -/
def usageLines (nullLast : Bool) : List (List UInt8 × Option ChatEvent) :=
  let usage := (dataLine usageEvent,
    some (usageCarried (usageEvent.index "usage")))
  let null := (dataLine nullUsageEvent, some (usageCarried .null))
  if nullLast then [usage, null] else [null, usage]

/-- The lines of the events. -/
def sampleLines (nullLast : Bool) : List (List UInt8 × Option ChatEvent) :=
  [(dataLine pieceEvent, some pieceCarried),
    (dataLine callEvent, some callCarried)] ++ usageLines nullLast

theorem carries_sampleLines (nullLast : Bool) :
    ∀ line ∈ sampleLines nullLast,
      IsLine line.1 ∧ Carries sampleRuntime line.1 line.2 := by
  have usages : ∀ line ∈ usageLines nullLast,
      IsLine line.1 ∧ Carries sampleRuntime line.1 line.2 := by
    cases nullLast
    · simpa [usageLines] using ⟨carries_nullUsage, carries_usage⟩
    · simpa [usageLines] using ⟨carries_usage, carries_nullUsage⟩
  unfold sampleLines
  rw [List.forall_mem_append, List.forall_mem_cons, List.forall_mem_singleton]
  dsimp only
  exact ⟨⟨carries_piece, carries_call⟩, usages⟩

theorem assembles_sampleLines (nullLast : Bool) :
    Assembles sampleRuntime ((sampleLines nullLast).filterMap Prod.snd) [3]
      sampleMessage where
  role := rfl
  callId := rfl
  text := by
    cases nullLast <;>
      simp [sampleLines, usageLines, pieceCarried, callCarried, usageCarried,
        sampleMessage]
  increasing := List.pairwise_singleton _ _
  assigned := by
    cases nullLast <;>
      simp [sampleLines, usageLines, fragmentsOf, pieceCarried, callCarried,
        usageCarried]
  calls := by cases nullLast <;> exact .cons ⟨rfl, rfl, rfl⟩ .nil
  finishes := ⟨callCarried, by simp [sampleLines], rfl⟩

theorem length_dataLine (value : Json.Value) :
    (dataLine value).length = (Json.write value).length + 7 := by
  simp [dataLine, Percent.ascii]

theorem isLine_doneLine : IsLine doneLine :=
  ⟨doneLine.dropLast, by decide, by decide⟩

theorem isData_doneLine : IsData doneLine "[DONE]" :=
  ⟨"data: [DONE]\n", " [DONE]", by decide, by decide, by decide⟩

/-- The events of the sample are short. -/
theorem length_sampleEvents_le :
    (Json.write callEvent).length ≤ 1000 ∧
      (Json.write pieceEvent).length ≤ 1000 ∧
        (Json.write usageEvent).length ≤ 1000 ∧
          (Json.write nullUsageEvent).length ≤ 1000 ∧
            doneLine.length ≤ 1000 := by
  refine ⟨?_, ?_, ?_, ?_, ?_⟩ <;> decide +kernel

theorem small_sampleLines (nullLast : Bool) :
    (((sampleLines nullLast).map Prod.fst).flatten ++ doneLine ++
      ([] : List (List UInt8)).flatten).length ≤ ChatStream.maxBytes := by
  obtain ⟨call, piece, usage, null, done⟩ := length_sampleEvents_le
  cases nullLast
  · simp [sampleLines, usageLines, length_dataLine, ChatStream.maxBytes]
    omega
  · simp [sampleLines, usageLines, length_dataLine, ChatStream.maxBytes]
    omega

/-- The message as a stream of its events and the two usages. -/
def sampleStreaming
    (nullLast : Bool) : Streaming sampleRuntime sampleMessage where
  lines := sampleLines nullLast
  doneLine := doneLine
  trailing := []
  indices := [3]
  isLine line isLine := (carries_sampleLines nullLast line isLine).1
  carries line isLine := (carries_sampleLines nullLast line isLine).2
  isDoneLine := isLine_doneLine
  isDone := isData_doneLine
  trailingLine _ isTrailing := absurd isTrailing List.not_mem_nil
  trailingCarries _ isTrailing := absurd isTrailing List.not_mem_nil
  assembles := assembles_sampleLines nullLast
  small := small_sampleLines nullLast

/-- The stream is put together again when the charged usage is the last. -/
theorem streaming_inferred_sample :
    (inferChat sampleRuntime chatModel [(sampleStreaming false).bytes]).1 =
        .ok (sampleMessage, 3) ∧
      (inferChat sampleRuntime chatModel
        [(sampleStreaming false).complete.dropLast]).1 = .error .provider := by
  have once : ReportsOnce sampleRuntime chatModel 3
      (sampleStreaming false).events := by
    refine ⟨[pieceCarried, callCarried, usageCarried .null],
      usageCarried (usageEvent.index "usage"), [], _, rfl, rfl, by decide, ?_⟩
    simp [pieceCarried, callCarried, usageCarried]
  have ends : EndsWithUsageObject (sampleStreaming false).events :=
    ⟨[pieceCarried, callCarried, usageCarried .null],
      usageCarried (usageEvent.index "usage"), [], _, rfl, rfl, by simp⟩
  have inferred :=
    (streaming_inferred_iff rfl rfl (sampleStreaming false) once).mpr ends
  constructor
  · apply inferred.1
    exact List.flatten_singleton
  · apply inferred.2
    · rw [List.flatten_singleton]
      exact (List.dropLast_prefix _).trans (List.prefix_append _ _)
    · rw [List.flatten_singleton, List.length_dropLast]
      apply Nat.sub_one_lt
      simp [Streaming.complete, sampleStreaming, doneLine, Percent.ascii]

/-- The only event with a usage object is not the last with a usage: the charge
is gone. -/
theorem streaming_not_inferred :
    ReportsOnce sampleRuntime chatModel 3 (sampleStreaming true).events ∧
      (inferChat sampleRuntime chatModel [(sampleStreaming true).bytes]).1 =
        .error .provider := by
  constructor
  · refine ⟨[pieceCarried, callCarried],
      usageCarried (usageEvent.index "usage"), [usageCarried .null], _, rfl,
      rfl, by decide, ?_⟩
    simp [pieceCarried, callCarried, usageCarried]
  · rw [(sampleStreaming true).inferChat_eq rfl List.flatten_singleton]
    rfl

end AsystantGateway
