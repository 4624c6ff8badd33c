import AsystantGateway.Provider.Streaming
import AsystantGateway.Service.Frames

/-!
# The answer of a model test

A test reads the events of its own turn as a client would. The content of the
completed message, cut to 8192 characters, is its answer. A failed turn, an event
that cannot be read and a stream without a terminal event are failures of the
provider.

Pieces of text may be dropped on the way to the test. Its answer comes from the
message and does not miss them.
-/

namespace AsystantGateway

open Json

namespace Playground

/-- The first characters of a text. -/
def cut (text : String) : String :=
  String.ofList (text.toList.take 8192)

/-- What a data line tells a test: its answer, or nothing yet. -/
def readLine
    (round : String → Option String)
    (line : String) : Except AppError (Option String) :=
  match (readJson round line).map Value.sorted with
  | none => .error .provider
  | some event =>
      if (event.index "type").asStr = some "failed" then .error .provider
      else if (event.index "type").asStr = some "completed" then
        let content := ((event.index "message").index "content").asStr
        .ok (some (cut (content.getD "Completed without text.")))
      else .ok none

/-- What some data lines tell a test. -/
def readLines
    (round : String → Option String) :
    List String → Except AppError (Option String)
  | [] => .ok none
  | line :: rest =>
      match readLine round line with
      | .ok none => readLines round rest
      | told => told

/-- The result of a test that takes some chunks from its channel. -/
def reply
    (round : String → Option String) : List String → Except AppError String
  | [] => .error .provider
  | chunk :: rest =>
      match readLines round (dataLines chunk) with
      | .error error => .error error
      | .ok (some text) => .ok text
      | .ok none => reply round rest

/-- A test fails only as its provider does. -/
theorem error_of_readLine
    {round : String → Option String}
    {line : String}
    {error : AppError}
    (failed : readLine round line = .error error) :
    error = .provider := by
  unfold readLine at failed
  split at failed
  · cases failed
    rfl
  · split at failed
    · cases failed
      rfl
    · split at failed
      · cases failed
      · cases failed

theorem error_of_readLines
    {round : String → Option String}
    {lines : List String}
    {error : AppError}
    (failed : readLines round lines = .error error) :
    error = .provider := by
  induction lines with
  | nil => cases failed
  | cons line rest inductionHypothesis =>
      rw [readLines] at failed
      split at failed
      · exact inductionHypothesis failed
      · exact error_of_readLine failed

theorem error_of_reply
    {round : String → Option String}
    {chunks : List String}
    {error : AppError}
    (failed : reply round chunks = .error error) :
    error = .provider := by
  induction chunks with
  | nil =>
      cases failed
      rfl
  | cons chunk rest inductionHypothesis =>
      rw [reply] at failed
      split at failed
      · rename_i isError
        cases failed
        exact error_of_readLines isError
      · cases failed
      · exact inductionHypothesis failed

section Events

variable {round : String → Option String}

/-- What an event tells a test. -/
def told : StreamEvent → Except AppError (Option String)
  | .textDelta _ => .ok none
  | .completed message => .ok (some (cut message.content))
  | .failed => .error .provider

/-- The parts of an event that a test looks at stay where they are when it is
read. -/
theorem sorted_completed (message : Message) :
    (StreamEvent.completed message).toValue.sorted =
      .object
        [("message", .object
          [("call_id", .string message.callId),
            ("calls", (Value.ofList ToolCall.toValue message.calls).sorted),
            ("content", .string message.content),
            ("role", .string message.role)]),
          ("type", .string "completed")] := by
  have event : ["message", "type"].Pairwise (· < ·) := by decide
  have members : ["call_id", "calls", "content", "role"].Pairwise (· < ·) := by
    decide
  unfold StreamEvent.toValue Message.toValue
  rw [Value.sorted_object_of_pairwise (by exact event), List.map_cons,
    Value.sorted_object_of_pairwise (by exact members)]
  rfl

theorem readLine_event
    {event : StreamEvent}
    (readable : event.Readable round) :
    readLine round event.toValue.compact = told event := by
  unfold readLine
  rw [readJson_event readable, Option.map_some]
  cases event with
  | completed message => rw [sorted_completed]; rfl
  | textDelta text =>
      have ordered : ["text", "type"].Pairwise (· < ·) := by decide
      rw [StreamEvent.toValue, Value.sorted_object_of_pairwise (by exact ordered)]
      rfl
  | failed =>
      have ordered : ["failure", "type"].Pairwise (· < ·) := by decide
      rw [StreamEvent.toValue, Value.sorted_object_of_pairwise (by exact ordered)]
      rfl

theorem readLines_frame
    {event : StreamEvent}
    (readable : event.Readable round) :
    readLines round (dataLines event.frame) = told event := by
  rw [dataLines_frame readable, readLines, readLine_event readable]
  cases event <;> rfl

/-- Pieces of text tell a test nothing. -/
theorem reply_textDeltas
    (pieces : List String)
    (rest : List StreamEvent) :
    reply round ((pieces.map StreamEvent.textDelta ++ rest).map
        StreamEvent.frame) =
      reply round (rest.map StreamEvent.frame) := by
  induction pieces with
  | nil => rfl
  | cons piece pieces inductionHypothesis =>
      have readable : (StreamEvent.textDelta piece).Readable round := trivial
      rw [List.map_cons, List.cons_append, List.map_cons, reply,
        readLines_frame readable]
      exact inductionHypothesis

/-- What a test makes of a terminal event. -/
def outcome : StreamEvent → Except AppError String
  | .completed message => .ok (cut message.content)
  | _ => .error .provider

/-- What is received before the terminal event does not change what it tells. -/
theorem reply_terminal
    {event : StreamEvent}
    (pieces : List String)
    (terminal : event.IsTerminal)
    (readable : event.Readable round) :
    reply round ((pieces.map StreamEvent.textDelta ++ [event]).map
        StreamEvent.frame) =
      outcome event := by
  rw [reply_textDeltas, List.map_singleton, reply, readLines_frame readable]
  cases event with
  | textDelta text => exact terminal.elim
  | completed message => rfl
  | failed => rfl

end Events
end Playground

/-! ## The events of a test's turn -/

namespace TurnTask

variable
  {runtime : ProviderRuntime}
  {model : ModelConfig}
  {task : TurnTask}
  {actions : List TaskStep}
  {event : StreamEvent}

/-- An ended task has produced its text and then its terminal event. -/
theorem events_of_ended
    (ended : task.progress = .ended event) :
    task.events = task.stream.deltas.map .textDelta ++ [event] := by
  simp [TurnTask.events, TurnTask.terminal, ended]

/-- A task that is consistent ends with a terminal event. -/
theorem Consistent.isTerminal
    (consistent : task.Consistent model)
    (ended : task.progress = .ended event) :
    event.IsTerminal := by
  have content := consistent.2
  rw [ended] at content
  cases event with
  | textDelta text => exact content
  | completed message => trivial
  | failed => trivial

/-- What a client has received of a drained task: pieces of text, and the
terminal event unless it was dropped. -/
theorem received_of_drained
    (reached : (turnTask runtime model).run actions = some task)
    (drained : task.Drained)
    (ended : task.progress = .ended event) :
    ∃ pieces : List String,
      task.channel.received = pieces.map .textDelta ∨
        task.channel.received = pieces.map .textDelta ++ [event] := by
  have sublist := (delivers_run reached).1.accepted
  rw [drained.offered, List.take_length, events_of_ended ended,
    ← Channel.received_of_drained drained.unread] at sublist
  obtain ⟨front, back, parts, isFront, isBack⟩ :=
    List.sublist_append_iff.mp sublist
  obtain ⟨pieces, -, rfl⟩ := List.sublist_map_iff.mp isFront
  rcases List.sublist_singleton.mp isBack with rfl | rfl
  · exact ⟨pieces, .inl (by rw [parts, List.append_nil])⟩
  · exact ⟨pieces, .inr parts⟩

end TurnTask

namespace Playground

/-- The result of a test whose channel has delivered these events. -/
def result
    (round : String → Option String)
    (task : TurnTask) : Except AppError String :=
  reply round (task.channel.received.map StreamEvent.frame)

/-- The test has received the message of its turn, and this is the beginning of
the text that the provider gave, whole even where pieces of it were dropped. -/
def Answered
    (model : ModelConfig)
    (task : TurnTask)
    (answer : String) : Prop :=
  ∃ message, task.progress = .ended (.completed message) ∧
    .completed message ∈ task.channel.received ∧
    (model.streams = true →
      message.content = String.join task.stream.deltas) ∧
    answer = cut message.content

section Result

variable
  {runtime : ProviderRuntime}
  {model : ModelConfig}
  {round : String → Option String}
  {actions : List TaskStep}
  {task : TurnTask}
  {event : StreamEvent}

/-- Without the terminal event a test fails. -/
theorem reply_pieces (pieces : List String) :
    reply round ((pieces.map StreamEvent.textDelta).map StreamEvent.frame) =
      .error .provider := by
  have same : reply round ((pieces.map StreamEvent.textDelta ++ []).map
      StreamEvent.frame) = .error .provider := reply_textDeltas pieces []
  rwa [List.append_nil] at same

/-- A test knows the end of its turn or it fails. -/
theorem result_cases
    (reached : (turnTask runtime model).run actions = some task)
    (drained : task.Drained)
    (ended : task.progress = .ended event)
    (readable : event.Readable round) :
    (event ∉ task.channel.received ∧ result round task = .error .provider) ∨
      (event ∈ task.channel.received ∧
        result round task = outcome event) := by
  have terminal := (TurnTask.delivers_run reached).2.isTerminal ended
  unfold result
  obtain ⟨pieces, received | received⟩ :=
    TurnTask.received_of_drained reached drained ended
  · refine .inl ⟨?_, by rw [received, reply_pieces]⟩
    rw [received]
    intro present
    obtain ⟨piece, -, rfl⟩ := List.mem_map.mp present
    exact terminal.elim
  · rw [received, reply_terminal pieces terminal readable]
    exact .inr ⟨by simp, rfl⟩

end Result
end Playground

/-- Model tests answer with what their model said: in every run of the turn of
a test, with any provider and however late the test takes its events, every
failure of the test is a failure of the provider. When the arguments of the
message's calls can be read in its event, the test answers exactly when it has
received the message of a completed turn, and its answer is the beginning of
that message's text. This is the text that the provider gave, whole even where
pieces of it were dropped on the way. A test that keeps up then has the answer
of every completed turn. -/
theorem model_test_answered
    (runtime : ProviderRuntime)
    (model : ModelConfig)
    (round : String → Option String)
    (actions : List TaskStep)
    (task : TurnTask)
    (reached : (turnTask runtime model).run actions = some task)
    (drained : task.Drained) :
    (∀ error, Playground.result round task = .error error →
      error = .provider) ∧
    ((∀ message, task.progress = .ended (.completed message) →
        (StreamEvent.completed message).Readable round) →
      (∀ answer, Playground.result round task = .ok answer ↔
        Playground.Answered model task answer) ∧
      ((turnTask runtime model).EveryStep TurnTask.HasRoom .start actions →
        ∀ message, task.progress = .ended (.completed message) →
          Playground.result round task =
            .ok (Playground.cut message.content))) := by
  refine ⟨fun error failed => Playground.error_of_reply failed,
    fun readable => ?_⟩
  obtain ⟨event, ended⟩ := drained.ended
  obtain ⟨delivers, joined, content⟩ := TurnTask.delivers_run reached
  rw [ended] at content
  have isReadable : event.Readable round := by
    cases event with
    | completed message => exact readable message ended
    | textDelta | failed => trivial
  have cases := Playground.result_cases reached drained ended isReadable
  refine ⟨fun answer => ⟨fun isAnswer => ?_, ?_⟩, ?_⟩
  · -- an answer is only given for a message that was received
    rcases cases with ⟨-, failed⟩ | ⟨present, told⟩
    · rw [failed] at isAnswer
      cases isAnswer
    · rw [told] at isAnswer
      cases event with
      | textDelta | failed => cases isAnswer
      | completed message =>
          cases isAnswer
          exact ⟨message, ended, present,
            fun streams => (content streams).trans joined, rfl⟩
  · rintro ⟨message, isEnd, present, -, rfl⟩
    obtain rfl : event = .completed message := by
      rw [ended] at isEnd
      exact Progress.ended.inj isEnd
    rcases cases with ⟨absent, -⟩ | ⟨-, told⟩
    · exact absurd present absent
    · exact told
  · intro lossless message isEnd
    obtain rfl : event = .completed message := by
      rw [ended] at isEnd
      exact Progress.ended.inj isEnd
    have received : task.channel.received = task.events := by
      rw [Channel.received_of_drained drained.unread,
        delivers.all.mpr lossless, drained.offered, List.take_length]
    rcases cases with ⟨absent, -⟩ | ⟨-, told⟩
    · rw [received, TurnTask.events_of_ended ended] at absent
      exact absurd (List.mem_append_right _ List.mem_cons_self) absent
    · exact told

/-! ## A test that is late -/

/-- An event that ends an answer, with its usage. -/
def stopEvent : Json.Value :=
  .object
    [("choices", .array [.object
        [("delta", .object []), ("finish_reason", .string "stop")]]),
      ("usage", .object
        [("completion_tokens", .number (.posInt 1)),
          ("prompt_tokens", .number (.posInt 1))])]

/-- A runtime that reads pieces of text and the end of an answer. -/
def stopRuntime : ProviderRuntime where
  parse text :=
    if text = pieceEvent.compact then some pieceEvent
    else if text = stopEvent.compact then some stopEvent
    else none
  costMicros _ := none

theorem reads_stopRuntime :
    stopRuntime.parse pieceEvent.compact = some pieceEvent := by
  simp [stopRuntime]

theorem plain_stopEvent :
    (write stopEvent).all
      (fun character => character.toNat < 128 ∧ character ≠ '\n') = true := by
  decide +kernel

theorem apart_stopEvent :
    stopEvent.compact ≠ pieceEvent.compact ∧
      stopEvent.compact ≠ "[DONE]" ∧ stopEvent.compact ≠ "" := by
  decide +kernel

/-- What the event carries. -/
def stopCarried : ChatEvent where
  content := none
  fragments := []
  finishes := true
  usage := some (stopEvent.index "usage")

theorem carries_stopEvent :
    Carries stopRuntime (dataLine stopEvent) (some stopCarried) := by
  obtain ⟨notPiece, notDone, notBlank⟩ := apart_stopEvent
  have isEvent : IsEvent stopEvent stopCarried :=
    ⟨rfl, rfl, ⟨rfl, .nil, by decide⟩⟩
  have reads : stopRuntime.parse stopEvent.compact = some stopEvent := by
    unfold stopRuntime
    dsimp only
    rw [if_neg notPiece, if_pos rfl]
  have isData : IsData (dataLine stopEvent) stopEvent.compact :=
    isData_dataLine plain_stopEvent
  exact .event isData notBlank notDone reads isEvent

/-- The lines that end an answer. -/
def stopLines : List UInt8 :=
  dataLine stopEvent ++ doneLine

/-- The stream when it has ended after a number of pieces. -/
def stopped (count : Nat) : ChatStream :=
  { (burst count).stream with
    received := pieceLine.length * count + stopLines.length
    finished := true
    done := true
    charge := some 3 }

theorem decode_stopLines
    {count : Nat}
    (small : ¬ (burst count).stream.received + stopLines.length >
      ChatStream.maxBytes) :
    (decodeChunk stopRuntime chatModel stopLines).run.run
        (burst count).stream =
      (.ok (), stopped count) := by
  have twoLines : splitLines ((burst count).stream.buffer ++ stopLines) =
      ([dataLine stopEvent, doneLine], []) := by
    have noBuffer : (burst count).stream.buffer = [] := rfl
    have isLine : IsLine (dataLine stopEvent) := isLine_dataLine plain_stopEvent
    rw [noBuffer, List.nil_append, stopLines, splitLines_append,
      splitLines_line isLine, List.nil_append, splitLines_line isLine_doneLine]
    rfl
  have takesStop : Stateful.Does _
      (decodeLine stopRuntime chatModel (dataLine stopEvent)) :=
    decodeLine_does carries_stopEvent
  have takesDone : Stateful.Does _
      (decodeLine stopRuntime chatModel doneLine) :=
    decodeDoneLine_does isData_doneLine
  have does := takesStop.bind (takesDone.bind Stateful.Does.pure)
  have charge : usageCharge stopRuntime chatModel (stopEvent.index "usage") =
      some 3 := by
    decide
  rw [run_decodeChunk stopRuntime chatModel small, twoLines]
  dsimp only
  rw [List.forM_eq_forM, List.forM_cons, List.forM_cons, List.forM_nil,
    does]
  congr 1
  simp [ChatStream.takeLine, ChatStream.take, ChatStream.addUsage,
    ChatStream.addChoice, ChatStream.addFinish, ChatStream.addText,
    ChatStream.addFragments, Gather.addAll, stopCarried, charge]
  rfl

/-- The message of a number of pieces. -/
def piecesMessage (count : Nat) : Message where
  role := "assistant"
  content := String.join (List.replicate count "x")
  calls := []
  callId := ""

theorem finish_stopped (count : Nat) :
    (stopped count).finish stopRuntime = .ok (piecesMessage count, 3) := by
  have noCalls : (stopped count).parts = [] := rfl
  unfold ChatStream.finish
  rw [if_neg (by simp [stopped]), noCalls]
  rfl

/-- A test takes nothing until a number of pieces has come and one more, and
then everything. -/
def lateRun (count : Nat) : List TaskStep :=
  (List.replicate count [.chunk pieceLine, .offer]).flatten ++
    ([.chunk pieceLine, .offer] ++
      (List.replicate count .receive ++
        [.chunk stopLines, .close, .settled (.ok ()), .offer, .receive]))

/-- The task after those steps, when the pieces fill the channel. -/
def lateTask (count : Nat) : TurnTask where
  stream := stopped (count + 1)
  progress := .ended (.completed (piecesMessage (count + 1)))
  offered := count + 2
  channel := ⟨List.replicate count (.textDelta "x") ++
    [.completed (piecesMessage (count + 1))], []⟩

/-- The last piece finds no room. -/
theorem runFrom_dropped
    {count : Nat}
    (fills : count = eventCapacity) :
    (turnTask stopRuntime chatModel).runFrom (burst count)
        [.chunk pieceLine, .offer] =
      some { burst (count + 1) with channel := (burst count).channel } := by
  have decoded : (turnTask stopRuntime chatModel).step (burst count)
      (.chunk pieceLine) = _ :=
    step_burst_chunk reads_stopRuntime (Nat.le_of_eq fills)
  have isNext : (burst (count + 1)).events[count]? =
      some (.textDelta "x") := by
    simp [burst, TurnTask.events, TurnTask.terminal]
  have full : ¬ (burst count).channel.unread.length < eventCapacity := by
    simp [burst, fills]
  have dropped : TurnTask.step stopRuntime chatModel
      { burst (count + 1) with
        offered := count
        channel := (burst count).channel } .offer =
      some { burst (count + 1) with channel := (burst count).channel } :=
    step_offer_of_full stopRuntime chatModel isNext full
  rw [Machine.runFrom_cons, decoded, Option.bind_some, Machine.runFrom_cons]
  exact congrArg (Option.bind · _) dropped

/-- The task when the test has taken the pieces and the answer is settled or
about to be. -/
def lateAt (count : Nat) (stream : ChatStream) (progress : Progress) : TurnTask where
  stream
  progress
  offered := count + 1
  channel := ⟨List.replicate count (.textDelta "x"), []⟩

theorem idle_lateAt
    {count : Nat}
    {stream : ChatStream}
    {progress : Progress}
    (deltas : stream.deltas = List.replicate (count + 1) "x")
    (running : (lateAt count stream progress).terminal = []) :
    (lateAt count stream progress).idle = true := by
  unfold TurnTask.idle TurnTask.events
  rw [running]
  simp [lateAt, deltas]

theorem step_lateAt_stop
    {count : Nat}
    (fills : count = eventCapacity) :
    (turnTask stopRuntime chatModel).step
        (lateAt count (burst (count + 1)).stream .inferring)
        (.chunk stopLines) =
      some (lateAt count (stopped (count + 1)) .inferring) := by
  have few : stopLines.length ≤ 1000 := by
    rw [stopLines, List.length_append, length_dataLine]
    decide +kernel
  have inLimit : ¬ (burst (count + 1)).stream.received + stopLines.length >
      ChatStream.maxBytes := by
    have pieces : pieceLine.length * (count + 1) ≤ 100 * (eventCapacity + 1) :=
      Nat.mul_le_mul (Nat.le_of_lt length_pieceLine) (by rw [fills])
    change ¬ pieceLine.length * (count + 1) + stopLines.length > 2000000
    unfold eventCapacity at pieces
    omega
  have decoded := decode_stopLines inLimit
  have ready : (chatModel.streams &&
      (lateAt count (burst (count + 1)).stream .inferring).idle) = true := by
    rw [idle_lateAt rfl rfl]
    rfl
  rw [turnTask_step, step_chunk_of_decoded rfl ready decoded]
  rfl

/-- The stream ends, and the message reaches the test. -/
theorem runFrom_stop
    {count : Nat}
    (fills : count = eventCapacity) :
    (turnTask stopRuntime chatModel).runFrom
        (lateAt count (burst (count + 1)).stream .inferring)
        [.chunk stopLines, .close, .settled (.ok ()), .offer, .receive] =
      some (lateTask count) := by
  have stops := step_lateAt_stop fills
  have closes : (turnTask stopRuntime chatModel).step
      (lateAt count (stopped (count + 1)) .inferring) .close =
        some (lateAt count (stopped (count + 1))
          (.settling (piecesMessage (count + 1)) 3)) := by
    have ready : (chatModel.streams &&
        (lateAt count (stopped (count + 1)) .inferring).idle) = true := by
      rw [idle_lateAt rfl rfl]
      rfl
    have finished : (lateAt count (stopped (count + 1))
        .inferring).stream.finish stopRuntime = _ :=
      finish_stopped (count + 1)
    rw [turnTask_step, step_close_of_ready rfl ready, finished]
    rfl
  have settles : (turnTask stopRuntime chatModel).step
      (lateAt count (stopped (count + 1))
        (.settling (piecesMessage (count + 1)) 3)) (.settled (.ok ())) =
        some (lateAt count (stopped (count + 1))
          (.ended (.completed (piecesMessage (count + 1))))) := by
    rw [turnTask_step, step_settled_of_idle rfl (idle_lateAt rfl rfl)]
    rfl
  have isNext : (lateAt count (stopped (count + 1))
      (.ended (.completed (piecesMessage (count + 1))))).events[count + 1]? =
        some (.completed (piecesMessage (count + 1))) := by
    simp [lateAt, stopped, burst, TurnTask.events, TurnTask.terminal]
  rw [Machine.runFrom_cons_of_step stops, Machine.runFrom_cons_of_step closes,
    Machine.runFrom_cons_of_step settles]
  have offers : (turnTask stopRuntime chatModel).step
      (lateAt count (stopped (count + 1))
        (.ended (.completed (piecesMessage (count + 1))))) .offer =
        some { lateAt count (stopped (count + 1))
            (.ended (.completed (piecesMessage (count + 1)))) with
          offered := count + 2
          channel := ⟨List.replicate count (.textDelta "x"),
            [.completed (piecesMessage (count + 1))]⟩ } := by
    rw [turnTask_step, step_offer_of_next isNext]
    rfl
  rw [Machine.runFrom_cons_of_step offers]
  rfl

/-- A piece was dropped on the way to the test. -/
theorem run_lateRun
    {count : Nat}
    (fills : count = eventCapacity) :
    (turnTask stopRuntime chatModel).run (lateRun count) =
      some (lateTask count) := by
  have filled := run_burst reads_stopRuntime (Nat.le_of_eq fills)
  have taken := runFrom_receive stopRuntime chatModel
    { burst (count + 1) with channel := (burst count).channel }
  have unread : (burst count).channel.unread.length = count := by
    simp [burst]
  rw [unread] at taken
  unfold lateRun
  rw [Machine.run_append_of_run filled,
    Machine.runFrom_append_of_runFrom (runFrom_dropped fills),
    Machine.runFrom_append_of_runFrom taken]
  exact runFrom_stop fills

theorem model_test_answered_late :
    ∃ task,
      (turnTask stopRuntime chatModel).run (lateRun 128) = some task ∧
        task.channel.received = List.replicate 128 (.textDelta "x") ++
          [.completed (piecesMessage 129)] ∧
        Playground.result some task =
          .ok (String.join (List.replicate 129 "x")) := by
  refine ⟨_, run_lateRun rfl, rfl, ?_⟩
  have drained : (lateTask 128).Drained := by
    refine ⟨⟨_, rfl⟩, ?_, rfl⟩
    simp [lateTask, stopped, burst, TurnTask.events, TurnTask.terminal]
  obtain ⟨-, answered⟩ := model_test_answered stopRuntime chatModel some
    (lateRun 128) _ (run_lateRun rfl) drained
  refine ((answered ?_).1 _).mpr ⟨piecesMessage 129, rfl, ?_, ?_, ?_⟩
  · rintro message isEnd
    cases isEnd
    exact fun _ absent => absurd absent List.not_mem_nil
  · exact List.mem_append_right _ List.mem_cons_self
  · exact fun _ => rfl
  · decide +kernel

end AsystantGateway
