import AsystantGateway.Library.Channel
import AsystantGateway.Library.Machine
import AsystantGateway.Provider.ChatStream

/-!
# The event stream of a turn

The task of a turn decodes the provider's answer, settles the reservation and
ends with one terminal event. It offers every event to a bounded channel without
waiting, and the client takes events from the channel at any time in between.

What the client receives is everything that was produced, in order, exactly when
every offer found room.
-/

namespace AsystantGateway

/-- What a client is told. -/
inductive StreamEvent
  | textDelta (text : String)
  | completed (message : Message)
  | failed

/-- The last event of a stream. -/
def StreamEvent.IsTerminal : StreamEvent → Prop
  | .textDelta _ => False
  | .completed _ => True
  | .failed => True

/-- How far the task of a turn has come. -/
inductive Progress
  | inferring
  | settling (message : Message) (charge : Int64)
  | ended (event : StreamEvent)

/-- A turn's task and its channel. -/
structure TurnTask where
  stream : ChatStream
  progress : Progress
  /-- How many of the events were offered to the channel. -/
  offered : Nat
  channel : Channel StreamEvent

/-- A step of the task, of what it waits for, or of the client. -/
inductive TaskStep
  /-- A chunk of the answer arrives. -/
  | chunk (bytes : List UInt8)
  /-- The streamed answer ends. -/
  | close
  /-- The answer of a format that is not streamed. -/
  | answer (result : Except AppError (Message × Int64))
  /-- The connection fails or the deadline passes. -/
  | fail
  /-- The settlement returns. -/
  | settled (result : Except AppError Unit)
  /-- The next event is offered to the channel. -/
  | offer
  /-- The client takes an event. -/
  | receive

/-- The events that a channel holds. -/
def eventCapacity : Nat := 128

/-- Whether a model's answers are streamed, as chat completions. -/
def ModelConfig.streams (model : ModelConfig) : Bool :=
  model.provider ≠ .anthropic && model.wireApi = .chatCompletions

namespace TurnTask

/-- The task when it is spawned. -/
def start : TurnTask where
  stream := .start
  progress := .inferring
  offered := 0
  channel := .empty

/-- The terminal event, once the task has ended. -/
def terminal (task : TurnTask) : List StreamEvent :=
  match task.progress with
  | .ended event => [event]
  | _ => []

/-- Every event that the task has produced. -/
def events (task : TurnTask) : List StreamEvent :=
  task.stream.deltas.map .textDelta ++ task.terminal

/-- The task goes on when it has offered what it produced. -/
def idle (task : TurnTask) : Bool :=
  task.offered = task.events.length

/-- The task with the result of its inference. -/
def infer
    (task : TurnTask) : Except AppError (Message × Int64) → TurnTask
  | .ok (message, charge) => { task with progress := .settling message charge }
  | .error _ => { task with progress := .ended .failed }

section Step

variable (runtime : ProviderRuntime) (model : ModelConfig)

/-- One step. -/
def step (task : TurnTask) : TaskStep → Option TurnTask
  | .chunk bytes =>
      match task.progress, model.streams && task.idle with
      | .inferring, true =>
          let decoding := decodeChunk runtime model bytes
          let stream := Stateful.after decoding task.stream
          match Stateful.answer decoding task.stream with
          | .ok () => some { task with stream }
          | .error _ => some { task with stream, progress := .ended .failed }
      | _, _ => none
  | .close =>
      match task.progress, model.streams && task.idle with
      | .inferring, true => some (task.infer (task.stream.finish runtime))
      | _, _ => none
  | .answer result =>
      match task.progress, !model.streams && task.idle with
      | .inferring, true => some (task.infer result)
      | _, _ => none
  | .fail =>
      match task.progress, task.idle with
      | .inferring, true => some { task with progress := .ended .failed }
      | _, _ => none
  | .settled result =>
      match task.progress, task.idle with
      | .settling message _, true =>
          match result with
          | .ok () => some { task with progress := .ended (.completed message) }
          | .error _ => some { task with progress := .ended .failed }
      | _, _ => none
  | .offer =>
      match task.events[task.offered]? with
      | none => none
      | some event =>
          some { task with
            offered := task.offered + 1
            channel := task.channel.trySend eventCapacity event }
  | .receive =>
      match task.channel.receive with
      | none => none
      | some channel => some { task with channel }

end Step

end TurnTask

/-- The task of a turn with any provider and any client. -/
def turnTask
    (runtime : ProviderRuntime)
    (model : ModelConfig) : Machine TurnTask TaskStep where
  start := .start
  step := TurnTask.step runtime model

theorem turnTask_step
    (runtime : ProviderRuntime)
    (model : ModelConfig) :
    (turnTask runtime model).step = TurnTask.step runtime model := rfl

namespace TurnTask

/-! ## What one step can do -/

/-- What the task knows of its message: it is the text that was passed on, when
the answer was streamed. -/
def Consistent (model : ModelConfig) (task : TurnTask) : Prop :=
  task.stream.text = String.join task.stream.deltas ∧
    match task.progress with
    | .inferring => True
    | .settling message _ =>
        model.streams = true → message.content = task.stream.text
    | .ended (.completed message) =>
        model.streams = true → message.content = task.stream.text
    | .ended .failed => True
    | .ended (.textDelta _) => False

/-- A task that goes on to another state of its own: it produces further
events, offers none and stays consistent. -/
structure Continues
    (model : ModelConfig)
    (task next : TurnTask) : Prop where
  idle : task.offered = task.events.length
  offered : next.offered = task.offered
  channel : next.channel = task.channel
  events : ∃ produced, next.events = task.events ++ produced
  consistent : task.Consistent model → next.Consistent model

/-- What a step can do: offer the next event, take an event, or let the task
continue. -/
inductive StepCases
    (model : ModelConfig)
    (task : TurnTask) : TaskStep → TurnTask → Prop
  | offer (event : StreamEvent) (isNext : task.events[task.offered]? = some event) :
      StepCases model task .offer { task with
        offered := task.offered + 1
        channel := task.channel.trySend eventCapacity event }
  | receive (channel : Channel StreamEvent)
      (taken : task.channel.receive = some channel) :
      StepCases model task .receive { task with channel }
  | continue (action : TaskStep) (next : TurnTask)
      (notOffer : action ≠ .offer)
      (continues : Continues model task next) :
      StepCases model task action next

section StepCases

variable
  {runtime : ProviderRuntime}
  {model : ModelConfig}
  {task next : TurnTask}

/-- A change of progress alone continues an idle task whose progress was not
the end. -/
theorem continues_of_progress
    {progress : Progress}
    (idle : task.idle = true)
    (running : task.terminal = [])
    (consistent : task.Consistent model →
      Consistent model { task with progress }) :
    Continues model task { task with progress } where
  idle := by simpa [TurnTask.idle] using idle
  offered := rfl
  channel := rfl
  events := ⟨terminal { task with progress }, by
    simp [TurnTask.events, running]⟩
  consistent := consistent

/-- A chunk continues an idle task, which has then passed on what it appended
to the text. -/
theorem continues_of_chunk
    {stream : ChatStream}
    {progress : Progress}
    (idle : task.idle = true)
    (inferring : task.progress = .inferring)
    (advances : task.stream.Advances stream)
    (possible : progress = .inferring ∨ progress = .ended .failed) :
    Continues model task { task with stream, progress } where
  idle := by simpa [TurnTask.idle] using idle
  offered := rfl
  channel := rfl
  events := by
    obtain ⟨pieces, deltas, -⟩ := advances
    refine ⟨pieces.map .textDelta ++ terminal { task with progress }, ?_⟩
    simp [TurnTask.events, terminal, inferring, deltas]
  consistent := by
    obtain ⟨pieces, deltas, text⟩ := advances
    rintro ⟨joined, -⟩
    refine ⟨?_, ?_⟩
    · rw [deltas, text, joined, String.join_append]
    · rcases possible with rfl | rfl
      · trivial
      · trivial

/-- The result of an inference continues an idle task, when the message of a
streamed answer is its text. -/
theorem continues_infer
    {result : Except AppError (Message × Int64)}
    (idle : task.idle = true)
    (inferring : task.progress = .inferring)
    (content : ∀ message charge, result = .ok (message, charge) →
      model.streams = true → message.content = task.stream.text) :
    Continues model task (task.infer result) := by
  have running : task.terminal = [] := by simp [terminal, inferring]
  cases result with
  | error error =>
      apply continues_of_progress idle running
      rintro ⟨joined, -⟩
      exact ⟨joined, trivial⟩
  | ok answer =>
      obtain ⟨message, charge⟩ := answer
      apply continues_of_progress idle running
      rintro ⟨joined, -⟩
      exact ⟨joined, content message charge rfl⟩

theorem step_cases
    {action : TaskStep}
    (taken : task.step runtime model action = some next) :
    StepCases model task action next := by
  cases action with
  | offer =>
      simp only [step] at taken
      split at taken
      case h_1 => cases taken
      case h_2 event isNext =>
        cases taken
        exact .offer event isNext
  | receive =>
      simp only [step] at taken
      split at taken
      case h_1 => cases taken
      case h_2 channel isTaken =>
        cases taken
        exact .receive channel isTaken
  | chunk bytes =>
      apply StepCases.continue _ _ (by simp)
      simp only [step] at taken
      split at taken
      case h_2 => cases taken
      case h_1 inferring ready =>
        have idle := (Bool.and_eq_true_iff.mp ready).2
        have advances := decodeChunk_advancing runtime model bytes task.stream
        split at taken
        case h_1 =>
          cases taken
          exact continues_of_chunk idle inferring advances (.inl inferring)
        case h_2 =>
          cases taken
          exact continues_of_chunk idle inferring advances (.inr rfl)
  | close =>
      apply StepCases.continue _ _ (by simp)
      simp only [step] at taken
      split at taken
      case h_2 => cases taken
      case h_1 inferring ready =>
        cases taken
        apply continues_infer (Bool.and_eq_true_iff.mp ready).2 inferring
        intro message charge finished _
        exact content_of_finish finished
  | answer result =>
      apply StepCases.continue _ _ (by simp)
      simp only [step] at taken
      split at taken
      case h_2 => cases taken
      case h_1 inferring ready =>
        cases taken
        obtain ⟨notStreamed, idle⟩ := Bool.and_eq_true_iff.mp ready
        apply continues_infer idle inferring
        intro message charge _ streamed
        simp [streamed] at notStreamed
  | fail =>
      apply StepCases.continue _ _ (by simp)
      simp only [step] at taken
      split at taken
      case h_2 => cases taken
      case h_1 inferring idle =>
        cases taken
        apply continues_of_progress idle (by simp [terminal, inferring])
        rintro ⟨joined, -⟩
        exact ⟨joined, trivial⟩
  | settled result =>
      apply StepCases.continue _ _ (by simp)
      simp only [step] at taken
      split at taken
      case h_2 => cases taken
      case h_1 message charge settling idle =>
        have running : task.terminal = [] := by simp [terminal, settling]
        split at taken
        case h_1 =>
          cases taken
          apply continues_of_progress idle running
          rintro ⟨joined, content⟩
          rw [settling] at content
          exact ⟨joined, content⟩
        case h_2 =>
          cases taken
          apply continues_of_progress idle running
          rintro ⟨joined, -⟩
          exact ⟨joined, trivial⟩

end StepCases

/-! ## Delivery -/

/-- An offer finds room in the channel. -/
def HasRoom (task : TurnTask) (action : TaskStep) : Prop :=
  action = .offer → task.channel.unread.length < eventCapacity

/-- The channel has accepted some of the events that were offered, and all of
them when nothing was dropped. -/
structure Delivers (task : TurnTask) (lossless : Prop) : Prop where
  bound : task.offered ≤ task.events.length
  accepted : task.channel.accepted.Sublist (task.events.take task.offered)
  all : task.channel.accepted = task.events.take task.offered ↔ lossless

section Delivers

variable
  {runtime : ProviderRuntime}
  {model : ModelConfig}
  {task next : TurnTask}
  {lossless : Prop}

theorem Delivers.offer
    {event : StreamEvent}
    (delivers : task.Delivers lossless)
    (isNext : task.events[task.offered]? = some event) :
    Delivers
      { task with
        offered := task.offered + 1
        channel := task.channel.trySend eventCapacity event }
      (lossless ∧ task.HasRoom .offer) := by
  obtain ⟨inside, -⟩ := List.getElem?_eq_some_iff.mp isNext
  have offeredAfter : task.events.take (task.offered + 1) =
      task.events.take task.offered ++ [event] := by
    rw [List.take_add_one, isNext]
    rfl
  by_cases room : task.channel.unread.length < eventCapacity
  · have acceptedAfter := Channel.accepted_trySend_of_room room event
    refine ⟨inside, ?_, ?_⟩
    · change (task.channel.trySend eventCapacity event).accepted.Sublist
        (task.events.take (task.offered + 1))
      rw [acceptedAfter, offeredAfter]
      exact delivers.accepted.append_right [event]
    · change (task.channel.trySend eventCapacity event).accepted =
        task.events.take (task.offered + 1) ↔ _
      rw [acceptedAfter, offeredAfter, List.append_left_inj, delivers.all]
      exact (and_iff_left fun _ => room).symm
  · have acceptedAfter := Channel.accepted_trySend_of_full room event
    refine ⟨inside, ?_, ?_⟩
    · change (task.channel.trySend eventCapacity event).accepted.Sublist
        (task.events.take (task.offered + 1))
      rw [acceptedAfter, offeredAfter]
      exact delivers.accepted.trans (List.sublist_append_left _ _)
    · change (task.channel.trySend eventCapacity event).accepted =
        task.events.take (task.offered + 1) ↔ _
      rw [acceptedAfter, offeredAfter]
      constructor
      · intro same
        have longer := delivers.accepted.length_le
        rw [same, List.length_append, List.length_singleton] at longer
        omega
      · rintro ⟨-, hasRoom⟩
        exact absurd (hasRoom rfl) room

/-- Taking an event and producing further ones change nothing about what was
accepted of what was offered. -/
theorem Delivers.step
    {action : TaskStep}
    (delivers : task.Delivers lossless)
    (cases : StepCases model task action next) :
    next.Delivers (lossless ∧ task.HasRoom action) := by
  cases cases with
  | offer event isNext => exact delivers.offer isNext
  | receive channel taken =>
      have sameAccepted := Channel.accepted_receive taken
      refine ⟨delivers.bound, ?_, ?_⟩
      · change channel.accepted.Sublist (task.events.take task.offered)
        rw [sameAccepted]
        exact delivers.accepted
      · change channel.accepted = task.events.take task.offered ↔ _
        rw [sameAccepted, delivers.all]
        refine (and_iff_left fun isOffer => ?_).symm
        cases isOffer
  | «continue» _ _ notOffer continues =>
      obtain ⟨produced, events⟩ := continues.events
      have offeredSame : next.events.take next.offered =
          task.events.take task.offered := by
        rw [continues.offered, continues.idle, events, List.take_left,
          List.take_length]
      refine ⟨?_, ?_, ?_⟩
      · rw [continues.offered, events, List.length_append]
        exact Nat.le_add_right_of_le delivers.bound
      · rw [continues.channel, offeredSame]
        exact delivers.accepted
      · rw [continues.channel, offeredSame, delivers.all]
        exact (and_iff_left fun isOffer => absurd isOffer notOffer).symm

/-- Every step keeps the task consistent. -/
theorem Consistent.step
    {action : TaskStep}
    (consistent : task.Consistent model)
    (cases : StepCases model task action next) :
    next.Consistent model := by
  cases cases with
  | offer => exact consistent
  | receive => exact consistent
  | «continue» _ _ _ continues => exact continues.consistent consistent

/-- In every run the channel has accepted all that was offered exactly when
every offer found room. -/
theorem delivers_run
    {actions : List TaskStep}
    (reached : (turnTask runtime model).run actions = some task) :
    task.Delivers
        ((turnTask runtime model).EveryStep HasRoom start actions) ∧
      task.Consistent model := by
  refine Machine.run_induction (motive := fun actions task =>
    task.Delivers
        ((turnTask runtime model).EveryStep HasRoom start actions) ∧
      task.Consistent model) ?_ ?_ reached
  · refine ⟨⟨Nat.le_refl 0, List.Sublist.refl [], ?_⟩, rfl, trivial⟩
    exact iff_of_true rfl trivial
  · rintro prior before action after reached ⟨delivers, consistent⟩ taken
    have cases := step_cases taken
    refine ⟨?_, consistent.step cases⟩
    have extended : (turnTask runtime model).EveryStep HasRoom start
        (prior ++ [action]) ↔ (turnTask runtime model).EveryStep HasRoom start
          prior ∧ before.HasRoom action :=
      Machine.everyStep_concat_iff reached
    rw [extended]
    exact delivers.step cases

end Delivers

/-- The task has ended and everything it offered was taken from the channel. -/
structure Drained (task : TurnTask) : Prop where
  ended : ∃ event, task.progress = .ended event
  offered : task.offered = task.events.length
  unread : task.channel.unread = []

/-- The client received the text that was decoded, piece by piece, and then one
terminal event. The pieces are the text of the message when the turn completed
with a streamed answer. -/
def Intact (model : ModelConfig) (task : TurnTask) : Prop :=
  ∃ event, task.progress = .ended event ∧ event.IsTerminal ∧
    task.channel.received =
      task.stream.deltas.map .textDelta ++ [event] ∧
    ∀ message, event = .completed message → model.streams = true →
      String.join task.stream.deltas = message.content

end TurnTask

/-- Event streams are intact exactly without back-pressure: in every run of a
turn's task, with any provider and any client that takes all events, the client
receives every piece of text in order and then one terminal event if and only
if every event found room in the channel when it was offered. -/
theorem event_stream_intact_iff
    (runtime : ProviderRuntime)
    (model : ModelConfig)
    (actions : List TaskStep)
    (task : TurnTask)
    (reached : (turnTask runtime model).run actions = some task)
    (drained : task.Drained) :
    task.Intact model ↔
      (turnTask runtime model).EveryStep TurnTask.HasRoom .start actions := by
  obtain ⟨delivers, joined, content⟩ := TurnTask.delivers_run reached
  obtain ⟨event, ended⟩ := drained.ended
  rw [ended] at content
  have events : task.events =
      task.stream.deltas.map .textDelta ++ [event] := by
    simp [TurnTask.events, TurnTask.terminal, ended]
  have received : task.channel.received = task.channel.accepted :=
    Channel.received_of_drained drained.unread
  have allOffered : task.events.take task.offered = task.events := by
    rw [drained.offered, List.take_length]
  rw [← delivers.all, allOffered, events, ← received]
  constructor
  · rintro ⟨other, isEvent, -, all, -⟩
    rw [ended] at isEvent
    cases isEvent
    exact all
  · intro all
    refine ⟨event, ended, ?_, all, ?_⟩
    · cases event with
      | textDelta text => exact content
      | completed message => trivial
      | failed => trivial
    · rintro message rfl streams
      rw [content streams, joined]

/-! ## A slow client -/

section Taken

variable
  {runtime : ProviderRuntime}
  {model : ModelConfig}
  {task : TurnTask}

/-- A chunk that is decoded changes the stream alone. -/
theorem step_chunk_of_decoded
    {bytes : List UInt8}
    {stream : ChatStream}
    (inferring : task.progress = .inferring)
    (ready : (model.streams && task.idle) = true)
    (decoded : (decodeChunk runtime model bytes).run.run task.stream =
      (.ok (), stream)) :
    task.step runtime model (.chunk bytes) = some { task with stream } := by
  simp only [TurnTask.step, inferring, ready, Stateful.answer, Stateful.after,
    decoded]

theorem step_close_of_ready
    (inferring : task.progress = .inferring)
    (ready : (model.streams && task.idle) = true) :
    task.step runtime model .close =
      some (task.infer (task.stream.finish runtime)) := by
  simp only [TurnTask.step, inferring, ready]

theorem step_settled_of_idle
    {message : Message}
    {charge : Int64}
    (settling : task.progress = .settling message charge)
    (idle : task.idle = true) :
    task.step runtime model (.settled (.ok ())) =
      some { task with progress := .ended (.completed message) } := by
  simp only [TurnTask.step, settling, idle]

theorem step_offer_of_next
    {event : StreamEvent}
    (isNext : task.events[task.offered]? = some event) :
    task.step runtime model .offer =
      some { task with
        offered := task.offered + 1
        channel := task.channel.trySend eventCapacity event } := by
  simp only [TurnTask.step, isNext]

end Taken

/-- The task after a number of pieces of which the client took none. -/
def burst (count : Nat) : TurnTask where
  stream := { ChatStream.start with
    text := String.join (List.replicate count "x")
    received := pieceLine.length * count
    deltas := List.replicate count "x" }
  progress := .inferring
  offered := count
  channel := ⟨[], List.replicate count (.textDelta "x")⟩

theorem burst_idle (count : Nat) : (burst count).idle = true := by
  simp [burst, TurnTask.idle, TurnTask.events, TurnTask.terminal]

/-- One more piece is decoded. -/
theorem step_burst_chunk
    {runtime : ProviderRuntime}
    {count : Nat}
    (reads : runtime.parse pieceEvent.compact = some pieceEvent)
    (small : count ≤ eventCapacity) :
    (burst count).step runtime chatModel (.chunk pieceLine) =
      some { burst (count + 1) with
        offered := count
        channel := (burst count).channel } := by
  have inLimit : ¬ (burst count).stream.received + pieceLine.length >
      ChatStream.maxBytes := by
    change ¬ pieceLine.length * count + pieceLine.length > 2000000
    have few : pieceLine.length * (count + 1) ≤ 100 * (eventCapacity + 1) :=
      Nat.mul_le_mul (Nat.le_of_lt length_pieceLine) (Nat.succ_le_succ small)
    unfold eventCapacity at few
    rw [Nat.mul_succ] at few
    omega
  have decoded := decode_pieceLine reads rfl inLimit
  have ready : (chatModel.streams && (burst count).idle) = true := by
    rw [burst_idle]
    rfl
  rw [step_chunk_of_decoded rfl ready decoded]
  simp [burst, List.replicate_succ', Nat.mul_succ]

/-- A piece more, and its offer. -/
theorem runFrom_burst
    {runtime : ProviderRuntime}
    {count : Nat}
    (reads : runtime.parse pieceEvent.compact = some pieceEvent)
    (small : count < eventCapacity) :
    (turnTask runtime chatModel).runFrom (burst count)
      [.chunk pieceLine, .offer] = some (burst (count + 1)) := by
  have decoded : (turnTask runtime chatModel).step (burst count)
      (.chunk pieceLine) = _ := step_burst_chunk reads (Nat.le_of_lt small)
  have isNext : (burst (count + 1)).events[count]? =
      some (.textDelta "x") := by
    simp [burst, TurnTask.events, TurnTask.terminal]
  have room : (burst count).channel.unread.length < eventCapacity := by
    simpa [burst] using small
  have sent : (burst count).channel.trySend eventCapacity (.textDelta "x") =
      (burst (count + 1)).channel := by
    unfold Channel.trySend
    rw [if_pos room]
    simp [burst, List.replicate_succ']
  have offered : (turnTask runtime chatModel).step
      { burst (count + 1) with
        offered := count
        channel := (burst count).channel } .offer =
          some (burst (count + 1)) := by
    rw [turnTask_step]
    rw [step_offer_of_next isNext, sent]
    rfl
  rw [Machine.runFrom_cons, decoded, Option.bind_some, Machine.runFrom_cons,
    offered]
  rfl

theorem run_burst
    {runtime : ProviderRuntime}
    {count : Nat}
    (reads : runtime.parse pieceEvent.compact = some pieceEvent)
    (small : count ≤ eventCapacity) :
    (turnTask runtime chatModel).run
        (List.replicate count [.chunk pieceLine, .offer]).flatten =
      some (burst count) := by
  induction count with
  | zero => rfl
  | succ count inductionHypothesis =>
      rw [List.replicate_succ', List.flatten_concat, Machine.run,
        Machine.runFrom_append]
      have before := inductionHypothesis (Nat.le_of_succ_le small)
      unfold Machine.run at before
      rw [before]
      exact runFrom_burst reads small

/-- A client can take everything that is unread. -/
theorem runFrom_receive
    (runtime : ProviderRuntime)
    (model : ModelConfig)
    (task : TurnTask) :
    (turnTask runtime model).runFrom task
        (List.replicate task.channel.unread.length .receive) =
      some { task with channel := ⟨task.channel.accepted, []⟩ } := by
  obtain ⟨stream, progress, offered, ⟨received, unread⟩⟩ := task
  induction unread generalizing received with
  | nil => simp [Channel.accepted]
  | cons event rest inductionHypothesis =>
      rw [List.length_cons, List.replicate_succ, Machine.runFrom_cons]
      have taken : (turnTask runtime model).step
          ⟨stream, progress, offered, ⟨received, event :: rest⟩⟩ .receive =
            some ⟨stream, progress, offered,
              ⟨received ++ [event], rest⟩⟩ := rfl
      rw [taken, Option.bind_some, inductionHypothesis]
      simp [Channel.accepted]

/-- An event that is offered to a full channel is dropped. -/
theorem step_offer_of_full
    (runtime : ProviderRuntime)
    (model : ModelConfig)
    {task : TurnTask}
    {event : StreamEvent}
    (isNext : task.events[task.offered]? = some event)
    (full : ¬ task.channel.unread.length < eventCapacity) :
    task.step runtime model .offer =
      some { task with offered := task.offered + 1 } := by
  unfold TurnTask.step Channel.trySend
  simp only [isNext, if_neg full]

/-- The task when its deadline passes after a number of pieces. -/
def burstFailed (count : Nat) : TurnTask :=
  { burst count with progress := .ended .failed }

theorem step_burst_fail (count : Nat) :
    (burst count).step pieceRuntime chatModel .fail =
      some (burstFailed count) := by
  simp only [TurnTask.step, burst_idle]
  rfl

theorem burstFailed_isNext (count : Nat) :
    (burstFailed count).events[(burstFailed count).offered]? =
      some .failed := by
  simp [burstFailed, burst, TurnTask.events, TurnTask.terminal]

/-- A number of pieces, the deadline, and a client that reads only then. -/
def slowClient (count : Nat) : List TaskStep :=
  (List.replicate count [.chunk pieceLine, .offer]).flatten ++
    [.fail, .offer] ++ List.replicate count .receive

/-- The task after those steps when the pieces fill the channel. -/
def afterSlowClient (count : Nat) : TurnTask :=
  { burstFailed count with
    offered := count + 1
    channel := ⟨List.replicate count (.textDelta "x"), []⟩ }

theorem run_slowClient
    {count : Nat}
    (fills : count = eventCapacity) :
    (turnTask pieceRuntime chatModel).run (slowClient count) =
      some (afterSlowClient count) := by
  have filled : (turnTask pieceRuntime chatModel).runFrom
      (turnTask pieceRuntime chatModel).start
      (List.replicate count [.chunk pieceLine, .offer]).flatten =
        some (burst count) :=
    run_burst reads_pieceEvent (Nat.le_of_eq fills)
  have failed : (turnTask pieceRuntime chatModel).step (burst count) .fail =
      some (burstFailed count) :=
    step_burst_fail count
  have full : ¬ (burstFailed count).channel.unread.length <
      eventCapacity := by
    simp [burstFailed, burst, fills]
  have dropped : (turnTask pieceRuntime chatModel).step (burstFailed count)
      .offer = _ :=
    step_offer_of_full pieceRuntime chatModel (burstFailed_isNext count) full
  have taken := runFrom_receive pieceRuntime chatModel
    { burstFailed count with offered := count + 1 }
  have unread : (burstFailed count).channel.unread.length = count := by
    simp [burstFailed, burst]
  rw [unread] at taken
  unfold Machine.run slowClient
  rw [Machine.runFrom_append, Machine.runFrom_append, filled,
    Option.bind_some, Machine.runFrom_cons, failed, Option.bind_some,
    Machine.runFrom_cons, dropped, Option.bind_some, Machine.runFrom_nil,
    Option.bind_some]
  exact taken

theorem drained_afterSlowClient (count : Nat) :
    (afterSlowClient count).Drained := by
  refine ⟨⟨.failed, rfl⟩, ?_, rfl⟩
  simp [afterSlowClient, burstFailed, burst, TurnTask.events,
    TurnTask.terminal]

theorem not_intact_afterSlowClient (count : Nat) :
    ¬ (afterSlowClient count).Intact chatModel := by
  rintro ⟨event, -, -, received, -⟩
  have sameLength := congrArg List.length received
  simp [afterSlowClient, burstFailed, burst] at sameLength

/-- The terminal event finds no room: the client that takes everything receives
the pieces and no end. -/
theorem slow_client_receives_no_end :
    (turnTask pieceRuntime chatModel).run (slowClient 128) =
        some (afterSlowClient 128) ∧
      (afterSlowClient 128).Drained ∧
      (afterSlowClient 128).progress = .ended .failed ∧
      (afterSlowClient 128).channel.received =
        List.replicate 128 (.textDelta "x") ∧
      ¬ (afterSlowClient 128).Intact chatModel :=
  ⟨run_slowClient rfl, drained_afterSlowClient 128, rfl, rfl,
    not_intact_afterSlowClient 128⟩

/-- A client that keeps up receives the piece and the end. -/
theorem event_stream_intact_iff_prompt_client :
    ∃ task,
      (turnTask pieceRuntime chatModel).run
          [.chunk pieceLine, .offer, .receive, .fail, .offer, .receive] =
            some task ∧
        task.Intact chatModel := by
  have decoded : (turnTask pieceRuntime chatModel).step
      (turnTask pieceRuntime chatModel).start (.chunk pieceLine) =
        some { burst 1 with offered := 0, channel := (burst 0).channel } :=
    @step_burst_chunk _ 0 reads_pieceEvent (by decide)
  have ran : (turnTask pieceRuntime chatModel).run
      [.chunk pieceLine, .offer, .receive, .fail, .offer, .receive] =
        some { burstFailed 1 with
          offered := 2
          channel := ⟨[.textDelta "x", .failed], []⟩ } := by
    rw [Machine.run, Machine.runFrom_cons, decoded]
    rfl
  refine ⟨_, ran, ?_⟩
  refine (event_stream_intact_iff pieceRuntime chatModel
    [.chunk pieceLine, .offer, .receive, .fail, .offer, .receive] _ ran
    ⟨⟨.failed, rfl⟩, rfl, rfl⟩).mpr ?_
  apply Machine.everyStep_cons_of_step (fun noOffer => by cases noOffer) decoded
  apply Machine.everyStep_cons_of_step (fun _ => by decide) rfl
  apply Machine.everyStep_cons_of_step (fun noOffer => by cases noOffer) rfl
  apply Machine.everyStep_cons_of_step (fun noOffer => by cases noOffer) rfl
  apply Machine.everyStep_cons_of_step (fun _ => by decide) rfl
  apply Machine.everyStep_cons_of_step (fun noOffer => by cases noOffer) rfl
  trivial

end AsystantGateway
