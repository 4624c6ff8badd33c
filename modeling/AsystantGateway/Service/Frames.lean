import AsystantGateway.Library.Json.Visible
import AsystantGateway.Library.Lines
import AsystantGateway.Model.Bodies
import AsystantGateway.Provider.ChatEvents
import AsystantGateway.Service.EventStream
import AsystantGateway.Service.SendBack

/-!
# The frames of an event stream

Every event of a turn is sent as one line of data, its JSON text, and a blank
line. Whatever text a model produces, it stays on its line: the data lines of a
stream are the texts of its events, and reading them gives the events back.
-/

namespace AsystantGateway

open Json

/-- An event as JSON, with its members in key order. -/
def StreamEvent.toValue : StreamEvent → Value
  | .textDelta text =>
      .object [("text", .string text), ("type", .string "text_delta")]
  | .completed message =>
      .object [("message", message.toValue), ("type", .string "completed")]
  | .failed =>
      .object
        [("failure", .object
          [("code", .string "unavailable"), ("detail", .string "")]),
          ("type", .string "failed")]

/-- An event as it is sent. -/
def StreamEvent.frame (event : StreamEvent) : String :=
  "data: " ++ event.toValue.compact ++ "\n\n"

/-- The texts of the data lines. -/
def dataLines (text : String) : List String :=
  (Text.lines text).filterMap (stripStart "data: ")

/-- A message whose calls can be read in an event. -/
def StreamEvent.Readable
    (round : String → Option String) : StreamEvent → Prop
  | .completed message =>
      ∀ call ∈ message.calls, call.arguments.Readable round 123
  | _ => True

section Readable

variable {round : String → Option String}

theorem StreamEvent.Readable.toValue
    {event : StreamEvent}
    (readable : event.Readable round) :
    event.toValue.Readable round 127 := by
  cases event with
  | completed message =>
      have own : message.toValue.Readable round 126 :=
        Message.readable_toValue readable
      simpa [StreamEvent.toValue] using own
  | textDelta | failed => simp [StreamEvent.toValue]

end Readable

section Frames

variable {round : String → Option String}

/-- The characters of a data line. -/
theorem plain_data
    {value : Value}
    {depth : Nat}
    (readable : value.Readable round depth) :
    ∀ char ∈ "data: ".toList ++ write value, char ≠ '\n' ∧ char ≠ '\r' := by
  have apart : ∀ char, Visible char → char ≠ '\n' ∧ char ≠ '\r' := by
    intro char visible
    constructor <;>
      · rintro rfl
        exact absurd visible (by unfold Visible; decide)
  have front : ∀ char ∈ "data: ".toList, Visible char := by
    simp [Visible]
  exact List.forall_mem_append.mpr
    ⟨fun char present => apart char (front char present),
      fun char present => apart char (visible_write readable char present)⟩

/-- The lines of an event in front of others. -/
theorem linesFrom_frame
    {event : StreamEvent}
    (readable : event.Readable round)
    (rest : List Char) :
    Text.linesFrom (event.frame.toList ++ rest) [] =
      ("data: ".toList ++ write event.toValue) :: [] ::
        Text.linesFrom rest [] := by
  have split : event.frame.toList ++ rest =
      ("data: ".toList ++ write event.toValue) ++
        '\n' :: ([] ++ '\n' :: rest) := by
    unfold StreamEvent.frame
    simp only [String.toList_append, Value.toList_compact, List.append_assoc]
    rfl
  rw [split, Text.linesFrom_line (plain_data readable.toValue),
    Text.linesFrom_line (by simp)]

/-- The data lines of a stream are the texts of its events. -/
theorem dataLines_frames
    {events : List StreamEvent}
    (readable : ∀ event ∈ events, event.Readable round) :
    dataLines (String.join (events.map StreamEvent.frame)) =
      events.map fun event => event.toValue.compact := by
  have blank : stripStart "data: " (String.ofList []) = none := by decide
  unfold dataLines Text.lines
  induction events with
  | nil => rfl
  | cons event rest inductionHypothesis =>
      obtain ⟨first, others⟩ := List.forall_mem_cons.mp readable
      have later := inductionHypothesis others
      have data : String.ofList ("data: ".toList ++ write event.toValue) =
          "data: " ++ event.toValue.compact := by
        rw [String.ofList_append, String.ofList_toList]
        rfl
      rw [List.map_cons, String.join_cons, String.toList_append,
        linesFrom_frame first]
      simp only [List.map_cons, List.filterMap_cons, data, stripStart_append,
        blank, later]

/-- The data line of one event. -/
theorem dataLines_frame
    {event : StreamEvent}
    (readable : event.Readable round) :
    dataLines event.frame = [event.toValue.compact] := by
  have lines := dataLines_frames (List.forall_mem_singleton.mpr readable)
  rwa [List.map_singleton, List.map_singleton, String.join_cons,
    String.join_nil, String.append_empty] at lines

/-- One event is read from its data line. -/
theorem readJson_event
    {event : StreamEvent}
    (readable : event.Readable round) :
    readJson round event.toValue.compact = some event.toValue :=
  readJson_compact readable.toValue

end Frames

/-- Event streams are read back: whatever texts and calls are in its events, the
data lines of a stream are one for each event, in order, and each of them is
read as the JSON of its event. -/
theorem event_stream_read_back
    (round : String → Option String)
    (events : List StreamEvent)
    (readable : ∀ event ∈ events, event.Readable round) :
    (dataLines (String.join (events.map StreamEvent.frame))).mapM
        (readJson round) =
      some (events.map StreamEvent.toValue) := by
  rw [dataLines_frames readable]
  induction events with
  | nil => rfl
  | cons event rest inductionHypothesis =>
      obtain ⟨first, others⟩ := List.forall_mem_cons.mp readable
      rw [List.map_cons, List.mapM_cons, readJson_event first,
        inductionHypothesis others]
      rfl

theorem event_stream_read_back_failed :
    (dataLines (String.join
        ([.textDelta "Two\nlines.", .failed].map StreamEvent.frame))).mapM
          (readJson some) =
      some ([.textDelta "Two\nlines.", .failed].map StreamEvent.toValue) :=
  event_stream_read_back some [.textDelta "Two\nlines.", .failed]
    (by simp [StreamEvent.Readable])

/-- The messages of a client, with one that it was sent among them as it was
read. -/
def postedMembers
    (turn : Turn)
    (sent : Value)
    (results : List Message) : List (String × Value) :=
  [("registration_id", .string turn.registrationId),
    ("request_id", .string turn.requestId),
    ("model", .string turn.model),
    ("messages", .array
      (turn.messages.map Message.toValue ++
        sent :: results.map Message.toValue))]

theorem postedMembers_toValue
    (turn : Turn)
    (message : Message)
    (results : List Message) :
    postedMembers turn message.toValue results =
      (turn.extend (message :: results)).members := by
  simp [postedMembers, Turn.members, Turn.extend, Value.ofList]

/-- A message that was sent comes back as it was: what a client finds in the
completed event can stand in the body of its next turn as it was read, its
members in any order, and the gateway reads the turn with this message, call for
call and argument for argument. -/
theorem sent_message_posted_back
    (round : String → Option String)
    (turn : Turn)
    (message : Message)
    (results : List Message)
    (kept : ∀ other ∈ (turn.extend (message :: results)).messages,
      other.Kept round 122) :
    ∃ event,
      (dataLines (StreamEvent.completed message).frame).mapM
          (readJson round) = some [event] ∧
        ∀ members,
          members.Perm
              (postedMembers turn (event.index "message") results) →
            (Value.object members).compact.utf8ByteSize ≤ 262144 →
              readBody round Turn.ofValue (Value.object members).compact =
                .ok (turn.extend (message :: results)) := by
  have isMessage : message ∈ (turn.extend (message :: results)).messages := by
    simp
  have readable : (StreamEvent.completed message).Readable round :=
    fun call present =>
      (kept message isMessage call present).readable.of_le (by decide)
  refine ⟨(StreamEvent.completed message).toValue, ?_, ?_⟩
  · rw [dataLines_frame readable, List.mapM_cons, readJson_event readable]
    rfl
  · intro members order small
    have sent : (StreamEvent.completed message).toValue.index "message" =
        message.toValue := rfl
    rw [sent, postedMembers_toValue] at order
    exact Turn.readBody_of_perm kept order small

/-- A message that asks for a tool, and its result. -/
theorem kept_toolUse :
    ∀ other ∈ (questionTurn.extend
        [toolUseMessage (.object [("score", .number (.float "0.5"))]),
          toolResult]).messages,
      other.Kept some 122 := by
  have score : Value.Nested (Number.Readable some) 121
      (.number (.float "0.5")) :=
    .number 121 _ rfl
  have kept : (Value.object [("score", .number (.float "0.5"))]).Kept
      some 122 :=
    ⟨.object _ (by decide) (List.forall_mem_singleton.mpr (.number _)),
      by simpa using score⟩
  simpa [questionTurn, toolUseMessage, toolResult, Message.Kept] using kept

theorem sent_message_posted_back_toolUse :
    ∃ event,
      (dataLines (StreamEvent.completed
          (toolUseMessage (.object [("score", .number (.float "0.5"))]))).frame
            ).mapM (readJson some) = some [event] ∧
        ∀ members,
          members.Perm
              (postedMembers questionTurn (event.index "message")
                [toolResult]) →
            (Value.object members).compact.utf8ByteSize ≤ 262144 →
              readBody some Turn.ofValue (Value.object members).compact =
                .ok (questionTurn.extend
                  [toolUseMessage (.object [("score", .number (.float "0.5"))]),
                    toolResult]) :=
  sent_message_posted_back some questionTurn
    (toolUseMessage (.object [("score", .number (.float "0.5"))]))
    [toolResult] kept_toolUse

end AsystantGateway
