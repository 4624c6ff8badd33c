import AsystantGateway.Library.Gather
import AsystantGateway.Provider.Chunking

/-!
# The events of a chat stream

An event carries a piece of text, fragments of calls, a reason to finish and a
usage, each of them or none. A line carries an event, or nothing. Decoding such
a line succeeds, and it adds to the variables of the loop exactly what the line
carries.
-/

namespace AsystantGateway

open Stateful

/-- What an event carries. -/
structure ChatEvent where
  content : Option String
  /-- Fragments of calls, each with the index of its call. -/
  fragments : List (Fin 16 × CallParts)
  /-- Whether the event gives a reason to finish. -/
  finishes : Bool
  usage : Option Json.Value

/-- A fragment of a call in an event. What it does not mention is empty. -/
structure IsFragment
    (value : Json.Value)
    (fragment : Fin 16 × CallParts) : Prop where
  index : ∃ word, (value.index "index").asU64 = some word ∧
    word.toNat = fragment.1
  id : (value.index "id").asStr.getD "" = fragment.2.id
  name : ((value.index "function").index "name").asStr.getD "" =
    fragment.2.name
  arguments : ((value.index "function").index "arguments").asStr.getD "" =
    fragment.2.arguments

/-- The choice that an event offers, with what the event carries. -/
structure IsChoice
    (choice : Json.Value)
    (event : ChatEvent) : Prop where
  content : ((choice.index "delta").index "content").asStr = event.content
  fragments : List.Forall₂ IsFragment
    (((choice.index "delta").index "tool_calls").asArray.getD [])
    event.fragments
  reason : (choice.index "finish_reason").asStr ∈
    if event.finishes then [some "stop", some "tool_calls"] else [none]

/-- An event that offers no choice. -/
structure ChatEvent.NoChoice (event : ChatEvent) : Prop where
  content : event.content = none
  fragments : event.fragments = []
  finishes : event.finishes = false

/-- The first choice of an event. -/
def firstChoice (value : Json.Value) : Option Json.Value :=
  ((value.get "choices").bind Json.Value.asArray).bind List.head?

/-- A value that carries an event. Other members are not looked at. -/
structure IsEvent
    (value : Json.Value)
    (event : ChatEvent) : Prop where
  noError : value.get "error" = none
  usage : value.get "usage" = event.usage
  choice : match firstChoice value with
    | none => event.NoChoice
    | some choice => IsChoice choice event

/-- A line with its newline. -/
def IsLine (line : List UInt8) : Prop :=
  ∃ body, line = body ++ [0x0a] ∧ 0x0a ∉ body

/-- A line that says something after `data:`. -/
def IsData (line : List UInt8) (data : String) : Prop :=
  ∃ text rest, String.fromUTF8? ⟨line.toArray⟩ = some text ∧
    Text.trim text = "data:" ++ rest ∧ Text.trim rest = data

/-- What a line carries: nothing when it is blank or of another kind, or an
event. -/
inductive Carries
    (runtime : ProviderRuntime)
    (line : List UInt8) : Option ChatEvent → Prop
  | other {text : String}
      (isText : String.fromUTF8? ⟨line.toArray⟩ = some text)
      (noData : ¬ "data:".toList <+: (Text.trim text).toList) :
      Carries runtime line none
  | blank (isBlank : IsData line "") : Carries runtime line none
  | event {data : String} {value : Json.Value} {event : ChatEvent}
      (isData : IsData line data)
      (notBlank : data ≠ "")
      (notDone : data ≠ "[DONE]")
      (parsed : runtime.parse data = some value)
      (isEvent : IsEvent value event) :
      Carries runtime line (some event)

/-- The fragments of events, in order. -/
def fragmentsOf (events : List ChatEvent) : List (Fin 16 × CallParts) :=
  events.flatMap ChatEvent.fragments

section Usage

variable
  (runtime : ProviderRuntime)
  (model : ModelConfig)
  (charge : Int64)
  (events : List ChatEvent)

/-- An event carries a usage object whose charge can be computed, and no other
event carries a usage object. -/
def ReportsOnce : Prop :=
  ∃ before event after members, events = before ++ event :: after ∧
    event.usage = some (.object members) ∧
    usageCharge runtime model (.object members) = some charge ∧
    ∀ other ∈ before ++ after, ∀ others, other.usage ≠ some (.object others)

/-- The last event with a usage has one whose charge can be computed. -/
def ReportsLast : Prop :=
  ∃ before event after usage, events = before ++ event :: after ∧
    event.usage = some usage ∧
    usageCharge runtime model usage = some charge ∧
    ∀ later ∈ after, later.usage = none

end Usage

/-! ## What an event does -/

/-- Two fragments of a call, one after the other. -/
def CallParts.append (first second : CallParts) : CallParts where
  id := first.id ++ second.id
  name := first.name ++ second.name
  arguments := first.arguments ++ second.arguments

namespace ChatStream

/-- The stream after a reason to finish, if there is one. -/
def addFinish (finishes : Bool) (stream : ChatStream) : ChatStream :=
  { stream with finished := stream.finished || finishes }

/-- The stream after a piece of text, if there is one. -/
def addText (content : Option String) (stream : ChatStream) : ChatStream :=
  { stream with
    text := stream.text ++ content.getD ""
    deltas := stream.deltas ++ content.toList }

/-- The stream after fragments of calls. -/
def addFragments
    (fragments : List (Fin 16 × CallParts))
    (stream : ChatStream) : ChatStream :=
  { stream with
    calls := Gather.addAll CallParts.append .empty stream.calls fragments }

/-- The stream after what an event carries in its choice. -/
def addChoice (event : ChatEvent) : ChatStream → ChatStream :=
  addFragments event.fragments ∘ addText event.content ∘
    addFinish event.finishes

theorem addFinish_false : addFinish false = id := by
  funext stream
  rw [addFinish, Bool.or_false]
  rfl

theorem addText_none : addText none = id := by
  funext stream
  rw [addText, Option.getD_none, String.append_empty, Option.toList_none,
    List.append_nil]
  rfl

theorem addChoice_of_noChoice
    {event : ChatEvent}
    (noChoice : event.NoChoice) :
    addChoice event = id := by
  rw [addChoice, noChoice.content, noChoice.fragments, noChoice.finishes,
    addFinish_false, addText_none]
  rfl

variable (runtime : ProviderRuntime) (model : ModelConfig)

/-- The stream after a usage, if there is one. -/
def addUsage (usage : Option Json.Value) (stream : ChatStream) : ChatStream :=
  match usage with
  | none => stream
  | some usage => { stream with charge := usageCharge runtime model usage }

/-- The stream after an event. -/
def take (event : ChatEvent) : ChatStream → ChatStream :=
  addChoice event ∘ addUsage runtime model event.usage

/-- The stream after events. -/
def takeAll (events : List ChatEvent) (stream : ChatStream) : ChatStream :=
  events.foldl (fun stream event => stream.take runtime model event) stream

/-- The stream after what a line carries. -/
def takeLine (carried : Option ChatEvent) : ChatStream → ChatStream :=
  match carried with
  | none => id
  | some event => take runtime model event

end ChatStream

section Does

open ChatStream

theorem decodeCall_does
    {value : Json.Value}
    {fragment : Fin 16 × CallParts}
    (isFragment : IsFragment value fragment) :
    Does (addFragments [fragment]) (decodeCall value) := by
  have ⟨word, isWord, isIndex⟩ := isFragment.index
  have bound : word.toNat < 16 := by
    rw [isIndex]
    exact fragment.1.isLt
  have sameIndex : (⟨word.toNat, bound⟩ : Fin 16) = fragment.1 :=
    Fin.ext isIndex
  intro stream
  unfold decodeCall
  rw [isWord]
  dsimp only
  rw [dif_pos bound, sameIndex, isFragment.id, isFragment.name,
    isFragment.arguments]
  rfl

theorem decodeFinish_does
    {choice : Json.Value}
    {finishes : Bool}
    (reason : (choice.index "finish_reason").asStr ∈
      if finishes then [some "stop", some "tool_calls"] else [none]) :
    Does (addFinish finishes) (decodeFinish choice) := by
  unfold decodeFinish
  cases finishes with
  | false =>
      rw [List.mem_singleton.mp reason, addFinish_false]
      exact Does.pure
  | true =>
      have finish : addFinish true =
          fun stream => { stream with finished := true } := by
        funext stream
        rw [addFinish, Bool.or_true]
      rw [finish]
      rcases List.mem_cons.mp reason with stop | toolCalls
      · rw [stop]
        exact Does.modify _
      · rw [List.mem_singleton.mp toolCalls]
        exact Does.modify _

theorem decodeText_does
    {delta : Json.Value}
    {content : Option String}
    (isContent : (delta.index "content").asStr = content) :
    Does (addText content) (decodeText delta) := by
  unfold decodeText
  rw [isContent]
  cases content with
  | none =>
      rw [addText_none]
      exact Does.pure
  | some part => exact Does.modify _

theorem decodeCalls_does
    {delta : Json.Value}
    {fragments : List (Fin 16 × CallParts)}
    (areFragments : List.Forall₂ IsFragment
      ((delta.index "tool_calls").asArray.getD []) fragments) :
    Does (addFragments fragments) (decodeCalls delta) := by
  have oneByOne : ∀ fragments : List (Fin 16 × CallParts),
      (fun stream => fragments.foldl
        (fun stream fragment => addFragments [fragment] stream) stream) =
          addFragments fragments := by
    intro fragments
    funext stream
    induction fragments generalizing stream with
    | nil => rfl
    | cons fragment rest inductionHypothesis =>
        exact inductionHypothesis (addFragments [fragment] stream)
  unfold decodeCalls
  cases isArray : (delta.index "tool_calls").asArray with
  | none =>
      rw [isArray, Option.getD_none, List.forall₂_nil_left_iff] at areFragments
      rw [areFragments]
      exact Does.pure
  | some values =>
      rw [isArray, Option.getD_some] at areFragments
      rw [← oneByOne]
      apply Does.forM
      exact areFragments.flip.imp fun _ _ isFragment =>
        decodeCall_does isFragment

variable {runtime : ProviderRuntime} {model : ModelConfig}

theorem decodeUsage_does
    {value : Json.Value}
    {usage : Option Json.Value}
    (isUsage : value.get "usage" = usage) :
    Does (addUsage runtime model usage) (decodeUsage runtime model value) := by
  unfold decodeUsage
  rw [isUsage]
  cases usage with
  | none => exact Does.pure
  | some usage => exact Does.modify _

/-- Decoding an event succeeds and takes what the event carries. -/
theorem decodeEvent_does
    {value : Json.Value}
    {event : ChatEvent}
    (isEvent : IsEvent value event) :
    Does (take runtime model event) (decodeEvent runtime model value) := by
  have noError : ¬ (value.get "error").isSome := by
    rw [isEvent.noError]
    exact Bool.false_ne_true
  have offered := isEvent.choice
  unfold decodeEvent
  rw [if_neg noError]
  apply Does.bind (decodeUsage_does isEvent.usage)
  cases isFirst : firstChoice value with
  | none =>
      rw [isFirst] at offered
      unfold firstChoice at isFirst
      rw [isFirst, addChoice_of_noChoice offered]
      exact Does.pure
  | some choice =>
      rw [isFirst] at offered
      unfold firstChoice at isFirst
      rw [isFirst]
      have isChoice : IsChoice choice event := offered
      exact (decodeFinish_does isChoice.reason).bind
        ((decodeText_does isChoice.content).bind
          (decodeCalls_does isChoice.fragments))

/-- The text after a beginning. -/
theorem stripStart_append (beginning rest : String) :
    stripStart beginning (beginning ++ rest) = some rest := by
  unfold stripStart
  rw [String.toList_append, if_pos
    (List.isPrefixOf_iff_prefix.mpr (List.prefix_append _ _)),
    List.drop_left, String.ofList_toList]

theorem decodeLine_of_isData
    {line : List UInt8}
    {data : String}
    (isData : IsData line data) :
    decodeLine runtime model line = decodeData runtime model data := by
  have ⟨text, rest, isText, isRest, trimmed⟩ := isData
  unfold decodeLine
  rw [isText]
  dsimp only
  rw [isRest, stripStart_append]
  dsimp only
  rw [trimmed]

/-- Decoding a line succeeds and takes what the line carries. -/
theorem decodeLine_does
    {line : List UInt8}
    {carried : Option ChatEvent}
    (carries : Carries runtime line carried) :
    Does (takeLine runtime model carried) (decodeLine runtime model line) := by
  cases carries with
  | other isText noData =>
      unfold decodeLine stripStart
      rw [isText]
      dsimp only
      rw [if_neg fun isPrefix =>
        noData (List.isPrefixOf_iff_prefix.mp isPrefix)]
      exact Does.pure
  | blank isBlank =>
      rw [decodeLine_of_isData isBlank]
      exact Does.pure
  | event isData notBlank notDone parsed isEvent =>
      rw [decodeLine_of_isData isData]
      unfold decodeData
      rw [if_neg notDone, if_neg notBlank, parsed]
      exact decodeEvent_does isEvent

theorem decodeDoneLine_does
    {line : List UInt8}
    (isDone : IsData line "[DONE]") :
    Does (fun stream => { stream with done := true })
      (decodeLine runtime model line) := by
  rw [decodeLine_of_isData isDone]
  exact Does.modify _

/-- Decoding lines succeeds and takes the events that they carry. -/
theorem decodeLines_does
    {lines : List (List UInt8 × Option ChatEvent)}
    (carries : ∀ line ∈ lines, Carries runtime line.1 line.2) :
    Does (takeAll runtime model (lines.filterMap Prod.snd))
      (decodeLines runtime model (lines.map Prod.fst)) := by
  have oneByOne :
      (fun stream => lines.foldl
        (fun stream line => takeLine runtime model line.2 stream) stream) =
          takeAll runtime model (lines.filterMap Prod.snd) := by
    funext stream
    unfold takeAll
    rw [List.foldl_filterMap]
    congr 1
    funext stream line
    cases line.2 with
    | none => rfl
    | some event => rfl
  rw [← oneByOne]
  apply Does.forM
  exact List.forall₂_map_right_iff.mpr (List.forall₂_same.mpr
    fun line isLine => decodeLine_does (carries line isLine))

end Does

/-! ## What events leave -/

section Fields

variable (runtime : ProviderRuntime) (model : ModelConfig)

namespace ChatStream

@[simp] theorem takeAll_cons
    (event : ChatEvent)
    (rest : List ChatEvent)
    (stream : ChatStream) :
    stream.takeAll runtime model (event :: rest) =
      (stream.take runtime model event).takeAll runtime model rest := rfl

theorem takeAll_append
    (events others : List ChatEvent)
    (stream : ChatStream) :
    stream.takeAll runtime model (events ++ others) =
      (stream.takeAll runtime model events).takeAll runtime model others :=
  List.foldl_append

/-- A usage leaves everything but the charge. -/
theorem addUsage_eq (usage : Option Json.Value) (stream : ChatStream) :
    addUsage runtime model usage stream =
      { stream with charge := (addUsage runtime model usage stream).charge } := by
  cases usage with
  | none => rfl
  | some usage => rfl

theorem text_takeAll (events : List ChatEvent) (stream : ChatStream) :
    (stream.takeAll runtime model events).text =
      stream.text ++ String.join (events.filterMap ChatEvent.content) := by
  induction events generalizing stream with
  | nil => exact String.append_empty.symm
  | cons event rest inductionHypothesis =>
      have taken : (stream.take runtime model event).text =
          stream.text ++ event.content.getD "" := by
        rw [take, Function.comp_apply, addUsage_eq]
        rfl
      rw [takeAll_cons, inductionHypothesis, taken, List.filterMap_cons]
      cases event.content with
      | none => rw [Option.getD_none, String.append_empty]
      | some part =>
          rw [Option.getD_some, String.join_cons, String.append_assoc]

theorem calls_takeAll (events : List ChatEvent) (stream : ChatStream) :
    (stream.takeAll runtime model events).calls =
      Gather.addAll CallParts.append .empty stream.calls
        (fragmentsOf events) := by
  induction events generalizing stream with
  | nil => rfl
  | cons event rest inductionHypothesis =>
      have taken : (stream.take runtime model event).calls =
          Gather.addAll CallParts.append .empty stream.calls
            event.fragments := by
        rw [take, Function.comp_apply, addUsage_eq]
        rfl
      rw [takeAll_cons, inductionHypothesis, taken, ← Gather.addAll_append]
      rfl

theorem finished_takeAll (events : List ChatEvent) (stream : ChatStream) :
    (stream.takeAll runtime model events).finished =
      (stream.finished || events.any ChatEvent.finishes) := by
  induction events generalizing stream with
  | nil => exact (Bool.or_false _).symm
  | cons event rest inductionHypothesis =>
      have taken : (stream.take runtime model event).finished =
          (stream.finished || event.finishes) := by
        rw [take, Function.comp_apply, addUsage_eq]
        rfl
      rw [takeAll_cons, inductionHypothesis, taken, List.any_cons,
        Bool.or_assoc]

theorem done_takeAll (events : List ChatEvent) (stream : ChatStream) :
    (stream.takeAll runtime model events).done = stream.done := by
  induction events generalizing stream with
  | nil => rfl
  | cons event rest inductionHypothesis =>
      rw [takeAll_cons, inductionHypothesis, take, Function.comp_apply,
        addUsage_eq]
      rfl

/-- Events without a usage leave the charge. -/
theorem charge_takeAll_of_none
    {events : List ChatEvent}
    (noUsage : ∀ event ∈ events, event.usage = none)
    (stream : ChatStream) :
    (stream.takeAll runtime model events).charge = stream.charge := by
  induction events generalizing stream with
  | nil => rfl
  | cons event rest inductionHypothesis =>
      have ⟨isNone, restNone⟩ := List.forall_mem_cons.mp noUsage
      rw [takeAll_cons, inductionHypothesis restNone, take, isNone]
      rfl

/-- The charge is that of the last event with a usage. -/
theorem charge_takeAll
    {charge : Int64}
    {events : List ChatEvent}
    (reports : ReportsLast runtime model charge events)
    (stream : ChatStream) :
    (stream.takeAll runtime model events).charge = some charge := by
  obtain ⟨before, event, after, usage, rfl, isUsage, isCharge, noUsage⟩ :=
    reports
  rw [takeAll_append, takeAll_cons,
    charge_takeAll_of_none runtime model noUsage, take, isUsage]
  exact isCharge

end ChatStream

end Fields

end AsystantGateway
