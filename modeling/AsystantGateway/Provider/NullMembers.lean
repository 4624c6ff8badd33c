import AsystantGateway.Library.Json.Null
import AsystantGateway.Library.Replace
import AsystantGateway.Provider.Acceptance

/-!
# Null members of events

A `null` is added to one event of a stream, where there was no member. Most
members are read as texts and arrays, and a `null` among them is not noticed.
Two are looked up and not read: any `error` stops the loop, and any `usage`
replaces the charge. So with one of these the stream can be refused where it was
accepted before.
-/

namespace AsystantGateway

open Json Stateful

/-- Where a `null` is added to an event: as a member of the event itself, or
somewhere in its choices. -/
inductive NullPlace
  | member (key : String)
  | choices

/-- The second event is the first with a `null` where there was no member. -/
inductive EventAddsNull : NullPlace → Json.Value → Json.Value → Prop
  | member
      {members : List (String × Json.Value)}
      {key : String}
      (absent : members.lookup key = none) :
      EventAddsNull (.member key) (.object members)
        (.object (assignMember key .null members))
  | choices
      {members : List (String × Json.Value)}
      {choices added : Json.Value}
      (present : members.lookup "choices" = some choices)
      (adds : AddsNull choices added) :
      EventAddsNull .choices (.object members)
        (.object (assignMember "choices" added members))

/-- A line whose data is read as a value. -/
structure CarriesValue
    (runtime : ProviderRuntime)
    (line : List UInt8)
    (value : Json.Value) : Prop where
  data : ∃ data, IsData line data ∧ data ≠ "" ∧ data ≠ "[DONE]" ∧
    runtime.parse data = some value

/-- A stream, and the stream with a `null` added to one of its events. -/
structure NullAddition (runtime : ProviderRuntime) where
  place : NullPlace
  before : List (List UInt8)
  line : List UInt8
  added : List UInt8
  after : List (List UInt8)
  /-- What comes after the last newline. -/
  rest : List UInt8
  value : Json.Value
  extended : Json.Value
  areBefore : ∀ other ∈ before, IsLine other
  isLine : IsLine line
  isAdded : IsLine added
  areAfter : ∀ other ∈ after, IsLine other
  noNewline : 0x0a ∉ rest
  carries : CarriesValue runtime line value
  addedCarries : CarriesValue runtime added extended
  adds : EventAddsNull place value extended

namespace NullAddition

variable {runtime : ProviderRuntime} (addition : NullAddition runtime)

/-- The lines of the stream. -/
def lines : List (List UInt8) :=
  addition.before ++ addition.line :: addition.after

/-- The lines of the stream with the `null`. -/
def addedLines : List (List UInt8) :=
  addition.before ++ addition.added :: addition.after

/-- The bytes of the stream. -/
def bytes : List UInt8 :=
  addition.lines.flatten ++ addition.rest

/-- The bytes of the stream with the `null`. -/
def addedBytes : List UInt8 :=
  addition.addedLines.flatten ++ addition.rest

/-- A later event has a usage. -/
def UsageLater : Prop :=
  ∃ line ∈ addition.after, ∃ value, CarriesValue runtime line value ∧
    value.get "usage" ≠ none

/-- The `null` is no `error`, and when it is a `usage` a later event has one
again. -/
structure Harmless : Prop where
  noError : addition.place ≠ .member "error"
  reported : addition.place = .member "usage" → addition.UsageLater

/-- The stream is refused, however few bytes it has. -/
def Refused (model : ModelConfig) : Prop :=
  ∀ message charge, ¬ Accepted runtime model addition.lines message charge

end NullAddition

/-! ## Events that read alike -/

section Alike

variable {value other : Json.Value}

theorem isFragment_congr
    (alike : ReadsAlike value other)
    (fragment : Fin 16 × CallParts) :
    IsFragment value fragment ↔ IsFragment other fragment := by
  have index := (alike.index "index").asU64
  have id := (alike.index "id").asStr
  have name := ((alike.index "function").index "name").asStr
  have arguments := ((alike.index "function").index "arguments").asStr
  constructor
  · intro isFragment
    exact ⟨index ▸ isFragment.index, id ▸ isFragment.id,
      name ▸ isFragment.name, arguments ▸ isFragment.arguments⟩
  · intro isFragment
    exact ⟨index ▸ isFragment.index, id ▸ isFragment.id,
      name ▸ isFragment.name, arguments ▸ isFragment.arguments⟩

theorem areFragments_congr
    {items others : List Json.Value}
    (alike : List.Forall₂ ReadsAlike items others)
    (fragments : List (Fin 16 × CallParts)) :
    List.Forall₂ IsFragment items fragments ↔
      List.Forall₂ IsFragment others fragments := by
  induction alike generalizing fragments with
  | nil => exact Iff.rfl
  | cons first _ inductionHypothesis =>
      rw [List.forall₂_cons_left_iff, List.forall₂_cons_left_iff]
      simp only [isFragment_congr first, inductionHypothesis]

theorem isChoice_congr
    (alike : ReadsAlike value other)
    (event : ChatEvent) :
    IsChoice value event ↔ IsChoice other event := by
  have content := ((alike.index "delta").index "content").asStr
  have reason := (alike.index "finish_reason").asStr
  have fragments :
      List.Forall₂ IsFragment
          (((value.index "delta").index "tool_calls").asArray.getD [])
          event.fragments ↔
        List.Forall₂ IsFragment
          (((other.index "delta").index "tool_calls").asArray.getD [])
          event.fragments := by
    rcases ((alike.index "delta").index "tool_calls").asArray with
      ⟨noArray, noOther⟩ | ⟨items, others, areItems, areOthers, itemsAlike⟩
    · rw [noArray, noOther]
    · rw [areItems, areOthers]
      exact areFragments_congr itemsAlike event.fragments
  constructor
  · intro isChoice
    exact ⟨content ▸ isChoice.content, fragments.mp isChoice.fragments,
      reason ▸ isChoice.reason⟩
  · intro isChoice
    exact ⟨content ▸ isChoice.content, fragments.mpr isChoice.fragments,
      reason ▸ isChoice.reason⟩

end Alike

/-- What a value carries, another value carries with a choice that offers the
same. -/
theorem IsEvent.transfer
    {value other : Json.Value}
    {event told : ChatEvent}
    (isEvent : IsEvent value event)
    (noError : other.get "error" = none)
    (usage : other.get "usage" = told.usage)
    (noChoice : firstChoice value = none →
      firstChoice other = none ∧ (event.NoChoice → told.NoChoice))
    (choice : ∀ first, firstChoice value = some first →
      ∃ second, firstChoice other = some second ∧
        (IsChoice first event → IsChoice second told)) :
    IsEvent other told := by
  refine ⟨noError, usage, ?_⟩
  have offered := isEvent.choice
  cases isFirst : firstChoice value with
  | none =>
      obtain ⟨isNone, tells⟩ := noChoice isFirst
      rw [isFirst] at offered
      rw [isNone]
      exact tells offered
  | some first =>
      obtain ⟨second, isSecond, tells⟩ := choice first isFirst
      rw [isFirst] at offered
      rw [isSecond]
      exact tells offered

/-- Values whose first choices read alike, if they have any. -/
def ChoicesAlike (value other : Json.Value) : Prop :=
  (firstChoice value = none ∧ firstChoice other = none) ∨
    ∃ first second, firstChoice value = some first ∧
      firstChoice other = some second ∧ ReadsAlike first second

theorem ChoicesAlike.of_eq
    {value other : Json.Value}
    (same : firstChoice value = firstChoice other) :
    ChoicesAlike value other := by
  cases isFirst : firstChoice value with
  | none => exact .inl ⟨isFirst, same.symm.trans isFirst⟩
  | some first =>
      exact .inr ⟨first, first, isFirst, same.symm.trans isFirst, .same first⟩

/-- Events with the same top members besides their choices, which read
alike. -/
theorem isEvent_congr
    {value other : Json.Value}
    {event told : ChatEvent}
    (noError : value.get "error" = other.get "error")
    (alike : ChoicesAlike value other)
    (usage : value.get "usage" = event.usage)
    (otherUsage : other.get "usage" = told.usage)
    (noChoice : event.NoChoice ↔ told.NoChoice)
    (choice : ∀ first, IsChoice first event ↔ IsChoice first told) :
    IsEvent value event ↔ IsEvent other told := by
  rcases alike with
    ⟨isNone, otherNone⟩ | ⟨first, second, isFirst, isSecond, readsAlike⟩
  · constructor
    · intro isEvent
      refine isEvent.transfer (noError.symm.trans isEvent.noError) otherUsage
        (fun _ => ⟨otherNone, noChoice.mp⟩) ?_
      intro first isFirst
      rw [isNone] at isFirst
      cases isFirst
    · intro isEvent
      refine isEvent.transfer (noError.trans isEvent.noError) usage
        (fun _ => ⟨isNone, noChoice.mpr⟩) ?_
      intro first isFirst
      rw [otherNone] at isFirst
      cases isFirst
  · have sameChoice : IsChoice first event ↔ IsChoice second told :=
      (isChoice_congr readsAlike event).trans (choice second)
    constructor
    · intro isEvent
      refine isEvent.transfer (noError.symm.trans isEvent.noError) otherUsage
        ?_ ?_
      · intro isNone
        rw [isFirst] at isNone
        cases isNone
      · intro offered isOffered
        rw [isFirst] at isOffered
        cases isOffered
        exact ⟨second, isSecond, sameChoice.mp⟩
    · intro isEvent
      refine isEvent.transfer (noError.trans isEvent.noError) usage ?_ ?_
      · intro isNone
        rw [isSecond] at isNone
        cases isNone
      · intro offered isOffered
        rw [isSecond] at isOffered
        cases isOffered
        exact ⟨first, isFirst, sameChoice.mpr⟩

/-- First choices in choices that read alike. -/
theorem choicesAlike_assign
    {members : List (String × Json.Value)}
    {choices added : Json.Value}
    (present : members.lookup "choices" = some choices)
    (alike : ReadsAlike choices added) :
    ChoicesAlike (.object members)
      (.object (assignMember "choices" added members)) := by
  have first : firstChoice (.object members) =
      choices.asArray.bind List.head? := by
    change ((members.lookup "choices").bind _).bind _ = _
    rw [present]
    rfl
  have second : firstChoice (.object (assignMember "choices" added members)) =
      added.asArray.bind List.head? := by
    change (((assignMember "choices" added members).lookup "choices").bind
      _).bind _ = _
    rw [lookup_assignMember_self]
    rfl
  unfold ChoicesAlike
  rw [first, second]
  rcases alike.asArray with
    ⟨noArray, noOther⟩ | ⟨items, others, areItems, areOthers, itemsAlike⟩
  · rw [noArray, noOther]
    exact .inl ⟨rfl, rfl⟩
  · rw [areItems, areOthers]
    cases itemsAlike with
    | nil => exact .inl ⟨rfl, rfl⟩
    | cons firstAlike _ => exact .inr ⟨_, _, rfl, rfl, firstAlike⟩

/-- A `null` for the choices is no choice. -/
theorem choicesAlike_assign_null
    {members : List (String × Json.Value)}
    {key : String}
    (absent : members.lookup key = none) :
    ChoicesAlike (.object members)
      (.object (assignMember key .null members)) := by
  apply ChoicesAlike.of_eq
  change ((members.lookup "choices").bind _).bind _ =
    (((assignMember key .null members).lookup "choices").bind _).bind _
  by_cases isChoices : "choices" = key
  · rw [← isChoices] at absent ⊢
    rw [absent, lookup_assignMember_self]
    rfl
  · rw [lookup_assignMember_of_ne isChoices]

namespace EventAddsNull

variable {place : NullPlace} {value extended : Json.Value}

/-- The other members of the event are as they were. -/
theorem get_eq
    (adds : EventAddsNull place value extended)
    {name : String}
    (notPlace : place ≠ .member name)
    (notChoices : name ≠ "choices") :
    extended.get name = value.get name := by
  cases adds with
  | @member members key absent =>
      apply lookup_assignMember_of_ne
      rintro rfl
      exact notPlace rfl
  | choices present nested =>
      exact lookup_assignMember_of_ne notChoices _ _

theorem choicesAlike (adds : EventAddsNull place value extended) :
    ChoicesAlike value extended := by
  cases adds with
  | member absent => exact choicesAlike_assign_null absent
  | choices present nested =>
      exact choicesAlike_assign present nested.readsAlike

/-- Most of the `null`s are not noticed. -/
theorem isEvent_iff
    (adds : EventAddsNull place value extended)
    (noError : place ≠ .member "error")
    (noUsage : place ≠ .member "usage")
    (event : ChatEvent) :
    IsEvent extended event ↔ IsEvent value event := by
  have error := adds.get_eq noError (by decide)
  have usage := adds.get_eq noUsage (by decide)
  by_cases sameUsage : value.get "usage" = event.usage
  · exact (isEvent_congr error.symm adds.choicesAlike sameUsage
      (usage.trans sameUsage) Iff.rfl fun _ => Iff.rfl).symm
  · refine iff_of_false ?_ fun isEvent => sameUsage isEvent.usage
    exact fun isEvent => sameUsage (usage.symm.trans isEvent.usage)

/-- An `error`, also a `null` one, is no event. -/
theorem not_isEvent
    (adds : EventAddsNull (.member "error") value extended)
    (event : ChatEvent) :
    ¬ IsEvent extended event := by
  intro isEvent
  have noError := isEvent.noError
  cases adds with
  | member absent =>
      change (assignMember "error" .null _).lookup "error" = none at noError
      rw [lookup_assignMember_self] at noError
      cases noError

theorem usage_eq_none
    (adds : EventAddsNull (.member "usage") value extended) :
    value.get "usage" = none := by
  cases adds with
  | member absent => exact absent

/-- A `usage` that is `null` is a usage. -/
theorem isEvent_usage_iff
    (adds : EventAddsNull (.member "usage") value extended)
    (event : ChatEvent) :
    IsEvent extended event ↔
      event.usage = some .null ∧
        IsEvent value { event with usage := none } := by
  have error : extended.get "error" = value.get "error" :=
    adds.get_eq (by simp) (by decide)
  have isNull : extended.get "usage" = some .null := by
    cases adds with
    | member absent => exact lookup_assignMember_self _ _ _
  by_cases sameUsage : event.usage = some .null
  · rw [and_iff_right sameUsage]
    refine (isEvent_congr error.symm adds.choicesAlike adds.usage_eq_none
      (isNull.trans sameUsage.symm) ?_ ?_).symm
    · exact ⟨fun noChoice => ⟨noChoice.1, noChoice.2, noChoice.3⟩,
        fun noChoice => ⟨noChoice.1, noChoice.2, noChoice.3⟩⟩
    · intro first
      exact ⟨fun choice => ⟨choice.1, choice.2, choice.3⟩,
        fun choice => ⟨choice.1, choice.2, choice.3⟩⟩
  · refine iff_of_false ?_ fun both => sameUsage both.1
    exact fun isEvent => sameUsage (isEvent.usage.symm.trans isNull)

end EventAddsNull

section Lines

variable
  {runtime : ProviderRuntime}
  {line : List UInt8}

theorem IsData.unique
    {first second : String}
    (isFirst : IsData line first)
    (isSecond : IsData line second) :
    first = second := by
  obtain ⟨text, rest, isText, isRest, rfl⟩ := isFirst
  obtain ⟨other, otherRest, isOther, isOtherRest, rfl⟩ := isSecond
  obtain rfl := Option.some.inj (isText.symm.trans isOther)
  rw [(String.append_right_inj "data:").mp (isRest.symm.trans isOtherRest)]

/-- A line with data says something after `data:`. -/
theorem IsData.not_other
    {data text : String}
    (isData : IsData line data)
    (isText : String.fromUTF8? ⟨line.toArray⟩ = some text) :
    "data:".toList <+: (Text.trim text).toList := by
  obtain ⟨other, rest, isOther, isRest, -⟩ := isData
  obtain rfl := Option.some.inj (isText.symm.trans isOther)
  rw [isRest, String.toList_append]
  exact List.prefix_append _ _

/-- A line with a value tells an event that the value carries, or nothing at
all. -/
theorem CarriesValue.tells_iff
    {value : Json.Value}
    (carries : CarriesValue runtime line value)
    (tale : Tale) :
    Tells runtime line tale ↔
      ∃ event, tale = .event event ∧ IsEvent value event := by
  obtain ⟨data, isData, notBlank, notDone, parsed⟩ := carries.data
  constructor
  · intro tells
    cases tells with
    | nothing carries =>
        cases carries with
        | other isText noData => exact absurd (isData.not_other isText) noData
        | blank isBlank => exact absurd (isData.unique isBlank) notBlank
    | done isDone => exact absurd (isData.unique isDone) notDone
    | event carries =>
        cases carries with
        | event isOther _ _ otherParsed isEvent =>
            rw [isOther.unique isData, parsed] at otherParsed
            cases otherParsed
            exact ⟨_, rfl, isEvent⟩
  · rintro ⟨event, rfl, isEvent⟩
    exact .event (.event isData notBlank notDone parsed isEvent)

/-- A line that tells an event has a value. -/
theorem carriesValue_of_tells
    {event : ChatEvent}
    (tells : Tells runtime line (.event event)) :
    ∃ value, CarriesValue runtime line value ∧ IsEvent value event := by
  cases tells with
  | event carries =>
      cases carries with
      | event isData notBlank notDone parsed isEvent =>
          exact ⟨_, ⟨_, isData, notBlank, notDone, parsed⟩, isEvent⟩

end Lines

/-! ## Streams with another event -/

section Streams

variable
  {runtime : ProviderRuntime}
  {model : ModelConfig}

@[simp] theorem eventsOf_append_event
    (first second : List Tale)
    (event : ChatEvent) :
    eventsOf (first ++ .event event :: second) =
      eventsOf first ++ event :: eventsOf second := by
  simp [eventsOf, Tale.told]

/-- Two events that differ in their usage only yield the same, when the reports
are the same. -/
theorem yields_of_sameReports
    {first second : List Tale}
    {event other : ChatEvent}
    {message : Message}
    {charge : Int64}
    (content : event.content = other.content)
    (fragments : event.fragments = other.fragments)
    (finishes : event.finishes = other.finishes)
    (reports : ReportsLast runtime model charge
        (eventsOf first ++ event :: eventsOf second) →
      ReportsLast runtime model charge
        (eventsOf first ++ other :: eventsOf second))
    (yields : Yields runtime model (first ++ .event event :: second) message
      charge) :
    Yields runtime model (first ++ .event other :: second) message charge := by
  have sameFragments : fragmentsOf
      (eventsOf first ++ event :: eventsOf second) =
        fragmentsOf (eventsOf first ++ other :: eventsOf second) := by
    simp only [fragmentsOf, List.flatMap_append, List.flatMap_cons, fragments]
  have sameGathered : gathered
      (eventsOf first ++ event :: eventsOf second) =
        gathered (eventsOf first ++ other :: eventsOf second) := by
    funext index
    unfold gathered
    rw [sameFragments]
  have sameIndices : receivedIndices
      (eventsOf first ++ event :: eventsOf second) =
        receivedIndices (eventsOf first ++ other :: eventsOf second) := by
    unfold receivedIndices
    rw [sameFragments]
  refine ⟨?_, ?_, ?_, yields.role, yields.callId, ?_, ?_⟩
  · simpa using yields.done
  · have finished := List.any_eq_true.mpr yields.finishes
    rw [eventsOf_append_event, List.any_append, List.any_cons, finishes]
      at finished
    apply List.any_eq_true.mp
    rw [eventsOf_append_event, List.any_append, List.any_cons]
    exact finished
  · rw [eventsOf_append_event]
    apply reports
    rw [← eventsOf_append_event]
    exact yields.reports
  · have text := yields.text
    simp only [eventsOf_append_event, List.filterMap_append,
      List.filterMap_cons] at text ⊢
    rwa [← content]
  · have calls := yields.calls
    rw [eventsOf_append_event, sameGathered, sameIndices] at calls
    rw [eventsOf_append_event]
    exact calls

/-- Only the last usage counts. -/
theorem charge_takeAll_of_usage
    {events : List ChatEvent}
    (reported : ∃ event ∈ events, event.usage ≠ none)
    (stream other : ChatStream) :
    (stream.takeAll runtime model events).charge =
      (other.takeAll runtime model events).charge := by
  induction events generalizing stream other with
  | nil => exact absurd reported (by simp)
  | cons event rest inductionHypothesis =>
      rw [ChatStream.takeAll_cons, ChatStream.takeAll_cons]
      by_cases later : ∃ event ∈ rest, event.usage ≠ none
      · exact inductionHypothesis later _ _
      · have noLater : ∀ event ∈ rest, event.usage = none := by
          intro event isLater
          by_contra hasUsage
          exact later ⟨event, isLater, hasUsage⟩
        rw [ChatStream.charge_takeAll_of_none runtime model noLater,
          ChatStream.charge_takeAll_of_none runtime model noLater]
        obtain ⟨reporting, member, hasUsage⟩ := reported
        rcases List.mem_cons.mp member with rfl | isLater
        · obtain ⟨usage, isUsage⟩ := Option.ne_none_iff_exists'.mp hasUsage
          unfold ChatStream.take
          rw [isUsage]
          rfl
        · exact absurd (noLater reporting isLater) hasUsage

/-- A `null` usage has no charge. -/
theorem usageCharge_null (noCost : runtime.costMicros .null = none) :
    usageCharge runtime model .null = none := by
  unfold usageCharge
  change Option.or (if _ then runtime.costMicros .null else none) none = none
  rw [noCost, ite_self]
  rfl

/-- A `null` usage is the last report, unless there is a later one. -/
theorem reportsLast_null_iff
    (noCost : runtime.costMicros .null = none)
    {before after : List ChatEvent}
    {event : ChatEvent}
    (isNull : event.usage = some .null)
    {charge : Int64} :
    ReportsLast runtime model charge (before ++ event :: after) ↔
      (∃ later ∈ after, later.usage ≠ none) ∧
        ReportsLast runtime model charge
          (before ++ { event with usage := none } :: after) := by
  simp only [← charge_takeAll_eq_some_iff]
  rw [ChatStream.takeAll_append, ChatStream.takeAll_append,
    ChatStream.takeAll_cons, ChatStream.takeAll_cons]
  by_cases later : ∃ later ∈ after, later.usage ≠ none
  · rw [and_iff_right later, charge_takeAll_of_usage later]
  · have noLater : ∀ event ∈ after, event.usage = none := by
      intro event isLater
      by_contra hasUsage
      exact later ⟨event, isLater, hasUsage⟩
    refine iff_of_false ?_ fun both => later both.1
    rw [ChatStream.charge_takeAll_of_none runtime model noLater]
    unfold ChatStream.take
    rw [isNull]
    change ¬ usageCharge runtime model .null = some charge
    rw [usageCharge_null noCost]
    exact fun impossible => nomatch impossible

theorem accepted_append_cons_iff
    {before after : List (List UInt8)}
    {line : List UInt8}
    {message : Message}
    {charge : Int64} :
    Accepted runtime model (before ++ line :: after) message charge ↔
      ∃ first tale second, List.Forall₂ (Tells runtime) before first ∧
        Tells runtime line tale ∧ List.Forall₂ (Tells runtime) after second ∧
        Yields runtime model (first ++ tale :: second) message charge := by
  unfold Accepted
  simp only [Replace.forall₂_append_cons_iff]
  constructor
  · rintro ⟨_, ⟨first, tale, second, rfl, tellFirst, tells, tellSecond⟩,
      yields⟩
    exact ⟨first, tale, second, tellFirst, tells, tellSecond, yields⟩
  · rintro ⟨first, tale, second, tellFirst, tells, tellSecond, yields⟩
    exact ⟨_, ⟨first, tale, second, rfl, tellFirst, tells, tellSecond⟩,
      yields⟩

end Streams

namespace NullAddition

variable
  {runtime : ProviderRuntime}
  {model : ModelConfig}
  (addition : NullAddition runtime)

/-- The events that later lines tell have a usage exactly when one of these
lines carries one. -/
theorem usageLater_iff
    {later : List Tale}
    (tell : List.Forall₂ (Tells runtime) addition.after later) :
    addition.UsageLater ↔
      ∃ event ∈ eventsOf later, event.usage ≠ none := by
  constructor
  · rintro ⟨line, member, value, carries, hasUsage⟩
    obtain ⟨tale, isTale, tells⟩ := Replace.exists_related tell member
    obtain ⟨event, rfl, isEvent⟩ := (carries.tells_iff tale).mp tells
    refine ⟨event, List.mem_filterMap.mpr ⟨_, isTale, rfl⟩, ?_⟩
    rw [← isEvent.usage]
    exact hasUsage
  · rintro ⟨event, isTold, hasUsage⟩
    obtain ⟨tale, isTale, told⟩ := List.mem_filterMap.mp isTold
    obtain ⟨line, member, tells⟩ :=
      Replace.exists_related tell.flip isTale
    cases tale with
    | event carried =>
        cases told
        obtain ⟨value, carries, isEvent⟩ := carriesValue_of_tells tells
        refine ⟨line, member, value, carries, ?_⟩
        rw [isEvent.usage]
        exact hasUsage
    | nothing => cases told
    | done => cases told

/-- A stream with an error, even `null`, is not accepted. -/
theorem not_accepted_addedLines_error
    (isError : addition.place = .member "error")
    {message : Message}
    {charge : Int64} :
    ¬ Accepted runtime model addition.addedLines message charge := by
  unfold addedLines
  rw [accepted_append_cons_iff]
  rintro ⟨first, tale, second, -, tells, -, -⟩
  obtain ⟨event, -, isEvent⟩ := (addition.addedCarries.tells_iff tale).mp
    tells
  have adds := addition.adds
  rw [isError] at adds
  exact adds.not_isEvent event isEvent

/-- A `null` usage is passed over when a usage is reported later. -/
theorem accepted_addedLines_usage
    (noCost : runtime.costMicros .null = none)
    (isUsage : addition.place = .member "usage")
    {message : Message}
    {charge : Int64} :
    Accepted runtime model addition.addedLines message charge ↔
      Accepted runtime model addition.lines message charge ∧
        addition.UsageLater := by
  unfold lines addedLines
  rw [accepted_append_cons_iff, accepted_append_cons_iff]
  have adds := addition.adds
  rw [isUsage] at adds
  constructor
  · rintro ⟨first, tale, second, tellFirst, tells, tellSecond, yields⟩
    obtain ⟨event, rfl, isEvent⟩ :=
      (addition.addedCarries.tells_iff tale).mp tells
    obtain ⟨isNull, isOld⟩ := (adds.isEvent_usage_iff event).mp isEvent
    have reports := yields.reports
    rw [eventsOf_append_event, reportsLast_null_iff noCost isNull]
      at reports
    refine ⟨⟨first, .event { event with usage := none }, second, tellFirst,
      ?_, tellSecond, ?_⟩, ?_⟩
    · exact (addition.carries.tells_iff _).mpr ⟨_, rfl, isOld⟩
    · refine yields_of_sameReports ?_ ?_ ?_ ?_ yields
      · rfl
      · rfl
      · rfl
      · exact fun _ => reports.2
    · exact (addition.usageLater_iff tellSecond).mpr reports.1
  · rintro ⟨⟨first, tale, second, tellFirst, tells, tellSecond, yields⟩,
      usageLater⟩
    obtain ⟨event, rfl, isEvent⟩ :=
      (addition.carries.tells_iff tale).mp tells
    have later := (addition.usageLater_iff tellSecond).mp usageLater
    let null : ChatEvent := { event with usage := some .null }
    have restored : { null with usage := none } = event := by
      have noUsage : event.usage = none :=
        isEvent.usage.symm.trans adds.usage_eq_none
      rw [← noUsage]
    refine ⟨first, .event null, second, tellFirst, ?_, tellSecond, ?_⟩
    · apply (addition.addedCarries.tells_iff _).mpr
      refine ⟨null, rfl, (adds.isEvent_usage_iff null).mpr ⟨rfl, ?_⟩⟩
      rw [restored]
      exact isEvent
    · refine yields_of_sameReports ?_ ?_ ?_ ?_ yields
      · rfl
      · rfl
      · rfl
      · intro reports
        have isNull : null.usage = some .null := rfl
        rw [reportsLast_null_iff noCost isNull, restored]
        exact ⟨later, reports⟩

/-- A `null` anywhere else is not noticed. -/
theorem accepted_addedLines_other
    (notError : addition.place ≠ .member "error")
    (notUsage : addition.place ≠ .member "usage")
    {message : Message}
    {charge : Int64} :
    Accepted runtime model addition.addedLines message charge ↔
      Accepted runtime model addition.lines message charge := by
  unfold lines addedLines
  rw [accepted_append_cons_iff, accepted_append_cons_iff]
  have unnoticed : ∀ tale, Tells runtime addition.added tale ↔
      Tells runtime addition.line tale := by
    intro tale
    rw [addition.addedCarries.tells_iff, addition.carries.tells_iff]
    simp only [addition.adds.isEvent_iff notError notUsage]
  simp only [unnoticed]

/-- With the `null` a stream is accepted exactly when it was accepted before and
the `null` is harmless. -/
theorem accepted_addedLines_iff
    (noCost : runtime.costMicros .null = none)
    {message : Message}
    {charge : Int64} :
    Accepted runtime model addition.addedLines message charge ↔
      Accepted runtime model addition.lines message charge ∧
        addition.Harmless := by
  by_cases isError : addition.place = .member "error"
  · exact iff_of_false (addition.not_accepted_addedLines_error isError)
      fun both => both.2.noError isError
  by_cases isUsage : addition.place = .member "usage"
  · rw [addition.accepted_addedLines_usage noCost isUsage]
    apply and_congr_right'
    exact ⟨fun later => ⟨isError, fun _ => later⟩,
      fun harmless => harmless.reported isUsage⟩
  · rw [addition.accepted_addedLines_other isError isUsage]
    have harmless : addition.Harmless :=
      ⟨isError, fun impossible => absurd impossible isUsage⟩
    exact (and_iff_left harmless).symm

/-- The bytes around any line are cut into the lines. -/
theorem splitLines_around
    {line : List UInt8}
    (isLine : IsLine line) :
    (splitLines ((addition.before ++ line :: addition.after).flatten ++
      addition.rest)).1 = addition.before ++ line :: addition.after := by
  have areLines : ∀ other ∈ addition.before ++ line :: addition.after,
      IsLine other := by
    intro other member
    rcases List.mem_append.mp member with isBefore | isLater
    · exact addition.areBefore other isBefore
    · rcases List.mem_cons.mp isLater with rfl | isAfter
      · exact isLine
      · exact addition.areAfter other isAfter
  rw [splitLines_flatten_append areLines,
    splitLines_of_not_mem addition.noNewline, List.append_nil]

theorem splitLines_bytes : (splitLines addition.bytes).1 = addition.lines :=
  addition.splitLines_around addition.isLine

theorem splitLines_addedBytes :
    (splitLines addition.addedBytes).1 = addition.addedLines :=
  addition.splitLines_around addition.isAdded

end NullAddition

/-- The result of a stream is the same with a `null` in one of its events
exactly when the stream is refused anyway, or the bytes of the two streams stay
within the bound together and the `null` is harmless. -/
theorem inferChat_null_iff
    {runtime : ProviderRuntime}
    (model : ModelConfig)
    (noCost : runtime.costMicros .null = none)
    (addition : NullAddition runtime)
    {chunks addedChunks : List (List UInt8)}
    (isStream : chunks.flatten = addition.bytes)
    (isAddedStream : addedChunks.flatten = addition.addedBytes) :
    (inferChat runtime model addedChunks).1 =
        (inferChat runtime model chunks).1 ↔
      addition.Refused model ∨
        (addition.bytes.length ≤ ChatStream.maxBytes ↔
          addition.addedBytes.length ≤ ChatStream.maxBytes ∧
            addition.Harmless) := by
  have before : ∀ message charge,
      (inferChat runtime model chunks).1 = .ok (message, charge) ↔
        addition.bytes.length ≤ ChatStream.maxBytes ∧
          Accepted runtime model addition.lines message charge := by
    intro message charge
    rw [inferChat_eq_ok_iff, isStream, addition.splitLines_bytes]
  have after : ∀ message charge,
      (inferChat runtime model addedChunks).1 = .ok (message, charge) ↔
        addition.addedBytes.length ≤ ChatStream.maxBytes ∧
          Accepted runtime model addition.lines message charge ∧
            addition.Harmless := by
    intro message charge
    rw [inferChat_eq_ok_iff, isAddedStream, addition.splitLines_addedBytes,
      addition.accepted_addedLines_iff noCost]
  rw [inferChat_eq_iff]
  simp only [before, after]
  constructor
  · intro same
    by_cases refused : addition.Refused model
    · exact .inl refused
    · obtain ⟨message, charge, accepted⟩ : ∃ message charge,
          Accepted runtime model addition.lines message charge := by
        unfold NullAddition.Refused at refused
        push Not at refused
        exact refused
      have sameOne := same message charge
      simp only [accepted, true_and, and_true] at sameOne
      exact .inr sameOne.symm
  · rintro (refused | sameBytes) message charge
    · have notAccepted := refused message charge
      simp only [notAccepted, false_and, and_false]
    · by_cases accepted : Accepted runtime model addition.lines message charge
      · simp only [accepted, true_and, and_true]
        exact sameBytes.symm
      · simp only [accepted, false_and, and_false]

/-! ## A usage that is null -/

/-- The line of an event with no members. -/
theorem carriesValue_empty :
    CarriesValue sampleRuntime (dataLine (.object [])) (.object []) := by
  have isData := @isData_dataLine [] (by decide)
  exact ⟨_, isData, by decide, by decide, rfl⟩

theorem carriesValue_nullUsage :
    CarriesValue sampleRuntime (dataLine nullUsageEvent) nullUsageEvent := by
  have isData := @isData_dataLine [("usage", .null)] (by decide)
  have parsed : sampleRuntime.parse nullUsageEvent.compact =
      some nullUsageEvent :=
    parse_of_find rfl rfl
  exact ⟨_, isData, by decide, by decide, parsed⟩

/-- What the empty event carries. -/
def emptyCarried : ChatEvent where
  content := none
  fragments := []
  finishes := false
  usage := none

/-- A stream with an empty event before or after its usage, and a `null` usage
added to the empty event. -/
def usageAddition (reportedLater : Bool) : NullAddition sampleRuntime where
  place := .member "usage"
  before :=
    [dataLine pieceEvent, dataLine callEvent] ++
      if reportedLater then [] else [dataLine usageEvent]
  line := dataLine (.object [])
  added := dataLine nullUsageEvent
  after := (if reportedLater then [dataLine usageEvent] else []) ++ [doneLine]
  rest := []
  value := .object []
  extended := nullUsageEvent
  areBefore := by
    cases reportedLater
    · simpa using ⟨carries_piece.1, carries_call.1, carries_usage.1⟩
    · simpa using ⟨carries_piece.1, carries_call.1⟩
  isLine := isLine_dataLine (by decide)
  isAdded := isLine_dataLine (by decide)
  areAfter := by
    cases reportedLater
    · simpa using isLine_doneLine
    · simpa using ⟨carries_usage.1, isLine_doneLine⟩
  noNewline := List.not_mem_nil
  carries := carriesValue_empty
  addedCarries := carriesValue_nullUsage
  adds := .member rfl

theorem small_usageAddition (reportedLater : Bool) :
    (usageAddition reportedLater).bytes.length ≤ ChatStream.maxBytes ∧
      (usageAddition reportedLater).addedBytes.length ≤
        ChatStream.maxBytes := by
  obtain ⟨call, piece, usage, null, done⟩ := length_sampleEvents_le
  have empty : (Json.write (.object [])).length ≤ 1000 := by decide
  cases reportedLater
  · simp [NullAddition.bytes, NullAddition.addedBytes, NullAddition.lines,
      NullAddition.addedLines, usageAddition, length_dataLine,
      ChatStream.maxBytes]
    omega
  · simp [NullAddition.bytes, NullAddition.addedBytes, NullAddition.lines,
      NullAddition.addedLines, usageAddition, length_dataLine,
      ChatStream.maxBytes]
    omega

/-- A usage before the empty event is the last report. -/
theorem accepted_usageAddition :
    Accepted sampleRuntime chatModel (usageAddition false).lines sampleMessage
      3 := by
  have emptyTells : Tells sampleRuntime (dataLine (.object []))
      (.event emptyCarried) := by
    apply (carriesValue_empty.tells_iff _).mpr
    exact ⟨emptyCarried, rfl, rfl, rfl, rfl, rfl, rfl⟩
  let tales : List Tale := [.event pieceCarried, .event callCarried,
    .event (usageCarried (usageEvent.index "usage")), .event emptyCarried,
    .done]
  have tell : List.Forall₂ (Tells sampleRuntime) (usageAddition false).lines
      tales :=
    .cons (.event carries_piece.2) (.cons (.event carries_call.2)
      (.cons (.event carries_usage.2) (.cons emptyTells
        (.cons (.done isData_doneLine) .nil))))
  refine ⟨tales, tell, ?_⟩
  exact
    { done := by simp [tales]
      finishes := ⟨callCarried, by simp [tales, eventsOf, Tale.told], rfl⟩
      reports := ⟨[pieceCarried, callCarried],
        usageCarried (usageEvent.index "usage"), [emptyCarried], _, rfl, rfl,
        by decide, by simp [emptyCarried]⟩
      role := rfl
      callId := rfl
      text := by decide
      calls := .cons ⟨rfl, rfl, rfl⟩ .nil }

/-- The last line has no usage. -/
theorem not_usageLater_usageAddition :
    ¬ (usageAddition false).UsageLater := by
  rintro ⟨line, member, value, carries, -⟩
  obtain rfl := List.mem_singleton.mp member
  obtain ⟨data, isData, -, notDone, -⟩ := carries.data
  exact notDone (isData.unique isData_doneLine)

/-- A `null` usage after the usage loses the charge, and with it the answer. -/
theorem inferChat_null_refused :
    (inferChat sampleRuntime chatModel [(usageAddition false).bytes]).1 =
        .ok (sampleMessage, 3) ∧
      (inferChat sampleRuntime chatModel
        [(usageAddition false).addedBytes]).1 = .error .provider := by
  obtain ⟨small, addedSmall⟩ := small_usageAddition false
  constructor
  · rw [inferChat_eq_ok_iff, List.flatten_singleton,
      NullAddition.splitLines_bytes]
    exact ⟨small, accepted_usageAddition⟩
  · cases result : (inferChat sampleRuntime chatModel
        [(usageAddition false).addedBytes]).1 with
    | error error => rw [inferChat_eq_error result]
    | ok answer =>
        rw [inferChat_eq_ok_iff, List.flatten_singleton,
          NullAddition.splitLines_addedBytes,
          NullAddition.accepted_addedLines_iff _ rfl] at result
        exact absurd (result.2.2.reported rfl) not_usageLater_usageAddition

/-- Before the usage it is harmless. -/
theorem inferChat_null_iff_usage :
    (inferChat sampleRuntime chatModel [(usageAddition true).addedBytes]).1 =
      (inferChat sampleRuntime chatModel [(usageAddition true).bytes]).1 := by
  obtain ⟨small, addedSmall⟩ := small_usageAddition true
  have later : (usageAddition true).UsageLater := by
    refine ⟨dataLine usageEvent, by simp [usageAddition], usageEvent, ?_,
      fun impossible => nomatch impossible⟩
    have isData := @isData_dataLine [("usage", usageEvent.index "usage")]
      (by decide)
    have parsed : sampleRuntime.parse usageEvent.compact = some usageEvent :=
      parse_of_find rfl rfl
    exact ⟨_, isData, by decide, by decide, parsed⟩
  apply (inferChat_null_iff chatModel rfl (usageAddition true)
    List.flatten_singleton List.flatten_singleton).mpr
  right
  exact iff_of_true small ⟨addedSmall, by simp [usageAddition],
    fun _ => later⟩

end AsystantGateway
