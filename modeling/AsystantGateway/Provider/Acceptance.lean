import AsystantGateway.Provider.Streaming

/-!
# Which streams are accepted

A line tells the loop nothing, that the stream is done, or an event, or else the
loop stops at it, whatever came before. So a stream is accepted exactly when
each of its lines tells something and the events together make a message and a
charge.
-/

namespace AsystantGateway

open Stateful

/-- What a line tells the loop. -/
inductive Tale
  | nothing
  | done
  | event (event : ChatEvent)

/-- The event that is told. -/
def Tale.told : Tale → Option ChatEvent
  | .event carried => some carried
  | _ => none

/-- Whether the end is told. -/
def Tale.isDone : Tale → Bool
  | .done => true
  | _ => false

/-- What is told in a line. -/
inductive Tells
    (runtime : ProviderRuntime)
    (line : List UInt8) : Tale → Prop
  | nothing (carries : Carries runtime line none) :
      Tells runtime line .nothing
  | done (isDone : IsData line "[DONE]") : Tells runtime line .done
  | event {event : ChatEvent} (carries : Carries runtime line (some event)) :
      Tells runtime line (.event event)

/-- The events that are told. -/
def eventsOf (tales : List Tale) : List ChatEvent :=
  tales.filterMap Tale.told

/-- The indices for which fragments arrive, in increasing order. -/
def receivedIndices (events : List ChatEvent) : List (Fin 16) :=
  (List.finRange 16).filter fun index =>
    Gather.piecesOf index (fragmentsOf events) ≠ []

/-- What is told makes a message and a charge. -/
structure Yields
    (runtime : ProviderRuntime)
    (model : ModelConfig)
    (tales : List Tale)
    (message : Message)
    (charge : Int64) : Prop where
  done : Tale.done ∈ tales
  finishes : ∃ event ∈ eventsOf tales, event.finishes = true
  reports : ReportsLast runtime model charge (eventsOf tales)
  role : message.role = "assistant"
  callId : message.callId = ""
  text : message.content =
    String.join ((eventsOf tales).filterMap ChatEvent.content)
  calls : List.Forall₂
    (fun index call => (gathered (eventsOf tales) index).Are runtime call)
    (receivedIndices (eventsOf tales)) message.calls

/-- A stream whose lines tell a message and a charge. -/
def Accepted
    (runtime : ProviderRuntime)
    (model : ModelConfig)
    (lines : List (List UInt8))
    (message : Message)
    (charge : Int64) : Prop :=
  ∃ tales, List.Forall₂ (Tells runtime) lines tales ∧
    Yields runtime model tales message charge

/-! ## Every line tells something or fails -/

section Lines

variable {runtime : ProviderRuntime} {model : ModelConfig}

theorem decodeCall_cases (value : Json.Value) :
    (∃ fragment, IsFragment value fragment) ∨
      Fails .provider (decodeCall value) := by
  unfold decodeCall
  cases isIndex : (value.index "index").asU64 with
  | none => exact .inr .throw
  | some word =>
      by_cases bound : word.toNat < 16
      · exact .inl ⟨(⟨word.toNat, bound⟩, ⟨_, _, _⟩), ⟨word, isIndex, rfl⟩,
          rfl, rfl, rfl⟩
      · right
        dsimp only
        rw [dif_neg bound]
        exact .throw

theorem decodeFinish_cases (choice : Json.Value) :
    (∃ finishes : Bool, (choice.index "finish_reason").asStr ∈
        if finishes then [some "stop", some "tool_calls"] else [none]) ∨
      Fails .provider (decodeFinish choice) := by
  unfold decodeFinish
  cases isReason : (choice.index "finish_reason").asStr with
  | none => exact .inl ⟨false, List.mem_singleton_self _⟩
  | some reason =>
      by_cases irregular : reason ≠ "stop" ∧ reason ≠ "tool_calls"
      · right
        dsimp only
        rw [if_pos irregular]
        exact .throw
      · left
        refine ⟨true, ?_⟩
        simp only [↓reduceIte, List.mem_cons, Option.some.injEq,
          List.not_mem_nil, or_false]
        by_contra neither
        exact irregular (not_or.mp neither)

theorem decodeCalls_cases (delta : Json.Value) :
    (∃ fragments, List.Forall₂ IsFragment
        ((delta.index "tool_calls").asArray.getD []) fragments) ∨
      Fails .provider (decodeCalls delta) := by
  unfold decodeCalls
  cases (delta.index "tool_calls").asArray with
  | none => exact .inl ⟨[], .nil⟩
  | some values =>
      exact Fails.forM_cases (fun _ _ isFragment => decodeCall_does isFragment)
        decodeCall_cases values

theorem decodeChoice_cases (choice : Json.Value) :
    (∃ event, IsChoice choice event) ∨
      Fails .provider (decodeChoice choice) := by
  unfold decodeChoice
  rcases decodeFinish_cases choice with ⟨finishes, reason⟩ | fails
  · rcases decodeCalls_cases (choice.index "delta") with
      ⟨fragments, areFragments⟩ | fails
    · exact .inl ⟨⟨_, fragments, finishes, none⟩, rfl, areFragments, reason⟩
    · right
      exact Fails.bind_of_does (decodeFinish_does reason)
        (Fails.bind_of_does (decodeText_does rfl) fails)
  · exact .inr (fails.bind _)

/-- An event is carried unless it has an error or its choice cannot be
decoded. -/
theorem decodeEvent_cases (value : Json.Value) :
    (∃ event, IsEvent value event) ∨
      Fails .provider (decodeEvent runtime model value) := by
  unfold decodeEvent
  by_cases hasError : (value.get "error").isSome
  · rw [if_pos hasError]
    exact .inr .throw
  · have noError := Option.not_isSome_iff_eq_none.mp hasError
    rw [if_neg hasError]
    cases isFirst : firstChoice value with
    | none =>
        left
        refine ⟨⟨none, [], false, value.get "usage"⟩, noError, rfl, ?_⟩
        rw [isFirst]
        exact ⟨rfl, rfl, rfl⟩
    | some choice =>
        rcases decodeChoice_cases choice with ⟨event, isChoice⟩ | fails
        · left
          refine ⟨{ event with usage := value.get "usage" }, noError, rfl, ?_⟩
          rw [isFirst]
          exact ⟨isChoice.content, isChoice.fragments, isChoice.reason⟩
        · right
          unfold firstChoice at isFirst
          rw [isFirst]
          exact Fails.bind_of_does (decodeUsage_does rfl) fails

theorem stripStart_eq_none
    {beginning text : String}
    (isNone : stripStart beginning text = none) :
    ¬ beginning.toList <+: text.toList := by
  intro isPrefix
  unfold stripStart at isNone
  rw [if_pos (List.isPrefixOf_iff_prefix.mpr isPrefix)] at isNone
  cases isNone

theorem eq_append_of_stripStart
    {beginning text rest : String}
    (isRest : stripStart beginning text = some rest) :
    text = beginning ++ rest := by
  unfold stripStart at isRest
  split at isRest
  · rename_i isPrefix
    obtain ⟨others, isText⟩ := List.isPrefixOf_iff_prefix.mp isPrefix
    rw [← isText, List.drop_left, Option.some.injEq] at isRest
    apply String.toList_inj.mp
    rw [String.toList_append, ← isRest, String.toList_ofList, isText]
  · cases isRest

/-- A line tells something, or the loop fails at it. -/
theorem decodeLine_cases (line : List UInt8) :
    (∃ tale, Tells runtime line tale) ∨
      Fails .provider (decodeLine runtime model line) := by
  cases isText : String.fromUTF8? ⟨line.toArray⟩ with
  | none =>
      right
      unfold decodeLine
      rw [isText]
      exact .throw
  | some text =>
      cases isRest : stripStart "data:" (Text.trim text) with
      | none =>
          left
          exact ⟨.nothing, .nothing (.other isText
            (stripStart_eq_none isRest))⟩
      | some rest =>
          have isData : IsData line (Text.trim rest) :=
            ⟨text, rest, isText, eq_append_of_stripStart isRest, rfl⟩
          rw [decodeLine_of_isData isData]
          unfold decodeData
          by_cases isDone : Text.trim rest = "[DONE]"
          · rw [isDone] at isData
            exact .inl ⟨.done, .done isData⟩
          by_cases isBlank : Text.trim rest = ""
          · rw [isBlank] at isData
            exact .inl ⟨.nothing, .nothing (.blank isData)⟩
          rw [if_neg isDone, if_neg isBlank]
          cases parsed : runtime.parse (Text.trim rest) with
          | none => exact .inr .throw
          | some value =>
              rcases decodeEvent_cases value with ⟨event, isEvent⟩ | fails
              · exact .inl ⟨.event event, .event
                  (.event isData isBlank isDone parsed isEvent)⟩
              · exact .inr fails

end Lines

/-! ## What the lines tell together -/

namespace ChatStream

variable (runtime : ProviderRuntime) (model : ModelConfig)

/-- The stream after what a line tells. -/
def hear (tale : Tale) (stream : ChatStream) : ChatStream :=
  match tale with
  | .nothing => stream
  | .done => { stream with done := true }
  | .event event => stream.take runtime model event

/-- The stream after what lines tell. -/
def hearAll (tales : List Tale) (stream : ChatStream) : ChatStream :=
  tales.foldl (fun stream tale => stream.hear runtime model tale) stream

/-- The stream with another note of whether it is done. -/
def setDone (done : Bool) (stream : ChatStream) : ChatStream :=
  { stream with done }

/-- Taking an event has nothing to do with being done. -/
theorem take_setDone
    (event : ChatEvent)
    (done : Bool)
    (stream : ChatStream) :
    (stream.setDone done).take runtime model event =
      (stream.take runtime model event).setDone done := by
  unfold take addUsage
  cases event.usage with
  | none => rfl
  | some usage => rfl

theorem takeAll_setDone
    (events : List ChatEvent)
    (done : Bool)
    (stream : ChatStream) :
    (stream.setDone done).takeAll runtime model events =
      (stream.takeAll runtime model events).setDone done := by
  induction events generalizing stream with
  | nil => rfl
  | cons event rest inductionHypothesis =>
      rw [takeAll_cons, takeAll_cons, take_setDone, inductionHypothesis]

/-- The events are taken in order, and any line can tell that the stream is
done. -/
theorem hearAll_eq (tales : List Tale) (stream : ChatStream) :
    stream.hearAll runtime model tales =
      (stream.takeAll runtime model (eventsOf tales)).setDone
        (stream.done || tales.any Tale.isDone) := by
  induction tales generalizing stream with
  | nil =>
      rw [List.any_nil, Bool.or_false]
      rfl
  | cons tale rest inductionHypothesis =>
      refine (inductionHypothesis (stream.hear runtime model tale)).trans ?_
      cases tale with
      | nothing => rfl
      | done =>
          have heard : stream.hear runtime model .done =
              stream.setDone true := rfl
          rw [heard, takeAll_setDone, List.any_cons, Tale.isDone,
            Bool.true_or, Bool.or_true]
          rfl
      | event event =>
          have kept : (stream.take runtime model event).done = stream.done :=
            done_takeAll runtime model [event] stream
          have heard : stream.hear runtime model (.event event) =
              stream.take runtime model event := rfl
          rw [heard, kept]
          rfl

end ChatStream

section Hear

variable {runtime : ProviderRuntime} {model : ModelConfig}

theorem decodeLine_hears
    {line : List UInt8}
    {tale : Tale}
    (tells : Tells runtime line tale) :
    Does (ChatStream.hear runtime model tale)
      (decodeLine runtime model line) := by
  cases tells with
  | nothing carries => exact decodeLine_does carries
  | done isDone => exact decodeDoneLine_does isDone
  | event carries => exact decodeLine_does carries

theorem decodeLines_hears
    {lines : List (List UInt8)}
    {tales : List Tale}
    (tell : List.Forall₂ (Tells runtime) lines tales) :
    Does (ChatStream.hearAll runtime model tales)
      (decodeLines runtime model lines) := by
  apply Does.forM
  exact tell.flip.imp fun _ _ tells => decodeLine_hears tells

/-- The lines tell something each, or the loop fails at one of them. -/
theorem decodeLines_cases (lines : List (List UInt8)) :
    (∃ tales, List.Forall₂ (Tells runtime) lines tales) ∨
      Fails .provider (decodeLines runtime model lines) :=
  Fails.forM_cases (fun _ _ tells => decodeLine_hears tells)
    decodeLine_cases lines

/-- The charge that is left is that of the last event with a usage. -/
theorem charge_takeAll_eq_some_iff
    {charge : Int64}
    {events : List ChatEvent} :
    (ChatStream.start.takeAll runtime model events).charge = some charge ↔
      ReportsLast runtime model charge events := by
  constructor
  · induction events using List.reverseRecOn with
    | nil => exact fun impossible => nomatch impossible
    | append_singleton events event inductionHypothesis =>
        intro left
        rw [ChatStream.takeAll_append, ChatStream.takeAll_cons] at left
        cases isUsage : event.usage with
        | none =>
            rw [ChatStream.take, isUsage] at left
            obtain ⟨before, reported, after, usage, rfl, isReport, isCharge,
              later⟩ := inductionHypothesis left
            refine ⟨before, reported, after ++ [event], usage, ?_, isReport,
              isCharge, ?_⟩
            · rw [List.append_assoc, List.cons_append]
            · intro other isLater
              rcases List.mem_append.mp isLater with old | isLast
              · exact later other old
              · rw [List.mem_singleton.mp isLast, isUsage]
        | some usage =>
            rw [ChatStream.take, isUsage] at left
            exact ⟨events, event, [], usage, rfl, isUsage, left,
              fun _ impossible => absurd impossible List.not_mem_nil⟩
  · intro reports
    exact ChatStream.charge_takeAll runtime model reports .start

/-- The calls that were collected, in the order of their indices. -/
theorem parts_takeAll (events : List ChatEvent) :
    (ChatStream.start.takeAll runtime model events).parts =
      (receivedIndices events).map (gathered events) := by
  have increasing : (receivedIndices events).Pairwise (· < ·) :=
    (List.pairwise_lt_finRange 16).filter _
  apply filterMap_finRange increasing
  intro index
  rw [ChatStream.calls_takeAll, Gather.addAll_apply]
  by_cases received : Gather.piecesOf index (fragmentsOf events) = []
  · rw [if_pos received, if_neg (by simp [receivedIndices, received])]
    rfl
  · rw [if_neg received, if_pos (by simp [receivedIndices, received])]
    change some (List.foldl CallParts.append CallParts.empty _) = _
    rw [foldl_append_callParts]
    simp [gathered, CallParts.empty]

/-- A collected call is read exactly when its parts are those of the call. -/
theorem toolCall_eq_ok_iff
    {parts : CallParts}
    {call : ToolCall} :
    parts.toolCall runtime = .ok call ↔ parts.Are runtime call := by
  unfold CallParts.toolCall
  cases parsed : runtime.parse parts.arguments with
  | none =>
      refine iff_of_false (fun impossible => nomatch impossible) ?_
      intro are
      rw [are.arguments] at parsed
      cases parsed
  | some arguments =>
      constructor
      · intro isCall
        cases isCall
        exact ⟨rfl, rfl, parsed⟩
      · intro are
        have same := Option.some.inj (parsed.symm.trans are.arguments)
        rw [are.id, are.name, same]

/-- The calls are read exactly when each of the collected parts is one. -/
theorem mapM_toolCall_eq_ok_iff
    {parts : List CallParts}
    {calls : List ToolCall} :
    parts.mapM (CallParts.toolCall runtime) = .ok calls ↔
      List.Forall₂ (CallParts.Are runtime) parts calls := by
  rw [Checks.mapM_eq_ok_iff]
  simp only [toolCall_eq_ok_iff]

end Hear

section Accepted

variable {runtime : ProviderRuntime} {model : ModelConfig}

/-- A stream finishes with a message and a charge exactly when it is finished
and done, a charge is left, and the collected parts are calls. -/
theorem finish_eq_ok_iff
    {stream : ChatStream}
    {message : Message}
    {charge : Int64} :
    stream.finish runtime = .ok (message, charge) ↔
      stream.finished = true ∧ stream.done = true ∧
        stream.charge = some charge ∧
        List.Forall₂ (CallParts.Are runtime) stream.parts message.calls ∧
        message.role = "assistant" ∧ message.callId = "" ∧
        message.content = stream.text := by
  unfold ChatStream.finish
  rw [← mapM_toolCall_eq_ok_iff]
  by_cases unended : ¬ stream.finished ∨ ¬ stream.done
  · rw [if_pos unended]
    refine iff_of_false (fun impossible => nomatch impossible) ?_
    rintro ⟨finished, done, -⟩
    exact unended.elim (fun not => not finished) fun not => not done
  · rw [if_neg unended]
    obtain ⟨finished, done⟩ := not_or.mp unended
    rw [not_not] at finished done
    rw [Checks.bind_eq_ok_iff]
    constructor
    · rintro ⟨calls, areCalls, written⟩
      cases isCharge : stream.charge with
      | none =>
          rw [isCharge] at written
          cases written
      | some left =>
          rw [isCharge] at written
          cases written
          exact ⟨finished, done, rfl, areCalls, rfl, rfl, rfl⟩
    · rintro ⟨-, -, isCharge, areCalls, role, callId, content⟩
      refine ⟨message.calls, areCalls, ?_⟩
      rw [isCharge]
      dsimp only
      rw [← role, ← callId, ← content]

theorem any_isDone_iff {tales : List Tale} :
    tales.any Tale.isDone = true ↔ Tale.done ∈ tales := by
  rw [List.any_eq_true]
  constructor
  · rintro ⟨tale, member, isDone⟩
    cases tale with
    | done => exact member
    | _ => cases isDone
  · exact fun member => ⟨.done, member, rfl⟩

theorem finish_hearAll_eq_ok_iff
    {tales : List Tale}
    {message : Message}
    {charge : Int64} :
    (ChatStream.start.hearAll runtime model tales).finish runtime =
        .ok (message, charge) ↔
      Yields runtime model tales message charge := by
  rw [ChatStream.hearAll_eq, finish_eq_ok_iff]
  change (ChatStream.start.takeAll runtime model (eventsOf tales)).finished =
      true ∧ tales.any Tale.isDone = true ∧
    (ChatStream.start.takeAll runtime model (eventsOf tales)).charge =
      some charge ∧
    List.Forall₂ (CallParts.Are runtime)
      (ChatStream.start.takeAll runtime model (eventsOf tales)).parts
      message.calls ∧ _ ∧ _ ∧
    message.content =
      (ChatStream.start.takeAll runtime model (eventsOf tales)).text ↔ _
  rw [charge_takeAll_eq_some_iff, parts_takeAll, any_isDone_iff,
    ChatStream.finished_takeAll, ChatStream.text_takeAll,
    List.forall₂_map_left_iff]
  constructor
  · rintro ⟨finished, done, reports, calls, role, callId, text⟩
    exact ⟨done, List.any_eq_true.mp finished, reports, role, callId,
      text.trans (String.empty_append ..), calls⟩
  · intro yields
    exact ⟨List.any_eq_true.mpr yields.finishes, yields.done, yields.reports,
      yields.calls, yields.role, yields.callId,
      yields.text.trans (String.empty_append ..).symm⟩

/-- Whatever the lines are taken to tell, the result is what that makes. -/
theorem inferLines_eq_ok_iff_yields
    {lines : List (List UInt8)}
    {tales : List Tale}
    {message : Message}
    {charge : Int64}
    (tell : List.Forall₂ (Tells runtime) lines tales) :
    (inferLines runtime model lines).1 = .ok (message, charge) ↔
      Yields runtime model tales message charge := by
  have hears := @decodeLines_hears runtime model lines tales tell
  unfold inferLines
  dsimp only
  rw [hears.answer_eq, hears.after_eq]
  exact finish_hearAll_eq_ok_iff

/-- The result of some lines is a message and a charge exactly when the lines
tell them. -/
theorem inferLines_eq_ok_iff
    {lines : List (List UInt8)}
    {message : Message}
    {charge : Int64} :
    (inferLines runtime model lines).1 = .ok (message, charge) ↔
      Accepted runtime model lines message charge := by
  constructor
  · intro isOk
    rcases @decodeLines_cases runtime model lines with ⟨tales, tell⟩ | fails
    · exact ⟨tales, tell, (inferLines_eq_ok_iff_yields tell).mp isOk⟩
    · unfold inferLines at isOk
      dsimp only at isOk
      rw [fails] at isOk
      cases isOk
  · rintro ⟨tales, tell, yields⟩
    exact (inferLines_eq_ok_iff_yields tell).mpr yields

/-- Accepted lines make the message from all that they can be taken to tell. -/
theorem Accepted.yields
    {lines : List (List UInt8)}
    {tales : List Tale}
    {message : Message}
    {charge : Int64}
    (accepted : Accepted runtime model lines message charge)
    (tell : List.Forall₂ (Tells runtime) lines tales) :
    Yields runtime model tales message charge :=
  (inferLines_eq_ok_iff_yields tell).mp (inferLines_eq_ok_iff.mpr accepted)

theorem finish_eq_error
    {stream : ChatStream}
    {error : AppError}
    (isError : stream.finish runtime = .error error) :
    error = .provider := by
  unfold ChatStream.finish at isError
  split at isError
  · cases isError
    rfl
  · cases read : stream.parts.mapM (CallParts.toolCall runtime) with
    | error other =>
        rw [read] at isError
        cases isError
        obtain ⟨part, -, unread⟩ := Checks.mapM_eq_error read
        unfold CallParts.toolCall at unread
        split at unread
        · cases unread
          rfl
        · cases unread
    | ok calls =>
        rw [read] at isError
        dsimp only [bind, Except.bind] at isError
        split at isError
        · cases isError
          rfl
        · cases isError

/-- The only error of some lines is the provider's. -/
theorem inferLines_eq_error
    {lines : List (List UInt8)}
    {error : AppError}
    (isError : (inferLines runtime model lines).1 = .error error) :
    error = .provider := by
  unfold inferLines at isError
  dsimp only at isError
  cases answered : answer (decodeLines runtime model lines) .start with
  | error other =>
      rw [answered] at isError
      cases isError
      exact (decodeLines_isDecoding runtime model lines).throws _ _ answered
  | ok _ =>
      rw [answered] at isError
      exact finish_eq_error isError

/-- Of an answer the bytes count besides the lines. -/
theorem inferChat_eq_ok_iff
    {chunks : List (List UInt8)}
    {message : Message}
    {charge : Int64} :
    (inferChat runtime model chunks).1 = .ok (message, charge) ↔
      chunks.flatten.length ≤ ChatStream.maxBytes ∧
        Accepted runtime model (splitLines chunks.flatten).1 message
          charge := by
  by_cases small : chunks.flatten.length ≤ ChatStream.maxBytes
  · rw [inferChat_of_le runtime model small, inferLines_eq_ok_iff]
    exact (and_iff_right small).symm
  · rw [inferChat_of_lt runtime model (Nat.not_le.mp small)]
    exact iff_of_false (fun impossible => nomatch impossible)
      fun accepted => small accepted.1

theorem inferChat_eq_error
    {chunks : List (List UInt8)}
    {error : AppError}
    (isError : (inferChat runtime model chunks).1 = .error error) :
    error = .provider := by
  by_cases small : chunks.flatten.length ≤ ChatStream.maxBytes
  · rw [inferChat_of_le runtime model small] at isError
    exact inferLines_eq_error isError
  · rw [inferChat_of_lt runtime model (Nat.not_le.mp small)] at isError
    cases isError
    rfl

/-- Two answers have the same result when they are accepted alike. -/
theorem inferChat_eq_iff
    {chunks others : List (List UInt8)} :
    (inferChat runtime model chunks).1 = (inferChat runtime model others).1 ↔
      ∀ message charge,
        (inferChat runtime model chunks).1 = .ok (message, charge) ↔
          (inferChat runtime model others).1 = .ok (message, charge) := by
  constructor
  · intro same message charge
    rw [same]
  · intro same
    cases result : (inferChat runtime model chunks).1 with
    | ok answer => exact ((same _ _).mp result).symm
    | error error =>
        cases otherResult : (inferChat runtime model others).1 with
        | ok answer =>
            rw [(same _ _).mpr otherResult] at result
            cases result
        | error other =>
            rw [inferChat_eq_error result, inferChat_eq_error otherResult]

end Accepted

end AsystantGateway
