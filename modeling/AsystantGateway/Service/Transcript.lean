import AsystantGateway.Library.Checks
import AsystantGateway.Service.StartTurn

/-!
# Well-paired transcripts

The messages of a turn are checked in one pass that keeps the identities of the
calls whose results are pending. What it accepts is a concatenation of blocks:
a question of the user, or a proposal of the assistant followed by the results
of its calls, one each, in any order.

The pass is compared with the blocks through a transcript that is cut after a
proposal: its beginning answers what is pending, and its rest is well paired.
-/

namespace AsystantGateway

/-- A question of the user. -/
structure Message.IsQuestion (message : Message) : Prop where
  role : message.role = "user"
  calls : message.calls = []

/-- The result of a call. -/
structure Message.IsResult (message : Message) : Prop where
  role : message.role = "tool"
  calls : message.calls = []

/-- The identities of the calls that a message proposes. -/
def Message.callIds (message : Message) : List String :=
  message.calls.map ToolCall.id

/-- An assistant's message, whose calls can be answered one by one. -/
structure Message.IsProposal (message : Message) : Prop where
  role : message.role = "assistant"
  named : ∀ call ∈ message.calls, call.id ≠ ""
  objects : ∀ call ∈ message.calls, call.arguments.isObject = true
  distinct : message.callIds.Nodup

/-- Results that answer each of the given calls once, in any order. -/
structure Answers (ids : List String) (results : List Message) : Prop where
  areResults : ∀ result ∈ results, result.IsResult
  paired : (results.map Message.callId).Perm ids

/-- One round of a conversation. -/
inductive Block : List Message → Prop
  | question
      {message : Message}
      (asked : message.IsQuestion) : Block [message]
  | proposal
      {message : Message}
      {results : List Message}
      (proposed : message.IsProposal)
      (answered : Answers message.callIds results) :
      Block (message :: results)

/-- A concatenation of blocks. -/
def WellPaired (messages : List Message) : Prop :=
  ∃ blocks : List (List Message),
    (∀ block ∈ blocks, Block block) ∧ messages = blocks.flatten

/-- Messages that answer the pending calls first and are well paired then. -/
def Completes (pending : List String) (messages : List Message) : Prop :=
  ∃ results rest, messages = results ++ rest ∧
    Answers pending results ∧ WellPaired rest

theorem Answers.nil : Answers [] [] :=
  ⟨by simp, .nil⟩

theorem Answers.eq_nil
    {results : List Message}
    (answers : Answers [] results) : results = [] :=
  List.map_eq_nil_iff.mp answers.paired.eq_nil

theorem WellPaired.nil : WellPaired [] :=
  ⟨[], by simp, rfl⟩

theorem WellPaired.append
    {block messages : List Message}
    (isBlock : Block block)
    (paired : WellPaired messages) : WellPaired (block ++ messages) := by
  obtain ⟨blocks, areBlocks, rfl⟩ := paired
  exact ⟨block :: blocks, List.forall_mem_cons.mpr ⟨isBlock, areBlocks⟩, rfl⟩

@[simp] theorem completes_nil_iff
    {messages : List Message} :
    Completes [] messages ↔ WellPaired messages := by
  constructor
  · rintro ⟨results, rest, rfl, answers, paired⟩
    rw [answers.eq_nil]
    exact paired
  · intro paired
    exact ⟨[], messages, rfl, .nil, paired⟩

/-- What is pending is a set: its order does not matter. -/
theorem Completes.perm
    {first second : List String}
    {messages : List Message}
    (same : first.Perm second)
    (completes : Completes first messages) : Completes second messages := by
  obtain ⟨results, rest, equal, answers, paired⟩ := completes
  exact ⟨results, rest, equal, ⟨answers.areResults, answers.paired.trans same⟩,
    paired⟩

/-- The end of a transcript completes what is pending when nothing is. -/
theorem completes_end_iff
    {pending : List String} :
    Completes pending [] ↔ pending = [] := by
  constructor
  · rintro ⟨results, rest, equal, answers, _⟩
    have noResults : results = [] := (List.append_eq_nil_iff.mp equal.symm).1
    subst noResults
    exact answers.paired.nil_eq.symm
  · rintro rfl
    exact completes_nil_iff.mpr .nil

/-- A well-paired transcript starts with a question, or with a proposal whose
calls the rest completes. -/
theorem wellPaired_cons_iff
    {message : Message}
    {messages : List Message} :
    WellPaired (message :: messages) ↔
      (message.IsQuestion ∧ WellPaired messages) ∨
        (message.IsProposal ∧ Completes message.callIds messages) := by
  constructor
  · rintro ⟨blocks, areBlocks, equal⟩
    cases blocks with
    | nil => cases equal
    | cons block blocks =>
        rw [List.forall_mem_cons] at areBlocks
        have rest : WellPaired blocks.flatten := ⟨blocks, areBlocks.2, rfl⟩
        cases areBlocks.1 with
        | question asked =>
            cases equal
            exact .inl ⟨asked, rest⟩
        | proposal proposed answered =>
            cases equal
            exact .inr ⟨proposed, _, _, rfl, answered, rest⟩
  · rintro (⟨asked, paired⟩ | ⟨proposed, results, rest, rfl, answers, paired⟩)
    · exact paired.append (.question asked)
    · exact paired.append (.proposal proposed answers)

/-- While calls are pending the next message is the result of one of them. -/
theorem completes_cons_iff
    {pending : List String}
    {message : Message}
    {messages : List Message}
    (waiting : pending ≠ []) :
    Completes pending (message :: messages) ↔
      message.IsResult ∧ message.callId ∈ pending ∧
        Completes (pending.erase message.callId) messages := by
  constructor
  · rintro ⟨results, rest, equal, answers, paired⟩
    cases results with
    | nil => exact absurd answers.paired.nil_eq.symm waiting
    | cons result results =>
        cases equal
        have isResult := List.forall_mem_cons.mp answers.areResults
        have cut := List.cons_perm_iff_perm_erase.mp answers.paired
        exact ⟨isResult.1, cut.1, results, rest, rfl, ⟨isResult.2, cut.2⟩,
          paired⟩
  · rintro ⟨isResult, member, results, rest, rfl, answers, paired⟩
    refine ⟨message :: results, rest, rfl, ⟨?_, ?_⟩, paired⟩
    · exact List.forall_mem_cons.mpr ⟨isResult, answers.areResults⟩
    · exact List.cons_perm_iff_perm_erase.mpr ⟨member, answers.paired⟩

theorem checkCall_eq_ok_iff
    {pending after : List String}
    {call : ToolCall} :
    checkCall pending call = .ok after ↔
      (call.id ≠ "" ∧ call.arguments.isObject = true) ∧
        call.id ∉ pending ∧ after = call.id :: pending := by
  unfold checkCall
  split
  · rename_i refused
    refine iff_of_false (fun impossible => by cases impossible) ?_
    rintro ⟨⟨named, object⟩, fresh, _⟩
    rcases refused with empty | noObject | known
    · exact absurd empty named
    · exact absurd object noObject
    · exact absurd known fresh
  · rename_i passes
    push Not at passes
    simp [passes, eq_comm]

/-- The loop over the calls of a message adds their identities, which must be
new to what is pending and to each other. -/
theorem checkCalls_eq_ok_iff
    {calls : List ToolCall}
    {pending after : List String}
    (distinct : pending.Nodup) :
    calls.foldlM checkCall pending = .ok after ↔
      (∀ call ∈ calls, call.id ≠ "" ∧ call.arguments.isObject = true) ∧
        after = (calls.map ToolCall.id).reverse ++ pending ∧
          after.Nodup := by
  induction calls generalizing pending with
  | nil =>
      simp only [List.foldlM_nil, pure, Except.pure, Except.ok.injEq,
        List.not_mem_nil, false_implies, implies_true, List.map_nil,
        List.reverse_nil, List.nil_append, true_and]
      constructor
      · rintro rfl
        exact ⟨rfl, distinct⟩
      · exact fun result => result.1.symm
  | cons call calls inductionHypothesis =>
      rw [List.foldlM_cons, Checks.bind_eq_ok_iff, List.forall_mem_cons,
        List.map_cons, List.reverse_cons, List.append_assoc,
        List.singleton_append]
      constructor
      · rintro ⟨middle, checked, rest⟩
        obtain ⟨fit, fresh, rfl⟩ := checkCall_eq_ok_iff.mp checked
        have restFits := (inductionHypothesis
          (List.nodup_cons.mpr ⟨fresh, distinct⟩)).mp rest
        exact ⟨⟨fit, restFits.1⟩, restFits.2⟩
      · rintro ⟨⟨fit, restFits⟩, rfl, nodup⟩
        have known := List.nodup_append.mp nodup
        have fresh : call.id ∉ pending := (List.nodup_cons.mp known.2.1).1
        refine ⟨call.id :: pending,
          checkCall_eq_ok_iff.mpr ⟨fit, fresh, rfl⟩, ?_⟩
        exact (inductionHypothesis known.2.1).mpr ⟨restFits, rfl, nodup⟩

/-- A question is let through when nothing is pending. -/
theorem checkMessage_user
    {pending after : List String}
    {message : Message}
    (role : message.role = "user") :
    checkMessage pending message = .ok after ↔
      pending = [] ∧ message.IsQuestion ∧ after = [] := by
  simp only [checkMessage, role, ↓reduceIte]
  split
  · rename_i refused
    refine iff_of_false (fun impossible => by cases impossible) ?_
    rintro ⟨none, asked, _⟩
    exact (refused.elim (· none) (· asked.calls)).elim
  · rename_i passes
    push Not at passes
    simp only [Except.ok.injEq, passes.1, true_and]
    exact ⟨fun equal => ⟨⟨role, passes.2⟩, equal.symm⟩,
      fun result => result.2.symm⟩

/-- A proposal is let through when nothing is pending, and leaves its calls
pending. -/
theorem checkMessage_assistant
    {pending after : List String}
    {message : Message}
    (role : message.role = "assistant") :
    checkMessage pending message = .ok after ↔
      pending = [] ∧ message.IsProposal ∧ after = message.callIds.reverse := by
  simp only [checkMessage, role, ↓reduceIte, String.reduceEq]
  split
  · rename_i waiting
    exact iff_of_false (fun impossible => by cases impossible)
      fun result => waiting result.1
  · rename_i none
    rw [not_not] at none
    subst none
    rw [checkCalls_eq_ok_iff List.nodup_nil, List.append_nil]
    constructor
    · rintro ⟨fit, rfl, distinct⟩
      exact ⟨rfl, ⟨role, fun call member => (fit call member).1,
        fun call member => (fit call member).2,
        List.nodup_reverse.mp distinct⟩, rfl⟩
    · rintro ⟨_, proposed, rfl⟩
      exact ⟨fun call member =>
          ⟨proposed.named call member, proposed.objects call member⟩,
        rfl, List.nodup_reverse.mpr proposed.distinct⟩

/-- A result is let through when its call is pending, and settles it. -/
theorem checkMessage_tool
    {pending after : List String}
    {message : Message}
    (role : message.role = "tool") :
    checkMessage pending message = .ok after ↔
      message.IsResult ∧ message.callId ∈ pending ∧
        after = pending.erase message.callId := by
  simp only [checkMessage, role, ↓reduceIte, String.reduceEq]
  split
  · rename_i refused
    refine iff_of_false (fun impossible => by cases impossible) ?_
    rintro ⟨isResult, member, _⟩
    exact (refused.elim (· isResult.calls) (· member)).elim
  · rename_i passes
    push Not at passes
    simp only [Except.ok.injEq, passes.2, true_and]
    exact ⟨fun equal => ⟨⟨role, passes.1⟩, equal.symm⟩,
      fun result => result.2.symm⟩

/-- Exactly these messages are let through. -/
theorem checkMessage_eq_ok_iff
    {pending after : List String}
    {message : Message} :
    checkMessage pending message = .ok after ↔
      (pending = [] ∧ message.IsQuestion ∧ after = []) ∨
      (pending = [] ∧ message.IsProposal ∧
        after = message.callIds.reverse) ∨
      (message.IsResult ∧ message.callId ∈ pending ∧
        after = pending.erase message.callId) := by
  constructor
  · intro checked
    by_cases user : message.role = "user"
    · exact .inl ((checkMessage_user user).mp checked)
    · by_cases assistant : message.role = "assistant"
      · exact .inr (.inl ((checkMessage_assistant assistant).mp checked))
      · by_cases tool : message.role = "tool"
        · exact .inr (.inr ((checkMessage_tool tool).mp checked))
        · simp [checkMessage, user, assistant, tool] at checked
  · rintro (asked | proposed | result)
    · exact (checkMessage_user asked.2.1.role).mpr asked
    · exact (checkMessage_assistant proposed.2.1.role).mpr proposed
    · exact (checkMessage_tool result.1.role).mpr result

/-- The pass ends with nothing pending exactly when the messages complete what
was pending before it. -/
theorem checkMessages_iff
    {messages : List Message}
    {pending : List String} :
    messages.foldlM checkMessage pending = .ok [] ↔
      Completes pending messages := by
  induction messages generalizing pending with
  | nil =>
      rw [completes_end_iff]
      simp [pure, Except.pure]
  | cons message messages inductionHypothesis =>
      rw [List.foldlM_cons, Checks.bind_eq_ok_iff]
      simp only [inductionHypothesis, checkMessage_eq_ok_iff]
      by_cases none : pending = []
      · -- A block starts here.
        subst none
        rw [completes_nil_iff, wellPaired_cons_iff]
        constructor
        · rintro ⟨middle, ⟨_, asked, rfl⟩ | ⟨_, proposed, rfl⟩ |
            ⟨_, impossible, _⟩, completes⟩
          · exact .inl ⟨asked, completes_nil_iff.mp completes⟩
          · exact .inr ⟨proposed, completes.perm (List.reverse_perm _)⟩
          · cases impossible
        · rintro (⟨asked, paired⟩ | ⟨proposed, completes⟩)
          · exact ⟨[], .inl ⟨rfl, asked, rfl⟩, completes_nil_iff.mpr paired⟩
          · exact ⟨_, .inr (.inl ⟨rfl, proposed, rfl⟩),
              completes.perm (List.reverse_perm _).symm⟩
      · -- The block before is still waiting for results.
        rw [completes_cons_iff none]
        constructor
        · rintro ⟨middle, ⟨empty, _⟩ | ⟨empty, _⟩ |
            ⟨isResult, member, rfl⟩, completes⟩
          · exact absurd empty none
          · exact absurd empty none
          · exact ⟨isResult, member, completes⟩
        · rintro ⟨isResult, member, completes⟩
          exact ⟨_, .inr (.inr ⟨isResult, member, rfl⟩), completes⟩

/-- Beyond the bounds on its sizes a turn passes when the pass over its messages
ends with nothing pending. -/
theorem validateTurn_eq_ok_iff
    {turn : Turn} :
    validateTurn turn = .ok () ↔
      (turn.requestId ≠ "" ∧ turn.requestId.utf8ByteSize ≤ 100) ∧
        (turn.messages ≠ [] ∧ turn.messages.length ≤ 256) ∧
          turn.messages.foldlM checkMessage [] = .ok [] := by
  unfold validateTurn
  split
  · rename_i refused
    refine iff_of_false (fun impossible => by cases impossible) ?_
    rintro ⟨⟨named, short⟩, ⟨some, few⟩, _⟩
    rcases refused with empty | long | none | many
    · exact named empty
    · exact absurd short (not_le.mpr long)
    · exact some none
    · exact absurd few (not_le.mpr many)
  · rename_i passes
    push Not at passes
    rw [Checks.bind_eq_ok_iff]
    simp only [passes, ne_eq, not_false_eq_true, and_self, true_and]
    constructor
    · rintro ⟨pending, ran, ended⟩
      split at ended
      · cases ended
      · rename_i settled
        rw [not_not] at settled
        exact settled ▸ ran
    · intro ran
      exact ⟨[], ran, rfl⟩

/-- No message of a well-paired transcript has another role. -/
theorem WellPaired.role
    {messages : List Message}
    (paired : WellPaired messages)
    {message : Message}
    (member : message ∈ messages) :
    message.role = "user" ∨ message.role = "assistant" ∨
      message.role = "tool" := by
  obtain ⟨blocks, areBlocks, rfl⟩ := paired
  obtain ⟨block, blockMember, member⟩ := List.mem_flatten.mp member
  cases areBlocks block blockMember with
  | question asked =>
      rw [List.mem_singleton.mp member]
      exact .inl asked.role
  | proposal proposed answered =>
      rcases List.mem_cons.mp member with rfl | isResult
      · exact .inr (.inl proposed.role)
      · exact .inr (.inr (answered.areResults message isResult).role)

/-- A turn is accepted exactly when its identity has 1 to 100 bytes, it has 1 to
256 messages, and these are a concatenation of blocks. -/
theorem validateTurn_accepts_iff
    (turn : Turn) :
    validateTurn turn = .ok () ↔
      (1 ≤ turn.requestId.utf8ByteSize ∧
        turn.requestId.utf8ByteSize ≤ 100) ∧
      (1 ≤ turn.messages.length ∧ turn.messages.length ≤ 256) ∧
      WellPaired turn.messages := by
  have named : turn.requestId ≠ "" ↔ 1 ≤ turn.requestId.utf8ByteSize := by
    rw [Nat.one_le_iff_ne_zero, ne_eq, ne_eq, String.utf8ByteSize_eq_zero_iff]
  have some : turn.messages ≠ [] ↔ 1 ≤ turn.messages.length := by
    rw [Nat.one_le_iff_ne_zero, ne_eq, ne_eq, List.length_eq_zero_iff]
  rw [validateTurn_eq_ok_iff, checkMessages_iff, completes_nil_iff, named,
    some]

end AsystantGateway
