import AsystantGateway.Provider.ChatStream

/-!
# The chunks of a stream do not matter

A line is decoded when its newline has arrived, and what has arrived of the
next one waits in the buffer. So the loop decodes the lines of all bytes
together, however these were cut into chunks, as long as they stay within the
bound. Beyond it the loop always stops with the provider error; which pieces it
has passed on by then depends on the chunks, because the bound is looked at
once for a chunk and before the lines of that chunk.
-/

namespace AsystantGateway

open Stateful

theorem splitLines_newline (rest : List UInt8) :
    splitLines (0x0a :: rest) =
      ([0x0a] :: (splitLines rest).1, (splitLines rest).2) := rfl

/-- A byte that ends no line starts the first line there is, or the rest. -/
theorem splitLines_cons_of_ne
    {byte : UInt8}
    (notNewline : byte ≠ 0x0a)
    (rest : List UInt8) :
    splitLines (byte :: rest) =
      match (splitLines rest).1 with
      | [] => ([], byte :: (splitLines rest).2)
      | line :: others =>
          ((byte :: line) :: others, (splitLines rest).2) :=
  if_neg notNewline

/-- Cutting off lines goes on with what is left of the first bytes. -/
theorem splitLines_append (first second : List UInt8) :
    splitLines (first ++ second) =
      ((splitLines first).1 ++
          (splitLines ((splitLines first).2 ++ second)).1,
        (splitLines ((splitLines first).2 ++ second)).2) := by
  induction first with
  | nil => simp [splitLines]
  | cons byte rest inductionHypothesis =>
      rw [List.cons_append]
      by_cases isNewline : byte = 0x0a
      · subst isNewline
        rw [splitLines_newline, splitLines_newline, inductionHypothesis]
        rfl
      · rw [splitLines_cons_of_ne isNewline, splitLines_cons_of_ne isNewline,
          inductionHypothesis]
        cases lines : (splitLines rest).1 with
        | nil =>
            dsimp only
            rw [List.cons_append, splitLines_cons_of_ne isNewline]
            rfl
        | cons line others => rfl

/-- What is left after the last newline holds no line. -/
theorem splitLines_rest (bytes : List UInt8) :
    splitLines (splitLines bytes).2 = ([], (splitLines bytes).2) := by
  induction bytes with
  | nil => rfl
  | cons byte rest inductionHypothesis =>
      by_cases isNewline : byte = 0x0a
      · subst isNewline
        exact inductionHypothesis
      · rw [splitLines_cons_of_ne isNewline]
        cases (splitLines rest).1 with
        | nil =>
            dsimp only
            rw [splitLines_cons_of_ne isNewline, inductionHypothesis]
        | cons line others => exact inductionHypothesis

/-! ## Decoding lines -/

namespace ChatStream

/-- What was decoded, without what has only arrived. -/
def decoded (stream : ChatStream) : ChatStream :=
  stream.refill [] 0

@[simp] theorem buffer_refill
    (buffer : List UInt8)
    (received : Nat)
    (stream : ChatStream) :
    (stream.refill buffer received).buffer = buffer := rfl

@[simp] theorem received_refill
    (buffer : List UInt8)
    (received : Nat)
    (stream : ChatStream) :
    (stream.refill buffer received).received = received := rfl

@[simp] theorem decoded_refill
    (buffer : List UInt8)
    (received : Nat)
    (stream : ChatStream) :
    (stream.refill buffer received).decoded = stream.decoded := rfl

@[simp] theorem deltas_decoded (stream : ChatStream) :
    stream.decoded.deltas = stream.deltas := rfl

/-- What was decoded determines the result. -/
@[simp] theorem finish_decoded
    (runtime : ProviderRuntime)
    (stream : ChatStream) :
    stream.decoded.finish runtime = stream.finish runtime := rfl

end ChatStream

section Loop

variable
  (runtime : ProviderRuntime)
  (model : ModelConfig)

/-- Decode lines in order. -/
def decodeLines (lines : List (List UInt8)) : Decoding Unit :=
  lines.forM (decodeLine runtime model)

/-- Take chunks in order. -/
def decodeChunks (chunks : List (List UInt8)) : Decoding Unit :=
  chunks.forM (decodeChunk runtime model)

theorem decodeChunks_cons
    (chunk : List UInt8)
    (rest : List (List UInt8)) :
    decodeChunks runtime model (chunk :: rest) =
      decodeChunk runtime model chunk >>= fun _ =>
        decodeChunks runtime model rest :=
  List.forM_cons

/-- The result of an answer that arrives in chunks, and the pieces of text that
are passed on. -/
def inferChat
    (chunks : List (List UInt8)) :
    Except AppError (Message × Int64) × List String :=
  let decoding := decodeChunks runtime model chunks
  let stream := after decoding .start
  (answer decoding .start >>= fun _ => stream.finish runtime, stream.deltas)

theorem inferChat_snd (chunks : List (List UInt8)) :
    (inferChat runtime model chunks).2 =
      (after (decodeChunks runtime model chunks) .start).deltas := rfl

/-- The result of the lines of an answer, and the pieces of text that they pass
on. -/
def inferLines
    (lines : List (List UInt8)) :
    Except AppError (Message × Int64) × List String :=
  let decoding := decodeLines runtime model lines
  let stream := after decoding .start
  (answer decoding .start >>= fun _ => stream.finish runtime, stream.deltas)

theorem decodeLines_isDecoding (lines : List (List UInt8)) :
    IsDecoding (decodeLines runtime model lines) :=
  .forM (decodeLine_isDecoding runtime model) lines

theorem decodeLines_append (lines others : List (List UInt8)) :
    decodeLines runtime model (lines ++ others) =
      decodeLines runtime model lines >>= fun _ =>
        decodeLines runtime model others :=
  List.forM_append

/-- Decoding lines neither looks at the buffer nor at the count of bytes. -/
theorem decodeLines_commutes
    (lines : List (List UInt8))
    (buffer : List UInt8)
    (received : Nat) :
    Commutes (ChatStream.refill buffer received)
      (decodeLines runtime model lines) := by
  apply MadeOf.commutes
    fun change (decodes : ChatStream.Decodes change) =>
      decodes.refills buffer received
  exact decodeLines_isDecoding runtime model lines

/-- What is decoded of some lines begins with what is decoded of the first of
them. -/
theorem deltas_decodeLines_append
    (lines others : List (List UInt8))
    (stream : ChatStream) :
    (after (decodeLines runtime model lines) stream).deltas <+:
      (after (decodeLines runtime model (lines ++ others)) stream).deltas := by
  rw [decodeLines_append, after_bind]
  cases answer (decodeLines runtime model lines) stream with
  | error _ => exact List.prefix_rfl
  | ok _ =>
      have advancing : Follows ChatStream.Advances
          (decodeLines runtime model others) := by
        apply MadeOf.follows ChatStream.Advances.refl ChatStream.Advances.trans
          fun change (decodes : ChatStream.Decodes change) => decodes.advances
        exact decodeLines_isDecoding runtime model others
      have ⟨pieces, deltas, _⟩ :=
        advancing (after (decodeLines runtime model lines) stream)
      exact ⟨pieces, deltas.symm⟩

/-- A chunk within the bound decodes the lines that it completes. -/
theorem decodeChunk_of_le
    {chunk : List UInt8}
    {stream : ChatStream}
    (small : stream.received + chunk.length ≤ ChatStream.maxBytes) :
    let split := splitLines (stream.buffer ++ chunk)
    let lines := decodeLines runtime model split.1
    answer (decodeChunk runtime model chunk) stream = answer lines stream ∧
      after (decodeChunk runtime model chunk) stream =
        (after lines stream).refill split.2
          (stream.received + chunk.length) := by
  intro split lines
  have run := run_decodeChunk runtime model (Nat.not_lt.mpr small)
  have commutes := decodeLines_commutes runtime model split.1 split.2
    (stream.received + chunk.length) stream
  unfold answer after
  rw [run]
  exact commutes

/-- A chunk that crosses the bound is not decoded. -/
theorem decodeChunk_of_lt
    {chunk : List UInt8}
    {stream : ChatStream}
    (large : ChatStream.maxBytes < stream.received + chunk.length) :
    answer (decodeChunk runtime model chunk) stream = .error .provider ∧
      after (decodeChunk runtime model chunk) stream =
        stream.refill stream.buffer (stream.received + chunk.length) := by
  have run : (decodeChunk runtime model chunk).run.run stream =
      (.error .provider,
        stream.refill stream.buffer (stream.received + chunk.length)) := by
    unfold decodeChunk
    rw [run_modify_bind, run_get_bind, if_pos large]
    rfl
  unfold answer after
  rw [run]
  exact ⟨rfl, rfl⟩

/-- Chunks that stay within the bound together decode the lines of all their
bytes. -/
theorem decodeChunks_of_le
    (chunks : List (List UInt8))
    {stream : ChatStream}
    (noLine : (splitLines stream.buffer).1 = [])
    (small : stream.received + chunks.flatten.length ≤ ChatStream.maxBytes) :
    let lines := decodeLines runtime model
      (splitLines (stream.buffer ++ chunks.flatten)).1
    answer (decodeChunks runtime model chunks) stream = answer lines stream ∧
      (after (decodeChunks runtime model chunks) stream).decoded =
        (after lines stream).decoded := by
  induction chunks generalizing stream with
  | nil =>
      rw [List.flatten_nil, List.append_nil, noLine]
      exact ⟨rfl, rfl⟩
  | cons chunk rest inductionHypothesis =>
      rw [List.flatten_cons, List.length_append] at small
      rw [List.flatten_cons, ← List.append_assoc, splitLines_append,
        decodeLines_append, decodeChunks_cons]
      intro lines
      rw [answer_bind, answer_bind, after_bind, after_bind]
      have chunkSmall : stream.received + chunk.length ≤
          ChatStream.maxBytes := by
        omega
      have ⟨sameAnswer, sameState⟩ :=
        decodeChunk_of_le runtime model chunkSmall
      rw [sameAnswer, sameState]
      generalize answer (decodeLines runtime model
        (splitLines (stream.buffer ++ chunk)).1) stream = chunkAnswer
      generalize after (decodeLines runtime model
        (splitLines (stream.buffer ++ chunk)).1) stream = decoded
      cases chunkAnswer with
      | error error => exact ⟨rfl, rfl⟩
      | ok _ =>
          have ⟨restAnswer, restState⟩ := @inductionHypothesis
            (decoded.refill (splitLines (stream.buffer ++ chunk)).2
              (stream.received + chunk.length))
            (by rw [ChatStream.buffer_refill, splitLines_rest])
            (by rw [ChatStream.received_refill]; omega)
          have ⟨linesAnswer, linesState⟩ := decodeLines_commutes runtime model
            (splitLines ((splitLines (stream.buffer ++ chunk)).2 ++
              rest.flatten)).1
            (splitLines (stream.buffer ++ chunk)).2
            (stream.received + chunk.length) decoded
          have linesDecoded := congrArg ChatStream.decoded linesState
          rw [ChatStream.decoded_refill] at linesDecoded
          exact ⟨restAnswer.trans linesAnswer, restState.trans linesDecoded⟩

/-- Chunks that together cross the bound end in the provider error. -/
theorem decodeChunks_of_lt
    (chunks : List (List UInt8))
    {stream : ChatStream}
    (fits : stream.received ≤ ChatStream.maxBytes)
    (large :
      ChatStream.maxBytes < stream.received + chunks.flatten.length) :
    answer (decodeChunks runtime model chunks) stream = .error .provider := by
  induction chunks generalizing stream with
  | nil => exact absurd large (Nat.not_lt.mpr fits)
  | cons chunk rest inductionHypothesis =>
      rw [List.flatten_cons, List.length_append] at large
      rw [decodeChunks_cons, answer_bind]
      by_cases small :
          stream.received + chunk.length ≤ ChatStream.maxBytes
      · have ⟨sameAnswer, sameState⟩ := decodeChunk_of_le runtime model small
        rw [sameAnswer, sameState]
        cases isAnswer : answer (decodeLines runtime model
            (splitLines (stream.buffer ++ chunk)).1) stream with
        | error error =>
            have isProvider : error = .provider :=
              (decodeLines_isDecoding runtime model _).throws _ _ isAnswer
            rw [isProvider]
        | ok _ =>
            apply inductionHypothesis
            · exact small
            · rw [ChatStream.received_refill]
              omega
      · rw [(decodeChunk_of_lt runtime model (Nat.not_le.mp small)).1]

/-- What chunks pass on is what the first of them pass on that stay within the
bound. -/
theorem deltas_decodeChunks
    (chunks : List (List UInt8))
    {stream : ChatStream}
    (fits : stream.received ≤ ChatStream.maxBytes) :
    ∃ first, first <+: chunks ∧
      stream.received + first.flatten.length ≤ ChatStream.maxBytes ∧
      (after (decodeChunks runtime model chunks) stream).deltas =
        (after (decodeChunks runtime model first) stream).deltas := by
  induction chunks generalizing stream with
  | nil => exact ⟨[], List.prefix_rfl, fits, rfl⟩
  | cons chunk rest inductionHypothesis =>
      by_cases small :
          stream.received + chunk.length ≤ ChatStream.maxBytes
      · have ⟨_, sameState⟩ := decodeChunk_of_le runtime model small
        have received : (after (decodeChunk runtime model chunk)
            stream).received = stream.received + chunk.length := by
          rw [sameState, ChatStream.received_refill]
        have ⟨first, isPrefix, firstSmall, sameDeltas⟩ := @inductionHypothesis
          (after (decodeChunk runtime model chunk) stream)
          (by rw [received]; exact small)
        rw [received] at firstSmall
        refine ⟨chunk :: first, (List.prefix_cons_inj chunk).mpr isPrefix,
          ?_, ?_⟩
        · rw [List.flatten_cons, List.length_append]
          omega
        · rw [decodeChunks_cons, decodeChunks_cons, after_bind, after_bind]
          cases answer (decodeChunk runtime model chunk) stream with
          | error _ => rfl
          | ok _ => exact sameDeltas
      · have ⟨isError, sameState⟩ :=
          decodeChunk_of_lt runtime model (Nat.not_le.mp small)
        refine ⟨[], List.nil_prefix, fits, ?_⟩
        rw [decodeChunks_cons, after_bind, isError, sameState]
        rfl

/-! ## Two ways of cutting the same bytes -/

/-- Within the bound only the lines of all bytes matter. -/
theorem inferChat_of_le
    {chunks : List (List UInt8)}
    (small : chunks.flatten.length ≤ ChatStream.maxBytes) :
    inferChat runtime model chunks =
      inferLines runtime model (splitLines chunks.flatten).1 := by
  have fits : ChatStream.start.received + chunks.flatten.length ≤
      ChatStream.maxBytes := by
    rw [ChatStream.start, Nat.zero_add]
    exact small
  have ⟨sameAnswer, sameDecoded⟩ :=
    decodeChunks_of_le runtime model chunks rfl fits
  unfold inferChat inferLines
  dsimp only
  rw [sameAnswer, ← ChatStream.finish_decoded, ← ChatStream.deltas_decoded,
    sameDecoded]
  rfl

/-- Beyond the bound the result is the provider error. -/
theorem inferChat_of_lt
    {chunks : List (List UInt8)}
    (large : ChatStream.maxBytes < chunks.flatten.length) :
    (inferChat runtime model chunks).1 = .error .provider := by
  have crosses : ChatStream.maxBytes <
      ChatStream.start.received + chunks.flatten.length := by
    rw [ChatStream.start, Nat.zero_add]
    exact large
  unfold inferChat
  dsimp only
  rw [decodeChunks_of_lt runtime model chunks (Nat.zero_le _) crosses]
  rfl

/-- What is passed on is what some of the first bytes pass on. -/
theorem deltas_inferChat (chunks : List (List UInt8)) :
    ∃ bytes, bytes <+: chunks.flatten ∧
      (inferChat runtime model chunks).2 =
        (inferLines runtime model (splitLines bytes).1).2 := by
  have ⟨first, isPrefix, small, sameDeltas⟩ :=
    @deltas_decodeChunks runtime model chunks .start (Nat.zero_le _)
  rw [ChatStream.start, Nat.zero_add] at small
  refine ⟨first.flatten, isPrefix.flatten, ?_⟩
  rw [← inferChat_of_le runtime model small]
  exact sameDeltas

/-- More bytes pass on what the first of them pass on, and go on from there. -/
theorem deltas_inferLines_mono
    {bytes longer : List UInt8}
    (isPrefix : bytes <+: longer) :
    (inferLines runtime model (splitLines bytes).1).2 <+:
      (inferLines runtime model (splitLines longer).1).2 := by
  have ⟨more, isAll⟩ := isPrefix
  rw [← isAll, splitLines_append]
  exact deltas_decodeLines_append runtime model _ _ _

/-- The result does not depend on how the bytes are cut into chunks, and what
is passed on does not as long as they stay within the bound. Beyond the bound
the result is the provider error, and the chunks only decide how many of the
pieces were passed on before it. -/
theorem inferChat_chunks
    (chunks others : List (List UInt8))
    (sameBytes : chunks.flatten = others.flatten) :
    (inferChat runtime model chunks).1 = (inferChat runtime model others).1 ∧
      (chunks.flatten.length ≤ ChatStream.maxBytes →
        (inferChat runtime model chunks).2 =
          (inferChat runtime model others).2) ∧
      (ChatStream.maxBytes < chunks.flatten.length →
        (inferChat runtime model chunks).1 = .error .provider ∧
          ((inferChat runtime model chunks).2 <+:
              (inferChat runtime model others).2 ∨
            (inferChat runtime model others).2 <+:
              (inferChat runtime model chunks).2)) := by
  by_cases small : chunks.flatten.length ≤ ChatStream.maxBytes
  · have same : inferChat runtime model chunks =
        inferChat runtime model others := by
      rw [inferChat_of_le runtime model small, sameBytes,
        inferChat_of_le runtime model (sameBytes ▸ small)]
    refine ⟨congrArg Prod.fst same, fun _ => congrArg Prod.snd same, ?_⟩
    intro large
    exact absurd small (Nat.not_le.mpr large)
  · have large := Nat.not_le.mp small
    have isError := inferChat_of_lt runtime model large
    refine ⟨?_, fun small' => absurd small' small, fun _ => ⟨isError, ?_⟩⟩
    · rw [isError, inferChat_of_lt runtime model (sameBytes ▸ large)]
    · have ⟨bytes, isPrefix, deltas⟩ := deltas_inferChat runtime model chunks
      have ⟨otherBytes, otherPrefix, otherDeltas⟩ :=
        deltas_inferChat runtime model others
      rw [deltas, otherDeltas]
      rw [← sameBytes] at otherPrefix
      exact (List.prefix_or_prefix_of_prefix isPrefix otherPrefix).imp
        (deltas_inferLines_mono runtime model)
        (deltas_inferLines_mono runtime model)

end Loop

theorem inferChat_chunks_pieceLine :
    (inferChat pieceRuntime chatModel [pieceLine.take 6, pieceLine.drop 6]).1 =
        (inferChat pieceRuntime chatModel [pieceLine]).1 ∧
      (inferChat pieceRuntime chatModel [pieceLine.take 6, pieceLine.drop 6]).2 =
        (inferChat pieceRuntime chatModel [pieceLine]).2 := by
  have same := inferChat_chunks pieceRuntime chatModel
    [pieceLine.take 6, pieceLine.drop 6] [pieceLine] (by decide)
  have small : [pieceLine.take 6, pieceLine.drop 6].flatten.length ≤
      ChatStream.maxBytes := by
    decide
  exact ⟨same.1, same.2.1 small⟩

/-- A chunk that crosses the bound passes nothing on. -/
theorem deltas_decodeChunks_of_lt
    (runtime : ProviderRuntime)
    (model : ModelConfig)
    {chunk : List UInt8}
    {stream : ChatStream}
    (large : ChatStream.maxBytes < stream.received + chunk.length) :
    (after (decodeChunks runtime model [chunk]) stream).deltas =
      stream.deltas := by
  have ⟨isError, sameState⟩ := decodeChunk_of_lt runtime model large
  rw [decodeChunks_cons, after_bind, isError, sameState]
  rfl

/-- An event with a piece of text is passed on when the bytes that cross the
bound arrive after it, and not when they arrive with it. -/
theorem deltas_pieceLine_filler
    {filler : List UInt8}
    (crosses : ChatStream.maxBytes < pieceLine.length + filler.length) :
    (inferChat pieceRuntime chatModel [pieceLine, filler]).2 = ["x"] ∧
      (inferChat pieceRuntime chatModel [pieceLine ++ filler]).2 = [] := by
  constructor
  · rw [inferChat_snd]
    have first := @decode_pieceLine _ .start reads_pieceEvent rfl (by decide)
    have isOk : answer (decodeChunk pieceRuntime chatModel pieceLine) .start =
        .ok () :=
      congrArg Prod.fst first
    have state : after (decodeChunk pieceRuntime chatModel pieceLine) .start =
        { ChatStream.start with
          received := 0 + pieceLine.length
          text := "" ++ "x"
          deltas := [] ++ ["x"] } :=
      congrArg Prod.snd first
    rw [decodeChunks_cons, after_bind, isOk, state]
    apply deltas_decodeChunks_of_lt
    rw [Nat.zero_add]
    exact crosses
  · rw [inferChat_snd]
    apply deltas_decodeChunks_of_lt
    rw [ChatStream.start, Nat.zero_add, List.length_append]
    exact crosses

theorem inferChat_chunks_differ :
    let filler := List.replicate 2000000 (0x61 : UInt8)
    [pieceLine, filler].flatten = [pieceLine ++ filler].flatten ∧
      inferChat pieceRuntime chatModel [pieceLine, filler] =
        (.error .provider, ["x"]) ∧
      inferChat pieceRuntime chatModel [pieceLine ++ filler] =
        (.error .provider, []) := by
  intro filler
  have long : filler.length = 2000000 := List.length_replicate
  clear_value filler
  have crosses : ChatStream.maxBytes < pieceLine.length + filler.length := by
    have positive : 0 < pieceLine.length := by decide
    rw [long, ChatStream.maxBytes]
    omega
  have sameBytes : [pieceLine, filler].flatten =
      [pieceLine ++ filler].flatten := by
    rw [List.flatten_cons, List.flatten_singleton, List.flatten_singleton]
  have large : ChatStream.maxBytes < [pieceLine ++ filler].flatten.length := by
    rw [List.flatten_singleton, List.length_append]
    exact crosses
  have ⟨separate, together⟩ := deltas_pieceLine_filler crosses
  refine ⟨sameBytes, Prod.ext ?_ separate, Prod.ext ?_ together⟩
  · apply inferChat_of_lt
    rw [sameBytes]
    exact large
  · exact inferChat_of_lt pieceRuntime chatModel large

end AsystantGateway
