import AsystantGateway.Library.Json.Read

/-!
# Compact text stands on one line

A writer escapes the control characters, so the compact text of a value that
can be read has none: no line of a protocol ends inside it.
-/

namespace AsystantGateway
namespace Json

/-- A character that is no control character. -/
def Visible (char : Char) : Prop :=
  32 ≤ char.toNat

theorem visible_of_isDigit
    {char : Char}
    (isDigit : char.isDigit = true) :
    Visible char := by
  have lower : '0'.val ≤ char.val :=
    (Bool.and_eq_true_iff.mp isDigit).1 |> of_decide_eq_true
  have code : (48 : Nat) ≤ char.val.toNat := UInt32.le_iff_toNat_le.mp lower
  exact Nat.le_trans (by decide) code

section Numbers

variable {chars left : List Char}

theorem split_of_takeDigits
    {digits : List Char}
    (taken : takeDigits chars = (digits, left)) :
    chars = digits ++ left ∧ ∀ char ∈ digits, Visible char := by
  induction chars generalizing digits with
  | nil =>
      obtain ⟨rfl, rfl⟩ := Prod.mk.inj taken
      exact ⟨rfl, fun _ absent => absurd absent List.not_mem_nil⟩
  | cons char rest inductionHypothesis =>
      rw [takeDigits] at taken
      split at taken
      · rename_i isDigit
        obtain ⟨rfl, rfl⟩ := Prod.mk.inj taken
        obtain ⟨split, visible⟩ := inductionHypothesis rfl
        exact ⟨congrArg (char :: ·) split,
          List.forall_mem_cons.mpr ⟨visible_of_isDigit isDigit, visible⟩⟩
      · obtain ⟨rfl, rfl⟩ := Prod.mk.inj taken
        exact ⟨rfl, fun _ absent => absurd absent List.not_mem_nil⟩

theorem split_of_readSign
    {signs sign : List Char}
    (areVisible : ∀ char ∈ signs, Visible char)
    (read : readSign signs chars = (sign, left)) :
    chars = sign ++ left ∧ ∀ char ∈ sign, Visible char := by
  cases chars with
  | nil =>
      obtain ⟨rfl, rfl⟩ := Prod.mk.inj read
      exact ⟨rfl, fun _ absent => absurd absent List.not_mem_nil⟩
  | cons char rest =>
      rw [readSign] at read
      split at read
      · rename_i isSign
        obtain ⟨rfl, rfl⟩ := Prod.mk.inj read
        exact ⟨rfl, List.forall_mem_singleton.mpr (areVisible char isSign)⟩
      · obtain ⟨rfl, rfl⟩ := Prod.mk.inj read
        exact ⟨rfl, fun _ absent => absurd absent List.not_mem_nil⟩

theorem split_of_readFraction
    {fraction : List Char}
    (read : readFraction chars = some (fraction, left)) :
    chars = fraction ++ left ∧ ∀ char ∈ fraction, Visible char := by
  cases chars with
  | nil =>
      obtain ⟨rfl, rfl⟩ := Prod.mk.inj (Option.some.inj read)
      exact ⟨rfl, fun _ absent => absurd absent List.not_mem_nil⟩
  | cons point rest =>
      rw [readFraction] at read
      split at read
      · rename_i isPoint
        obtain ⟨digits, after, taken⟩ : ∃ digits after,
            takeDigits rest = (digits, after) := ⟨_, _, rfl⟩
        simp only [taken] at read
        split at read
        · cases read
        · obtain ⟨rfl, rfl⟩ := Prod.mk.inj (Option.some.inj read)
          obtain ⟨split, visible⟩ := split_of_takeDigits taken
          subst isPoint
          exact ⟨congrArg ('.' :: ·) split, List.forall_mem_cons.mpr
            ⟨by unfold Visible; decide, visible⟩⟩
      · obtain ⟨rfl, rfl⟩ := Prod.mk.inj (Option.some.inj read)
        exact ⟨rfl, fun _ absent => absurd absent List.not_mem_nil⟩

theorem split_of_readExponent
    {exponent : List Char}
    (read : readExponent chars = some (exponent, left)) :
    chars = exponent ++ left ∧ ∀ char ∈ exponent, Visible char := by
  have signsVisible : ∀ char ∈ ['+', '-'], Visible char := by
    simp [Visible]
  cases chars with
  | nil =>
      obtain ⟨rfl, rfl⟩ := Prod.mk.inj (Option.some.inj read)
      exact ⟨rfl, fun _ absent => absurd absent List.not_mem_nil⟩
  | cons mark rest =>
      rw [readExponent] at read
      split at read
      · rename_i isMark
        obtain ⟨sign, unsigned, signed⟩ : ∃ sign unsigned,
            readSign ['+', '-'] rest = (sign, unsigned) := ⟨_, _, rfl⟩
        obtain ⟨digits, after, taken⟩ : ∃ digits after,
            takeDigits unsigned = (digits, after) := ⟨_, _, rfl⟩
        obtain ⟨splitSign, signVisible⟩ := split_of_readSign signsVisible signed
        obtain ⟨splitDigits, digitsVisible⟩ := split_of_takeDigits taken
        simp only [signed, taken] at read
        split at read
        · cases read
        · obtain ⟨rfl, rfl⟩ := Prod.mk.inj (Option.some.inj read)
          have markVisible : Visible mark := by
            unfold Visible
            rcases isMark with rfl | rfl <;> decide
          refine ⟨?_, List.forall_mem_cons.mpr ⟨markVisible,
            List.forall_mem_append.mpr ⟨signVisible, digitsVisible⟩⟩⟩
          rw [splitSign, splitDigits, List.cons_append, List.append_assoc]
      · obtain ⟨rfl, rfl⟩ := Prod.mk.inj (Option.some.inj read)
        exact ⟨rfl, fun _ absent => absurd absent List.not_mem_nil⟩

/-- The text of a number has no control characters. -/
theorem visible_of_readNumber
    {round : String → Option String}
    {number : Number}
    (read : readNumber round chars = some (number, [])) :
    ∀ char ∈ chars, Visible char := by
  have minusVisible : ∀ char ∈ ['-'], Visible char := by
    simp [Visible]
  obtain ⟨sign, unsigned, signed⟩ : ∃ sign unsigned,
      readSign ['-'] chars = (sign, unsigned) := ⟨_, _, rfl⟩
  obtain ⟨digits, after, taken⟩ : ∃ digits after,
      takeDigits unsigned = (digits, after) := ⟨_, _, rfl⟩
  obtain ⟨splitSign, signVisible⟩ := split_of_readSign minusVisible signed
  obtain ⟨splitDigits, digitsVisible⟩ := split_of_takeDigits taken
  unfold readNumber at read
  simp only [signed, taken] at read
  split at read
  · cases read
  · simp only [Option.bind_eq_bind, Option.bind_eq_some_iff, Prod.exists]
      at read
    obtain ⟨fraction, unpointed, pointed, exponent, unscaled, scaled, value,
      isNumber, same⟩ := read
    obtain ⟨rfl, rfl⟩ := Prod.mk.inj (Option.some.inj same)
    obtain ⟨splitFraction, fractionVisible⟩ := split_of_readFraction pointed
    obtain ⟨splitExponent, exponentVisible⟩ := split_of_readExponent scaled
    rw [splitSign, splitDigits, splitFraction, splitExponent]
    simp only [List.forall_mem_append]
    exact ⟨signVisible, digitsVisible, fractionVisible, exponentVisible,
      by simp⟩

theorem visible_writeNumber
    {round : String → Option String}
    {number : Number}
    (readable : number.Readable round) :
    ∀ char ∈ writeNumber number, Visible char := by
  have read : readNumber round (writeNumber number ++ []) =
      some (number, []) :=
    readNumber_writeNumber readable trivial
  rw [List.append_nil] at read
  exact visible_of_readNumber read

end Numbers

theorem visible_escapeChar (char : Char) :
    ∀ written ∈ escapeChar char, Visible written := by
  have digitVisible : ∀ digit < 16, Visible (hexDigit digit) := by
    unfold Visible
    decide
  unfold escapeChar Visible
  split_ifs
  case pos | pos | pos | pos | pos | pos | pos => simp
  · rename_i control
    simp only [List.forall_mem_cons]
    refine ⟨by decide, by decide, by decide, by decide,
      digitVisible _ (by omega), digitVisible _ (by omega), by simp⟩
  · rename_i noControl
    exact List.forall_mem_singleton.mpr (not_lt.mp noControl)

theorem visible_writeString (text : String) :
    ∀ char ∈ writeString text, Visible char := by
  have quote : Visible '"' := by
    unfold Visible
    decide
  intro char present
  rcases List.mem_cons.mp present with rfl | inside
  · exact quote
  · rcases List.mem_append.mp inside with escaped | isLast
    · obtain ⟨source, -, written⟩ := List.mem_flatMap.mp escaped
      exact visible_escapeChar source char written
    · rw [List.mem_singleton.mp isLast]
      exact quote

theorem visible_joined
    {texts : List (List Char)}
    (visible : ∀ text ∈ texts, ∀ char ∈ text, Visible char) :
    ∀ char ∈ joined texts, Visible char := by
  have comma : Visible ',' := by
    unfold Visible
    decide
  induction texts with
  | nil => exact fun _ absent => absurd absent List.not_mem_nil
  | cons first rest inductionHypothesis =>
      obtain ⟨firstVisible, restVisible⟩ := List.forall_mem_cons.mp visible
      cases rest with
      | nil => exact firstVisible
      | cons next others =>
          exact List.forall_mem_append.mpr ⟨firstVisible,
            List.forall_mem_cons.mpr
              ⟨comma, inductionHypothesis restVisible⟩⟩

/-- The compact text of a value has no control characters. -/
theorem visible_write
    {round : String → Option String}
    {depth : Nat}
    {value : Value}
    (readable : value.Readable round depth) :
    ∀ char ∈ write value, Visible char := by
  induction readable with
  | null => simp [write, Visible]
  | bool depth value => cases value <;> simp [write, Visible]
  | number depth value isFit => exact visible_writeNumber isFit
  | string depth text => exact visible_writeString text
  | array depth items _ inductionHypothesis =>
      have brackets : Visible '[' ∧ Visible ']' := by
        unfold Visible
        decide
      rw [write, writeItems_eq_joined]
      refine List.forall_mem_cons.mpr ⟨brackets.1, List.forall_mem_append.mpr
        ⟨visible_joined ?_, List.forall_mem_singleton.mpr brackets.2⟩⟩
      exact List.forall_mem_map.mpr inductionHypothesis
  | object depth members _ inductionHypothesis =>
      have marks : Visible '{' ∧ Visible '}' ∧ Visible ':' := by
        unfold Visible
        decide
      rw [write, writeMembers_eq_joined]
      refine List.forall_mem_cons.mpr ⟨marks.1, List.forall_mem_append.mpr
        ⟨visible_joined ?_, List.forall_mem_singleton.mpr marks.2.1⟩⟩
      refine List.forall_mem_map.mpr fun member present => ?_
      exact List.forall_mem_append.mpr ⟨visible_writeString member.1,
        List.forall_mem_cons.mpr
          ⟨marks.2.2, inductionHypothesis member present⟩⟩

end Json
end AsystantGateway
