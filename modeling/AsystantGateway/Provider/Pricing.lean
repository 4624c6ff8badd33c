import AsystantGateway.Provider.Usage
import Mathlib.Algebra.Order.Floor.Ring
import Mathlib.Data.Rat.Floor

/-!
# What a charge is worth

A reservation and a charge are the same fixed-point computation at different
token counts: a price in millionths of a micro, rounded up. Over the integers
it is monotone in the counts, so within the limits of a model a charge is
covered by the reservation and no checked step of it fails.

The counts of cached tokens are read with their signs. A negative one lowers
the price, and `roundingSlack` is exactly how far a price can fall before the
charge falls with it.
-/

namespace AsystantGateway

open CheckedInt

/-- The price of tokens in millionths of a micro. -/
def ModelConfig.price (model : ModelConfig) (input output : Int) : Int :=
  input * model.inputMicrosPerMillion.toInt +
    output * model.outputMicrosPerMillion.toInt

/-- The price of tokens by checked arithmetic, ready to be rounded up. -/
def ModelConfig.checkedPrice
    (model : ModelConfig)
    (input output : Int64) : Option Int64 := do
  let inputCost ← checkedMul input model.inputMicrosPerMillion
  let outputCost ← checkedMul output model.outputMicrosPerMillion
  let cost ← checkedAdd inputCost outputCost
  checkedAdd cost 999999

/-- The tokens of a report that were written to a cache or read from one. -/
def Json.Value.cachedTokens (usage : Json.Value) : Int :=
  ((usage.index "cache_creation_input_tokens").asI64.getD 0).toInt +
    ((usage.index "cache_read_input_tokens").asI64.getD 0).toInt

/-- A report without a cost that the program uses. -/
def Unreported
    (runtime : ProviderRuntime)
    (model : ModelConfig)
    (usage : Json.Value) : Prop :=
  model.provider = .openrouter →
    runtime.costMicros (usage.index "cost") = none

section Rounding

variable {total : Int64}

theorem toInt_div_million (total : Int64) :
    (total / 1000000).toInt = total.toInt.tdiv 1000000 :=
  Int64.toInt_div_of_ne_right total 1000000 (by decide)

/-- A total that is not negative is rounded up. -/
theorem toInt_div_eq_ceil
    {price : Int}
    (isTotal : total.toInt = price + 999999)
    (nonnegative : 0 ≤ total.toInt) :
    (total / 1000000).toInt = ⌈(price : ℚ) / 1000000⌉ := by
  rw [toInt_div_million, Int.tdiv_eq_ediv_of_nonneg nonnegative, isTotal]
  symm
  rw [Int.ceil_eq_iff]
  have upper : price ≤ (price + 999999) / 1000000 * 1000000 := by omega
  have lower : ((price + 999999) / 1000000 - 1) * 1000000 < price := by omega
  constructor
  · rw [lt_div_iff₀ (by norm_num)]
    exact_mod_cast lower
  · rw [div_le_iff₀ (by norm_num)]
    exact_mod_cast upper

/-- How far a price can fall before its charge falls. At no price at all the
division, which rounds toward zero, still answers zero for a while. -/
def roundingSlack (price : Int) : Int :=
  if price = 0 then 1999998 else (price - 1) % 1000000

/-- A rounded total covers a price exactly when the price it was made of is
below that by no more than the slack. -/
theorem covers_iff
    {price lowered : Int}
    (nonnegative : 0 ≤ price)
    (isTotal : total.toInt = lowered + 999999) :
    (0 ≤ total / 1000000 ∧ price ≤ (total / 1000000).toInt * 1000000) ↔
      price - lowered ≤ roundingSlack price := by
  have isZero : (0 : Int64).toInt = 0 := by decide
  rw [Int64.le_iff_toInt_le, toInt_div_million, isZero, isTotal]
  unfold roundingSlack
  rcases Int.le_total 0 (lowered + 999999) with roundsUp | roundsDown
  · rw [Int.tdiv_eq_ediv_of_nonneg roundsUp]
    split <;> omega
  · -- A negative total is rounded toward zero.
    have towardZero : (lowered + 999999).tdiv 1000000 =
        -(-(lowered + 999999) / 1000000) := by
      rw [← Int.tdiv_eq_ediv_of_nonneg (by omega), Int.neg_tdiv, Int.neg_neg]
    rw [towardZero]
    split <;> omega

end Rounding

/-! ## Checked prices -/

namespace ModelConfig

variable
  {model : ModelConfig}
  {input output total : Int64}

/-- Where the checked arithmetic succeeds it is arithmetic of integers. -/
theorem toInt_checkedPrice
    (priced : model.checkedPrice input output = some total) :
    total.toInt = model.price input.toInt output.toInt + 999999 := by
  unfold checkedPrice at priced
  simp only [Option.bind_eq_bind, Option.bind_eq_some_iff, checkedMul,
    fit_eq_some_iff, checkedAdd_eq_some_iff] at priced
  obtain ⟨inputCost, isInput, outputCost, isOutput, cost, isCost, isTotal⟩ :=
    priced
  have rounding : (999999 : Int64).toInt = 999999 := by decide
  rw [isTotal, isCost, isInput, isOutput, rounding]
  rfl

/-- A model that validation accepts has positive prices. -/
theorem prices_pos (valid : model.validate = .ok ()) :
    0 < model.inputMicrosPerMillion.toInt ∧
      0 < model.outputMicrosPerMillion.toInt := by
  obtain ⟨⟨-, -, input, output, -⟩, -⟩ := validate_eq_ok_iff.mp valid
  exact ⟨Int64.lt_iff_toInt_lt.mp input, Int64.lt_iff_toInt_lt.mp output⟩

/-- At positive prices the price of more tokens is higher. -/
theorem price_mono
    (valid : model.validate = .ok ())
    {input moreInput output moreOutput : Int}
    (inputs : input ≤ moreInput)
    (outputs : output ≤ moreOutput) :
    model.price input output ≤ model.price moreInput moreOutput := by
  obtain ⟨inputPositive, outputPositive⟩ := prices_pos valid
  unfold price
  gcongr

/-- Counts that are not negative have a price that is not. -/
theorem price_nonneg
    (valid : model.validate = .ok ())
    {input output : Int}
    (inputNonnegative : 0 ≤ input)
    (outputNonnegative : 0 ≤ output) : 0 ≤ model.price input output := by
  obtain ⟨inputPositive, outputPositive⟩ := prices_pos valid
  unfold price
  positivity

/-- A request at the limits is not for nothing. -/
theorem price_limits_pos (valid : model.validate = .ok ()) :
    0 < model.price model.maxInputTokens.toNat model.maxOutputTokens.toNat := by
  obtain ⟨⟨-, -, -, -, hasInput, hasOutput, -⟩, -⟩ :=
    validate_eq_ok_iff.mp valid
  obtain ⟨inputPositive, outputPositive⟩ := prices_pos valid
  have someInput : 0 < model.maxInputTokens.toNat :=
    Nat.pos_of_ne_zero fun none => hasInput (UInt32.toNat_inj.mp none)
  have someOutput : 0 < model.maxOutputTokens.toNat :=
    Nat.pos_of_ne_zero fun none => hasOutput (UInt32.toNat_inj.mp none)
  unfold price
  positivity

/-- The checked arithmetic succeeds at counts that are not negative when the
price leaves room for rounding it up. -/
theorem exists_checkedPrice
    (valid : model.validate = .ok ())
    (inputNonnegative : 0 ≤ input.toInt)
    (outputNonnegative : 0 ≤ output.toInt)
    (fits : model.price input.toInt output.toInt + 999999 < 2 ^ 63) :
    ∃ total, model.checkedPrice input output = some total := by
  obtain ⟨inputPositive, outputPositive⟩ := prices_pos valid
  have inputPriced : 0 ≤ input.toInt * model.inputMicrosPerMillion.toInt := by
    positivity
  have outputPriced :
      0 ≤ output.toInt * model.outputMicrosPerMillion.toInt := by
    positivity
  unfold price at fits
  obtain ⟨inputCost, isInput⟩ : ∃ cost,
      fit (input.toInt * model.inputMicrosPerMillion.toInt) = some cost :=
    exists_fit (by omega) (by omega)
  obtain ⟨outputCost, isOutput⟩ : ∃ cost,
      fit (output.toInt * model.outputMicrosPerMillion.toInt) = some cost :=
    exists_fit (by omega) (by omega)
  have inputCostIs := fit_eq_some_iff.mp isInput
  have outputCostIs := fit_eq_some_iff.mp isOutput
  obtain ⟨cost, isCost⟩ : ∃ cost,
      fit (inputCost.toInt + outputCost.toInt) = some cost :=
    exists_fit (by omega) (by omega)
  have costIs := fit_eq_some_iff.mp isCost
  have rounding : (999999 : Int64).toInt = 999999 := by decide
  obtain ⟨total, isTotal⟩ : ∃ total,
      fit (cost.toInt + (999999 : Int64).toInt) = some total :=
    exists_fit (by omega) (by omega)
  refine ⟨total, ?_⟩
  unfold checkedPrice checkedMul checkedAdd
  simp only [isInput, isOutput, isCost, Option.bind_eq_bind,
    Option.bind_some, isTotal]

/-- A reservation is the price at the limits, rounded up. -/
theorem reservation_eq_ok_iff
    {amount : Int64} :
    model.reservation = .ok amount ↔
      ∃ total,
        model.checkedPrice (.ofNat model.maxInputTokens.toNat)
            (.ofNat model.maxOutputTokens.toNat) = some total ∧
          amount = total / 1000000 := by
  unfold reservation
  dsimp only
  split
  case h_1 failed =>
    have isNone : model.checkedPrice (.ofNat model.maxInputTokens.toNat)
        (.ofNat model.maxOutputTokens.toNat) = none := failed
    simp [isNone]
  case h_2 total priced =>
    have isTotal : model.checkedPrice (.ofNat model.maxInputTokens.toNat)
        (.ofNat model.maxOutputTokens.toNat) = some total := priced
    simp [isTotal, eq_comm]

/-- A limit is a count of tokens. -/
theorem toInt_limit (limit : UInt32) :
    (Int64.ofNat limit.toNat).toInt = limit.toNat := by
  apply Int64.toInt_ofNat_of_lt
  have := limit.toNat_lt
  omega

end ModelConfig

section Charges

variable
  {runtime : ProviderRuntime}
  {model : ModelConfig}
  {usage : Json.Value}
  {charge : Int64}

/-- The charge without a reported cost is that for the tokens. -/
theorem usageCharge_eq_tokenCharge
    (unreported : Unreported runtime model usage) :
    usageCharge runtime model usage = tokenCharge model usage := by
  unfold usageCharge
  split
  case isTrue isRouter => rw [unreported isRouter, Option.none_or]
  case isFalse => rw [Option.none_or]

/-- A charge is the checked price of the counts of a report, rounded up. -/
theorem tokenCharge_eq_checkedPrice :
    tokenCharge model usage =
      (usage.firstI64 "prompt_tokens" "input_tokens").bind fun input =>
        (usage.firstI64 "completion_tokens" "output_tokens").bind fun output =>
          if input < 0 ∨ output < 0 then none
          else
            (checkedAdd input
              ((usage.index "cache_creation_input_tokens").asI64.getD 0)).bind
              fun written =>
                (checkedAdd written
                  ((usage.index "cache_read_input_tokens").asI64.getD 0)).bind
                  fun allInput =>
                    (model.checkedPrice allInput output).map (· / 1000000) := by
  unfold tokenCharge ModelConfig.checkedPrice
  congr 1
  funext input
  congr 1
  funext output
  split
  case isTrue => rfl
  case isFalse =>
    simp only [Option.map_eq_bind, Option.bind_eq_bind, Option.bind_assoc]
    rfl

/-- What a charge is made of: the counts, the total of the input and the
price. -/
theorem exists_of_tokenCharge
    (charged : tokenCharge model usage = some charge) :
    ∃ input output total,
      usage.firstI64 "prompt_tokens" "input_tokens" = some input ∧
      usage.firstI64 "completion_tokens" "output_tokens" = some output ∧
      0 ≤ input.toInt ∧ 0 ≤ output.toInt ∧
      total.toInt = model.price (input.toInt + usage.cachedTokens)
        output.toInt + 999999 ∧
      charge = total / 1000000 := by
  rw [tokenCharge_eq_checkedPrice] at charged
  obtain ⟨input, isInput, charged⟩ := Option.bind_eq_some_iff.mp charged
  obtain ⟨output, isOutput, charged⟩ := Option.bind_eq_some_iff.mp charged
  split at charged
  case isTrue => cases charged
  case isFalse signs =>
    obtain ⟨inputSign, outputSign⟩ := not_or.mp signs
    obtain ⟨written, isWritten, charged⟩ := Option.bind_eq_some_iff.mp charged
    obtain ⟨allInput, isAll, charged⟩ := Option.bind_eq_some_iff.mp charged
    obtain ⟨total, isTotal, rfl⟩ := Option.map_eq_some_iff.mp charged
    rw [checkedAdd_eq_some_iff] at isWritten isAll
    have sum : allInput.toInt = input.toInt + usage.cachedTokens := by
      rw [isAll, isWritten, Json.Value.cachedTokens, Int.add_assoc]
    refine ⟨input, output, total, isInput, isOutput,
      Int64.le_iff_toInt_le.mp (Int64.not_lt.mp inputSign),
      Int64.le_iff_toInt_le.mp (Int64.not_lt.mp outputSign), ?_, rfl⟩
    rw [model.toInt_checkedPrice isTotal, sum]

/-- Counts that are not negative are charged when their price, with room for
rounding it up, fits. -/
theorem tokenCharge_of_counts
    (valid : model.validate = .ok ())
    {input output : Int64}
    (isInput : usage.firstI64 "prompt_tokens" "input_tokens" = some input)
    (isOutput : usage.firstI64 "completion_tokens" "output_tokens" =
      some output)
    (inputNonnegative : 0 ≤ input)
    (outputNonnegative : 0 ≤ output)
    (writtenNonnegative :
      0 ≤ (usage.index "cache_creation_input_tokens").asI64.getD 0)
    (readNonnegative :
      0 ≤ (usage.index "cache_read_input_tokens").asI64.getD 0)
    (few : input.toInt + usage.cachedTokens < 2 ^ 63)
    (fits : model.price (input.toInt + usage.cachedTokens) output.toInt +
      999999 < 2 ^ 63) :
    ∃ charge, tokenCharge model usage = some charge := by
  have inputSign := Int64.le_iff_toInt_le.mp inputNonnegative
  have outputSign := Int64.le_iff_toInt_le.mp outputNonnegative
  have writtenSign := Int64.le_iff_toInt_le.mp writtenNonnegative
  have readSign := Int64.le_iff_toInt_le.mp readNonnegative
  have isZero : (0 : Int64).toInt = 0 := by decide
  unfold Json.Value.cachedTokens at few
  obtain ⟨written, isWritten⟩ : ∃ written, fit (input.toInt +
      ((usage.index "cache_creation_input_tokens").asI64.getD 0).toInt) =
        some written :=
    exists_fit (by omega) (by omega)
  have writtenIs := fit_eq_some_iff.mp isWritten
  obtain ⟨allInput, isAll⟩ : ∃ allInput, fit (written.toInt +
      ((usage.index "cache_read_input_tokens").asI64.getD 0).toInt) =
        some allInput :=
    exists_fit (by omega) (by omega)
  have allIs := fit_eq_some_iff.mp isAll
  have sum : allInput.toInt = input.toInt + usage.cachedTokens := by
    rw [allIs, writtenIs, Json.Value.cachedTokens, Int.add_assoc]
  obtain ⟨total, isTotal⟩ : ∃ total,
      model.checkedPrice allInput output = some total :=
    model.exists_checkedPrice valid (by omega) (by omega)
      (by rw [sum]; exact fits)
  refine ⟨total / 1000000, ?_⟩
  have signs : ¬ (input < 0 ∨ output < 0) :=
    not_or.mpr ⟨Int64.not_lt.mpr inputNonnegative,
      Int64.not_lt.mpr outputNonnegative⟩
  rw [tokenCharge_eq_checkedPrice, isInput, isOutput]
  simp only [Option.bind_some, if_neg signs]
  unfold checkedAdd
  simp only [isWritten, isAll, Option.bind_some, isTotal, Option.map_some]

/-! ## What reservations and charges cover -/

/-- Within the limits of its model a charge is covered by the reservation, and
both are the exact prices rounded up. -/
theorem usageCharge_le_reservation
    (valid : model.validate = .ok ())
    (unreported : Unreported runtime model usage)
    {input output : Int64}
    (isInput : usage.firstI64 "prompt_tokens" "input_tokens" = some input)
    (isOutput : usage.firstI64 "completion_tokens" "output_tokens" =
      some output)
    (inputNonnegative : 0 ≤ input)
    (outputNonnegative : 0 ≤ output)
    (writtenNonnegative :
      0 ≤ (usage.index "cache_creation_input_tokens").asI64.getD 0)
    (readNonnegative :
      0 ≤ (usage.index "cache_read_input_tokens").asI64.getD 0)
    (inputLimit : input.toInt + usage.cachedTokens ≤
      model.maxInputTokens.toNat)
    (outputLimit : output.toInt ≤ model.maxOutputTokens.toNat) :
    ∃ charge amount,
      usageCharge runtime model usage = some charge ∧
        model.reservation = .ok amount ∧
        0 ≤ charge ∧ charge ≤ amount ∧ 1 ≤ amount ∧
        charge.toInt =
          ⌈(model.price (input.toInt + usage.cachedTokens) output.toInt : ℚ) /
            1000000⌉ ∧
        amount.toInt =
          ⌈(model.price model.maxInputTokens.toNat
            model.maxOutputTokens.toNat : ℚ) / 1000000⌉ := by
  obtain ⟨-, -, amount, isAmount⟩ := ModelConfig.validate_eq_ok_iff.mp valid
  have inputSign := Int64.le_iff_toInt_le.mp inputNonnegative
  have outputSign := Int64.le_iff_toInt_le.mp outputNonnegative
  have writtenSign := Int64.le_iff_toInt_le.mp writtenNonnegative
  have readSign := Int64.le_iff_toInt_le.mp readNonnegative
  have isZero : (0 : Int64).toInt = 0 := by decide
  have isOne : (1 : Int64).toInt = 1 := by decide
  -- The reservation is the price at the limits.
  obtain ⟨reserved, isReserved, rfl⟩ :=
    ModelConfig.reservation_eq_ok_iff.mp isAmount
  have reservedIs := model.toInt_checkedPrice isReserved
  rw [ModelConfig.toInt_limit, ModelConfig.toInt_limit] at reservedIs
  have limitPositive := ModelConfig.price_limits_pos valid
  -- The price of the report is at most that.
  have covered := ModelConfig.price_mono valid inputLimit outputLimit
  have nonnegative : 0 ≤ model.price (input.toInt + usage.cachedTokens)
      output.toInt := by
    apply ModelConfig.price_nonneg valid _ outputSign
    unfold Json.Value.cachedTokens
    omega
  have fits := reserved.toInt_lt
  have limit := model.maxInputTokens.toNat_lt
  obtain ⟨charge, isCharge⟩ := tokenCharge_of_counts valid isInput isOutput
    inputNonnegative outputNonnegative writtenNonnegative readNonnegative
    (by omega) (by omega)
  obtain ⟨otherInput, otherOutput, total, sameInput, sameOutput, -, -,
    totalIs, rfl⟩ := exists_of_tokenCharge isCharge
  obtain rfl := Option.some.inj (isInput.symm.trans sameInput)
  obtain rfl := Option.some.inj (isOutput.symm.trans sameOutput)
  have chargeIs := toInt_div_eq_ceil totalIs (by omega)
  have amountIs := toInt_div_eq_ceil reservedIs (by omega)
  refine ⟨total / 1000000, reserved / 1000000, ?_, isAmount, ?_, ?_, ?_,
    chargeIs, amountIs⟩
  · rw [usageCharge_eq_tokenCharge unreported, isCharge]
  · rw [Int64.le_iff_toInt_le, chargeIs, isZero]
    apply Int.ceil_nonneg
    positivity
  · rw [Int64.le_iff_toInt_le, chargeIs, amountIs]
    apply Int.ceil_le_ceil
    gcongr
  · rw [Int64.le_iff_toInt_le, amountIs, isOne, Int.one_le_ceil_iff]
    positivity

end Charges

/-- A model with whole prices. -/
def tariffModel : ModelConfig where
  id := "m"
  provider := .anthropic
  model := "m"
  keyEnv := "UNUSED"
  wireApi := .messages
  inputMicrosPerMillion := 1000000
  outputMicrosPerMillion := 2000000
  maxInputTokens := 1000
  maxOutputTokens := 100

/-- A runtime that reads nothing. -/
def silentRuntime : ProviderRuntime where
  parse _ := none
  costMicros _ := none

/-- A report of ten prompt tokens with some read from a cache. -/
def cachedUsage (read : Json.Number) : Json.Value :=
  .object [
    ("cache_read_input_tokens", .number read),
    ("input_tokens", .number (.posInt 10)),
    ("output_tokens", .number (.posInt 5))]

theorem usageCharge_le_reservation_tariff :
    ∃ charge amount,
      usageCharge silentRuntime tariffModel (cachedUsage (.posInt 3)) = some charge ∧
        tariffModel.reservation = .ok amount ∧ charge ≤ amount := by
  have valid : tariffModel.validate = .ok () := by decide
  have unreported : Unreported silentRuntime tariffModel
      (cachedUsage (.posInt 3)) := fun _ => rfl
  have isInput : (cachedUsage (.posInt 3)).firstI64 "prompt_tokens"
      "input_tokens" = some 10 := by decide
  have isOutput : (cachedUsage (.posInt 3)).firstI64 "completion_tokens"
      "output_tokens" = some 5 := by decide
  obtain ⟨charge, amount, isCharge, isAmount, -, covered, -⟩ :=
    usageCharge_le_reservation valid unreported isInput isOutput (by decide)
      (by decide) (by decide) (by decide) (by decide) (by decide)
  exact ⟨charge, amount, isCharge, isAmount, covered⟩

/-- A charge is for counts that are not negative. It covers their price exactly
when the cached tokens, which may be reported as negative, lower that by no
more than the rounding takes back. -/
theorem usageCharge_covers_iff
    {runtime : ProviderRuntime}
    {model : ModelConfig}
    {usage : Json.Value}
    {charge : Int64}
    (valid : model.validate = .ok ())
    (unreported : Unreported runtime model usage)
    (charged : usageCharge runtime model usage = some charge) :
    ∃ input output,
      usage.firstI64 "prompt_tokens" "input_tokens" = some input ∧
        usage.firstI64 "completion_tokens" "output_tokens" = some output ∧
        0 ≤ input.toInt ∧ 0 ≤ output.toInt ∧
        ((0 ≤ charge ∧
            model.price input.toInt output.toInt ≤
              charge.toInt * 1000000) ↔
          -(usage.cachedTokens * model.inputMicrosPerMillion.toInt) ≤
            roundingSlack (model.price input.toInt output.toInt)) := by
  rw [usageCharge_eq_tokenCharge unreported] at charged
  obtain ⟨input, output, total, isInput, isOutput, inputSign, outputSign,
    isTotal, rfl⟩ := exists_of_tokenCharge charged
  refine ⟨input, output, isInput, isOutput, inputSign, outputSign, ?_⟩
  have nonnegative : 0 ≤ model.price input.toInt output.toInt := by
    obtain ⟨inputPositive, outputPositive⟩ := ModelConfig.prices_pos valid
    unfold ModelConfig.price
    positivity
  have lowered : model.price input.toInt output.toInt -
      model.price (input.toInt + usage.cachedTokens) output.toInt =
        -(usage.cachedTokens * model.inputMicrosPerMillion.toInt) := by
    unfold ModelConfig.price
    ring
  rw [← lowered]
  exact covers_iff nonnegative isTotal

theorem usageCharge_covers_iff_tariff :
    ∃ charge,
      usageCharge silentRuntime tariffModel (cachedUsage (.posInt 3)) =
          some charge ∧
        0 ≤ charge := by
  have charged : usageCharge silentRuntime tariffModel
      (cachedUsage (.posInt 3)) = some 23 := by decide
  obtain ⟨input, output, isInput, isOutput, -, -, covers⟩ :=
    usageCharge_covers_iff (by decide) (fun _ => rfl) charged
  obtain rfl : (10 : Int64) = input := Option.some.inj isInput
  obtain rfl : (5 : Int64) = output := Option.some.inj isOutput
  exact ⟨23, charged, (covers.mpr (by decide)).1⟩

/-- Minus a thousand tokens read from a cache make a charge negative. -/
theorem usageCharge_understated :
    ¬ ∀ (runtime : ProviderRuntime) (model : ModelConfig)
        (usage : Json.Value) (charge : Int64),
      model.validate = .ok () → Unreported runtime model usage →
      usageCharge runtime model usage = some charge →
      ∃ input output,
        usage.firstI64 "prompt_tokens" "input_tokens" = some input ∧
          usage.firstI64 "completion_tokens" "output_tokens" = some output ∧
          0 ≤ input.toInt ∧ 0 ≤ output.toInt ∧ 0 ≤ charge ∧
          model.price input.toInt output.toInt ≤ charge.toInt * 1000000 := by
  intro covers
  have charged : usageCharge silentRuntime tariffModel
      (cachedUsage (.negInt (-1000))) = some (-979) := by decide
  obtain ⟨-, -, -, -, -, -, nonnegative, -⟩ :=
    covers _ _ _ _ (by decide) (fun _ => rfl) charged
  exact absurd nonnegative (by decide)

end AsystantGateway
