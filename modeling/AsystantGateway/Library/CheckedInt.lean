import Mathlib.Algebra.Order.Ring.Int

/-!
# Checked 64-bit arithmetic

The checked operations of a signed 64-bit integer return nothing where the
mathematical result does not fit. Each is characterised by the integer it
stands for, so that a proof about checked code is a proof about integers.
-/

namespace AsystantGateway
namespace CheckedInt

/-- The 64-bit integer with a given value, when there is one. -/
def fit (value : Int) : Option Int64 :=
  if bounds : Int64.minValue.toInt ≤ value ∧ value ≤ Int64.maxValue.toInt then
    some (Int64.ofIntLE value bounds.1 bounds.2)
  else
    none

/-- A value fits in 64 bits exactly as the integer that stands for it. -/
theorem fit_eq_some_iff
    {value : Int}
    {result : Int64} :
    fit value = some result ↔ result.toInt = value := by
  unfold fit
  split
  case isTrue bounds =>
    rw [Option.some.injEq]
    constructor
    · rintro rfl
      exact Int64.toInt_ofIntLE
    · rintro rfl
      exact Int64.ofIntLE_toInt result
  case isFalse outside =>
    simp only [reduceCtorEq, false_iff]
    rintro rfl
    exact outside ⟨result.minValue_le_toInt, result.toInt_le⟩

theorem fit_eq_none_iff
    {value : Int} :
    fit value = none ↔ value < -2 ^ 63 ∨ 2 ^ 63 ≤ value := by
  have lower := Int64.toInt_minValue
  have upper := Int64.toInt_maxValue
  unfold fit
  split
  case isTrue bounds =>
    simp only [reduceCtorEq, false_iff]
    omega
  case isFalse outside =>
    simp only [true_iff]
    omega

/-- A value within the 64-bit range fits. -/
theorem exists_fit
    {value : Int}
    (lower : -2 ^ 63 ≤ value)
    (upper : value < 2 ^ 63) :
    ∃ result, fit value = some result := by
  cases fitted : fit value with
  | none =>
      have := fit_eq_none_iff.mp fitted
      omega
  | some result => exact ⟨result, rfl⟩

/-- Checked addition. -/
def checkedAdd (left right : Int64) : Option Int64 :=
  fit (left.toInt + right.toInt)

/-- Checked subtraction. -/
def checkedSub (left right : Int64) : Option Int64 :=
  fit (left.toInt - right.toInt)

/-- Checked multiplication. -/
def checkedMul (left right : Int64) : Option Int64 :=
  fit (left.toInt * right.toInt)

@[simp] theorem checkedAdd_eq_some_iff
    {left right result : Int64} :
    checkedAdd left right = some result ↔
      result.toInt = left.toInt + right.toInt :=
  fit_eq_some_iff

@[simp] theorem checkedSub_eq_some_iff
    {left right result : Int64} :
    checkedSub left right = some result ↔
      result.toInt = left.toInt - right.toInt :=
  fit_eq_some_iff

end CheckedInt
end AsystantGateway
