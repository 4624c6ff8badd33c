import Mathlib.Data.List.Basic

/-!
# Bytes in hexadecimal

Every byte is written as two lower-case digits, so different byte strings have
different texts.
-/

namespace AsystantGateway

namespace Hex

/-- The two digits of a byte. -/
def digits (byte : UInt8) : List Char :=
  [Nat.digitChar (byte.toNat / 16), Nat.digitChar (byte.toNat % 16)]

/-- The digits of all bytes. -/
def lower (bytes : List UInt8) : String :=
  String.ofList (bytes.flatMap digits)

/-- Two numbers below sixteen with one digit are equal. -/
theorem digitChar_inj
    {first second : Nat}
    (firstSmall : first < 16)
    (secondSmall : second < 16)
    (same : Nat.digitChar first = Nat.digitChar second) :
    first = second := by
  have distinct : ∀ first second : Fin 16,
      Nat.digitChar first = Nat.digitChar second → first = second := by
    decide
  exact congrArg Fin.val
    (distinct ⟨first, firstSmall⟩ ⟨second, secondSmall⟩ same)

theorem digits_inj
    {first second : UInt8}
    (same : digits first = digits second) :
    first = second := by
  simp only [digits, List.cons.injEq, and_true] at same
  have firstBound := first.toNat_lt
  have secondBound := second.toNat_lt
  have high := digitChar_inj (by omega) (by omega) same.1
  have low := digitChar_inj (by omega) (by omega) same.2
  apply UInt8.toNat.inj
  omega

/-- Different byte strings have different texts. -/
theorem lower_injective : Function.Injective lower := by
  intro first second same
  have sameDigits := String.ofList_injective same
  clear same
  induction first generalizing second with
  | nil =>
      cases second with
      | nil => rfl
      | cons head tail => simp [digits] at sameDigits
  | cons byte rest inductionHypothesis =>
      cases second with
      | nil => simp [digits] at sameDigits
      | cons head tail =>
          rw [List.flatMap_cons, List.flatMap_cons] at sameDigits
          obtain ⟨sameByte, sameRest⟩ :=
            List.append_inj sameDigits (by simp [digits])
          rw [digits_inj sameByte, inductionHypothesis sameRest]

end Hex

end AsystantGateway
