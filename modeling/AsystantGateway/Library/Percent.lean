import Mathlib.Data.List.Infix

/-!
# Percent-encoded bytes

Decoding replaces every escape, a percent sign with two hexadecimal digits, by
the byte it stands for, except for the escapes of protected bytes. What holds no
percent sign decodes to itself, so a decoded text begins with the same bytes as
the encoded one as far as no percent sign is met.
-/

namespace AsystantGateway

namespace Percent

/-- The percent sign. -/
def sign : UInt8 := 0x25

/-- The value of a hexadecimal digit. -/
def hexDigit (byte : UInt8) : Option UInt8 :=
  if 0x30 ≤ byte ∧ byte ≤ 0x39 then some (byte - 0x30)
  else if 0x41 ≤ byte ∧ byte ≤ 0x46 then some (byte - 0x37)
  else if 0x61 ≤ byte ∧ byte ≤ 0x66 then some (byte - 0x57)
  else none

/-- The byte that two hexadecimal digits stand for. -/
def hexPair (high low : UInt8) : Option UInt8 := do
  let high ← hexDigit high
  let low ← hexDigit low
  return high * 16 + low

/-- The byte that the escape with two given bytes is replaced by. -/
def escaped
    (isProtected : UInt8 → Bool)
    (high low : UInt8) : Option UInt8 :=
  (hexPair high low).filter fun byte => ¬ isProtected byte

/-- Replace the escapes of the bytes that are not protected. -/
def decode (isProtected : UInt8 → Bool) : List UInt8 → List UInt8
  | byte :: high :: low :: after =>
      if byte = sign then
        match escaped isProtected high low with
        | some decoded => decoded :: decode isProtected after
        | none => byte :: decode isProtected (high :: low :: after)
      else
        byte :: decode isProtected (high :: low :: after)
  | short => short

/-- The bytes of an ASCII text. -/
def ascii (text : String) : List UInt8 :=
  text.toList.map fun character => UInt8.ofNat character.toNat

/-- The bytes of an ASCII text are read as the text. -/
theorem fromUTF8?_ascii
    {text : String}
    (isAscii : ∀ character ∈ text.toList, character.toNat < 128) :
    String.fromUTF8? ⟨(ascii text).toArray⟩ = some text := by
  have encoded : ascii text = text.toList.flatMap String.utf8EncodeChar := by
    unfold ascii
    rw [List.map_eq_flatMap]
    apply List.flatMap_congr
    intro character isCharacter
    have small : character.val.toNat ≤ 0x7f :=
      Nat.le_of_lt_succ (isAscii character isCharacter)
    exact (if_pos small).symm
  have bytes : (⟨(ascii text).toArray⟩ : ByteArray) = text.toByteArray := by
    rw [← String.utf8Encode_toList, List.utf8Encode, encoded]
    apply ByteArray.ext
    rw [List.data_toByteArray]
  rw [bytes]
  exact dif_pos text.isValidUTF8

variable (isProtected : UInt8 → Bool)

theorem decode_cons_of_ne
    {byte : UInt8}
    (plain : byte ≠ sign)
    (rest : List UInt8) :
    decode isProtected (byte :: rest) = byte :: decode isProtected rest := by
  match rest with
  | [] => rfl
  | [_] => rfl
  | _ :: _ :: _ => rw [decode, if_neg plain]

/-- Bytes before the first percent sign decode to themselves. -/
theorem decode_append
    {first : List UInt8}
    (plain : sign ∉ first)
    (rest : List UInt8) :
    decode isProtected (first ++ rest) =
      first ++ decode isProtected rest := by
  induction first with
  | nil => rfl
  | cons byte tail inductionHypothesis =>
      have byteDiffers := List.ne_of_not_mem_cons plain
      have tailPlain := List.not_mem_of_not_mem_cons plain
      rw [List.cons_append, decode_cons_of_ne isProtected byteDiffers.symm,
        inductionHypothesis tailPlain, List.cons_append]

theorem decode_of_plain
    {bytes : List UInt8}
    (plain : sign ∉ bytes) :
    decode isProtected bytes = bytes := by
  simpa [decode] using decode_append isProtected plain []

/-- Decoding makes nothing longer. -/
theorem length_decode_le (bytes : List UInt8) :
    (decode isProtected bytes).length ≤ bytes.length := by
  fun_induction decode isProtected bytes <;> grind

/-- A path whose decoding begins with a plain text begins with that text
exactly when it begins with as many bytes that are no percent signs. -/
theorem isPrefix_iff
    {isProtected : UInt8 → Bool}
    {bytes text rest : List UInt8}
    (decoded : decode isProtected bytes = text ++ rest)
    (plain : sign ∉ text) :
    text <+: bytes ↔ sign ∉ bytes.take text.length := by
  constructor
  · intro begins
    rw [List.prefix_iff_eq_take.mp begins] at plain
    exact plain
  · intro plainBytes
    have split := decode_append isProtected plainBytes
      (bytes.drop text.length)
    rw [List.take_append_drop, decoded] at split
    have long : text.length ≤ bytes.length := by
      have shorter := length_decode_le isProtected bytes
      rw [decoded, List.length_append] at shorter
      omega
    have sameLength : text.length = (bytes.take text.length).length := by
      rw [List.length_take, Nat.min_eq_left long]
    rw [List.prefix_iff_eq_take]
    exact (List.append_inj split sameLength).1

/-- A path that decodes to a plain text is that text exactly when it holds no
percent sign. -/
theorem eq_iff
    {isProtected : UInt8 → Bool}
    {bytes text : List UInt8}
    (decoded : decode isProtected bytes = text)
    (plain : sign ∉ text) :
    bytes = text ↔ sign ∉ bytes := by
  constructor
  · rintro rfl
    exact plain
  · intro plainBytes
    rw [← decoded, decode_of_plain isProtected plainBytes]

end Percent

end AsystantGateway
