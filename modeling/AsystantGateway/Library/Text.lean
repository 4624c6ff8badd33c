import Mathlib.Data.List.Basic

/-!
# Text operations of the standard library

Strings are trimmed of Unicode white space, as the property of that name
lists it.
-/

namespace AsystantGateway

namespace Text

/-- The characters with the Unicode property `White_Space`. -/
def isWhitespace (character : Char) : Bool :=
  let code := character.toNat
  (0x09 ≤ code && code ≤ 0x0d) || code == 0x20 || code == 0x85 ||
    code == 0xa0 || code == 0x1680 || (0x2000 ≤ code && code ≤ 0x200a) ||
    code == 0x2028 || code == 0x2029 || code == 0x202f || code == 0x205f ||
    code == 0x3000

/-- A text without the white space at its two ends. -/
def trim (text : String) : String :=
  String.ofList
    ((text.toList.dropWhile isWhitespace).reverse.dropWhile
      isWhitespace).reverse

/-- White space around a text that begins and ends with other characters is
trimmed. -/
theorem trim_of_solid
    {before middle after : List Char}
    {first last : Char}
    (beforeBlank : before.all isWhitespace = true)
    (afterBlank : after.all isWhitespace = true)
    (firstSolid : isWhitespace first = false)
    (lastSolid : isWhitespace last = false) :
    trim (String.ofList (before ++ (first :: (middle ++ [last]) ++ after))) =
      String.ofList (first :: (middle ++ [last])) := by
  have afterReverse : ∀ character ∈ after.reverse,
      isWhitespace character = true := by
    intro character isAfter
    exact List.all_eq_true.mp afterBlank character
      (List.mem_reverse.mp isAfter)
  unfold trim
  rw [String.toList_ofList,
    List.dropWhile_append_of_pos (List.all_eq_true.mp beforeBlank)]
  simp [lastSolid, firstSolid, List.dropWhile_append_of_pos afterReverse]

end Text

end AsystantGateway
