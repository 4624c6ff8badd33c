import AsystantGateway.Library.Json.Value

/-!
# The compact text of an array of strings determines the strings

A reader of one escaped character undoes `escapeChar` whatever follows it, so
two escaped texts closed by a quote agree only when their contents and what
follows agree. The separators of an array then fix where each item ends.
Nothing is assumed of the strings: an item may itself be the compact text of
another array.
-/

namespace AsystantGateway
namespace Json

/-- The value of a lower-case hexadecimal digit. -/
def hexValue (digit : Char) : Nat :=
  if digit.toNat < 58 then digit.toNat - 48 else digit.toNat - 87

/-- The character a one-letter escape stands for. -/
def shortEscape (letter : Char) : Char :=
  if letter = 'b' then '\x08'
  else if letter = 't' then '\t'
  else if letter = 'n' then '\n'
  else if letter = 'f' then '\x0c'
  else if letter = 'r' then '\r'
  else letter

/-- Read one possibly escaped character of a JSON string. A bare quote ends
the string and is not a character of it. -/
def readChar : List Char → Option (Char × List Char)
  | '\\' :: 'u' :: _ :: _ :: high :: low :: rest =>
      some (Char.ofNat (16 * hexValue high + hexValue low), rest)
  | '\\' :: letter :: rest => some (shortEscape letter, rest)
  | '"' :: _ => none
  | char :: rest => some (char, rest)
  | [] => none

private theorem hexValue_hexDigit :
    ∀ digit < 16, hexValue (hexDigit digit) = digit := by
  decide

/-- Reading undoes the escaping of one character. -/
theorem readChar_escapeChar
    (char : Char)
    (rest : List Char) :
    readChar (escapeChar char ++ rest) = some (char, rest) := by
  unfold escapeChar
  split_ifs with quote backslash backspace tab newline formFeed carriage control
  · subst quote; rfl
  · subst backslash; rfl
  · subst backspace; rfl
  · subst tab; rfl
  · subst newline; rfl
  · subst formFeed; rfl
  · subst carriage; rfl
  · have high := hexValue_hexDigit (char.toNat / 16) (by omega)
    have low := hexValue_hexDigit (char.toNat % 16) (by omega)
    have whole : 16 * (char.toNat / 16) + char.toNat % 16 = char.toNat := by
      omega
    simp only [List.cons_append, List.nil_append, readChar, high, low, whole,
      Char.ofNat_toNat]
  · simp [readChar, backslash]

/-- Escaping one character never yields a bare quote first. -/
theorem escapeChar_append_ne_quote
    (char : Char)
    (rest after : List Char) :
    escapeChar char ++ rest ≠ '"' :: after := by
  intro equal
  have read := readChar_escapeChar char rest
  rw [equal] at read
  simp [readChar] at read

/-- An escaped text closed by a quote determines its content and what follows
the quote. -/
theorem escape_append_quote_inj
    {first second : List Char}
    {afterFirst afterSecond : List Char}
    (equal : escape first ++ '"' :: afterFirst =
      escape second ++ '"' :: afterSecond) :
    first = second ∧ afterFirst = afterSecond := by
  induction first generalizing second with
  | nil =>
      cases second with
      | nil => simpa [escape] using equal
      | cons char rest =>
          simp only [escape, List.flatMap_nil, List.nil_append,
            List.flatMap_cons, List.append_assoc] at equal
          exact absurd equal.symm (escapeChar_append_ne_quote char _ _)
  | cons char rest inductionHypothesis =>
      cases second with
      | nil =>
          simp only [escape, List.flatMap_nil, List.nil_append,
            List.flatMap_cons, List.append_assoc] at equal
          exact absurd equal (escapeChar_append_ne_quote char _ _)
      | cons other others =>
          simp only [escape, List.flatMap_cons, List.append_assoc] at equal
          have read := congrArg readChar equal
          rw [readChar_escapeChar, readChar_escapeChar, Option.some.injEq,
            Prod.mk.injEq] at read
          obtain ⟨sameChar, sameRest⟩ := read
          obtain ⟨restEqual, afterEqual⟩ := inductionHypothesis sameRest
          exact ⟨by rw [sameChar, restEqual], afterEqual⟩

/-- A JSON string determines its text and what follows it. -/
theorem writeString_append_inj
    {first second : String}
    {afterFirst afterSecond : List Char}
    (equal : writeString first ++ afterFirst =
      writeString second ++ afterSecond) :
    first = second ∧ afterFirst = afterSecond := by
  simp only [writeString, List.cons_append, List.append_assoc,
    List.nil_append, List.cons.injEq, true_and] at equal
  obtain ⟨content, after⟩ := escape_append_quote_inj equal
  exact ⟨String.toList_injective content, after⟩

/-- The items of an array of strings, closed by a bracket, determine the
strings. -/
theorem writeItems_strings_inj
    {first second : List String}
    (equal : writeItems (first.map .string) ++ [']'] =
      writeItems (second.map .string) ++ [']']) :
    first = second := by
  induction first generalizing second with
  | nil =>
      match second with
      | [] => rfl
      | [text] => simp [writeItems, write, writeString] at equal
      | text :: next :: rest =>
          simp [writeItems, write, writeString] at equal
  | cons text rest inductionHypothesis =>
      match rest, second with
      | [], [] => simp [writeItems, write, writeString] at equal
      | next :: rest, [] => simp [writeItems, write, writeString] at equal
      | [], [other] =>
          simp only [List.map_cons, List.map_nil, writeItems, write] at equal
          rw [(writeString_append_inj equal).1]
      | [], other :: next :: rest =>
          simp only [List.map_cons, List.map_nil, writeItems, write,
            List.append_assoc] at equal
          simpa using (writeString_append_inj equal).2
      | next :: rest, [other] =>
          simp only [List.map_cons, List.map_nil, writeItems, write,
            List.append_assoc] at equal
          simpa using (writeString_append_inj equal).2
      | next :: rest, other :: otherNext :: others =>
          simp only [List.map_cons, writeItems, write, List.append_assoc]
            at equal
          obtain ⟨sameText, sameRest⟩ := writeString_append_inj equal
          rw [List.cons_append, List.cons_append, List.cons.injEq] at sameRest
          rw [sameText]
          exact congrArg (other :: ·) (inductionHypothesis sameRest.2)

/-- The compact text of an array of strings is injective. -/
theorem compact_strings_injective
    {first second : List String}
    (equal : (strings first).compact = (strings second).compact) :
    first = second := by
  have characters := String.ofList_injective equal
  simp only [strings, write, List.cons.injEq, true_and] at characters
  exact writeItems_strings_inj characters

@[simp] theorem compact_strings_inj
    {first second : List String} :
    (strings first).compact = (strings second).compact ↔ first = second :=
  ⟨compact_strings_injective, congrArg fun texts => (strings texts).compact⟩

end Json
end AsystantGateway
