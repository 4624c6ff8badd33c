import Mathlib.Data.List.Basic
import Mathlib.Data.List.Forall2
import Mathlib.Tactic.Common

/-!
# Escaping for a page

A text is escaped by replacing one character after another. Each replacement
runs over the whole of what the ones before it made, so the ampersand has to be
the first. What results has no markup character, and undoing its references
gives the text back.
-/

namespace AsystantGateway

namespace Html

/-- Every occurrence of a character is replaced by a text. -/
def replaceChars
    (sought : Char)
    (replacement text : List Char) : List Char :=
  text.flatMap fun char => if char = sought then replacement else [char]

/-- `str::replace` with a character. -/
def replace
    (sought : Char)
    (replacement text : String) : String :=
  String.ofList (replaceChars sought replacement.toList text.toList)

/-- The five replacements, one after another. -/
def escape (text : String) : String :=
  replace '\'' "&#39;" (replace '"' "&quot;" (replace '>' "&gt;"
    (replace '<' "&lt;" (replace '&' "&amp;" text))))

/-- What becomes of one character. -/
def entity (char : Char) : List Char :=
  if char = '&' then ['&', 'a', 'm', 'p', ';']
  else if char = '<' then ['&', 'l', 't', ';']
  else if char = '>' then ['&', 'g', 't', ';']
  else if char = '"' then ['&', 'q', 'u', 'o', 't', ';']
  else if char = '\'' then ['&', '#', '3', '9', ';']
  else [char]

theorem replaceChars_flatMap
    (sought : Char)
    (replacement text : List Char)
    (written : Char → List Char) :
    replaceChars sought replacement (text.flatMap written) =
      text.flatMap fun char =>
        replaceChars sought replacement (written char) :=
  List.flatMap_assoc

/-- The five replacements of a single character are its entity: none of them
reads what an earlier one wrote. -/
theorem replaceChars_entity (char : Char) :
    replaceChars '\'' ['&', '#', '3', '9', ';']
      (replaceChars '"' ['&', 'q', 'u', 'o', 't', ';']
        (replaceChars '>' ['&', 'g', 't', ';']
          (replaceChars '<' ['&', 'l', 't', ';']
            (if char = '&' then ['&', 'a', 'm', 'p', ';'] else [char])))) =
      entity char := by
  unfold entity
  split_ifs with ampersand less greater quote apostrophe
  · rfl
  · subst less
    rfl
  · subst greater
    rfl
  · subst quote
    rfl
  · subst apostrophe
    rfl
  · simp [replaceChars, less, greater, quote, apostrophe]

/-- The replacements in sequence are one pass over the text. -/
theorem toList_escape (text : String) :
    (escape text).toList = text.toList.flatMap entity := by
  have onePass : replaceChars '\'' ['&', '#', '3', '9', ';']
      (replaceChars '"' ['&', 'q', 'u', 'o', 't', ';']
        (replaceChars '>' ['&', 'g', 't', ';']
          (replaceChars '<' ['&', 'l', 't', ';']
            (replaceChars '&' ['&', 'a', 'm', 'p', ';'] text.toList)))) =
      text.toList.flatMap entity := by
    conv_lhs =>
      enter [3, 3, 3, 3]
      unfold replaceChars
    simp only [replaceChars_flatMap]
    congr 1
    funext char
    exact replaceChars_entity char
  unfold escape replace
  simp only [String.toList_ofList]
  exact onePass

/-- The characters that open or close markup. -/
def isMarkup (char : Char) : Bool :=
  char == '<' || char == '>' || char == '"' || char == '\''

/-- The markup characters of a text, in their order. -/
def markup (text : String) : List Char :=
  text.toList.filter isMarkup

@[simp] theorem markup_append (first second : String) :
    markup (first ++ second) = markup first ++ markup second := by
  simp [markup]

/-- Lists of parts with the same markup, written one after another. -/
theorem markup_join
    {first : List α}
    {second : List β}
    {write : α → String}
    {otherWrite : β → String}
    (parts : List.Forall₂
      (fun item other => markup (write item) = markup (otherWrite other))
      first second) :
    markup (String.join (first.map write)) =
      markup (String.join (second.map otherWrite)) := by
  induction parts with
  | nil => rfl
  | cons head _ inductionHypothesis =>
      rw [List.map_cons, List.map_cons, String.join_cons, String.join_cons,
        markup_append, markup_append, head, inductionHypothesis]

/-- As many parts, whose markup does not depend on what is written. -/
theorem markup_join_of_length
    {first : List α}
    {second : List β}
    (sameLength : first.length = second.length)
    {write : α → String}
    {otherWrite : β → String}
    (parts : ∀ item other, markup (write item) = markup (otherWrite other)) :
    markup (String.join (first.map write)) =
      markup (String.join (second.map otherWrite)) := by
  apply markup_join
  apply List.forall₂_iff_get.mpr
  exact ⟨sameLength, fun _ _ _ => parts _ _⟩

theorem isMarkup_of_mem_entity
    {char written : Char}
    (member : written ∈ entity char) :
    isMarkup written = false := by
  unfold entity at member
  split_ifs at member with ampersand less greater quote apostrophe
  iterate 5
    simp only [List.mem_cons, List.not_mem_nil, or_false] at member
    rcases member with rfl | rfl | rfl | rfl | rfl | rfl <;> rfl
  · obtain rfl := List.mem_singleton.mp member
    simp [isMarkup, less, greater, quote, apostrophe]

/-- An escaped text has no markup character. -/
@[simp] theorem markup_escape (text : String) :
    markup (escape text) = [] := by
  unfold markup
  rw [toList_escape, List.filter_eq_nil_iff]
  intro written member
  obtain ⟨char, -, fromChar⟩ := List.mem_flatMap.mp member
  simp [isMarkup_of_mem_entity fromChar]

/-- A number has no markup character. -/
@[simp] theorem markup_repr (number : Nat) : markup number.repr = [] := by
  unfold markup
  rw [List.filter_eq_nil_iff]
  intro char member
  have digit : char.isDigit = true := by
    rw [Nat.repr, String.toList_ofList] at member
    exact Nat.isDigit_of_mem_toDigits (by decide) (by decide) member
  have notMarkup : isMarkup char = false := by
    rw [Bool.eq_false_iff]
    intro isMarkup
    simp only [Html.isMarkup, Bool.or_eq_true, beq_iff_eq] at isMarkup
    rcases isMarkup with ((rfl | rfl) | rfl) | rfl <;>
      exact absurd digit (by decide)
  simp [notMarkup]

theorem markup_toString (number : Int) : markup (toString number) = [] := by
  cases number with
  | ofNat value => exact markup_repr value
  | negSucc value =>
      have written : toString (Int.negSucc value) =
          "-" ++ Nat.repr (value + 1) := rfl
      rw [written, markup_append, markup_repr]
      rfl

/-- The number that decimal digits write. -/
def decimal (digits : List Char) : Nat :=
  digits.foldl (fun value digit => 10 * value + (digit.toNat - 48)) 0

/-- The character that a reference without its `&` and `;` stands for, by its
number or by one of the known names. -/
def reference
    (named : List Char → Option Char)
    (name : List Char) : Option Char :=
  match name with
  | '#' :: digits =>
      if digits ≠ [] ∧ digits.all Char.isDigit = true then
        some (Char.ofNat (decimal digits))
      else none
  | name => named name

/-- Decoding from inside of a reference, whose characters so far are given in
reverse, or from outside. A reference that stands for nothing stays. -/
def unescapeFrom (named : List Char → Option Char) :
    Option (List Char) → List Char → List Char
  | none, [] => []
  | some name, [] => '&' :: name.reverse
  | none, char :: rest =>
      if char = '&' then unescapeFrom named (some []) rest
      else char :: unescapeFrom named none rest
  | some name, char :: rest =>
      if char = ';' then
        match reference named name.reverse with
        | some decoded => decoded :: unescapeFrom named none rest
        | none => '&' :: (name.reverse ++ ';' :: unescapeFrom named none rest)
      else if char = '&' then
        '&' :: (name.reverse ++ unescapeFrom named (some []) rest)
      else unescapeFrom named (some (char :: name)) rest

/-- A text with its character references decoded. -/
def unescape
    (named : List Char → Option Char)
    (text : String) : String :=
  String.ofList (unescapeFrom named none text.toList)

/-- The names that every reader of a page knows. -/
structure KnowsNames (named : List Char → Option Char) : Prop where
  ampersand : named ['a', 'm', 'p'] = some '&'
  less : named ['l', 't'] = some '<'
  greater : named ['g', 't'] = some '>'
  quote : named ['q', 'u', 'o', 't'] = some '"'

/-- An entity is decoded as the character it was made of, whatever follows. -/
theorem unescapeFrom_entity
    {named : List Char → Option Char}
    (names : KnowsNames named)
    (char : Char)
    (rest : List Char) :
    unescapeFrom named none (entity char ++ rest) =
      char :: unescapeFrom named none rest := by
  unfold entity
  split_ifs with ampersand less greater quote apostrophe
  · subst ampersand
    simp [unescapeFrom, reference, names.ampersand]
  · subst less
    simp [unescapeFrom, reference, names.less]
  · subst greater
    simp [unescapeFrom, reference, names.greater]
  · subst quote
    simp [unescapeFrom, reference, names.quote]
  · subst apostrophe
    have number : reference named ['#', '3', '9'] = some '\'' := rfl
    simp [unescapeFrom, number]
  · simp [unescapeFrom, ampersand]

/-- Decoding an escaped text gives the text back. -/
theorem unescape_escape
    {named : List Char → Option Char}
    (names : KnowsNames named)
    (text : String) :
    unescape named (escape text) = text := by
  have decoded : ∀ chars : List Char,
      unescapeFrom named none (chars.flatMap entity) = chars := by
    intro chars
    induction chars with
    | nil => rfl
    | cons char rest inductionHypothesis =>
        rw [List.flatMap_cons, unescapeFrom_entity names,
          inductionHypothesis]
  unfold unescape
  rw [toList_escape, decoded, String.ofList_toList]

end Html

end AsystantGateway
