import AsystantGateway.Library.Json.Value

/-!
# Reading JSON

A reader takes a value off the front of some characters. White space may stand
between the tokens, a container may not lie within more than 126 others, an
integer that fits no 64-bit word is a double, and what a double is rounded to is
the work of a function on its text. Objects keep their members as they stand in
the text, repeated keys among them.

Reading undoes writing.
-/

namespace AsystantGateway
namespace Json

/-- Take something off the front of some characters. -/
abbrev Reader (α : Type u) := List Char → Option (α × List Char)

/-- White space between tokens. -/
def isSpace (char : Char) : Bool :=
  char = ' ' ∨ char = '\n' ∨ char = '\t' ∨ char = '\r'

/-- Drop the white space in front. -/
def skipSpace : List Char → List Char
  | [] => []
  | char :: rest => if isSpace char then skipSpace rest else char :: rest

theorem skipSpace_cons_of_not
    {char : Char}
    (noSpace : isSpace char = false)
    (rest : List Char) :
    skipSpace (char :: rest) = char :: rest := by
  simp [skipSpace, noSpace]

/-- The value of a hexadecimal digit. -/
def hexDigitValue (char : Char) : Option Nat :=
  let code := char.toNat
  if 48 ≤ code ∧ code ≤ 57 then some (code - 48)
  else if 97 ≤ code ∧ code ≤ 102 then some (code - 87)
  else if 65 ≤ code ∧ code ≤ 70 then some (code - 55)
  else none

/-- The character that an escape of one letter stands for. -/
def letterEscape (letter : Char) : Option Char :=
  if letter = '"' ∨ letter = '\\' ∨ letter = '/' then some letter
  else if letter = 'b' then some '\x08'
  else if letter = 'f' then some '\x0c'
  else if letter = 'n' then some '\n'
  else if letter = 'r' then some '\r'
  else if letter = 't' then some '\t'
  else none

/-- What four hexadecimal digits amount to, after a leading surrogate or
without one. -/
inductive CodeUnit
  | char (char : Char)
  | leading (unit : Nat)
  | refused

/-- Combine a code unit with the leading surrogate before it. -/
def codeUnit (leading : Option Nat) (unit : Nat) : CodeUnit :=
  match leading with
  | none =>
      if 0xDC00 ≤ unit ∧ unit ≤ 0xDFFF then .refused
      else if 0xD800 ≤ unit ∧ unit ≤ 0xDBFF then .leading unit
      else .char (Char.ofNat unit)
  | some high =>
      if 0xDC00 ≤ unit ∧ unit ≤ 0xDFFF then
        .char (Char.ofNat
          (0x10000 + (high - 0xD800) * 0x400 + (unit - 0xDC00)))
      else
        .refused

/-- How far a reader of a string is into an escape. -/
inductive StringState
  | plain
  | backslash
  /-- Some of the four digits have been read, after a leading surrogate or
  without one. -/
  | digits (leading : Option Nat) (count value : Nat)
  /-- A leading surrogate has been read. -/
  | leading (unit : Nat)
  | leadingBackslash (unit : Nat)

/-- Put a character before what is read. -/
def withChar
    (char : Char)
    (read : Option (List Char × List Char)) :
    Option (List Char × List Char) :=
  read.map fun (text, rest) => (char :: text, rest)

/-- Read the characters of a string, up to the quote that closes it. -/
def readChars : StringState → Reader (List Char)
  | _, [] => none
  | .plain, char :: rest =>
      if char = '"' then some ([], rest)
      else if char = '\\' then readChars .backslash rest
      else if char.toNat < 32 then none
      else withChar char (readChars .plain rest)
  | .backslash, letter :: rest =>
      if letter = 'u' then readChars (.digits none 0 0) rest
      else
        match letterEscape letter with
        | none => none
        | some char => withChar char (readChars .plain rest)
  | .digits leading count value, digit :: rest =>
      match hexDigitValue digit with
      | none => none
      | some low =>
          if count < 3 then
            readChars (.digits leading (count + 1) (16 * value + low)) rest
          else
            match codeUnit leading (16 * value + low) with
            | .char char => withChar char (readChars .plain rest)
            | .leading unit => readChars (.leading unit) rest
            | .refused => none
  | .leading unit, char :: rest =>
      if char = '\\' then readChars (.leadingBackslash unit) rest else none
  | .leadingBackslash unit, char :: rest =>
      if char = 'u' then readChars (.digits (some unit) 0 0) rest else none

theorem hexDigitValue_hexDigit :
    ∀ digit < 16, hexDigitValue (hexDigit digit) = some digit := by
  decide

/-- Reading undoes the escaping of one character. -/
theorem readChars_escapeChar
    (char : Char)
    (rest : List Char) :
    readChars .plain (escapeChar char ++ rest) =
      withChar char (readChars .plain rest) := by
  unfold escapeChar
  split_ifs with quote backslash backspace tab newline formFeed carriage control
  · subst quote; rfl
  · subst backslash; rfl
  · subst backspace; rfl
  · subst tab; rfl
  · subst newline; rfl
  · subst formFeed; rfl
  · subst carriage; rfl
  · have zero : hexDigitValue '0' = some 0 := by decide
    have high := hexDigitValue_hexDigit (char.toNat / 16) (by omega)
    have low := hexDigitValue_hexDigit (char.toNat % 16) (by omega)
    have whole : 16 * (char.toNat / 16) + char.toNat % 16 = char.toNat := by
      omega
    have unit : codeUnit none char.toNat = .char char := by
      unfold codeUnit
      dsimp only
      rw [if_neg (by omega), if_neg (by omega), Char.ofNat_toNat]
    simp [readChars, zero, high, low, whole, unit]
  · have noControl : ¬ char.toNat < 32 := control
    simp [readChars, quote, backslash, noControl]

/-- Reading undoes escaping. -/
theorem readChars_escape
    (text rest : List Char) :
    readChars .plain (escape text ++ '"' :: rest) = some (text, rest) := by
  induction text with
  | nil => rfl
  | cons char text inductionHypothesis =>
      unfold escape at inductionHypothesis ⊢
      rw [List.flatMap_cons, List.append_assoc, readChars_escapeChar,
        inductionHypothesis]
      rfl

/-! ## Numbers -/

/-- Take the digits in front. -/
def takeDigits : List Char → List Char × List Char
  | [] => ([], [])
  | char :: rest =>
      if char.isDigit then
        let (digits, after) := takeDigits rest
        (char :: digits, after)
      else
        ([], char :: rest)

/-- Read the sign of a number or of an exponent. -/
def readSign (signs : List Char) : List Char → List Char × List Char
  | [] => ([], [])
  | char :: rest =>
      if char ∈ signs then ([char], rest) else ([], char :: rest)

/-- Read the fraction of a number, if there is one. -/
def readFraction : Reader (List Char)
  | [] => some ([], [])
  | point :: rest =>
      if point = '.' then
        let (digits, rest) := takeDigits rest
        if digits = [] then none else some (point :: digits, rest)
      else
        some ([], point :: rest)

/-- Read the exponent of a number, if there is one. -/
def readExponent : Reader (List Char)
  | [] => some ([], [])
  | mark :: rest =>
      if mark = 'e' ∨ mark = 'E' then
        let (sign, rest) := readSign ['+', '-'] rest
        let (digits, rest) := takeDigits rest
        if digits = [] then none else some (mark :: (sign ++ digits), rest)
      else
        some ([], mark :: rest)

/-- The number that a sign, some digits, and a fraction with an exponent stand
for: an integer that fits its word, or a double. -/
def numberOf
    (round : String → Option String)
    (sign digits decimals : List Char) : Option Number :=
  let value := Nat.ofDigitChars 10 digits 0
  if decimals = [] ∧ sign = [] ∧ value < 2 ^ 64 then
    some (.posInt (UInt64.ofNat value))
  else if decimals = [] ∧ sign ≠ [] ∧ 0 < value ∧ value ≤ 2 ^ 63 then
    some (.negInt (Int64.ofInt (-value)))
  else
    (round (String.ofList (sign ++ digits ++ decimals))).map .float

/-- Read a number. There is no leading zero. -/
def readNumber (round : String → Option String) : Reader Number := fun chars =>
  let (sign, rest) := readSign ['-'] chars
  let (digits, rest) := takeDigits rest
  if digits = [] ∨ digits.head? = some '0' ∧ digits.length ≠ 1 then none
  else do
    let (fraction, rest) ← readFraction rest
    let (exponent, rest) ← readExponent rest
    let number ← numberOf round sign digits (fraction ++ exponent)
    some (number, rest)

/-- Characters at whose front a value has ended. -/
def Ends : List Char → Prop
  | [] => True
  | char :: _ => char = ',' ∨ char = ']' ∨ char = '}'

theorem takeDigits_append
    {digits rest : List Char}
    (all : ∀ char ∈ digits, char.isDigit = true)
    (ends : Ends rest) :
    takeDigits (digits ++ rest) = (digits, rest) := by
  induction digits with
  | nil =>
      cases rest with
      | nil => rfl
      | cons char rest =>
          rcases ends with rfl | rfl | rfl <;> rfl
  | cons char digits inductionHypothesis =>
      have tail := inductionHypothesis fun other member =>
        all other (List.mem_cons_of_mem _ member)
      simp [takeDigits, all char List.mem_cons_self, tail]

theorem readFraction_of_ends
    {rest : List Char}
    (ends : Ends rest) :
    readFraction rest = some ([], rest) := by
  cases rest with
  | nil => rfl
  | cons char rest => rcases ends with rfl | rfl | rfl <;> rfl

theorem readExponent_of_ends
    {rest : List Char}
    (ends : Ends rest) :
    readExponent rest = some ([], rest) := by
  cases rest with
  | nil => rfl
  | cons char rest => rcases ends with rfl | rfl | rfl <;> rfl

/-- The decimal digits of a positive number do not begin with a zero. -/
theorem head_toDigits_ne_zero
    (number : Nat)
    (positive : 0 < number) :
    (Nat.toDigits 10 number).head? ≠ some '0' := by
  induction number using Nat.strong_induction_on with
  | h number inductionHypothesis =>
      by_cases small : number < 10
      · have digits : ∀ digit < 10, 0 < digit →
            [Nat.digitChar digit].head? ≠ some '0' := by
          decide
        rw [Nat.toDigits_of_lt_base small]
        exact digits number small positive
      · have quotient := inductionHypothesis (number / 10) (by omega) (by omega)
        rw [Nat.toDigits_of_base_le (by decide) (not_lt.mp small)]
        obtain ⟨char, digits, split⟩ :=
          List.exists_cons_of_ne_nil (@Nat.toDigits_ne_nil (number / 10) 10)
        rw [split] at quotient ⊢
        exact quotient

/-- Digits that were written are read. -/
theorem readNumber_digits
    (round : String → Option String)
    {sign : List Char}
    (isSign : sign = [] ∨ sign = ['-'])
    (value : Nat)
    {rest : List Char}
    (ends : Ends rest) :
    readNumber round (sign ++ Nat.toDigits 10 value ++ rest) =
      (numberOf round sign (Nat.toDigits 10 value) []).map
        fun number => (number, rest) := by
  have areDigits : ∀ char ∈ Nat.toDigits 10 value, char.isDigit = true :=
    fun char member =>
      Nat.isDigit_of_mem_toDigits (by decide) (by decide) member
  have taken : takeDigits (Nat.toDigits 10 value ++ rest) =
      (Nat.toDigits 10 value, rest) :=
    takeDigits_append areDigits ends
  have wellFormed : ¬ (Nat.toDigits 10 value = [] ∨
      (Nat.toDigits 10 value).head? = some '0' ∧
        (Nat.toDigits 10 value).length ≠ 1) := by
    rintro (isEmpty | ⟨zero, long⟩)
    · exact Nat.toDigits_ne_nil isEmpty
    · rcases Nat.eq_zero_or_pos value with rfl | positive
      · exact long rfl
      · exact head_toDigits_ne_zero value positive zero
  have signed : readSign ['-'] (sign ++ Nat.toDigits 10 value ++ rest) =
      (sign, Nat.toDigits 10 value ++ rest) := by
    rcases isSign with rfl | rfl
    · obtain ⟨char, digits, split⟩ :=
        List.exists_cons_of_ne_nil (@Nat.toDigits_ne_nil value 10)
      have isDigit := areDigits char (by simp [split])
      have noMinus : ¬ char = '-' := by
        rintro rfl
        exact absurd isDigit (by decide)
      simp [split, readSign, noMinus]
    · rfl
  unfold readNumber
  simp only [signed, taken, wellFormed, if_false,
    readFraction_of_ends ends, readExponent_of_ends ends, Option.bind_eq_bind,
    Option.bind_some, List.append_nil]
  cases numberOf round sign (Nat.toDigits 10 value) [] <;> rfl

section Appending

variable {chars rest left : List Char}

private theorem readSign_append
    (ends : Ends rest)
    {signs sign : List Char}
    (areSigns : ∀ char ∈ signs, char = '+' ∨ char = '-')
    (read : readSign signs chars = (sign, left)) :
    readSign signs (chars ++ rest) = (sign, left ++ rest) := by
  cases chars with
  | cons char chars =>
      rw [readSign] at read
      rw [List.cons_append, readSign]
      split at read
      · rename_i isSign
        obtain ⟨rfl, rfl⟩ := Prod.mk.inj read
        exact if_pos isSign
      · rename_i noSign
        obtain ⟨rfl, rfl⟩ := Prod.mk.inj read
        exact if_neg noSign
  | nil =>
      obtain ⟨rfl, rfl⟩ := Prod.mk.inj read
      cases rest with
      | nil => rfl
      | cons char rest =>
          have noSign : char ∉ signs := by
            intro isSign
            rcases ends with rfl | rfl | rfl <;>
              exact absurd (areSigns _ isSign) (by decide)
          simp [readSign, noSign]

private theorem takeDigits_of_append
    (ends : Ends rest)
    {digits : List Char}
    (read : takeDigits chars = (digits, left)) :
    takeDigits (chars ++ rest) = (digits, left ++ rest) := by
  induction chars generalizing digits with
  | nil =>
      obtain ⟨rfl, rfl⟩ := Prod.mk.inj read
      exact takeDigits_append (by simp) ends
  | cons char chars inductionHypothesis =>
      rw [takeDigits] at read
      rw [List.cons_append, takeDigits]
      split at read
      · rename_i isDigit
        obtain ⟨rfl, rfl⟩ := Prod.mk.inj read
        rw [if_pos isDigit, inductionHypothesis rfl]
      · rename_i noDigit
        obtain ⟨rfl, rfl⟩ := Prod.mk.inj read
        rw [if_neg noDigit, List.cons_append]

private theorem readFraction_append
    (ends : Ends rest)
    {fraction : List Char}
    (read : readFraction chars = some (fraction, left)) :
    readFraction (chars ++ rest) = some (fraction, left ++ rest) := by
  cases chars with
  | nil =>
      obtain ⟨rfl, rfl⟩ := Prod.mk.inj (Option.some.inj read)
      exact readFraction_of_ends ends
  | cons point chars =>
      rw [readFraction] at read
      rw [List.cons_append, readFraction]
      split at read
      · rename_i isPoint
        rw [if_pos isPoint]
        obtain ⟨digits, after, taken⟩ : ∃ digits after,
            takeDigits chars = (digits, after) := ⟨_, _, rfl⟩
        rw [taken] at read
        rw [takeDigits_of_append ends taken]
        dsimp only at read ⊢
        split at read
        · cases read
        · rename_i some
          obtain ⟨rfl, rfl⟩ := Prod.mk.inj (Option.some.inj read)
          exact if_neg some
      · rename_i noPoint
        obtain ⟨rfl, rfl⟩ := Prod.mk.inj (Option.some.inj read)
        rw [if_neg noPoint, List.cons_append]

private theorem readExponent_append
    (ends : Ends rest)
    {exponent : List Char}
    (read : readExponent chars = some (exponent, left)) :
    readExponent (chars ++ rest) = some (exponent, left ++ rest) := by
  cases chars with
  | nil =>
      obtain ⟨rfl, rfl⟩ := Prod.mk.inj (Option.some.inj read)
      exact readExponent_of_ends ends
  | cons mark chars =>
      rw [readExponent] at read
      rw [List.cons_append, readExponent]
      split at read
      · rename_i isMark
        rw [if_pos isMark]
        obtain ⟨sign, unsigned, signed⟩ : ∃ sign unsigned,
            readSign ['+', '-'] chars = (sign, unsigned) := ⟨_, _, rfl⟩
        obtain ⟨digits, after, taken⟩ : ∃ digits after,
            takeDigits unsigned = (digits, after) := ⟨_, _, rfl⟩
        rw [signed] at read
        simp only [taken] at read
        rw [readSign_append ends (by simp) signed]
        simp only [takeDigits_of_append ends taken]
        split at read
        · cases read
        · rename_i some
          obtain ⟨rfl, rfl⟩ := Prod.mk.inj (Option.some.inj read)
          exact if_neg some
      · rename_i noMark
        obtain ⟨rfl, rfl⟩ := Prod.mk.inj (Option.some.inj read)
        rw [if_neg noMark, List.cons_append]

/-- A number that is read alone is read in front of anything that ends one. -/
theorem readNumber_append
    (ends : Ends rest)
    {round : String → Option String}
    {number : Number}
    (read : readNumber round chars = some (number, [])) :
    readNumber round (chars ++ rest) = some (number, rest) := by
  obtain ⟨sign, unsigned, signed⟩ : ∃ sign unsigned,
      readSign ['-'] chars = (sign, unsigned) := ⟨_, _, rfl⟩
  obtain ⟨digits, after, taken⟩ : ∃ digits after,
      takeDigits unsigned = (digits, after) := ⟨_, _, rfl⟩
  unfold readNumber at read ⊢
  rw [signed] at read
  rw [readSign_append ends (by simp) signed]
  simp only [taken] at read
  simp only [takeDigits_of_append ends taken]
  split at read
  · cases read
  · rename_i wellFormed
    rw [if_neg wellFormed]
    simp only [Option.bind_eq_bind, Option.bind_eq_some_iff, Prod.exists] at read
    obtain ⟨fraction, unpointed, pointed, exponent, none, scaled, value,
      isNumber, same⟩ := read
    obtain ⟨rfl, rfl⟩ := Prod.mk.inj (Option.some.inj same)
    simp only [readFraction_append ends pointed, readExponent_append ends scaled,
      isNumber, Option.bind_eq_bind, Option.bind_some, List.nil_append]

end Appending

/-- A number that is read as it was written: a double is read from its text. -/
def Number.Readable (round : String → Option String) : Number → Prop
  | .posInt _ => True
  | .negInt value => value.toInt < 0
  | .float text =>
      readNumber round text.toList = some (.float text, [])

/-- Reading undoes the writing of a number. -/
theorem readNumber_writeNumber
    {round : String → Option String}
    {number : Number}
    (readable : number.Readable round)
    {rest : List Char}
    (ends : Ends rest) :
    readNumber round (writeNumber number ++ rest) = some (number, rest) := by
  cases number with
  | posInt value =>
      have read := readNumber_digits round (.inl rfl) value.toNat ends
      have isNumber : numberOf round [] (Nat.toDigits 10 value.toNat) [] =
          some (.posInt value) := by
        unfold numberOf
        rw [Nat.ofDigitChars_ten_toDigits, if_pos ⟨rfl, rfl, value.toNat_lt⟩,
          UInt64.ofNat_toNat]
      rw [isNumber] at read
      change readNumber round (value.toNat.repr.toList ++ rest) = _
      rw [Nat.toList_repr]
      exact read
  | negInt value =>
      obtain ⟨before, isValue⟩ : ∃ before, value.toInt = .negSucc before :=
        Int.eq_negSucc_of_lt_zero readable
      have read := readNumber_digits round (.inr rfl) (before + 1) ends
      have bound : before + 1 ≤ 2 ^ 63 := by
        have least := value.le_toInt
        rw [isValue] at least
        omega
      have isNumber : numberOf round ['-'] (Nat.toDigits 10 (before + 1)) [] =
          some (.negInt value) := by
        unfold numberOf
        rw [Nat.ofDigitChars_ten_toDigits, if_neg (by simp),
          if_pos ⟨rfl, by simp, by omega, bound⟩]
        have same : (-((before + 1 : Nat) : Int)) = value.toInt := by
          rw [isValue]
          rfl
        rw [same, Int64.ofInt_toInt]
      have written : (toString value.toInt).toList =
          '-' :: Nat.toDigits 10 (before + 1) := by
        rw [isValue]
        change ("-" ++ Nat.repr (before + 1)).toList = _
        rw [String.toList_append, Nat.toList_repr]
        rfl
      rw [isNumber] at read
      change readNumber round ((toString value.toInt).toList ++ rest) = _
      rw [written]
      exact read
  | float text => exact readNumber_append ends readable

/-! ## Values -/

/-- Read items with commas between them, up to the mark that closes them. -/
def readItems (item : Reader α) (close : Char) : Nat → Reader (List α)
  | 0, _ => none
  | fuel + 1, chars => do
      let (first, rest) ← item (skipSpace chars)
      match skipSpace rest with
      | [] => none
      | mark :: rest =>
          if mark = ',' then do
            let (others, rest) ← readItems item close fuel rest
            some (first :: others, rest)
          else if mark = close then some ([first], rest)
          else none

/-- Read what a container holds. -/
def readContents (item : Reader α) (close : Char) : Reader (List α) :=
  fun chars =>
    match skipSpace chars with
    | [] => none
    | char :: rest =>
        if char = close then some ([], rest)
        else readItems item close chars.length (char :: rest)

/-- Read a member of an object. -/
def readMember (value : Reader Value) : Reader (String × Value)
  | [] => none
  | quote :: rest =>
      if quote = '"' then do
        let (key, rest) ← readChars .plain rest
        match skipSpace rest with
        | [] => none
        | mark :: rest =>
            if mark = ':' then do
              let (held, rest) ← value (skipSpace rest)
              some ((String.ofList key, held), rest)
            else none
      else none

/-- Read one of the three words. -/
def readWord : Reader Value
  | 'n' :: 'u' :: 'l' :: 'l' :: rest => some (.null, rest)
  | 't' :: 'r' :: 'u' :: 'e' :: rest => some (.bool true, rest)
  | 'f' :: 'a' :: 'l' :: 's' :: 'e' :: rest => some (.bool false, rest)
  | _ => none

/-- Read a value, with a reader for what containers hold. Where there is none
the containers are nested too deep. -/
def readWith
    (round : String → Option String)
    (nested : Option (Reader Value)) : Reader Value
  | [] => none
  | char :: rest =>
      if char = '"' then
        (readChars .plain rest).map fun (text, rest) =>
          (.string (String.ofList text), rest)
      else if char = '[' then do
        let value ← nested
        let (items, rest) ← readContents value ']' rest
        some (.array items, rest)
      else if char = '{' then do
        let value ← nested
        let (members, rest) ← readContents (readMember value) '}' rest
        some (.object members, rest)
      else if char = 'n' ∨ char = 't' ∨ char = 'f' then
        readWord (char :: rest)
      else
        (readNumber round (char :: rest)).map fun (number, rest) =>
          (.number number, rest)

/-- Read a value with some levels of containers in it. -/
def readValue (round : String → Option String) : Nat → Reader Value
  | 0 => readWith round none
  | depth + 1 => readWith round (some (readValue round depth))

/-- The value that a text stands for. Nothing but white space may follow it. -/
def readJson (round : String → Option String) (text : String) : Option Value := do
  let (value, rest) ← readValue round 127 (skipSpace text.toList)
  if skipSpace rest = [] then some value else none

/-! ## Reading undoes writing -/

/-- A value with at most some levels of containers, whose numbers are fit. -/
inductive Value.Nested (fit : Number → Prop) : Nat → Value → Prop
  | null (depth : Nat) : Value.Nested fit depth .null
  | bool (depth : Nat) (value : Bool) : Value.Nested fit depth (.bool value)
  | number (depth : Nat) (value : Number) (isFit : fit value) :
      Value.Nested fit depth (.number value)
  | string (depth : Nat) (text : String) :
      Value.Nested fit depth (.string text)
  | array (depth : Nat) (items : List Value)
      (nested : ∀ item ∈ items, Value.Nested fit depth item) :
      Value.Nested fit (depth + 1) (.array items)
  | object (depth : Nat) (members : List (String × Value))
      (nested : ∀ member ∈ members, Value.Nested fit depth member.2) :
      Value.Nested fit (depth + 1) (.object members)

/-- A value with at most some levels of containers, whose numbers are read as
they were written. -/
abbrev Value.Readable
    (round : String → Option String)
    (depth : Nat)
    (value : Value) : Prop :=
  value.Nested (Number.Readable round) depth

/-- The front of a number. -/
def BeginsNumber (char : Char) : Prop :=
  char = '-' ∨ char.isDigit = true

theorem BeginsNumber.ne
    {char : Char}
    (begins : BeginsNumber char)
    (other : Char)
    (noNumber : ¬ BeginsNumber other) :
    char ≠ other := by
  rintro rfl
  exact noNumber begins

theorem BeginsNumber.not_isSpace
    {char : Char}
    (begins : BeginsNumber char) :
    isSpace char = false := by
  have blank := begins.ne ' ' (by unfold BeginsNumber; decide)
  have newline := begins.ne '\n' (by unfold BeginsNumber; decide)
  have tab := begins.ne '\t' (by unfold BeginsNumber; decide)
  have carriage := begins.ne '\r' (by unfold BeginsNumber; decide)
  simp [isSpace, blank, newline, tab, carriage]

/-- A number that is read begins as one. -/
theorem exists_of_readNumber
    {round : String → Option String}
    {chars rest : List Char}
    {number : Number}
    (read : readNumber round chars = some (number, rest)) :
    ∃ char tail, chars = char :: tail ∧ BeginsNumber char := by
  cases chars with
  | nil => simp [readNumber, readSign, takeDigits] at read
  | cons char tail =>
      refine ⟨char, tail, rfl, ?_⟩
      by_contra noNumber
      obtain ⟨noMinus, noDigit⟩ := not_or.mp noNumber
      simp [readNumber, readSign, takeDigits, noMinus, noDigit] at read

/-- A value that can be read begins with a mark or with a number. -/
theorem Value.Readable.begins
    {round : String → Option String}
    {depth : Nat}
    {value : Value}
    (readable : value.Readable round depth) :
    ∃ char tail, write value = char :: tail ∧ isSpace char = false ∧
      char ≠ ']' := by
  cases readable with
  | null => exact ⟨_, _, rfl, by decide, by decide⟩
  | bool depth value => cases value <;> exact ⟨_, _, rfl, by decide, by decide⟩
  | number depth number readable =>
      have read : readNumber round (writeNumber number ++ []) =
          some (number, []) :=
        readNumber_writeNumber readable trivial
      rw [List.append_nil] at read
      obtain ⟨char, tail, split, begins⟩ := exists_of_readNumber read
      exact ⟨char, tail, split, begins.not_isSpace,
        begins.ne _ (by unfold BeginsNumber; decide)⟩
  | string => exact ⟨_, _, rfl, by decide, by decide⟩
  | array => exact ⟨_, _, rfl, by decide, by decide⟩
  | object => exact ⟨_, _, rfl, by decide, by decide⟩

/-- Texts with commas between them. -/
def joined : List (List Char) → List Char
  | [] => []
  | [text] => text
  | text :: next :: texts => text ++ ',' :: joined (next :: texts)

theorem writeItems_eq_joined (items : List Value) :
    writeItems items = joined (items.map write) := by
  induction items with
  | nil => rfl
  | cons item items inductionHypothesis =>
      cases items with
      | nil => rfl
      | cons next items =>
          simp only [writeItems, List.map_cons, joined, inductionHypothesis]

/-- A member as it stands in an object. -/
def writeMember (member : String × Value) : List Char :=
  writeString member.1 ++ ':' :: write member.2

theorem writeMembers_eq_joined (members : List (String × Value)) :
    writeMembers members = joined (members.map writeMember) := by
  induction members with
  | nil => rfl
  | cons member members inductionHypothesis =>
      cases members with
      | nil => rfl
      | cons next members =>
          simp only [writeMembers, List.map_cons, joined, inductionHypothesis,
            writeMember, List.append_assoc, List.cons_append]

/-- How an item is written, and that it is read so. -/
structure ReadsBack
    (item : Reader α)
    (close : Char)
    (text : α → List Char)
    (value : α) : Prop where
  begins : ∃ char tail, text value = char :: tail ∧ isSpace char = false ∧
    char ≠ close
  reads : ∀ rest, Ends rest → item (text value ++ rest) = some (value, rest)

theorem ReadsBack.skipSpace
    {item : Reader α}
    {close : Char}
    {text : α → List Char}
    {value : α}
    (back : ReadsBack item close text value)
    (rest : List Char) :
    skipSpace (text value ++ rest) = text value ++ rest := by
  obtain ⟨char, tail, split, noSpace, -⟩ := back.begins
  rw [split]
  exact skipSpace_cons_of_not noSpace _

section Containers

variable
  {item : Reader α}
  {close : Char}
  {text : α → List Char}

/-- Items that are read one by one are read with commas between them. -/
theorem readItems_joined
    (closes : close = ']' ∨ close = '}')
    {first : α}
    {others : List α}
    (back : ∀ value ∈ first :: others, ReadsBack item close text value)
    {fuel : Nat}
    (enough : others.length < fuel)
    (rest : List Char) :
    readItems item close fuel
        (joined ((first :: others).map text) ++ close :: rest) =
      some (first :: others, rest) := by
  have mark : isSpace close = false ∧ close ≠ ',' := by
    rcases closes with rfl | rfl <;> decide
  have ends : Ends (close :: rest) := .inr closes
  induction others generalizing first fuel with
  | nil =>
      obtain ⟨fuel, rfl⟩ := Nat.exists_eq_succ_of_ne_zero (by omega : fuel ≠ 0)
      have own := back first List.mem_cons_self
      simp only [List.map_cons, List.map_nil, joined, readItems,
        own.skipSpace, own.reads _ ends, skipSpace_cons_of_not mark.1, mark.2,
        Option.bind_eq_bind, Option.bind_some, if_false, if_true]
  | cons next others inductionHypothesis =>
      obtain ⟨fuel, rfl⟩ := Nat.exists_eq_succ_of_ne_zero (by omega : fuel ≠ 0)
      have own := back first List.mem_cons_self
      have later : readItems item close fuel
          (joined ((next :: others).map text) ++ close :: rest) =
            some (next :: others, rest) :=
        inductionHypothesis
          (fun value member => back value (List.mem_cons_of_mem _ member))
          (by simpa using enough)
      have split : joined ((first :: next :: others).map text) ++
          close :: rest =
            text first ++ ',' :: (joined ((next :: others).map text) ++
              close :: rest) := by
        simp only [List.map_cons, joined, List.append_assoc, List.cons_append]
      have comma : isSpace ',' = false := by decide
      have endsComma : ∀ tail, Ends (',' :: tail) := fun _ => .inl rfl
      rw [split]
      simp only [readItems, own.skipSpace, own.reads _ (endsComma _),
        skipSpace_cons_of_not comma, later, Option.bind_eq_bind,
        Option.bind_some, if_true]

/-- There are no more items than characters. -/
theorem length_le_joined
    {values : List α}
    (back : ∀ value ∈ values, ReadsBack item close text value) :
    values.length ≤ (joined (values.map text)).length := by
  induction values with
  | nil => exact Nat.le_refl 0
  | cons value values inductionHypothesis =>
      have others := inductionHypothesis fun other member =>
        back other (List.mem_cons_of_mem _ member)
      obtain ⟨char, tail, split, -⟩ := (back value List.mem_cons_self).begins
      cases values with
      | nil => simp [joined, split]
      | cons next values =>
          simp only [List.map_cons, joined, split, List.length_append,
            List.length_cons] at others ⊢
          omega

/-- What a container holds is read. -/
theorem readContents_joined
    (closes : close = ']' ∨ close = '}')
    {values : List α}
    (back : ∀ value ∈ values, ReadsBack item close text value)
    (rest : List Char) :
    readContents item close (joined (values.map text) ++ close :: rest) =
      some (values, rest) := by
  have mark : isSpace close = false := by
    rcases closes with rfl | rfl <;> decide
  cases values with
  | nil =>
      simp only [List.map_nil, joined, List.nil_append, readContents,
        skipSpace_cons_of_not mark, if_true]
  | cons first others =>
      have enough : others.length <
          (joined ((first :: others).map text) ++ close :: rest).length := by
        have bound := length_le_joined back
        simp only [List.length_cons, List.length_append] at bound ⊢
        omega
      have read := readItems_joined closes back enough rest
      obtain ⟨char, tail, split, noSpace, notClose⟩ :=
        (back first List.mem_cons_self).begins
      obtain ⟨later, front⟩ : ∃ later,
          joined ((first :: others).map text) ++ close :: rest =
            char :: later := by
        cases others <;> exact ⟨_, by simp [joined, split]; rfl⟩
      unfold readContents
      rw [front] at read ⊢
      rw [skipSpace_cons_of_not noSpace]
      dsimp only
      rw [if_neg notClose]
      exact read

end Containers

/-- Reading a string undoes writing it. -/
theorem readChars_writeString
    (text : String)
    (rest : List Char) :
    ∃ tail, writeString text ++ rest = '"' :: tail ∧
      readChars .plain tail = some (text.toList, rest) := by
  refine ⟨escape text.toList ++ '"' :: rest, ?_, readChars_escape _ rest⟩
  simp [writeString]

/-- A member is read when its value is. -/
theorem readsBack_member
    {value : Reader Value}
    {member : String × Value}
    (back : ReadsBack value ']' write member.2) :
    ReadsBack (readMember value) '}' writeMember member where
  begins := ⟨'"', _, rfl, by decide, by decide⟩
  reads rest ends := by
    obtain ⟨tail, split, read⟩ := readChars_writeString member.1
      (':' :: (write member.2 ++ rest))
    have colon : isSpace ':' = false := by decide
    have written : writeMember member ++ rest = '"' :: tail := by
      rw [← split]
      simp [writeMember]
    rw [written]
    simp only [readMember, if_true, read, skipSpace_cons_of_not colon,
      back.skipSpace, back.reads rest ends, Option.bind_eq_bind,
      Option.bind_some, String.ofList_toList]

theorem exists_readValue (round : String → Option String) (depth : Nat) :
    ∃ nested, readValue round depth = readWith round nested := by
  cases depth <;> exact ⟨_, rfl⟩

/-- A number is read at every depth. -/
theorem readWith_number
    {round : String → Option String}
    {number : Number}
    (readable : number.Readable round)
    (nested : Option (Reader Value))
    {rest : List Char}
    (ends : Ends rest) :
    readWith round nested (writeNumber number ++ rest) =
      some (.number number, rest) := by
  have read := readNumber_writeNumber readable ends
  obtain ⟨char, tail, split, begins⟩ := exists_of_readNumber read
  have areMarks : ∀ mark ∈ ['"', '[', '{', 'n', 't', 'f'],
      ¬ BeginsNumber mark := by
    simp [BeginsNumber]
  have noMark : ∀ mark ∈ ['"', '[', '{', 'n', 't', 'f'], char ≠ mark :=
    fun mark member => begins.ne mark (areMarks mark member)
  simp only [List.forall_mem_cons] at noMark
  rw [split] at read ⊢
  simp [readWith, noMark, read]

/-- Reading undoes writing, in front of anything that ends a value. -/
theorem readValue_write
    {round : String → Option String}
    {depth : Nat}
    {value : Value}
    (readable : value.Readable round depth)
    {rest : List Char}
    (ends : Ends rest) :
    readValue round depth (write value ++ rest) = some (value, rest) := by
  induction readable generalizing rest with
  | null depth => cases depth <;> rfl
  | bool depth value => cases depth <;> cases value <;> rfl
  | number depth number readable =>
      obtain ⟨nested, isReader⟩ := exists_readValue round depth
      rw [isReader]
      exact readWith_number readable nested ends
  | string depth text =>
      obtain ⟨tail, split, read⟩ := readChars_writeString text rest
      change readValue round depth (writeString text ++ rest) = _
      rw [split]
      cases depth <;>
        simp only [readValue, readWith, if_true, read, Option.map_some,
          String.ofList_toList]
  | array depth items readable inductionHypothesis =>
      have back : ∀ item ∈ items,
          ReadsBack (readValue round depth) ']' write item :=
        fun item member =>
          ⟨Value.Readable.begins (readable item member),
            fun rest ends => inductionHypothesis item member ends⟩
      have read := readContents_joined (.inl rfl) back rest
      have written : write (.array items) ++ rest =
          '[' :: (joined (items.map write) ++ ']' :: rest) := by
        simp [write, writeItems_eq_joined]
      rw [written, readValue, readWith, if_neg (by decide), if_pos rfl]
      simp only [read, Option.bind_eq_bind, Option.bind_some]
  | object depth members readable inductionHypothesis =>
      have back : ∀ member ∈ members,
          ReadsBack (readMember (readValue round depth)) '}' writeMember
            member :=
        fun member present => readsBack_member
          ⟨Value.Readable.begins (readable member present),
            fun rest ends => inductionHypothesis member present ends⟩
      have read := readContents_joined (.inr rfl) back rest
      have written : write (.object members) ++ rest =
          '{' :: (joined (members.map writeMember) ++ '}' :: rest) := by
        simp [write, writeMembers_eq_joined]
      rw [written, readValue, readWith, if_neg (by decide), if_neg (by decide),
        if_pos rfl]
      simp only [read, Option.bind_eq_bind, Option.bind_some]

/-- Reading a text undoes writing it. -/
theorem readJson_compact
    {round : String → Option String}
    {value : Value}
    (readable : value.Readable round 127) :
    readJson round value.compact = some value := by
  obtain ⟨char, tail, split, noSpace, -⟩ := readable.begins
  have front : skipSpace (write value) = write value := by
    rw [split]
    exact skipSpace_cons_of_not noSpace _
  have read : readValue round 127 (write value ++ []) = some (value, []) :=
    readValue_write readable trivial
  rw [List.append_nil] at read
  unfold readJson
  rw [Value.toList_compact, front, read]
  rfl

/-! ## What is read -/

/-- A number as reading gives it: a negative integer is below zero, and a double
is what some text is rounded to. -/
def Number.IsRead (round : String → Option String) : Number → Prop
  | .posInt _ => True
  | .negInt value => value.toInt < 0
  | .float text => ∃ source, round source = some text

theorem numberOf_isRead
    {round : String → Option String}
    {sign digits decimals : List Char}
    {number : Number}
    (read : numberOf round sign digits decimals = some number) :
    number.IsRead round := by
  unfold numberOf at read
  dsimp only at read
  split at read
  · cases read
    trivial
  · split at read
    · rename_i negative
      obtain ⟨-, -, positive, bound⟩ := negative
      cases read
      change (Int64.ofInt _).toInt < 0
      rw [Int64.toInt_ofInt_of_le (by omega) (by omega)]
      omega
    · obtain ⟨text, rounded, rfl⟩ := Option.map_eq_some_iff.mp read
      exact ⟨_, rounded⟩

theorem readNumber_isRead
    {round : String → Option String}
    {chars rest : List Char}
    {number : Number}
    (read : readNumber round chars = some (number, rest)) :
    number.IsRead round := by
  unfold readNumber at read
  dsimp only at read
  split at read
  · cases read
  · simp only [Option.bind_eq_bind, Option.bind_eq_some_iff, Prod.exists] at read
    obtain ⟨_, _, _, _, _, _, value, isNumber, same⟩ := read
    obtain ⟨rfl, -⟩ := Prod.mk.inj (Option.some.inj same)
    exact numberOf_isRead isNumber

section Content

variable
  {item : Reader α}
  {close : Char}
  {chars rest : List Char}
  {values : List α}
  {motive : α → Prop}

/-- What holds of every item that is read holds of all that are. -/
theorem readItems_forall
    (holds : ∀ chars value rest, item chars = some (value, rest) →
      motive value)
    {fuel : Nat}
    (read : readItems item close fuel chars = some (values, rest)) :
    ∀ value ∈ values, motive value := by
  induction fuel generalizing chars values with
  | zero => cases read
  | succ fuel inductionHypothesis =>
      rw [readItems, Option.bind_eq_bind, Option.bind_eq_some_iff] at read
      obtain ⟨⟨first, after⟩, readFirst, read⟩ := read
      have holdsFirst := holds _ _ _ readFirst
      dsimp only at read
      split at read
      · cases read
      · split at read
        · rw [Option.bind_eq_bind, Option.bind_eq_some_iff] at read
          obtain ⟨⟨others, left⟩, readOthers, same⟩ := read
          obtain ⟨rfl, rfl⟩ := Prod.mk.inj (Option.some.inj same)
          exact List.forall_mem_cons.mpr
            ⟨holdsFirst, inductionHypothesis readOthers⟩
        · split at read
          · obtain ⟨rfl, rfl⟩ := Prod.mk.inj (Option.some.inj read)
            exact List.forall_mem_singleton.mpr holdsFirst
          · cases read

theorem readContents_forall
    (holds : ∀ chars value rest, item chars = some (value, rest) →
      motive value)
    (read : readContents item close chars = some (values, rest)) :
    ∀ value ∈ values, motive value := by
  unfold readContents at read
  split at read
  · cases read
  · split at read
    · obtain ⟨rfl, rfl⟩ := Prod.mk.inj (Option.some.inj read)
      exact fun _ absent => absurd absent List.not_mem_nil
    · exact readItems_forall holds read

end Content

theorem readMember_forall
    {value : Reader Value}
    {motive : Value → Prop}
    (holds : ∀ chars held rest, value chars = some (held, rest) → motive held)
    (chars : List Char)
    (member : String × Value)
    (rest : List Char)
    (read : readMember value chars = some (member, rest)) :
    motive member.2 := by
  cases chars with
  | nil => cases read
  | cons quote chars =>
      rw [readMember] at read
      split at read
      · rw [Option.bind_eq_bind, Option.bind_eq_some_iff] at read
        obtain ⟨⟨key, after⟩, -, read⟩ := read
        dsimp only at read
        split at read
        · cases read
        · split at read
          · rw [Option.bind_eq_bind, Option.bind_eq_some_iff] at read
            obtain ⟨⟨held, left⟩, readHeld, same⟩ := read
            obtain ⟨rfl, rfl⟩ := Prod.mk.inj (Option.some.inj same)
            exact holds _ _ _ readHeld
          · cases read
      · cases read

theorem readWord_nested
    {fit : Number → Prop}
    {depth : Nat}
    {chars rest : List Char}
    {value : Value}
    (read : readWord chars = some (value, rest)) :
    value.Nested fit depth := by
  unfold readWord at read
  split at read
  · cases read
    exact .null depth
  · cases read
    exact .bool depth true
  · cases read
    exact .bool depth false
  · cases read

/-- A reader with none for what containers hold reads values without any. With
one it reads values of one level more. -/
theorem readWith_nested
    {round : String → Option String}
    {nested : Option (Reader Value)}
    {depth : Nat}
    (holds : ∀ reader ∈ nested, ∃ below, depth = below + 1 ∧
      ∀ chars value rest, reader chars = some (value, rest) →
        value.Nested (Number.IsRead round) below)
    (chars : List Char)
    (value : Value)
    (rest : List Char)
    (read : readWith round nested chars = some (value, rest)) :
    value.Nested (Number.IsRead round) depth := by
  cases chars with
  | nil => cases read
  | cons char chars =>
      rw [readWith] at read
      split at read
      · obtain ⟨_, _, same⟩ := Option.map_eq_some_iff.mp read
        cases same
        exact .string depth _
      · split at read
        · rw [Option.bind_eq_bind, Option.bind_eq_some_iff] at read
          obtain ⟨reader, isReader, read⟩ := read
          obtain ⟨below, rfl, held⟩ := holds reader isReader
          rw [Option.bind_eq_bind, Option.bind_eq_some_iff] at read
          obtain ⟨⟨items, after⟩, readAll, same⟩ := read
          cases same
          exact .array below items (readContents_forall held readAll)
        · split at read
          · rw [Option.bind_eq_bind, Option.bind_eq_some_iff] at read
            obtain ⟨reader, isReader, read⟩ := read
            obtain ⟨below, rfl, held⟩ := holds reader isReader
            rw [Option.bind_eq_bind, Option.bind_eq_some_iff] at read
            obtain ⟨⟨members, after⟩, readAll, same⟩ := read
            cases same
            have all : ∀ member ∈ members,
                member.2.Nested (Number.IsRead round) below :=
              readContents_forall (motive := fun member =>
                member.2.Nested (Number.IsRead round) below)
                (readMember_forall held) readAll
            exact .object below members all
          · split at read
            · exact readWord_nested read
            · obtain ⟨⟨number, after⟩, isNumber, same⟩ :=
                Option.map_eq_some_iff.mp read
              cases same
              exact .number depth number (readNumber_isRead isNumber)

/-- What is read is nested no deeper than the reader goes. -/
theorem readValue_nested
    (round : String → Option String)
    (depth : Nat)
    (chars : List Char)
    (value : Value)
    (rest : List Char)
    (read : readValue round depth chars = some (value, rest)) :
    value.Nested (Number.IsRead round) depth := by
  induction depth generalizing chars value rest with
  | zero =>
      exact readWith_nested (fun _ absent => absurd absent (by simp)) chars value
        rest read
  | succ depth inductionHypothesis =>
      refine readWith_nested (fun reader isReader => ?_) chars value rest read
      obtain rfl := Option.mem_some_iff.mp isReader
      exact ⟨depth, rfl, inductionHypothesis⟩

theorem readJson_nested
    {round : String → Option String}
    {text : String}
    {value : Value}
    (read : readJson round text = some value) :
    value.Nested (Number.IsRead round) 127 := by
  rw [readJson, Option.bind_eq_bind, Option.bind_eq_some_iff] at read
  obtain ⟨⟨value, rest⟩, readFront, read⟩ := read
  dsimp only at read
  split at read
  · cases read
    exact readValue_nested round 127 _ _ _ readFront
  · cases read

namespace Value

variable
  {fit other : Number → Prop}
  {depth deeper : Nat}
  {value : Value}

theorem Nested.of_le
    (nested : value.Nested fit depth)
    (atMost : depth ≤ deeper) :
    value.Nested fit deeper := by
  induction nested generalizing deeper with
  | null => exact .null deeper
  | bool _ value => exact .bool deeper value
  | number _ value isFit => exact .number deeper value isFit
  | string _ text => exact .string deeper text
  | array depth items _ inductionHypothesis =>
      obtain ⟨below, rfl⟩ := Nat.exists_eq_add_of_lt atMost
      exact .array (depth + below) items fun item present =>
        inductionHypothesis item present (Nat.le_add_right depth below)
  | object depth members _ inductionHypothesis =>
      obtain ⟨below, rfl⟩ := Nat.exists_eq_add_of_lt atMost
      exact .object (depth + below) members fun member present =>
        inductionHypothesis member present (Nat.le_add_right depth below)

/-- How deep a value is nested is one thing, what its numbers are another. -/
theorem Nested.refit
    (nested : value.Nested fit depth)
    (numbers : value.Nested other deeper) :
    value.Nested other depth := by
  induction nested generalizing deeper with
  | null depth => exact .null depth
  | bool depth value => exact .bool depth value
  | number depth value _ =>
      cases numbers with
      | number _ _ isFit => exact .number depth value isFit
  | string depth text => exact .string depth text
  | array depth items _ inductionHypothesis =>
      cases numbers with
      | array below _ others =>
          exact .array depth items fun item present =>
            inductionHypothesis item present (others item present)
  | object depth members _ inductionHypothesis =>
      cases numbers with
      | object below _ others =>
          exact .object depth members fun member present =>
            inductionHypothesis member present (others member present)

end Value

end Json
end AsystantGateway
