import AsystantGateway.Library.Json.Edit
import Mathlib.Algebra.BigOperators.Group.List.Basic
import Mathlib.Algebra.Order.Ring.Int

/-!
# How long a compact text is

The bytes of a compact text are counted character by character. Escaping makes
of every byte at most six, so a text between its quotes is bounded by its own
bytes.
-/

namespace AsystantGateway
namespace Json

/-- The bytes of some characters in UTF-8. -/
def byteSize (chars : List Char) : Nat :=
  (chars.map Char.utf8Size).sum

@[simp] theorem byteSize_nil : byteSize [] = 0 := rfl

@[simp] theorem byteSize_cons (char : Char) (rest : List Char) :
    byteSize (char :: rest) = char.utf8Size + byteSize rest := by
  simp [byteSize]

@[simp] theorem byteSize_append (first second : List Char) :
    byteSize (first ++ second) = byteSize first + byteSize second := by
  simp [byteSize]

theorem utf8ByteSize_ofList (chars : List Char) :
    (String.ofList chars).utf8ByteSize = byteSize chars := by
  induction chars with
  | nil => rfl
  | cons char rest inductionHypothesis =>
      rw [String.ofList_cons, String.utf8ByteSize_append,
        String.utf8ByteSize_singleton, inductionHypothesis, byteSize_cons]

/-- A compact text has the bytes of its characters. -/
@[simp] theorem Value.utf8ByteSize_compact (value : Value) :
    value.compact.utf8ByteSize = byteSize (write value) :=
  utf8ByteSize_ofList (write value)

private theorem utf8Size_hexDigit :
    ∀ digit < 16, (hexDigit digit).utf8Size = 1 := by
  decide

/-- Escaping makes at most six bytes of one character. -/
theorem byteSize_escapeChar_le (char : Char) :
    byteSize (escapeChar char) ≤ 6 := by
  unfold escapeChar
  split_ifs with quote backslash backspace tab newline formFeed carriage control
  iterate 7 decide
  · have high := utf8Size_hexDigit (char.toNat / 16) (by omega)
    have low := utf8Size_hexDigit (char.toNat % 16) (by omega)
    have plain : byteSize ['\\', 'u', '0', '0'] = 4 := by decide
    simp only [byteSize_cons, byteSize_nil] at plain ⊢
    omega
  · have size := char.utf8Size_le_four
    simp only [byteSize_cons, byteSize_nil]
    omega

theorem byteSize_escape_le (text : List Char) :
    byteSize (escape text) ≤ 6 * byteSize text := by
  induction text with
  | nil => exact Nat.le_refl 0
  | cons char rest inductionHypothesis =>
      have escaped := byteSize_escapeChar_le char
      have positive := char.utf8Size_pos
      simp only [escape, List.flatMap_cons, byteSize_append,
        byteSize_cons] at inductionHypothesis ⊢
      omega

/-- A text between its quotes is bounded by its bytes. -/
theorem byteSize_writeString_le (text : String) :
    byteSize (writeString text) ≤ 6 * text.utf8ByteSize + 2 := by
  have escaped := byteSize_escape_le text.toList
  have quote : Char.utf8Size '"' = 1 := by decide
  rw [← utf8ByteSize_ofList text.toList, String.ofList_toList] at escaped
  simp only [writeString, byteSize_cons, byteSize_append, byteSize_nil, quote]
  omega

/-- Escaping makes a character no shorter. -/
theorem utf8Size_le_byteSize_escapeChar (char : Char) :
    char.utf8Size ≤ byteSize (escapeChar char) := by
  unfold escapeChar
  split_ifs with quote backslash backspace tab newline formFeed carriage control
  iterate 7 subst char; decide
  · have plain : byteSize ['\\', 'u', '0', '0'] = 4 := by decide
    have size := char.utf8Size_le_four
    simp only [byteSize_cons, byteSize_nil] at plain ⊢
    omega
  · simp

theorem byteSize_le_escape (text : List Char) :
    byteSize text ≤ byteSize (escape text) := by
  induction text with
  | nil => exact Nat.le_refl 0
  | cons char rest inductionHypothesis =>
      have escaped := utf8Size_le_byteSize_escapeChar char
      simp only [escape, List.flatMap_cons, byteSize_append,
        byteSize_cons] at inductionHypothesis ⊢
      omega

/-- The bytes of a text between its quotes. -/
def textSize (text : String) : Nat :=
  byteSize (writeString text)

/-- A text is at least as long as it is outside of its quotes. -/
theorem utf8ByteSize_le_textSize (text : String) :
    text.utf8ByteSize + 2 ≤ textSize text := by
  have escaped := byteSize_le_escape text.toList
  have quote : Char.utf8Size '"' = 1 := by decide
  rw [← utf8ByteSize_ofList text.toList, String.ofList_toList] at escaped
  simp only [textSize, writeString, byteSize_cons, byteSize_append,
    byteSize_nil, quote]
  omega

/-- The bytes of a compact text. -/
def Value.size (value : Value) : Nat :=
  byteSize (write value)

/-- The bytes of some items, each with one separator. -/
def itemsSize (items : List Value) : Nat :=
  (items.map fun item => item.size + 1).sum

/-- The bytes of some members, each with its colon and one separator. -/
def membersSize (members : List (String × Value)) : Nat :=
  (members.map fun member => textSize member.1 + member.2.size + 2).sum

@[simp] theorem itemsSize_nil : itemsSize [] = 0 := rfl

@[simp] theorem itemsSize_cons (item : Value) (rest : List Value) :
    itemsSize (item :: rest) = item.size + 1 + itemsSize rest := by
  simp [itemsSize]

@[simp] theorem itemsSize_append (first second : List Value) :
    itemsSize (first ++ second) = itemsSize first + itemsSize second := by
  simp [itemsSize]

@[simp] theorem membersSize_nil : membersSize [] = 0 := rfl

@[simp] theorem membersSize_cons
    (member : String × Value)
    (rest : List (String × Value)) :
    membersSize (member :: rest) =
      textSize member.1 + member.2.size + 2 + membersSize rest := by
  simp [membersSize]

@[simp] theorem membersSize_append (first second : List (String × Value)) :
    membersSize (first ++ second) =
      membersSize first + membersSize second := by
  simp [membersSize]

theorem byteSize_writeItems (items : List Value) :
    byteSize (writeItems items) = itemsSize items - 1 := by
  induction items with
  | nil => rfl
  | cons item rest inductionHypothesis =>
      cases rest with
      | nil => simp [writeItems, Value.size]
      | cons next rest =>
          have comma : Char.utf8Size ',' = 1 := by decide
          rw [itemsSize_cons] at inductionHypothesis
          simp only [writeItems, byteSize_append, byteSize_cons, comma,
            inductionHypothesis, itemsSize_cons, Value.size]
          omega

theorem byteSize_writeMembers (members : List (String × Value)) :
    byteSize (writeMembers members) = membersSize members - 1 := by
  induction members with
  | nil => rfl
  | cons member rest inductionHypothesis =>
      have colon : Char.utf8Size ':' = 1 := by decide
      cases rest with
      | nil =>
          simp only [writeMembers, byteSize_append, byteSize_cons, colon,
            membersSize_cons, membersSize_nil, textSize, Value.size]
          omega
      | cons next rest =>
          have comma : Char.utf8Size ',' = 1 := by decide
          rw [membersSize_cons] at inductionHypothesis
          simp only [writeMembers, byteSize_append, byteSize_cons, colon,
            comma, inductionHypothesis, membersSize_cons, textSize,
            Value.size]
          omega

namespace Value

@[simp] theorem size_string (text : String) :
    (string text).size = textSize text := rfl

@[simp] theorem size_null : null.size = 4 := by decide

/-- An array has one separator less than it has items, and its brackets. -/
@[simp] theorem size_array (items : List Value) :
    (array items).size = itemsSize items - 1 + 2 := by
  have opening : Char.utf8Size '[' = 1 := by decide
  have closing : Char.utf8Size ']' = 1 := by decide
  simp only [size, write, byteSize_cons, byteSize_append, byteSize_nil,
    byteSize_writeItems, opening, closing]
  omega

/-- An object has one separator less than it has members, and its braces. -/
@[simp] theorem size_object (members : List (String × Value)) :
    (object members).size = membersSize members - 1 + 2 := by
  have opening : Char.utf8Size '{' = 1 := by decide
  have closing : Char.utf8Size '}' = 1 := by decide
  simp only [size, write, byteSize_cons, byteSize_append, byteSize_nil,
    byteSize_writeMembers, opening, closing]
  omega

end Value

/-- Items that are each larger than another by a constant at most. -/
theorem itemsSize_map_le_add
    {first second : α → Value}
    {slack : Nat}
    {items : List α}
    (bounded : ∀ item ∈ items,
      (first item).size ≤ (second item).size + slack) :
    itemsSize (items.map first) ≤
      itemsSize (items.map second) + items.length * slack := by
  induction items with
  | nil => simp
  | cons item rest inductionHypothesis =>
      rw [List.forall_mem_cons] at bounded
      have rests := inductionHypothesis bounded.2
      simp only [List.map_cons, itemsSize_cons, List.length_cons,
        Nat.succ_mul]
      omega

/-- Items that are each bounded by another item. -/
theorem itemsSize_map_le
    {first second : α → Value}
    {items : List α}
    (bounded : ∀ item ∈ items, (first item).size ≤ (second item).size) :
    itemsSize (items.map first) ≤ itemsSize (items.map second) := by
  have withoutSlack := @itemsSize_map_le_add α first second 0 items bounded
  simpa using withoutSlack

/-- An object without its members but those with certain keys. -/
def Value.only (keys : List String) : Value → Value
  | .object members =>
      .object (members.filter fun member => keys.contains member.1)
  | value => value

/-- An assignment adds at most the assigned member to those that are looked
at. -/
theorem membersSize_filter_assignMember_le
    (looked : String × Value → Bool)
    (key : String)
    (value : Value)
    (members : List (String × Value)) :
    membersSize ((assignMember key value members).filter looked) ≤
      membersSize (members.filter looked) +
        membersSize ([(key, value)].filter looked) := by
  have head : ∀ (member : String × Value) (rest : List (String × Value)),
      membersSize ((member :: rest).filter looked) =
        membersSize ([member].filter looked) +
          membersSize (rest.filter looked) := by
    intro member rest
    rw [← membersSize_append, ← List.filter_append, List.singleton_append]
  induction members with
  | nil => exact Nat.le_add_left _ _
  | cons member rest inductionHypothesis =>
      obtain ⟨other, held⟩ := member
      unfold assignMember
      rw [head (other, held) rest]
      split
      · rw [head (key, value)]
        omega
      · split
        · rw [head (key, value), head (other, held)]
          omega
        · rw [head (other, held)]
          omega

/-- An assignment to an object, seen through some of its members. -/
theorem size_only_assign_le
    (keys : List String)
    {target assigned : Value}
    {key : String}
    {value : Value}
    (isObject : target.isObject = true)
    (isAssigned : target.assign key value = some assigned) :
    assigned.isObject = true ∧
      (assigned.only keys).size ≤ (target.only keys).size +
        membersSize ([(key, value)].filter fun member =>
          keys.contains member.1) := by
  cases target with
  | object members =>
      rw [Value.assign_object, Option.some.injEq] at isAssigned
      subst isAssigned
      have bounded := membersSize_filter_assignMember_le
        (fun member => keys.contains member.1) key value members
      refine ⟨rfl, ?_⟩
      simp only [Value.only, Value.size_object]
      omega
  | _ => cases isObject

/-- What an assignment makes of a whole object. -/
theorem size_assign_object_le
    (key : String)
    (value : Value)
    (members : List (String × Value)) :
    (Value.object (assignMember key value members)).size ≤
      (Value.object members).size + textSize key + value.size + 2 := by
  have bounded := membersSize_filter_assignMember_le (fun _ => true) key value
    members
  simp only [List.filter_true, membersSize_cons, membersSize_nil] at bounded
  simp only [Value.size_object]
  omega

/-- One key at most is the key of the first member. -/
theorem sum_size_index_cons_le
    {keys : List String}
    (distinct : keys.Nodup)
    (member : String × Value)
    (rest : List (String × Value)) :
    (keys.map fun key =>
        ((Value.object (member :: rest)).index key).size).sum ≤
      member.2.size +
        (keys.map fun key => ((Value.object rest).index key).size).sum := by
  have skip : ∀ key, key ≠ member.1 →
      (Value.object (member :: rest)).index key =
        (Value.object rest).index key := by
    intro key different
    rw [Value.index_object, Value.index_object, List.lookup_cons,
      beq_false_of_ne different]
  induction keys with
  | nil => exact Nat.zero_le _
  | cons key keys inductionHypothesis =>
      obtain ⟨notLater, laterDistinct⟩ := List.nodup_cons.mp distinct
      simp only [List.map_cons, List.sum_cons]
      by_cases isKey : key = member.1
      · have later : (keys.map fun key =>
            ((Value.object (member :: rest)).index key).size) =
              keys.map fun key => ((Value.object rest).index key).size := by
          apply List.map_congr_left
          intro other isLater
          rw [skip other]
          rintro rfl
          exact notLater (isKey ▸ isLater)
        have found : (Value.object (member :: rest)).index key =
            member.2 := by
          rw [Value.index_object, isKey, List.lookup_cons_self,
            Option.getD_some]
        rw [later, found]
        omega
      · rw [skip key isKey]
        have rests := inductionHypothesis laterDistinct
        omega

/-- Members read by distinct keys are no larger than the object, but for a
`null` for each that is not there. -/
theorem sum_size_index_le
    {keys : List String}
    (distinct : keys.Nodup)
    (value : Value) :
    (keys.map fun key => (value.index key).size).sum ≤
      value.size + 4 * keys.length := by
  have absent : ∀ keys : List String,
      (keys.map fun _ => Value.null.size).sum = 4 * keys.length := by
    intro keys
    simp [Nat.mul_comm]
  have nulls := absent keys
  cases value with
  | object members =>
      have bounded : (keys.map fun key =>
          ((Value.object members).index key).size).sum ≤
            membersSize members - 1 + 4 * keys.length := by
        induction members with
        | nil => exact Nat.le_of_eq nulls |>.trans (Nat.le_add_left _ _)
        | cons member rest inductionHypothesis =>
            have first := sum_size_index_cons_le distinct member rest
            rw [membersSize_cons]
            omega
      rw [Value.size_object]
      omega
  | _ => exact Nat.le_of_eq nulls |>.trans (Nat.le_add_left _ _)

end Json
end AsystantGateway
