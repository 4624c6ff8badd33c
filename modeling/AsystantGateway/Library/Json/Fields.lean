import AsystantGateway.Library.Json.Read
import AsystantGateway.Library.Lookup

/-!
# Records in JSON

A record is read from an object by the names of its fields, in any order, or
from an array by their places. No name may be repeated. Other names are passed
over, unless the record is closed: then they are refused. What stands under a
name that is passed over is read as any other value.
-/

namespace AsystantGateway
namespace Json

open KeyedList

/-- What the fields of a record are read from. -/
structure Fields where
  find : String → Option Value
  byName : Bool

/-- The fields with some names in a value. -/
def Value.fields
    (names : List String)
    (closed : Bool) : Value → Option Fields
  | .object members =>
      let known := members.filter fun member => member.1 ∈ names
      if (known.map Prod.fst).Nodup ∧
          (closed = true → ∀ member ∈ members, member.1 ∈ names) then
        some {
          find := fun name => (lookup Prod.fst known name).map Prod.snd
          byName := true }
      else none
  | .array items =>
      if items.length ≤ names.length then
        some {
          find := fun name =>
            (lookup Prod.fst (names.zip items) name).map Prod.snd
          byName := false }
      else none
  | _ => none

/-- Read `null` as nothing. -/
def readOption (read : Value → Option α) : Value → Option (Option α)
  | .null => some none
  | value => (read value).map some

/-- Read an array item by item. -/
def readList (read : Value → Option α) : Value → Option (List α)
  | .array items => items.mapM read
  | _ => none

namespace Fields

variable
  (fields : Fields)
  (name : String)
  (read : Value → Option α)

/-- A field that must be there. -/
def required : Option α :=
  (fields.find name).bind read

/-- A field that has a default. -/
def withDefault (fallback : α) : Option α :=
  match fields.find name with
  | none => some fallback
  | some value => read value

/-- A field that may be `null`, or missing where fields are given by name. -/
def optional : Option (Option α) :=
  match fields.find name with
  | none => if fields.byName then some none else none
  | some value => readOption read value

end Fields

namespace Value

/-- The truth value of a boolean. -/
def asBool : Value → Option Bool
  | bool value => some value
  | _ => none

/-- The value of an integer that fits an unsigned 32-bit word. -/
def asU32 : Value → Option UInt32
  | number (.posInt value) =>
      if value.toNat < 2 ^ 32 then some (UInt32.ofNat value.toNat) else none
  | _ => none

/-- A signed 64-bit integer. -/
def ofI64 (value : Int64) : Value :=
  if 0 ≤ value.toInt then
    number (.posInt (UInt64.ofNat value.toInt.toNat))
  else
    number (.negInt value)

/-- An unsigned 32-bit integer. -/
def ofU32 (value : UInt32) : Value :=
  number (.posInt (UInt64.ofNat value.toNat))

/-- Nothing as `null`. -/
def ofOption (write : α → Value) : Option α → Value
  | none => null
  | some value => write value

/-- The items of a list. -/
def ofList (write : α → Value) (list : List α) : Value :=
  array (list.map write)

end Value

section Written

variable
  {write : α → Value}
  {read : Value → Option α}

/-- The fields of an object whose known members are as expected, in any
order. -/
theorem Value.fields_of_perm
    {names : List String}
    {closed : Bool}
    {members expected : List (String × Value)}
    (nodup : (expected.map Prod.fst).Nodup)
    (known : (members.filter fun member => member.1 ∈ names).Perm expected)
    (closes : closed = true → ∀ member ∈ members, member.1 ∈ names) :
    (Value.object members).fields names closed = some {
      find := fun name => (lookup Prod.fst expected name).map Prod.snd
      byName := true } := by
  have knownNodup := (known.map Prod.fst).nodup_iff.mpr nodup
  rw [fields, if_pos ⟨knownNodup, closes⟩, lookup_perm nodup known]

/-- The fields of an object that has no others, in any order. -/
theorem Value.fields_of_perm_known
    {names : List String}
    {members expected : List (String × Value)}
    (nodup : (expected.map Prod.fst).Nodup)
    (areNames : ∀ member ∈ expected, member.1 ∈ names)
    (order : members.Perm expected)
    (closed : Bool) :
    (Value.object members).fields names closed = some {
      find := fun name => (lookup Prod.fst expected name).map Prod.snd
      byName := true } := by
  have known : ∀ member ∈ members, member.1 ∈ names :=
    fun member present => areNames member (order.subset present)
  refine fields_of_perm nodup ?_ fun _ => known
  rwa [List.filter_eq_self.mpr fun member present =>
    decide_eq_true (known member present)]

theorem Value.fields_object
    {names : List String}
    {members : List (String × Value)}
    (nodup : (members.map Prod.fst).Nodup)
    (areNames : ∀ member ∈ members, member.1 ∈ names)
    (closed : Bool) :
    (Value.object members).fields names closed = some {
      find := fun name => (lookup Prod.fst members name).map Prod.snd
      byName := true } :=
  fields_of_perm_known nodup areNames (.refl members) closed

/-- An object whose members under some names are as expected, in any order,
whatever stands under others. -/
inductive Value.Holds
    (names : List String)
    (expected : List (String × Value)) : Value → Prop
  | object (members : List (String × Value))
      (known : (members.filter fun member => member.1 ∈ names).Perm
        expected) :
      Value.Holds names expected (.object members)

theorem Value.holds_object
    {names : List String}
    {members : List (String × Value)}
    (areNames : ∀ member ∈ members, member.1 ∈ names) :
    (Value.object members).Holds names members := by
  refine .object members ?_
  rw [List.filter_eq_self.mpr fun member present =>
    decide_eq_true (areNames member present)]

theorem Value.fields_of_holds
    {names : List String}
    {expected : List (String × Value)}
    {value : Value}
    (nodup : (expected.map Prod.fst).Nodup)
    (holds : value.Holds names expected) :
    value.fields names false = some {
      find := fun name => (lookup Prod.fst expected name).map Prod.snd
      byName := true } := by
  cases holds with
  | object members known => exact fields_of_perm nodup known (by simp)

/-- An array is read item by item. -/
theorem readList_of_forall₂
    {list : List α}
    {items : List Value}
    (each : List.Forall₂ (fun value item => read item = some value) list
      items) :
    readList read (.array items) = some list := by
  unfold readList
  dsimp only
  induction each with
  | nil => rfl
  | cons isFirst _ inductionHypothesis =>
      simp [List.mapM_cons, isFirst, inductionHypothesis]

theorem readList_ofList
    {list : List α}
    (back : ∀ value ∈ list, read (write value) = some value) :
    readList read (Value.ofList write list) = some list :=
  readList_of_forall₂ (List.forall₂_map_right_iff.mpr
    (List.forall₂_same.mpr back))

theorem readList_strings (texts : List String) :
    readList Value.asStr (strings texts) = some texts :=
  readList_ofList fun _ _ => rfl

theorem readOption_ofOption
    (notNull : ∀ value, write value ≠ .null)
    (back : ∀ value, read (write value) = some value)
    (option : Option α) :
    readOption read (Value.ofOption write option) = some option := by
  cases option with
  | none => rfl
  | some value =>
      change readOption read (write value) = some (some value)
      have present := notNull value
      have readBack := back value
      generalize write value = written at present readBack
      cases written with
      | null => exact absurd rfl present
      | _ => exact congrArg (Option.map some) readBack

theorem readOption_string (text : Option String) :
    readOption Value.asStr (Value.ofOption .string text) = some text := by
  have notNull : ∀ text, Value.string text ≠ .null := by simp
  exact readOption_ofOption notNull (fun _ => rfl) text

theorem Value.asI64_ofI64 (value : Int64) :
    (Value.ofI64 value).asI64 = some value := by
  unfold ofI64
  split
  · rename_i nonnegative
    have bound := value.toInt_lt
    have small : value.toInt.toNat < 2 ^ 63 := by omega
    have kept : (UInt64.ofNat value.toInt.toNat).toNat =
        value.toInt.toNat :=
      UInt64.toNat_ofNat_of_lt' (Nat.lt_trans small (by decide))
    have same : Int64.ofNat value.toInt.toNat = value := by
      apply Int64.toInt_inj.mp
      rw [Int64.toInt_ofNat_of_lt small, Int.toNat_of_nonneg nonnegative]
    simp only [asI64, kept, if_pos small, same]
  · rfl

theorem Value.asU32_ofU32 (value : UInt32) :
    (Value.ofU32 value).asU32 = some value := by
  have bound := value.toNat_lt
  have kept : (UInt64.ofNat value.toNat).toNat = value.toNat :=
    UInt64.toNat_ofNat_of_lt' (Nat.lt_trans bound (by decide))
  simp only [ofU32, asU32, kept, if_pos bound, UInt32.ofNat_toNat]

end Written

section Readable

variable
  {fit : Number → Prop}
  {round : String → Option String}
  {write : α → Value}
  {depth : Nat}

@[simp] theorem nested_null : Value.null.Nested fit depth :=
  .null depth

@[simp] theorem nested_string (text : String) :
    (Value.string text).Nested fit depth :=
  .string depth text

@[simp] theorem nested_bool (value : Bool) :
    (Value.bool value).Nested fit depth :=
  .bool depth value

@[simp] theorem nested_object_iff {members : List (String × Value)} :
    (Value.object members).Nested fit (depth + 1) ↔
      ∀ member ∈ members, member.2.Nested fit depth := by
  refine ⟨fun nested => ?_, .object depth members⟩
  cases nested with
  | object _ _ nested => exact nested

@[simp] theorem nested_array_iff {items : List Value} :
    (Value.array items).Nested fit (depth + 1) ↔
      ∀ item ∈ items, item.Nested fit depth := by
  refine ⟨fun nested => ?_, .array depth items⟩
  cases nested with
  | array _ _ nested => exact nested

@[simp] theorem nested_ofList_iff {list : List α} :
    (Value.ofList write list).Nested fit (depth + 1) ↔
      ∀ value ∈ list, (write value).Nested fit depth :=
  nested_array_iff.trans List.forall_mem_map

@[simp] theorem nested_strings (texts : List String) :
    (strings texts).Nested fit (depth + 1) :=
  nested_ofList_iff.mpr fun text _ => nested_string text

@[simp] theorem nested_ofOption_string (option : Option String) :
    (Value.ofOption .string option).Nested fit depth := by
  cases option with
  | none => exact .null depth
  | some text => exact .string depth text

@[simp] theorem readable_ofI64 (value : Int64) :
    (Value.ofI64 value).Nested (Number.Readable round) depth := by
  unfold Value.ofI64
  split
  · exact .number depth _ trivial
  · rename_i negative
    exact .number depth _ (not_le.mp negative)

@[simp] theorem readable_ofU32 (value : UInt32) :
    (Value.ofU32 value).Nested (Number.Readable round) depth :=
  .number depth _ trivial

end Readable

section There

variable
  {fit : Number → Prop}
  {depth : Nat}
  {value : Value}

/-- A field lies one level below its record. -/
theorem nested_of_find
    {names : List String}
    {closed : Bool}
    {fields : Fields}
    {name : String}
    {held : Value}
    (nested : value.Nested fit (depth + 1))
    (hasFields : value.fields names closed = some fields)
    (found : fields.find name = some held) :
    held.Nested fit depth := by
  cases nested with
  | object _ members nested =>
      rw [Value.fields] at hasFields
      split at hasFields
      · cases hasFields
        obtain ⟨member, isMember, rfl⟩ := Option.map_eq_some_iff.mp found
        exact nested member
          (List.mem_of_mem_filter (mem_of_lookup_eq_some isMember).1)
      · cases hasFields
  | array _ items nested =>
      rw [Value.fields] at hasFields
      split at hasFields
      · cases hasFields
        obtain ⟨member, isMember, rfl⟩ := Option.map_eq_some_iff.mp found
        exact nested member.2
          (List.of_mem_zip (mem_of_lookup_eq_some isMember).1).2
      · cases hasFields
  | _ => cases hasFields

theorem exists_of_mem_forall₂
    {related : α → β → Prop}
    {items : List α}
    {list : List β}
    (pairs : List.Forall₂ related items list) :
    ∀ result ∈ list, ∃ item ∈ items, related item result := by
  induction pairs with
  | nil => exact fun _ absent => absurd absent List.not_mem_nil
  | cons holds _ inductionHypothesis =>
      refine List.forall_mem_cons.mpr
        ⟨⟨_, List.mem_cons_self, holds⟩, fun result present => ?_⟩
      obtain ⟨item, isItem, holds⟩ := inductionHypothesis result present
      exact ⟨item, List.mem_cons_of_mem _ isItem, holds⟩

theorem forall₂_of_mapM_eq_some
    {read : α → Option β}
    {items : List α}
    {list : List β}
    (all : items.mapM read = some list) :
    List.Forall₂ (fun item result => read item = some result) items list := by
  induction items generalizing list with
  | nil =>
      cases all
      exact .nil
  | cons first rest inductionHypothesis =>
      rw [List.mapM_cons, Option.bind_eq_bind, Option.bind_eq_some_iff] at all
      obtain ⟨head, isHead, all⟩ := all
      rw [Option.bind_eq_bind, Option.bind_eq_some_iff] at all
      obtain ⟨tail, isTail, same⟩ := all
      cases same
      exact .cons isHead (inductionHypothesis isTail)

/-- An array that is read is read item by item. -/
theorem forall₂_of_readList
    {read : Value → Option α}
    {list : List α}
    (all : readList read value = some list) :
    ∃ items, value = .array items ∧
      List.Forall₂ (fun item result => read item = some result) items list := by
  cases value with
  | array items => exact ⟨items, rfl, forall₂_of_mapM_eq_some all⟩
  | _ => cases all

/-- What is read item by item lies one level below the array. -/
theorem nested_of_readList
    {read : Value → Option α}
    {list : List α}
    (nested : value.Nested fit (depth + 1))
    (all : readList read value = some list) :
    ∀ result ∈ list, ∃ item, item.Nested fit depth ∧
      read item = some result := by
  obtain ⟨items, rfl, pairs⟩ := forall₂_of_readList all
  cases nested with
  | array _ _ nested =>
      intro result present
      obtain ⟨item, isItem, isResult⟩ :=
        exists_of_mem_forall₂ pairs result present
      exact ⟨item, nested item isItem, isResult⟩

/-- A field that is required was found. -/
theorem Fields.find_of_required
    {fields : Fields}
    {name : String}
    {read : Value → Option α}
    {result : α}
    (given : fields.required name read = some result) :
    ∃ held, fields.find name = some held ∧ read held = some result :=
  Option.bind_eq_some_iff.mp given

end There

end Json
end AsystantGateway
