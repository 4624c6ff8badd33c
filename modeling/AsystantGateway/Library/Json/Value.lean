import Mathlib.Algebra.Order.Ring.Int

/-!
# JSON values and their compact text

Values as a JSON library holds them: integers are kept apart from doubles, and
an object is the list of its members in key order. A double is represented by
the shortest decimal text that reads back as it, which is also the text a
writer prints. The accessors answer nothing on a value of another kind, and
`index` answers `null` for a member that is not there.
-/

namespace AsystantGateway
namespace Json

/-- A JSON number. -/
inductive Number
  /-- A nonnegative integer. -/
  | posInt (value : UInt64)
  /-- A negative integer. -/
  | negInt (value : Int64)
  /-- A double, by its shortest decimal text. -/
  | float (text : String)
  deriving DecidableEq, Repr

/-- A JSON value. -/
inductive Value
  | null
  | bool (value : Bool)
  | number (value : Number)
  | string (value : String)
  | array (items : List Value)
  | object (members : List (String × Value))
  deriving Repr, Inhabited

namespace Value

/-- The member of an object with a given key. -/
def get : Value → String → Option Value
  | object members, key => members.lookup key
  | _, _ => none

/-- The member of an object with a given key, `null` when there is none. -/
def index (value : Value) (key : String) : Value :=
  (value.get key).getD null

/-- The text of a string. -/
def asStr : Value → Option String
  | string text => some text
  | _ => none

/-- The items of an array. -/
def asArray : Value → Option (List Value)
  | array items => some items
  | _ => none

/-- The value of an integer that fits an unsigned 64-bit word. -/
def asU64 : Value → Option UInt64
  | number (.posInt value) => some value
  | _ => none

/-- The value of an integer that fits a signed 64-bit word. -/
def asI64 : Value → Option Int64
  | number (.posInt value) =>
      if value.toNat < 2 ^ 63 then some (Int64.ofNat value.toNat) else none
  | number (.negInt value) => some value
  | _ => none

/-- Whether a value is an object. -/
def isObject : Value → Bool
  | object _ => true
  | _ => false

theorem isObject_iff {value : Value} :
    value.isObject = true ↔ ∃ members, value = object members := by
  cases value with
  | object members => exact iff_of_true rfl ⟨members, rfl⟩
  | _ => exact iff_of_false (nomatch ·) fun ⟨_, same⟩ => nomatch same

end Value

/-- One hexadecimal digit, in lower case. -/
def hexDigit (digit : Nat) : Char :=
  if digit < 10 then Char.ofNat (48 + digit) else Char.ofNat (87 + digit)

/-- A character as it stands inside a JSON string. Only the quote, the
backslash and the control characters below U+0020 are escaped. -/
def escapeChar (char : Char) : List Char :=
  if char = '"' then ['\\', '"']
  else if char = '\\' then ['\\', '\\']
  else if char = '\x08' then ['\\', 'b']
  else if char = '\t' then ['\\', 't']
  else if char = '\n' then ['\\', 'n']
  else if char = '\x0c' then ['\\', 'f']
  else if char = '\r' then ['\\', 'r']
  else if char.toNat < 32 then
    ['\\', 'u', '0', '0',
      hexDigit (char.toNat / 16), hexDigit (char.toNat % 16)]
  else [char]

/-- The escaped characters of a text, without the quotes. -/
def escape (text : List Char) : List Char :=
  text.flatMap escapeChar

/-- A text as a JSON string. -/
def writeString (text : String) : List Char :=
  '"' :: (escape text.toList ++ ['"'])

/-- The decimal text of a number. -/
def writeNumber : Number → List Char
  | .posInt value => (Nat.repr value.toNat).toList
  | .negInt value => (toString value.toInt).toList
  | .float text => text.toList

mutual

/-- The compact characters of a value, without spaces. -/
def write : Value → List Char
  | .null => ['n', 'u', 'l', 'l']
  | .bool true => ['t', 'r', 'u', 'e']
  | .bool false => ['f', 'a', 'l', 's', 'e']
  | .number value => writeNumber value
  | .string text => writeString text
  | .array items => '[' :: (writeItems items ++ [']'])
  | .object members => '{' :: (writeMembers members ++ ['}'])

/-- The items of an array, separated by commas. -/
def writeItems : List Value → List Char
  | [] => []
  | [item] => write item
  | item :: next :: rest => write item ++ ',' :: writeItems (next :: rest)

/-- The members of an object, separated by commas. -/
def writeMembers : List (String × Value) → List Char
  | [] => []
  | [(key, value)] => writeString key ++ ':' :: write value
  | (key, value) :: next :: rest =>
      writeString key ++ ':' :: (write value ++
        ',' :: writeMembers (next :: rest))

end

/-- The compact text of a value. -/
def Value.compact (value : Value) : String :=
  String.ofList (write value)

@[simp] theorem Value.toList_compact (value : Value) :
    value.compact.toList = write value :=
  String.toList_ofList

/-- An array of strings. -/
def strings (texts : List String) : Value :=
  .array (texts.map .string)

end Json
end AsystantGateway
