import CharDispatch.Json.Numeral
import CharDispatch.Json.StringText

/-!
# Values

JSON values and their one compact text: no blanks, members in order.
-/

namespace CharDispatch.Json

/-- A JSON value. -/
inductive Value where
  | null
  | bool (value : Bool)
  | number (numeral : Numeral)
  | string (value : String)
  | array (items : List Value)
  | object (members : List (String × Value))

namespace Value

/-- A natural number. -/
def natural (n : Nat) : Value := .number (.ofNat n)

mutual

/-- The characters of a value. -/
def chars : Value → List Char
  | .null => "null".toList
  | .bool value => (if value then "true" else "false").toList
  | .number numeral => numeral.chars
  | .string value => StringText.write value.toList
  | .array [] => ['[', ']']
  | .array (item :: items) => '[' :: item.chars ++ furtherItems items
  | .object [] => ['\x7b', '\x7d']
  | .object ((key, value) :: members) =>
    '\x7b' :: StringText.write key.toList ++ ':' :: value.chars ++ furtherMembers members

/-- The characters of items behind the first, up to the closing bracket. -/
def furtherItems : List Value → List Char
  | [] => [']']
  | item :: items => ',' :: item.chars ++ furtherItems items

/-- The characters of members behind the first, up to the closing brace. -/
def furtherMembers : List (String × Value) → List Char
  | [] => ['\x7d']
  | (key, value) :: members =>
    ',' :: StringText.write key.toList ++ ':' :: value.chars ++ furtherMembers members

end

/-- The text of a value. -/
def render (value : Value) : String := String.ofList value.chars

end Value

end CharDispatch.Json
