import CharDispatch.Json.Scan
import CharDispatch.Json.Value

/-!
# Written values

A JSON value has many texts.  Blanks may stand around every mark, a character of a string
may be escaped in several ways, and so may an exponent be written.  The relations of this
module say which texts a value has, without reference to a reader.

* `StringText.WrittenAs`: strings.
* `Numeral.WrittenAs`: numbers.
* `Value.WrittenAs`: values of any kind, without the blanks behind them.
* `Value.HasText`: whole texts.
-/

namespace CharDispatch.Json

/-- Nothing but blanks. -/
def IsBlanks (s : List Char) : Prop := ∀ c ∈ s, isBlank c = true

instance (s : List Char) : Decidable (IsBlanks s) :=
  decidable_of_iff (s.all isBlank = true) List.all_eq_true

theorem isBlanks_nil : IsBlanks [] := nofun

/-! ## Strings -/

namespace StringText

/-- The escape of a code unit by four digits. -/
def IsUnit (chars : List Char) (unit : Nat) : Prop :=
  ∃ a b c d, chars = ['\\', 'u', a, b, c, d] ∧ Hex.four? a b c d = some unit

/-- Characters that stand for a text, the closing mark included.  A character stands for
itself unless it is a mark, a backslash or a control character, and otherwise it is
written by a short escape, by its code unit, or by its two code units. -/
inductive WrittenAs : (text chars : List Char) → Prop
  | close : WrittenAs [] ['"']
  | plain {c : Char} {text chars : List Char} :
    c ≠ '"' → c ≠ '\\' → 0x20 ≤ c.toNat → WrittenAs text chars →
    WrittenAs (c :: text) (c :: chars)
  | short {c mark : Char} {text chars : List Char} :
    short? mark = some c → WrittenAs text chars → WrittenAs (c :: text) ('\\' :: mark :: chars)
  | unit {c : Char} {escaped text chars : List Char} :
    IsUnit escaped c.toNat → WrittenAs text chars → WrittenAs (c :: text) (escaped ++ chars)
  | pair {c : Char} {leading trailing : Nat} {first second text chars : List Char} :
    IsUnit first leading → IsUnit second trailing →
    0xD800 ≤ leading → leading ≤ 0xDBFF → 0xDC00 ≤ trailing → trailing ≤ 0xDFFF →
    c.toNat = 0x10000 + (leading - 0xD800) * 0x400 + (trailing - 0xDC00) →
    WrittenAs text chars → WrittenAs (c :: text) (first ++ (second ++ chars))

end StringText

/-! ## Numbers -/

namespace Numeral

/-- A row of digits, at least one, with a given value. -/
def IsRow (chars : List Char) (n : Nat) : Prop :=
  ∃ row, row ≠ [] ∧ chars = row.map digitChar ∧ value row = n

/-- The characters of an exponent: a mark of either case, and a row of digits with or
without a sign. -/
inductive ExponentWrittenAs : Option Int → List Char → Prop
  | absent : ExponentWrittenAs none []
  | positive {mark : Char} {sign chars : List Char} {n : Nat} :
    mark = 'e' ∨ mark = 'E' → sign = [] ∨ sign = ['+'] → IsRow chars n →
    ExponentWrittenAs (some n) (mark :: (sign ++ chars))
  | negative {mark : Char} {chars : List Char} {n : Nat} :
    mark = 'e' ∨ mark = 'E' → IsRow chars n →
    ExponentWrittenAs (some (-n)) (mark :: '-' :: chars)

/-- The characters of a fraction. -/
def fractionChars (fraction : List (Fin 10)) : List Char :=
  if fraction = [] then [] else '.' :: fraction.map digitChar

/-- Characters of a numeral.  Only its exponent can be written in several ways. -/
def WrittenAs (numeral : Numeral) (chars : List Char) : Prop :=
  ∃ exponent, ExponentWrittenAs numeral.exponent exponent ∧
    chars = (if numeral.negative then ['-'] else []) ++ (Nat.toDigits 10 numeral.whole ++
      (fractionChars numeral.fraction ++ exponent))

end Numeral

/-! ## Values -/

/-- Texts behind a first one, up to the closing mark of a container. -/
inductive Further (close : Char) : List (List Char) → List Char → Prop
  | close {blanks : List Char} : IsBlanks blanks → Further close [] (blanks ++ [close])
  | comma {blanks text chars : List Char} {texts : List (List Char)} :
    IsBlanks blanks → Further close texts chars →
    Further close (text :: texts) (blanks ++ ',' :: (text ++ chars))

/-- Texts with commas between them, up to the closing mark of a container. -/
inductive Inside (close : Char) : List (List Char) → List Char → Prop
  | none {blanks : List Char} : IsBlanks blanks → Inside close [] (blanks ++ [close])
  | some {text chars : List Char} {texts : List (List Char)} :
    Further close texts chars → Inside close (text :: texts) (text ++ chars)

/-- The characters of a key and its colon. -/
def KeyWrittenAs (key : String) (chars : List Char) : Prop :=
  ∃ before quoted behind, IsBlanks before ∧ StringText.WrittenAs key.toList quoted ∧
    IsBlanks behind ∧ chars = before ++ '"' :: (quoted ++ (behind ++ [':']))

namespace Value

/-- A member of an object with the characters of its key and of its value. -/
structure Member where
  key : String
  value : Value
  front : List Char
  back : List Char

/-- Characters of a value, with blanks in front of it or not. -/
inductive WrittenAs : Value → List Char → Prop
  | blank {value : Value} {c : Char} {chars : List Char} :
    isBlank c = true → WrittenAs value chars → WrittenAs value (c :: chars)
  | null : WrittenAs .null "null".toList
  | bool (value : Bool) : WrittenAs (.bool value) (if value then "true" else "false").toList
  | number {numeral : Numeral} {chars : List Char} :
    numeral.WrittenAs chars → WrittenAs (.number numeral) chars
  | string {value : String} {chars : List Char} :
    StringText.WrittenAs value.toList chars → WrittenAs (.string value) ('"' :: chars)
  | array {items : List (Value × List Char)} {chars : List Char} :
    (∀ item ∈ items, WrittenAs item.1 item.2) → Inside ']' (items.map Prod.snd) chars →
    WrittenAs (.array (items.map Prod.fst)) ('[' :: chars)
  | object {members : List Member} {chars : List Char} :
    (∀ member ∈ members, KeyWrittenAs member.key member.front) →
    (∀ member ∈ members, WrittenAs member.value member.back) →
    Inside '\x7d' (members.map fun member => member.front ++ member.back) chars →
    WrittenAs (.object (members.map fun member => (member.key, member.value))) ('\x7b' :: chars)

/-- A text that holds a value, and nothing else but blanks. -/
def HasText (value : Value) (text : String) : Prop :=
  ∃ chars blanks, value.WrittenAs chars ∧ IsBlanks blanks ∧ text.toList = chars ++ blanks

end Value

end CharDispatch.Json
