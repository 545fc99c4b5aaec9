import CharDispatch.Proofs.Json.Grammar
import Mathlib.Data.Nat.Digits.Defs

/-!
# Strings and numerals read back

A written string or numeral reads back whatever follows it, provided that what follows does
not go on a numeral (`Numeral.Stops`); in a JSON text that is always so, since a blank, a
comma, a bracket or the end of the text comes next.

* `StringText.read_written`, `StringText.skip_written`: a written string is read as its text,
  and skipped as a whole.
* `Numeral.read_written`: a written numeral reads back.
* `StringText.writtenAs_write`, `Numeral.writtenAs_chars`: the compact texts are among those
  that may be written.
-/

namespace CharDispatch.Json

/-! ## Strings -/

namespace StringText

/-- Scanning a character that is no mark, no backslash and no control character. -/
theorem read_plain {c : Char} (rest : List Char) (quote : c ≠ '"') (slash : c ≠ '\\')
    (visible : 0x20 ≤ c.toNat) : read (c :: rest) = prepend c (read rest) := by
  simp [read, slash, Nat.not_lt.2 visible]

theorem skip_plain {c : Char} (rest : List Char) (quote : c ≠ '"') (slash : c ≠ '\\')
    (visible : 0x20 ≤ c.toNat) : skip (c :: rest) = skip rest := by
  simp [skip, slash, Nat.not_lt.2 visible]

theorem short?_ne {c mark : Char} (short : short? mark = some c) : mark ≠ 'u' := by
  rintro rfl
  cases short

theorem read_short {c mark : Char} (rest : List Char) (short : short? mark = some c) :
    read ('\\' :: mark :: rest) = prepend c (read rest) := by
  simp [read, short?_ne short, short]

theorem skip_short {c mark : Char} (rest : List Char) (short : short? mark = some c) :
    skip ('\\' :: mark :: rest) = skip rest := by
  simp [skip, short?_ne short, short]

theorem read_unit {c : Char} {escaped : List Char} (rest : List Char)
    (unit : IsUnit escaped c.toNat) : read (escaped ++ rest) = prepend c (read rest) := by
  rcases unit with ⟨a, b, d, e, rfl, found⟩
  have valid : c.toNat < 0xD800 ∨ 0xDFFF < c.toNat ∧ c.toNat < 0x110000 := c.valid
  have leading : isLeading c.toNat = false := by
    simp only [isLeading, Bool.and_eq_false_iff, decide_eq_false_iff_not]
    omega
  have trailing : isTrailing c.toNat = false := by
    simp only [isTrailing, Bool.and_eq_false_iff, decide_eq_false_iff_not]
    omega
  simp [read, found, leading, trailing]

theorem skip_unit {escaped : List Char} {unit : Nat} (rest : List Char)
    (escapes : IsUnit escaped unit) : skip (escaped ++ rest) = skip rest := by
  rcases escapes with ⟨a, b, d, e, rfl, found⟩
  simp [skip, found]

theorem read_pair {c : Char} {leading trailing : Nat} {first second : List Char}
    (rest : List Char) (isFirst : IsUnit first leading) (isSecond : IsUnit second trailing)
    (highLeast : 0xD800 ≤ leading) (highMost : leading ≤ 0xDBFF)
    (lowLeast : 0xDC00 ≤ trailing) (lowMost : trailing ≤ 0xDFFF)
    (value : c.toNat = 0x10000 + (leading - 0xD800) * 0x400 + (trailing - 0xDC00)) :
    read (first ++ (second ++ rest)) = prepend c (read rest) := by
  rcases isFirst with ⟨a, b, d, e, rfl, found⟩
  rcases isSecond with ⟨a', b', d', e', rfl, found'⟩
  have high : isLeading leading = true := by simp [isLeading, highLeast, highMost]
  have low : isTrailing trailing = true := by simp [isTrailing, lowLeast, lowMost]
  have paired : pair leading trailing = c := by rw [pair, ← value, Char.ofNat_toNat]
  simp [read, found, found', high, low, paired]

/-- Characters that stand for a text are read as that text, whatever follows them. -/
theorem read_written {text chars : List Char} (written : WrittenAs text chars)
    (rest : List Char) : read (chars ++ rest) = some (text, rest) := by
  induction written with
  | close => rfl
  | plain quote slash visible _ ih =>
    rw [List.cons_append, read_plain _ quote slash visible, ih]
    rfl
  | short found _ ih =>
    rw [List.cons_append, List.cons_append, read_short _ found, ih]
    rfl
  | unit escapes _ ih =>
    rw [List.append_assoc, read_unit _ escapes, ih]
    rfl
  | pair isFirst isSecond highLeast highMost lowLeast lowMost value _ ih =>
    rw [List.append_assoc, List.append_assoc,
      read_pair _ isFirst isSecond highLeast highMost lowLeast lowMost value, ih]
    rfl

/-- They are skipped as one string. -/
theorem skip_written {text chars : List Char} (written : WrittenAs text chars)
    (rest : List Char) : skip (chars ++ rest) = some rest := by
  induction written with
  | close => rfl
  | plain quote slash visible _ ih =>
    rw [List.cons_append, skip_plain _ quote slash visible, ih]
  | short found _ ih =>
    rw [List.cons_append, List.cons_append, skip_short _ found, ih]
  | unit escapes _ ih => rw [List.append_assoc, skip_unit _ escapes, ih]
  | pair isFirst isSecond _ _ _ _ _ _ ih =>
    rw [List.append_assoc, List.append_assoc, skip_unit _ isFirst, skip_unit _ isSecond, ih]

/-- The compact text of a character is one of its texts. -/
theorem WrittenAs.escape {text chars : List Char} (c : Char) (written : WrittenAs text chars) :
    WrittenAs (c :: text) (StringText.escape c ++ chars) := by
  unfold StringText.escape
  split
  · next mark =>
    refine .short ?_ written
    rcases mark with rfl | rfl
    · rfl
    · rfl
  · next other =>
    split
    case isTrue eq => subst eq; exact .short rfl written
    split
    case isTrue eq => subst eq; exact .short rfl written
    split
    case isTrue eq => subst eq; exact .short rfl written
    split
    case isTrue eq => subst eq; exact .short rfl written
    split
    case isTrue eq => subst eq; exact .short rfl written
    split
    · next small => exact .unit ⟨_, _, _, _, rfl, Hex.four?_small small⟩ written
    · next visible =>
      obtain ⟨quote, slash⟩ := not_or.1 other
      exact .plain quote slash (Nat.not_lt.1 visible) written

theorem writtenAs_write (text : List Char) :
    WrittenAs text (text.flatMap escape ++ ['"']) := by
  induction text with
  | nil => exact .close
  | cons c text ih =>
    rw [List.flatMap_cons, List.append_assoc]
    exact ih.escape c

end StringText

/-! ## Numerals -/

namespace Numeral

/-- Nothing comes next that could go on a numeral. -/
def Stops (rest : List Char) : Prop :=
  ∀ c ∈ rest.head?, digit? c = none ∧ c ≠ '.' ∧ c ≠ 'e' ∧ c ≠ 'E'

theorem stops_nil : Stops [] := nofun

theorem stops_cons {c : Char} {rest : List Char}
    (other : digit? c = none ∧ c ≠ '.' ∧ c ≠ 'e' ∧ c ≠ 'E') : Stops (c :: rest) := by
  rintro d ⟨⟩
  exact other

theorem stops_blanks {blanks rest : List Char} (isBlanks : IsBlanks blanks)
    (stops : Stops rest) : Stops (blanks ++ rest) := by
  cases blanks with
  | nil => exact stops
  | cons c blanks =>
    refine stops_cons ?_
    have blank := isBlanks c (.head _)
    simp only [isBlank, Bool.or_eq_true, beq_iff_eq] at blank
    rcases blank with ((rfl | rfl) | rfl) | rfl
    all_goals decide

theorem digit?_digitChar (digit : Fin 10) : digit? (digitChar digit) = some digit := by
  revert digit
  decide

/-- Digits are neither signs nor blanks, and no other value and no closing mark
begins with one. -/
theorem digitChar_plain (digit : Fin 10) :
    (digitChar digit ≠ '-' ∧ digitChar digit ≠ '+') ∧ isBlank (digitChar digit) = false ∧
      digitChar digit ≠ '[' ∧ digitChar digit ≠ '\x7b' ∧ digitChar digit ≠ '"' ∧
      digitChar digit ≠ 'n' ∧ digitChar digit ≠ 't' ∧ digitChar digit ≠ 'f' ∧
      digitChar digit ≠ ']' ∧ digitChar digit ≠ '\x7d' := by
  revert digit
  decide

/-- A row of digits is read up to the first character that is none. -/
theorem digits_append (row : List (Fin 10)) {rest : List Char}
    (other : ∀ c ∈ rest.head?, digit? c = none) :
    digits (row.map digitChar ++ rest) = (row, rest) := by
  induction row with
  | nil =>
    cases rest with
    | nil => rfl
    | cons c rest =>
      rw [List.map_nil, List.nil_append, digits, other c rfl]
  | cons digit row ih =>
    rw [List.map_cons, List.cons_append, digits, digit?_digitChar, ih]

theorem value_concat (row : List (Fin 10)) (digit : Fin 10) :
    value (row ++ [digit]) = 10 * value row + digit.val := by
  rw [value, List.foldl_append]
  rfl

/-- A natural number is written as a row of digits with its value, which starts
with a zero only if that is all. -/
theorem exists_row (n : Nat) :
    ∃ first more, Nat.toDigits 10 n = (first :: more).map digitChar ∧
      value (first :: more) = n ∧ ¬ (first = 0 ∧ more ≠ []) := by
  induction n using Nat.strongRecOn with
  | ind n ih =>
    by_cases small : n < 10
    · refine ⟨⟨n, small⟩, [], ?_, ?_, fun zero => zero.2 rfl⟩
      · rw [Nat.toDigits_of_lt_base small]
        have same : ∀ digit : Fin 10, Nat.digitChar digit.val = digitChar digit := by decide
        exact congrArg (fun c => [c]) (same ⟨n, small⟩)
      · simp [value]
    · rcases ih (n / 10) (by omega) with ⟨first, more, written, worth, leading⟩
      have last : n % 10 < 10 := Nat.mod_lt n (by decide)
      refine ⟨first, more ++ [⟨n % 10, last⟩], ?_, ?_, ?_⟩
      · have same : ∀ digit : Fin 10, Nat.digitChar digit.val = digitChar digit := by decide
        rw [Nat.toDigits_of_base_le (by decide) (by omega), written, ← List.cons_append,
          List.map_append]
        exact congrArg (_ ++ [·]) (same ⟨n % 10, last⟩)
      · rw [← List.cons_append, value_concat, worth]
        exact Nat.div_add_mod n 10
      · -- a leading zero would be all of `n / 10`, which is not zero
        rintro ⟨rfl, -⟩
        by_cases single : more = []
        · rw [single] at worth
          have zero : 0 = n / 10 := worth
          omega
        · exact leading ⟨rfl, single⟩

theorem digits_toDigits (n : Nat) {rest : List Char}
    (other : ∀ c ∈ rest.head?, digit? c = none) :
    ∃ first more, digits (Nat.toDigits 10 n ++ rest) = (first :: more, rest) ∧
      value (first :: more) = n ∧ ¬ (first = 0 ∧ more ≠ []) := by
  rcases exists_row n with ⟨first, more, written, worth, leading⟩
  exact ⟨first, more, by rw [written, digits_append _ other], worth, leading⟩

theorem readPower_row {row : List (Fin 10)} (some_row : row ≠ []) {sign rest : List Char}
    (signed : sign = [] ∨ sign = ['+']) (other : ∀ c ∈ rest.head?, digit? c = none) :
    readPower (sign ++ row.map digitChar ++ rest) = some ((value row : Int), rest) := by
  have digits := digits_append row other
  rcases signed with rfl | rfl
  · rcases List.exists_cons_of_ne_nil some_row with ⟨digit, more, rfl⟩
    -- the first character is a digit, hence no sign
    obtain ⟨minus, plus⟩ := (digitChar_plain digit).1
    rw [List.map_cons, List.cons_append] at digits
    rw [List.nil_append, List.map_cons, List.cons_append]
    unfold readPower
    split
    · next eq => exact (minus (List.cons.inj eq).1).elim
    · next eq => exact (plus (List.cons.inj eq).1).elim
    · rw [digits, if_neg some_row]
  · rw [List.append_assoc, List.singleton_append, readPower, digits, if_neg some_row]

theorem readPower_negative {row : List (Fin 10)} (some_row : row ≠ []) {rest : List Char}
    (other : ∀ c ∈ rest.head?, digit? c = none) :
    readPower ('-' :: (row.map digitChar ++ rest)) = some (-(value row : Int), rest) := by
  rw [readPower, digits_append row other, if_neg some_row]

theorem readExponent_of_mark {mark : Char} (isMark : mark = 'e' ∨ mark = 'E') (s : List Char) :
    readExponent (mark :: s) = (readPower s).map fun (power, rest) => (some power, rest) := by
  rcases isMark with rfl | rfl
  · rfl
  · rfl

theorem readExponent_written {exponent : Option Int} {chars rest : List Char}
    (written : ExponentWrittenAs exponent chars) (stops : Stops rest) :
    readExponent (chars ++ rest) = some (exponent, rest) := by
  have other : ∀ c ∈ rest.head?, digit? c = none := fun c member => (stops c member).1
  cases written with
  | absent =>
    unfold readExponent
    rw [List.nil_append]
    split
    · next eq => exact ((stops _ rfl).2.2.1 rfl).elim
    · next eq => exact ((stops _ rfl).2.2.2 rfl).elim
    · rfl
  | positive isMark signed isRow =>
    rcases isRow with ⟨row, some_row, rfl, rfl⟩
    rw [List.cons_append, readExponent_of_mark isMark, readPower_row some_row signed other]
    rfl
  | negative isMark isRow =>
    rcases isRow with ⟨row, some_row, rfl, rfl⟩
    rw [List.cons_append, List.cons_append, readExponent_of_mark isMark,
      readPower_negative some_row other]
    rfl

theorem head?_exponent {exponent : Option Int} {chars rest : List Char}
    (written : ExponentWrittenAs exponent chars) (stops : Stops rest) :
    ∀ c ∈ (chars ++ rest).head?, digit? c = none ∧ c ≠ '.' := by
  have plain {mark : Char} (isMark : mark = 'e' ∨ mark = 'E') :
      digit? mark = none ∧ mark ≠ '.' := by
    rcases isMark with rfl | rfl
    · decide
    · decide
  intro c member
  cases written with
  | absent => exact ⟨(stops c member).1, (stops c member).2.1⟩
  | positive isMark _ _ | negative isMark _ =>
    cases member
    exact plain isMark

theorem readFraction_chars (fraction : List (Fin 10)) {rest : List Char}
    (other : ∀ c ∈ rest.head?, digit? c = none ∧ c ≠ '.') :
    readFraction (fractionChars fraction ++ rest) = some (fraction, rest) := by
  have none : ∀ c ∈ rest.head?, digit? c = none := fun c member => (other c member).1
  cases fraction with
  | nil =>
    unfold fractionChars readFraction
    rw [if_pos rfl, List.nil_append]
    split
    · exact ((other _ rfl).2 rfl).elim
    · rfl
  | cons digit row =>
    rw [fractionChars, if_neg (List.cons_ne_nil digit row), List.cons_append, readFraction,
      digits_append _ none, if_neg (List.cons_ne_nil digit row)]

theorem head?_fractionChars (fraction : List (Fin 10)) {rest : List Char}
    (other : ∀ c ∈ rest.head?, digit? c = none) :
    ∀ c ∈ (fractionChars fraction ++ rest).head?, digit? c = none := by
  intro c member
  cases fraction with
  | nil => exact other c member
  | cons digit row =>
    rw [fractionChars, if_neg (List.cons_ne_nil digit row)] at member
    cases member
    decide

theorem readMagnitude_written (negative : Bool) (whole : Nat) (fraction : List (Fin 10))
    {exponent : Option Int} {chars rest : List Char}
    (written : ExponentWrittenAs exponent chars) (stops : Stops rest) :
    readMagnitude negative (Nat.toDigits 10 whole ++
        (fractionChars fraction ++ (chars ++ rest))) =
      some (⟨negative, whole, fraction, exponent⟩, rest) := by
  have behindFraction := head?_exponent written stops
  have behindWhole := head?_fractionChars fraction fun c member => (behindFraction c member).1
  rcases digits_toDigits whole behindWhole with ⟨first, more, read, worth, leading⟩
  rw [readMagnitude, read]
  dsimp only
  rw [if_neg leading, readFraction_chars fraction behindFraction, Option.bind_some]
  dsimp only
  rw [readExponent_written written stops, Option.map_some, worth]

theorem isRow_toDigits (n : Nat) : IsRow (Nat.toDigits 10 n) n := by
  rcases exists_row n with ⟨first, more, written, worth, -⟩
  exact ⟨first :: more, List.cons_ne_nil first more, written, worth⟩

/-- The compact text of a numeral is one of its texts. -/
theorem writtenAs_chars (numeral : Numeral) : numeral.WrittenAs numeral.chars := by
  rcases numeral with ⟨negative, whole, fraction, exponent⟩
  unfold WrittenAs chars fractionChars
  cases exponent with
  | none => exact ⟨[], .absent, by simp⟩
  | some power =>
    have digits := isRow_toDigits power.natAbs
    by_cases below : power < 0
    · refine ⟨'e' :: '-' :: Nat.toDigits 10 power.natAbs, ?_, by simp [below]⟩
      have same : power = -(power.natAbs : Int) := by omega
      conv => arg 1; rw [same]
      exact .negative (.inl rfl) digits
    · refine ⟨'e' :: ([] ++ Nat.toDigits 10 power.natAbs), ?_, by simp [below]⟩
      have same : power = (power.natAbs : Int) := by omega
      conv => arg 1; rw [same]
      exact .positive (.inl rfl) (.inl rfl) digits

/-- How a numeral begins. -/
def IsStart (c : Char) : Prop := c = '-' ∨ ∃ digit : Fin 10, c = digitChar digit

theorem IsStart.plain {c : Char} (start : IsStart c) :
    isBlank c = false ∧ c ≠ '[' ∧ c ≠ '\x7b' ∧ c ≠ '"' ∧ c ≠ 'n' ∧ c ≠ 't' ∧ c ≠ 'f' ∧
      c ≠ ']' ∧ c ≠ '\x7d' := by
  rcases start with rfl | ⟨digit, rfl⟩
  · decide
  · exact (digitChar_plain digit).2

theorem exists_toDigits (n : Nat) (rest : List Char) :
    ∃ (digit : Fin 10) (tail : List Char), Nat.toDigits 10 n ++ rest = digitChar digit :: tail := by
  rcases exists_row n with ⟨digit, row, written, -⟩
  rw [written]
  exact ⟨digit, _, rfl⟩

theorem exists_written {numeral : Numeral} {chars : List Char} (written : numeral.WrittenAs chars)
    (rest : List Char) : ∃ c tail, chars ++ rest = c :: tail ∧ IsStart c := by
  rcases written with ⟨exponent, -, rfl⟩
  cases numeral.negative with
  | true => exact ⟨'-', _, rfl, .inl rfl⟩
  | false =>
    rcases exists_toDigits numeral.whole (fractionChars numeral.fraction ++ exponent ++ rest)
      with ⟨digit, tail, written⟩
    refine ⟨digitChar digit, tail, ?_, .inr ⟨digit, rfl⟩⟩
    rw [← written]
    simp

/-- A written numeral reads back. -/
theorem read_written {numeral : Numeral} {chars rest : List Char}
    (written : numeral.WrittenAs chars) (stops : Stops rest) :
    read (chars ++ rest) = some (numeral, rest) := by
  rcases numeral with ⟨negative, whole, fraction, exponent⟩
  rcases written with ⟨behind, exponentWritten, rfl⟩
  have magnitude := readMagnitude_written negative whole fraction exponentWritten stops
  dsimp only
  rw [List.append_assoc, List.append_assoc, List.append_assoc]
  cases negative with
  | true =>
    rw [if_pos rfl, List.singleton_append, read]
    exact magnitude
  | false =>
    rw [if_neg Bool.false_ne_true, List.nil_append]
    unfold read
    split
    · next tail eq =>
      -- a digit comes first, hence no sign
      rcases exists_toDigits whole (fractionChars fraction ++ (behind ++ rest))
        with ⟨digit, other, written⟩
      rw [written] at eq
      exact ((digitChar_plain digit).1.1 (List.cons.inj eq).1).elim
    · exact magnitude

/-- A natural number that fits in 64 bits stands for itself. -/
theorem number?_ofNat {n : Nat} (fits : n < bound) :
    (ofNat n).number? = some (.natural n) := by
  have whole : leading n = (n, 0) := by rw [leading, if_pos fits]
  simp [number?, ofNat, whole, integer?]

end Numeral

end CharDispatch.Json
