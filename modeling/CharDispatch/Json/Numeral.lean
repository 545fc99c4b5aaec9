import CharDispatch.Decimal.Binary64

/-!
# Numerals

The grammar of numbers in JSON text, and the numbers that numerals stand for.

A numeral without fraction and exponent is a whole number as long as it fits in
64 bits.  Any other numeral is rounded to binary64: its first digits that fit in
64 bits make up the significand, later digits of the whole part only count as
places, and later digits of the fraction are left out.  The significand is then
scaled by a power of ten.  A numeral that is too great has no value.

* `Numeral.length_of_read`: a numeral has at least one character.
-/

namespace CharDispatch.Json

/-- A number as it is written. -/
structure Numeral where
  negative : Bool
  whole : Nat
  /-- The digits behind the point; without digits there is no point. -/
  fraction : List (Fin 10)
  exponent : Option Int
deriving DecidableEq, Repr

/-- What a numeral stands for. -/
inductive Number where
  /-- A natural number below `2 ^ 64`. -/
  | natural (n : Nat)
  /-- The negative number `-n`, for `n` from `1` to `2 ^ 63`. -/
  | negative (n : Nat)
  /-- A binary64 number with its sign. -/
  | float (negative : Bool) (magnitude : Binary64)
deriving DecidableEq, Repr

namespace Numeral

/-- The numeral of a natural number. -/
def ofNat (n : Nat) : Numeral := ⟨false, n, [], none⟩

/-- The value of a decimal digit. -/
def digit? (c : Char) : Option (Fin 10) :=
  if h : '0'.toNat ≤ c.toNat ∧ c.toNat < '0'.toNat + 10 then
    some ⟨c.toNat - '0'.toNat, by omega⟩
  else none

/-- The character of a decimal digit. -/
def digitChar (digit : Fin 10) : Char := Char.ofNat ('0'.toNat + digit.val)

/-- The digits at the front, and what follows them. -/
def digits : List Char → List (Fin 10) × List Char
  | [] => ([], [])
  | c :: rest =>
    match digit? c with
    | some digit =>
      let (more, rest) := digits rest
      (digit :: more, rest)
    | none => ([], c :: rest)

/-- The value of a row of digits. -/
def value (digits : List (Fin 10)) : Nat := digits.foldl (fun n digit => 10 * n + digit.val) 0

/-- A point with at least one digit behind it, or nothing. -/
def readFraction (s : List Char) : Option (List (Fin 10) × List Char) :=
  match s with
  | '.' :: rest => if (digits rest).1 = [] then none else some (digits rest)
  | _ => some ([], s)

/-- The sign and the digits of an exponent. -/
def readPower (s : List Char) : Option (Int × List Char) :=
  match s with
  | '-' :: rest =>
    if (digits rest).1 = [] then none else some (-value (digits rest).1, (digits rest).2)
  | '+' :: rest =>
    if (digits rest).1 = [] then none else some (value (digits rest).1, (digits rest).2)
  | _ => if (digits s).1 = [] then none else some (value (digits s).1, (digits s).2)

/-- A mark of either case with an exponent, or nothing. -/
def readExponent (s : List Char) : Option (Option Int × List Char) :=
  match s with
  | 'e' :: rest | 'E' :: rest => (readPower rest).map fun (power, rest) => (some power, rest)
  | _ => some (none, s)

/-- A numeral behind its sign.  A zero in front of further digits is refused. -/
def readMagnitude (negative : Bool) (s : List Char) : Option (Numeral × List Char) :=
  match digits s with
  | ([], _) => none
  | (first :: more, rest) =>
    if first = 0 ∧ more ≠ [] then none
    else
      (readFraction rest).bind fun (fraction, rest) =>
        (readExponent rest).map fun (exponent, rest) =>
          (⟨negative, value (first :: more), fraction, exponent⟩, rest)

/-- The numeral at the front of a text, and what follows it. -/
def read (s : List Char) : Option (Numeral × List Char) :=
  match s with
  | '-' :: rest => readMagnitude true rest
  | _ => readMagnitude false s

/-- The characters of a numeral. -/
def chars (numeral : Numeral) : List Char :=
  (if numeral.negative then ['-'] else []) ++ Nat.toDigits 10 numeral.whole ++
    (if numeral.fraction = [] then [] else '.' :: numeral.fraction.map digitChar) ++
    match numeral.exponent with
    | none => []
    | some power =>
      'e' :: (if power < 0 then ['-'] else []) ++ Nat.toDigits 10 power.natAbs

/-- The first natural number that does not fit in 64 bits. -/
def bound : Nat := 0x10000000000000000

/-- The leading digits of a natural number that fit in 64 bits, and how many
digits follow them. -/
def leading (n : Nat) : Nat × Nat :=
  if n < bound then (n, 0)
  else
    let (significand, places) := leading (n / 10)
    (significand, places + 1)
termination_by n
decreasing_by simp only [bound] at *; omega

/-- Takes further digits as long as the significand fits in 64 bits.  The second
result is the number of digits taken. -/
def extend (significand : Nat) : List (Fin 10) → Nat × Nat
  | [] => (significand, 0)
  | digit :: rest =>
    if 10 * significand + digit.val < bound then
      let (significand, taken) := extend (10 * significand + digit.val) rest
      (significand, taken + 1)
    else (significand, 0)

/-- A whole number with its sign.  Zero keeps a sign only as a binary64 number. -/
def integer? (negative : Bool) (n : Nat) : Option Number :=
  if !negative then some (.natural n)
  else if n = 0 ∨ bound / 2 < n then (Binary64.ofNat? n).map (.float true)
  else some (.negative n)

/-- The number that a numeral stands for. -/
def number? (numeral : Numeral) : Option Number :=
  let (significand, places) := leading numeral.whole
  if numeral.fraction = [] ∧ numeral.exponent = none ∧ places = 0 then
    integer? numeral.negative significand
  else
    let (significand, taken) := extend significand numeral.fraction
    (Binary64.ofNat? significand).bind fun magnitude =>
      (magnitude.scaleTen ((places : Int) - taken + numeral.exponent.getD 0)).map
        (.float numeral.negative)

theorem length_digits_le (s : List Char) : (digits s).2.length ≤ s.length := by
  induction s with
  | nil => simp [digits]
  | cons c rest ih =>
    rw [digits]
    split
    · simp only [List.length_cons]; omega
    · simp

theorem length_of_digits {s rest : List Char} {first : Fin 10} {more : List (Fin 10)}
    (read : digits s = (first :: more, rest)) : rest.length < s.length := by
  cases s with
  | nil => simp [digits] at read
  | cons c s =>
    have le := length_digits_le s
    rw [digits] at read
    split at read
    · simp only [Prod.mk.injEq] at read
      rw [← read.2]
      simp only [List.length_cons]
      omega
    · simp at read

theorem length_of_readFraction {s rest : List Char} {fraction : List (Fin 10)}
    (read : readFraction s = some (fraction, rest)) : rest.length ≤ s.length := by
  unfold readFraction at read
  split at read
  · next behind =>
    have le := length_digits_le behind
    split at read
    · simp at read
    · simp only [Option.some.injEq] at read
      rw [read] at le
      simp only [List.length_cons] at le ⊢
      omega
  · simp only [Option.some.injEq, Prod.mk.injEq] at read
    exact Nat.le_of_eq (congrArg List.length read.2.symm)

theorem length_of_readPower {s rest : List Char} {power : Int}
    (read : readPower s = some (power, rest)) : rest.length ≤ s.length := by
  unfold readPower at read
  split at read
  · next behind =>
    have le := length_digits_le behind
    split at read
    · simp at read
    · simp only [Option.some.injEq, Prod.mk.injEq] at read
      rw [read.2] at le
      simp only [List.length_cons]
      omega
  · next behind =>
    have le := length_digits_le behind
    split at read
    · simp at read
    · simp only [Option.some.injEq, Prod.mk.injEq] at read
      rw [read.2] at le
      simp only [List.length_cons]
      omega
  · have le := length_digits_le s
    split at read
    · simp at read
    · simp only [Option.some.injEq, Prod.mk.injEq] at read
      rw [read.2] at le
      exact le

theorem length_of_readExponent {s rest : List Char} {exponent : Option Int}
    (read : readExponent s = some (exponent, rest)) : rest.length ≤ s.length := by
  unfold readExponent at read
  split at read
  · next behind =>
    obtain ⟨⟨power, final⟩, found, same⟩ := Option.map_eq_some_iff.1 read
    simp only [Prod.mk.injEq] at same
    have le := length_of_readPower found
    rw [← same.2, List.length_cons]
    omega
  · next behind =>
    obtain ⟨⟨power, final⟩, found, same⟩ := Option.map_eq_some_iff.1 read
    simp only [Prod.mk.injEq] at same
    have le := length_of_readPower found
    rw [← same.2, List.length_cons]
    omega
  · simp only [Option.some.injEq, Prod.mk.injEq] at read
    exact Nat.le_of_eq (congrArg List.length read.2.symm)

theorem length_of_readMagnitude {negative : Bool} {s rest : List Char} {numeral : Numeral}
    (read : readMagnitude negative s = some (numeral, rest)) : rest.length < s.length := by
  unfold readMagnitude at read
  split at read
  · simp at read
  · next first more behind whole =>
    split at read
    · simp at read
    · obtain ⟨⟨fraction, middle⟩, fractionRead, read⟩ := Option.bind_eq_some_iff.1 read
      obtain ⟨⟨exponent, final⟩, exponentRead, same⟩ := Option.map_eq_some_iff.1 read
      simp only [Prod.mk.injEq] at same
      have lt := length_of_digits whole
      have le := length_of_readFraction fractionRead
      have le' := length_of_readExponent exponentRead
      rw [← same.2]
      omega

/-- A numeral has at least one character. -/
theorem length_of_read {s rest : List Char} {numeral : Numeral}
    (found : read s = some (numeral, rest)) : rest.length < s.length := by
  unfold read at found
  split at found
  · have lt := length_of_readMagnitude found
    rw [List.length_cons]
    omega
  · exact length_of_readMagnitude found

end Numeral

end CharDispatch.Json
