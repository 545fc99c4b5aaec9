import CharDispatch.Text.Hex

/-!
# Strings in JSON text

What stands between the quotation marks of a string.  A string is written with
the short escapes and with code units below the space; it is read with all
escapes, of which two surrogate units in a row stand for one character and a
lone one is refused.  Where the value of a string does not matter, `skip` finds
its end without pairing surrogates.

* `StringText.length_of_read`, `StringText.length_of_skip`: either takes the closing mark at
  least, so that what follows is shorter.
-/

namespace CharDispatch.Json.StringText

/-- How `c` is written. -/
def escape (c : Char) : List Char :=
  if c = '"' ∨ c = '\\' then ['\\', c]
  else if c = '\x08' then ['\\', 'b']
  else if c = '\x0C' then ['\\', 'f']
  else if c = '\n' then ['\\', 'n']
  else if c = '\r' then ['\\', 'r']
  else if c = '\t' then ['\\', 't']
  else if c.toNat < 0x20 then
    ['\\', 'u', '0', '0', Hex.small (c.toNat / 16), Hex.small (c.toNat % 16)]
  else [c]

/-- A string between its quotation marks. -/
def write (s : List Char) : List Char := '"' :: s.flatMap escape ++ ['"']

/-- What a short escape stands for. -/
def short? : Char → Option Char
  | '"' => some '"'
  | '\\' => some '\\'
  | '/' => some '/'
  | 'b' => some '\x08'
  | 'f' => some '\x0C'
  | 'n' => some '\n'
  | 'r' => some '\r'
  | 't' => some '\t'
  | _ => none

/-- Whether a code unit is the first of a pair. -/
def isLeading (unit : Nat) : Bool := 0xD800 ≤ unit && unit ≤ 0xDBFF

/-- Whether a code unit is the second of a pair. -/
def isTrailing (unit : Nat) : Bool := 0xDC00 ≤ unit && unit ≤ 0xDFFF

/-- The character of a pair of code units. -/
def pair (leading trailing : Nat) : Char :=
  Char.ofNat (0x10000 + (leading - 0xD800) * 0x400 + (trailing - 0xDC00))

/-- Puts a character in front of those that were read behind it. -/
def prepend (c : Char) : Option (List Char × List Char) → Option (List Char × List Char)
  | none => none
  | some (text, rest) => some (c :: text, rest)

/-- The characters up to the closing mark, and what follows it. -/
def read : List Char → Option (List Char × List Char)
  | [] => none
  | '"' :: rest => some ([], rest)
  | '\\' :: 'u' :: a :: b :: c :: d :: rest =>
    match Hex.four? a b c d with
    | none => none
    | some unit =>
      if isLeading unit then
        match rest with
        | '\\' :: 'u' :: a :: b :: c :: d :: rest =>
          match Hex.four? a b c d with
          | none => none
          | some trailing =>
            if isTrailing trailing then
              prepend (pair unit trailing) (read rest)
            else none
        | _ => none
      else if isTrailing unit then none
      else prepend (Char.ofNat unit) (read rest)
  | '\\' :: c :: rest =>
    match short? c with
    | none => none
    | some decoded => prepend decoded (read rest)
  | c :: rest =>
    if c = '\\' ∨ c.toNat < 0x20 then none
    else prepend c (read rest)

/-- What follows the closing mark. -/
def skip : List Char → Option (List Char)
  | [] => none
  | '"' :: rest => some rest
  | '\\' :: 'u' :: a :: b :: c :: d :: rest =>
    if (Hex.four? a b c d).isSome then skip rest else none
  | '\\' :: c :: rest => if (short? c).isSome then skip rest else none
  | c :: rest => if c = '\\' ∨ c.toNat < 0x20 then none else skip rest

theorem rest_of_prepend {c : Char} {behind : Option (List Char × List Char)}
    {text rest : List Char} (found : prepend c behind = some (text, rest)) :
    ∃ tail, behind = some (tail, rest) := by
  cases behind with
  | none => simp [prepend] at found
  | some result =>
    simp only [prepend, Option.some.injEq, Prod.mk.injEq] at found
    exact ⟨result.1, by rw [← found.2]⟩

/-- Reading a string takes its closing mark at least. -/
theorem length_of_read {s text rest : List Char} (found : read s = some (text, rest)) :
    rest.length < s.length := by
  fun_induction read s generalizing text rest with
  | case2 => simp_all
  | case5 | case9 | case11 | case13 =>
    rename_i ih
    obtain ⟨tail, behind⟩ := rest_of_prepend found
    have lt := ih behind
    simp only [List.length_cons]
    omega
  | _ => simp at found

/-- Skipping a string takes its closing mark at least. -/
theorem length_of_skip {s rest : List Char} (found : skip s = some rest) :
    rest.length < s.length := by
  fun_induction skip s with
  | case2 => simp_all
  | case3 | case5 | case8 =>
    rename_i ih
    have lt := ih found
    simp only [List.length_cons]
    omega
  | _ => simp at found

end CharDispatch.Json.StringText
