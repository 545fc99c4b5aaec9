import CharDispatch.Text.Hex

/-!
# Literals

A character is written in generated source as a character literal and as a
one-character string literal.  Each kind escapes its own mark and the
backslash; control characters and the two line separators are written by code
point, since they would end the literal or be invisible in it.

`Literal.read` goes the other way, with every simple escape of the language:
`read_write` says that each kind reads back.
-/

namespace CharDispatch.Literal

/-- Whether `c` is written by its code point. -/
def needsCode (c : Char) : Bool :=
  c.toNat ≤ 0x1F || (0x7F ≤ c.toNat && c.toNat ≤ 0x9F) ||
    c.toNat == 0x2028 || c.toNat == 0x2029

/-- How `c` is written inside a literal delimited by `mark`. -/
def escape (mark c : Char) : List Char :=
  if c = mark ∨ c = '\\' then ['\\', c]
  else if needsCode c then '\\' :: 'u' :: Hex.four c.toNat
  else [c]

/-- `c` as a literal delimited by `mark`. -/
def write (mark c : Char) : List Char := mark :: escape mark c ++ [mark]

/-- The character literal of `c`. -/
def character (c : Char) : String := String.ofList (write '\'' c)

/-- The one-character string literal of `c`. -/
def string (c : Char) : String := String.ofList (write '"' c)

/-- What a one-letter escape stands for. -/
def simpleEscape? : Char → Option Char
  | '\'' => some '\''
  | '"' => some '"'
  | '\\' => some '\\'
  | '0' => some '\x00'
  | 'a' => some '\x07'
  | 'b' => some '\x08'
  | 'f' => some '\x0C'
  | 'n' => some '\n'
  | 'r' => some '\r'
  | 't' => some '\t'
  | 'v' => some '\x0B'
  | _ => none

/-- Whether `c` would end the line inside a literal. -/
def endsLine (c : Char) : Bool :=
  c = '\n' || c = '\r' || c.toNat == 0x85 || c.toNat == 0x2028 || c.toNat == 0x2029

/-- The character with a given code point, if there is one. -/
def ofCode? (code : Nat) : Option Char :=
  if h : code.isValidChar then some (Char.ofNatAux code h) else none

/-- The code point written behind `\u`, where a plus sign may stand for the
first of the four digits. -/
def code? (a b c d : Char) : Option Nat := Hex.four? (if a = '+' then '0' else a) b c d

/-- Decodes what stands between the marks of a literal. -/
def unescape (mark : Char) : List Char → Option (List Char)
  | [] => some []
  | '\\' :: 'u' :: a :: b :: c :: d :: rest => do
    let decoded ← (code? a b c d).bind ofCode?
    return decoded :: (← unescape mark rest)
  | '\\' :: c :: rest => do
    let decoded ← simpleEscape? c
    return decoded :: (← unescape mark rest)
  | c :: rest =>
    if c = '\\' ∨ c = mark ∨ endsLine c then none
    else (unescape mark rest).map (c :: ·)

/-- Reads a whole literal delimited by `mark`. -/
def read (mark : Char) : List Char → Option (List Char)
  | [] => none
  | first :: rest =>
    if first = mark ∧ rest.getLast? = some mark then unescape mark rest.dropLast else none

/-- Reads a whole character literal. -/
def readCharacter (text : List Char) : Option Char :=
  match read '\'' text with
  | some [c] => some c
  | _ => none

/-- The code point of a character gives the character back. -/
theorem ofCode?_toNat (c : Char) : ofCode? c.toNat = some c := by
  have valid : c.toNat.isValidChar := c.valid
  rw [ofCode?, dif_pos valid]
  rfl

/-- Four capital digits are read as they are. -/
theorem code?_four {n : Nat} (bound : n < 65536) :
    code? (Hex.capital (n / 4096 % 16)) (Hex.capital (n / 256 % 16))
      (Hex.capital (n / 16 % 16)) (Hex.capital (n % 16)) = some n := by
  have noSign : ∀ k : Fin 16, Hex.capital k.val ≠ '+' := by decide
  have digit := noSign ⟨n / 4096 % 16, Nat.mod_lt _ (by decide)⟩
  rw [code?, if_neg digit, Hex.four?_four bound]

/-- Only characters of a single UTF-16 unit are written by code point. -/
theorem toNat_lt_of_needsCode {c : Char} (needs : needsCode c = true) : c.toNat < 65536 := by
  simp only [needsCode, Bool.or_eq_true, Bool.and_eq_true, decide_eq_true_eq, beq_iff_eq] at needs
  omega

/-- Whatever ends a line is written by code point. -/
theorem needsCode_of_endsLine {c : Char} (ends : endsLine c = true) : needsCode c = true := by
  simp only [endsLine, Bool.or_eq_true, decide_eq_true_eq, beq_iff_eq] at ends
  obtain (((rfl | rfl) | code) | code) | code := ends
  · rfl
  · rfl
  all_goals simp [needsCode, code]

/-- An escaped character decodes in either kind of literal. -/
theorem unescape_escape {mark : Char} (kind : mark = '\'' ∨ mark = '"') (c : Char) :
    unescape mark (escape mark c) = some [c] := by
  unfold escape
  split
  · next own =>
    obtain rfl | rfl := own
    · obtain rfl | rfl := kind <;> rfl
    · rfl
  · next other =>
    split
    · next needs =>
      rw [Hex.four, unescape, code?_four (toNat_lt_of_needsCode needs)]
      simp [ofCode?_toNat, unescape]
    · next plain =>
      have inLine : endsLine c = false :=
        Bool.eq_false_iff.2 fun ends => plain (needsCode_of_endsLine ends)
      obtain ⟨notMark, notSlash⟩ := not_or.1 other
      simp [unescape, notMark, notSlash, inLine]

/-- Each kind of literal reads back. -/
theorem read_write {mark : Char} (kind : mark = '\'' ∨ mark = '"') (c : Char) :
    read mark (write mark c) = some [c] := by
  simp [write, read, unescape_escape kind]

end CharDispatch.Literal
