import CharDispatch.Fault

/-!
# Character sets

A declaration may list the characters to be served by literals.  Without a
list, or with an empty one, it gets the standard set.  A set is valid when no
character is listed twice and each has a character literal.
-/

namespace CharDispatch.CharacterSet

/-- The printable ASCII characters, the space included, in code point order. -/
def standard : List Char :=
  (List.range 95).map fun offset => Char.ofNat (' '.toNat + offset)

/-- The characters to serve: those listed, or the standard set if none is. -/
def effective (listed : Option String) : List Char :=
  match listed with
  | some characters => if characters.isEmpty then standard else characters.toList
  | none => standard

/-- Whether `c` is a single UTF-16 unit. -/
def fitsOneUnit (c : Char) : Bool := c.toNat ≤ 0xFFFF

/-- Checks the characters from left to right, given those that came before. -/
def validateAfter (declaration : String) (seen : List Char) : List Char → Except Fault Unit
  | [] => .ok ()
  | c :: rest =>
    if !fitsOneUnit c then .error (.unrepresentableCharacter declaration c)
    else if c ∈ seen then .error (.duplicateCharacter declaration c)
    else validateAfter declaration (c :: seen) rest

/-- Accepts a set in which every character fits one unit and is listed once;
otherwise reports the leftmost character that offends. -/
def validate (declaration : String) (characters : List Char) : Except Fault Unit :=
  validateAfter declaration [] characters

theorem effective_ne_nil (listed : Option String) : effective listed ≠ [] := by
  unfold effective
  split
  · split
    · decide
    · next characters full => simpa [String.isEmpty_iff, ← String.toList_eq_nil_iff] using full
  · decide

end CharDispatch.CharacterSet
