/-!
# Scanning

The marks between the values of a JSON text.  Everything works on the list of
characters that is still to be read and returns what is left of it.
-/

namespace CharDispatch.Json

/-- Whether `c` may stand between values. -/
def isBlank (c : Char) : Bool := c == ' ' || c == '\t' || c == '\n' || c == '\r'

/-- What follows the blanks at the front. -/
def skipBlank (s : List Char) : List Char := s.dropWhile isBlank

/-- What follows a mark, if it comes next behind blanks. -/
def after? (mark : Char) (s : List Char) : Option (List Char) :=
  match skipBlank s with
  | [] => none
  | c :: rest => if c = mark then some rest else none

/-- What follows a word at the front. -/
def afterWord? : (word s : List Char) → Option (List Char)
  | [], s => some s
  | w :: word, c :: s => if c = w then afterWord? word s else none
  | _ :: _, [] => none

theorem length_skipBlank_le (s : List Char) : (skipBlank s).length ≤ s.length :=
  (List.dropWhile_sublist _).length_le

/-- A mark takes at least one character. -/
theorem length_of_after? {mark : Char} {s rest : List Char} (found : after? mark s = some rest) :
    rest.length < s.length := by
  have le := length_skipBlank_le s
  unfold after? at found
  split at found
  · simp at found
  · next c behind eq =>
    split at found
    · simp only [Option.some.injEq] at found
      rw [eq, found, List.length_cons] at le
      omega
    · simp at found

theorem length_of_afterWord? {word s rest : List Char} (found : afterWord? word s = some rest) :
    rest.length ≤ s.length := by
  induction word generalizing s with
  | nil =>
    simp only [afterWord?, Option.some.injEq] at found
    exact Nat.le_of_eq (congrArg List.length found.symm)
  | cons w word ih =>
    cases s with
    | nil => simp [afterWord?] at found
    | cons c s =>
      rw [afterWord?] at found
      split at found
      · have le := ih found
        rw [List.length_cons]
        omega
      · simp at found

end CharDispatch.Json
