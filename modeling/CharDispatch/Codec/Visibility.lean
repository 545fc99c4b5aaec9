import CharDispatch.Json.Reader
import CharDispatch.Json.Value
import CharDispatch.Visibility

/-!
# Stored visibilities

A visibility is stored as its name.  It is also read from a map whose one key is
the name and whose value is `null`.  Any value of another kind is not even taken
for a visibility and counts as malformed.
-/

namespace CharDispatch.Visibility

open Json

/-- A visibility as JSON. -/
def toJson (visibility : Visibility) : Value := .string visibility.name

/-- The visibility with a given name, or the list of those there are. -/
def choose (name : String) : Except Mismatch Visibility :=
  match ofName? name with
  | some visibility => .ok visibility
  | none => .error (.unknownVariant name (all.map Visibility.name))

/-- A name as a key, with `null` as its value. -/
def member : Reader Visibility :=
  .keyed fun name =>
    match choose name with
    | .ok visibility => .ok (Reader.unit.map fun () => visibility)
    | .error cause => .error cause

/-- Reads the inside of a map with one member. -/
def readMember (s : List Char) : Reading Visibility :=
  match member.run s with
  | .error fault => .error fault
  | .ok (visibility, rest) =>
    match after? '\x7d' rest with
    | some rest => .ok (visibility, rest)
    | none => .error .malformed

theorem length_of_readMember {s rest : List Char} {visibility : Visibility}
    (found : readMember s = .ok (visibility, rest)) : rest.length ≤ s.length := by
  unfold readMember at found
  split at found
  · simp at found
  · next value behind read =>
    split at found
    · next final closed =>
      simp only [Except.ok.injEq, Prod.mk.injEq] at found
      have lt := member.shrinks read
      have lt' := length_of_after? closed
      rw [← found.2]
      omega
    · simp at found

/-- Reads a visibility. -/
def reader : Reader Visibility :=
  .ofHead
    (fun
      | .string name, rest =>
        match choose name with
        | .ok visibility => .ok (visibility, rest)
        | .error cause => .error (.mismatch cause)
      | .map, rest => readMember rest
      | _, _ => .error .malformed)
    (by
      intro head s rest visibility found
      split at found
      · split at found
        · simp only [Except.ok.injEq, Prod.mk.injEq] at found
          exact Nat.le_of_eq (congrArg List.length found.2.symm)
        · simp at found
      · exact length_of_readMember found
      · simp at found)

end CharDispatch.Visibility
