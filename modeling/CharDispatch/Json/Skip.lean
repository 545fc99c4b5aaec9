import CharDispatch.Json.Numeral
import CharDispatch.Json.Scan
import CharDispatch.Json.StringText

/-!
# Skipping values

A value that nobody wants is only checked for its grammar: numbers may be of
any size, surrogates need no partners, and containers may be nested to any
depth, since the brackets still open are kept in a list.
-/

namespace CharDispatch.Json

/-- A container that is still open. -/
inductive Frame where
  | sequence | map
deriving DecidableEq, Repr

namespace Frame

/-- What closes the container. -/
def close : Frame → Char
  | .sequence => ']'
  | .map => '\x7d'

/-- What follows the key that comes next and its colon; in a sequence there is
no key. -/
def skipKey : Frame → List Char → Option (List Char)
  | .sequence, s => some s
  | .map, s => ((after? '"' s).bind StringText.skip).bind (after? ':')

theorem length_of_skipKey {frame : Frame} {s rest : List Char}
    (found : frame.skipKey s = some rest) : rest.length ≤ s.length := by
  cases frame with
  | sequence =>
    simp only [skipKey, Option.some.injEq] at found
    exact Nat.le_of_eq (congrArg List.length found.symm)
  | map =>
    obtain ⟨behind, key, colon⟩ := Option.bind_eq_some_iff.1 found
    obtain ⟨text, mark, skipped⟩ := Option.bind_eq_some_iff.1 key
    have first := length_of_after? mark
    have second := StringText.length_of_skip skipped
    have third := length_of_after? colon
    omega

end Frame

/-- A scalar or an opening bracket to be skipped. -/
inductive Skipped where
  | scalar
  | opened (frame : Frame)
deriving DecidableEq, Repr

/-- The beginning of the value that comes next, and what follows it. -/
def skipHead (s : List Char) : Option (Skipped × List Char) :=
  match skipBlank s with
  | [] => none
  | '[' :: rest => some (.opened .sequence, rest)
  | '\x7b' :: rest => some (.opened .map, rest)
  | '"' :: rest => (StringText.skip rest).map (Skipped.scalar, ·)
  | 'n' :: rest => (afterWord? ['u', 'l', 'l'] rest).map (Skipped.scalar, ·)
  | 't' :: rest => (afterWord? ['r', 'u', 'e'] rest).map (Skipped.scalar, ·)
  | 'f' :: rest => (afterWord? ['a', 'l', 's', 'e'] rest).map (Skipped.scalar, ·)
  | other => (Numeral.read other).map fun (_, rest) => (Skipped.scalar, rest)

theorem length_of_skipHead {s rest : List Char} {skipped : Skipped}
    (found : skipHead s = some (skipped, rest)) : rest.length < s.length := by
  have le := length_skipBlank_le s
  unfold skipHead at found
  split at found
  · simp at found
  case h_8 =>
    obtain ⟨⟨numeral, behind⟩, read, same⟩ := Option.map_eq_some_iff.1 found
    have lt := Numeral.length_of_read read
    simp only [Prod.mk.injEq] at same
    rw [← same.2]
    omega
  case h_4 behind eq =>
    obtain ⟨final, read, same⟩ := Option.map_eq_some_iff.1 found
    have lt := StringText.length_of_skip read
    simp only [Prod.mk.injEq] at same
    rw [eq, List.length_cons] at le
    rw [← same.2]
    omega
  case h_5 behind eq | h_6 behind eq | h_7 behind eq =>
    obtain ⟨final, read, same⟩ := Option.map_eq_some_iff.1 found
    have le' := length_of_afterWord? read
    simp only [Prod.mk.injEq] at same
    rw [eq, List.length_cons] at le
    rw [← same.2]
    omega
  all_goals
    next behind eq =>
    simp only [Option.some.injEq, Prod.mk.injEq] at found
    rw [eq, List.length_cons] at le
    rw [← found.2]
    omega

/-- Where skipping stands: in front of a value, or right behind one. -/
inductive Place where
  | before | behind
deriving DecidableEq, Repr

/-- What follows when `frames` are closed, the innermost first, from a place
inside the innermost. -/
def skipFrom (place : Place) (frames : List Frame) (s : List Char) : Option (List Char) :=
  match place, frames with
  | .before, frames =>
    match _head : skipHead s with
    | none => none
    | some (.scalar, rest) => skipFrom .behind frames rest
    | some (.opened frame, inside) =>
      match _close : after? frame.close inside with
      | some rest => skipFrom .behind frames rest
      | none =>
        match _key : frame.skipKey inside with
        | none => none
        | some rest => skipFrom .before (frame :: frames) rest
  | .behind, [] => some s
  | .behind, frame :: outer =>
    match _comma : after? ',' s with
    | some next =>
      match _key : frame.skipKey next with
      | none => none
      | some rest => skipFrom .before (frame :: outer) rest
    | none =>
      match _close : after? frame.close s with
      | none => none
      | some rest => skipFrom .behind outer rest
termination_by s.length
decreasing_by
  · exact length_of_skipHead _head
  · exact Nat.lt_trans (length_of_after? _close) (length_of_skipHead _head)
  · exact Nat.lt_of_le_of_lt (Frame.length_of_skipKey _key) (length_of_skipHead _head)
  · exact Nat.lt_of_le_of_lt (Frame.length_of_skipKey _key) (length_of_after? _comma)
  · exact length_of_after? _close

/-- What follows the value that comes next. -/
def skip (s : List Char) : Option (List Char) := skipFrom .before [] s

theorem length_of_skipFrom {place : Place} {frames : List Frame} {s rest : List Char}
    (found : skipFrom place frames s = some rest) :
    rest.length ≤ s.length ∧ (place = .before → rest.length < s.length) := by
  fun_induction skipFrom place frames s with
  | case1 | case4 | case7 | case9 => simp at found
  | case2 s frames behind head ih =>
    have le := (ih found).1
    have lt := length_of_skipHead head
    exact ⟨by omega, fun _ => by omega⟩
  | case3 s frames frame inside head behind close ih =>
    have le := (ih found).1
    have lt := length_of_skipHead head
    have lt' := length_of_after? close
    exact ⟨by omega, fun _ => by omega⟩
  | case5 s frames frame inside head close behind key ih =>
    have le := (ih found).1
    have lt := length_of_skipHead head
    have le' := Frame.length_of_skipKey key
    exact ⟨by omega, fun _ => by omega⟩
  | case6 s =>
    simp only [Option.some.injEq] at found
    exact ⟨by simp [found], by simp⟩
  | case8 s frame outer next comma behind key ih =>
    have le := (ih found).1
    have lt := length_of_after? comma
    have le' := Frame.length_of_skipKey key
    exact ⟨by omega, by simp⟩
  | case10 s frame outer comma behind close ih =>
    have le := (ih found).1
    have lt := length_of_after? close
    exact ⟨by omega, by simp⟩

/-- A value has at least one character. -/
theorem length_of_skip {s rest : List Char} (found : skip s = some rest) :
    rest.length < s.length :=
  (length_of_skipFrom found).2 rfl

end CharDispatch.Json
