import CharDispatch.Json.Fault
import CharDispatch.Json.Skip
import CharDispatch.OrderedMap

/-!
# Readers

A reader takes a value from the front of a text and returns what follows it, or
stops at the first fault from the left.  That it takes at least one character is
part of its type, which is why lists of any length can be read.

Readers of scalars look at the head of the value only.  Containers are read item
by item (`Reader.contents`) into a state that each item may change.
-/

namespace CharDispatch.Json

/-! ## Heads -/

namespace Head

/-- The head of the value that comes next, and what follows it. -/
def read (s : List Char) : Option (Head × List Char) :=
  match skipBlank s with
  | [] => none
  | '[' :: rest => some (.sequence, rest)
  | '\x7b' :: rest => some (.map, rest)
  | '"' :: rest =>
    (StringText.read rest).map fun (text, rest) => (.string (String.ofList text), rest)
  | 'n' :: rest => (afterWord? ['u', 'l', 'l'] rest).map (Head.null, ·)
  | 't' :: rest => (afterWord? ['r', 'u', 'e'] rest).map (Head.bool true, ·)
  | 'f' :: rest => (afterWord? ['a', 'l', 's', 'e'] rest).map (Head.bool false, ·)
  | other =>
    (Numeral.read other).bind fun (numeral, rest) =>
      numeral.number?.map fun value => (.number value, rest)

theorem length_of_read {s rest : List Char} {head : Head}
    (found : read s = some (head, rest)) : rest.length < s.length := by
  have le := length_skipBlank_le s
  unfold read at found
  split at found
  · simp at found
  case h_8 =>
    obtain ⟨⟨numeral, behind⟩, read, found⟩ := Option.bind_eq_some_iff.1 found
    obtain ⟨value, _, same⟩ := Option.map_eq_some_iff.1 found
    have lt := Numeral.length_of_read read
    simp only [Prod.mk.injEq] at same
    rw [← same.2]
    omega
  case h_4 behind eq =>
    obtain ⟨⟨text, final⟩, read, same⟩ := Option.map_eq_some_iff.1 found
    have lt := StringText.length_of_read read
    simp only [Prod.mk.injEq] at same
    rw [eq, List.length_cons] at le
    rw [← same.2]
    omega
  case h_5 behind eq | h_6 behind eq | h_7 behind eq =>
    obtain ⟨final, read, same⟩ := Option.map_eq_some_iff.1 found
    have le' := length_of_afterWord? read
    simp only [Prod.mk.injEq] at same
    rw [eq, List.length_cons] at le
    rw [← same.2]
    omega
  all_goals
    next behind eq =>
    simp only [Option.some.injEq, Prod.mk.injEq] at found
    rw [eq, List.length_cons] at le
    rw [← found.2]
    omega

end Head

/-! ## Readers and their composition -/

/-- A value and what follows it, or the fault that stops reading. -/
abbrev Reading (α : Type) := Except ReadFault (α × List Char)

/-- Reads values of type `α`, each from at least one character. -/
structure Reader (α : Type) where
  run : List Char → Reading α
  shrinks : ∀ {s rest : List Char} {value : α},
    run s = .ok (value, rest) → rest.length < s.length

namespace Reader

variable {α β σ : Type}

/-- Finds the same fault everywhere. -/
def fail (fault : ReadFault) : Reader α where
  run _ := .error fault
  shrinks := by simp

/-- Changes what is read. -/
def map (f : α → β) (reader : Reader α) : Reader β where
  run s :=
    match reader.run s with
    | .error fault => .error fault
    | .ok (value, rest) => .ok (f value, rest)
  shrinks := by
    intro s rest value found
    split at found
    · simp at found
    · next value' rest' read =>
      simp only [Except.ok.injEq, Prod.mk.injEq] at found
      exact found.2 ▸ reader.shrinks read

/-- Reads the head of a value and goes on as it asks for. -/
def ofHead (next : Head → List Char → Reading α)
    (keeps : ∀ {head : Head} {s rest : List Char} {value : α},
      next head s = .ok (value, rest) → rest.length ≤ s.length) : Reader α where
  run s :=
    match Head.read s with
    | none => .error .malformed
    | some (head, rest) => next head rest
  shrinks := by
    intro s rest value found
    split at found
    · simp at found
    · next head behind read =>
      exact Nat.lt_of_le_of_lt (keeps found) (Head.length_of_read read)

/-- Reads a scalar, or refuses what stands in its place. -/
def scalar (accept : Head → Except Mismatch α) : Reader α :=
  ofHead
    (fun head rest =>
      match accept head with
      | .ok value => .ok (value, rest)
      | .error cause => .error (.mismatch cause))
    (by
      intro head s rest value found
      split at found
      · simp only [Except.ok.injEq, Prod.mk.injEq] at found
        exact Nat.le_of_eq (congrArg List.length found.2.symm)
      · simp at found)

/-! ## Scalars -/

/-- A string. -/
def string : Reader String :=
  scalar fun
    | .string value => .ok value
    | found => .error (.wrongKind found .string)

/-- A truth value. -/
def bool : Reader Bool :=
  scalar fun
    | .bool value => .ok value
    | found => .error (.wrongKind found .bool)

/-- A natural number that fits in 64 bits. -/
def size : Reader UInt64 :=
  scalar fun
    | .number (.natural n) => .ok (UInt64.ofNat n)
    | .number (.negative n) => .error (.wrongValue (.number (.negative n)) .size)
    | found => .error (.wrongKind found .size)

/-- A character, written as a string of length one. -/
def character : Reader Char :=
  scalar fun
    | .string value =>
      match value.toList with
      | [c] => .ok c
      | _ => .error (.wrongValue (.string value) .character)
    | found => .error (.wrongKind found .character)

/-- Nothing but `null`. -/
def unit : Reader Unit :=
  scalar fun
    | .null => .ok ()
    | found => .error (.wrongKind found .unit)

/-- A string, or `null` for none. -/
def optionalString : Reader (Option String) :=
  scalar fun
    | .null => .ok none
    | .string value => .ok (some value)
    | found => .error (.wrongKind found .string)

/-- A value that is not wanted. -/
def ignored : Reader Unit where
  run s :=
    match skip s with
    | none => .error .malformed
    | some rest => .ok ((), rest)
  shrinks := by
    intro s rest value found
    split at found
    · simp at found
    · next behind skipped =>
      simp only [Except.ok.injEq, Prod.mk.injEq] at found
      exact found.2 ▸ length_of_skip skipped

/-! ## Containers -/

/-- A key, a colon, and a value whose reader the key decides; the key may also
be refused before its colon is looked at.  A key is a string and nothing else. -/
def keyed (choose : String → Except Mismatch (Reader α)) : Reader α where
  run s :=
    match Head.read s with
    | some (.string key, rest) =>
      match choose key with
      | .error cause => .error (.mismatch cause)
      | .ok reader =>
        match after? ':' rest with
        | none => .error .malformed
        | some rest => reader.run rest
    | _ => .error .malformed
  shrinks := by
    intro s rest value found
    split at found
    · next key behind read =>
      split at found
      · simp at found
      · next reader _ =>
        split at found
        · simp at found
        · next final colon =>
          exact Nat.lt_trans (reader.shrinks found)
            (Nat.lt_trans (length_of_after? colon) (Head.length_of_read read))
    · simp at found

/-- Reads items that change a state, with commas between them, and then `close`. -/
def items (close : Char) (item : σ → Reader σ) (state : σ) (s : List Char) : Reading σ :=
  match _read : (item state).run s with
  | .error fault => .error fault
  | .ok (changed, rest) =>
    match _comma : after? ',' rest with
    | some next => items close item changed next
    | none =>
      match after? close rest with
      | some final => .ok (changed, final)
      | none => .error .malformed
termination_by s.length
decreasing_by exact Nat.lt_trans (length_of_after? _comma) ((item state).shrinks _read)

theorem length_of_items {close : Char} {item : σ → Reader σ} {state final : σ}
    {s rest : List Char} (found : items close item state s = .ok (final, rest)) :
    rest.length < s.length := by
  fun_induction items close item state s with
  | case1 | case4 => simp at found
  | case2 state s changed behind read next comma ih =>
    have lt := ih found
    have lt' := length_of_after? comma
    have lt'' := (item state).shrinks read
    omega
  | case3 state s changed behind read comma last closed =>
    simp only [Except.ok.injEq, Prod.mk.injEq] at found
    have lt := length_of_after? closed
    have lt' := (item state).shrinks read
    rw [← found.2]
    omega

/-- Reads what is inside a container up to `close`: nothing, or items. -/
def contents (close : Char) (item : σ → Reader σ) (state : σ) (s : List Char) : Reading σ :=
  match after? close s with
  | some rest => .ok (state, rest)
  | none => items close item state s

theorem length_of_contents {close : Char} {item : σ → Reader σ} {state final : σ}
    {s rest : List Char} (found : contents close item state s = .ok (final, rest)) :
    rest.length < s.length := by
  unfold contents at found
  split at found
  · next behind closed =>
    simp only [Except.ok.injEq, Prod.mk.injEq] at found
    exact found.2 ▸ length_of_after? closed
  · exact length_of_items found

/-- Reads the inside of a container and finishes what was collected. -/
def collect (close : Char) (item : σ → Reader σ) (start : σ)
    (finish : σ → Except Mismatch α) (s : List Char) : Reading α :=
  match contents close item start s with
  | .error fault => .error fault
  | .ok (state, rest) =>
    match finish state with
    | .ok value => .ok (value, rest)
    | .error cause => .error (.mismatch cause)

theorem length_of_collect {close : Char} {item : σ → Reader σ} {start : σ}
    {finish : σ → Except Mismatch α} {s rest : List Char} {value : α}
    (found : collect close item start finish s = .ok (value, rest)) :
    rest.length ≤ s.length := by
  unfold collect at found
  split at found
  · simp at found
  · next state behind read =>
    split at found
    · simp only [Except.ok.injEq, Prod.mk.injEq] at found
      exact found.2 ▸ Nat.le_of_lt (length_of_contents read)
    · simp at found

/-- Adds an item behind those collected so far, which are kept in reverse. -/
def listItem (item : Reader α) (collected : List α) : Reader (List α) :=
  item.map (· :: collected)

/-- Adds an entry to a map. -/
def mapEntry (value : Reader β) (collected : OrderedMap β) : Reader (OrderedMap β) :=
  keyed fun key => .ok (value.map (collected.insert key))

/-- A sequence of items. -/
def list (item : Reader α) : Reader (List α) :=
  ofHead
    (fun
      | .sequence, rest =>
        collect ']' item.listItem [] (fun collected => .ok collected.reverse) rest
      | found, _ => .error (.mismatch (.wrongKind found .sequence)))
    (by
      intro head s rest value found
      split at found
      · exact length_of_collect found
      · simp at found)

/-- A map; a key that comes again keeps its place and takes the new value. -/
def orderedMap (value : Reader β) : Reader (OrderedMap β) :=
  ofHead
    (fun
      | .map, rest => collect '\x7d' value.mapEntry .empty .ok rest
      | found, _ => .error (.mismatch (.wrongKind found .map)))
    (by
      intro head s rest value found
      split at found
      · exact length_of_collect found
      · simp at found)

/-! ## Whole texts -/

/-- Reads a text that holds one value and nothing else. -/
def decode (reader : Reader α) (text : String) : Except ReadFault α :=
  match reader.run text.toList with
  | .error fault => .error fault
  | .ok (value, rest) => if skipBlank rest = [] then .ok value else .error .malformed

end Reader

end CharDispatch.Json
