import CharDispatch.Json.Reader
import CharDispatch.Proofs.Json.Tokens

/-!
# Scalars read back

A reader takes a value for what it stands for if it does so for every text of the value,
whatever follows it (`Reader.Takes`).

* `Head.Stands`: the characters of a value have a head, and it is the whole value
  if that is a scalar (`Head.stands_quoted`, `Head.stands_numeral` and so on).
* `Value.WrittenAs.stands`: so it is in whatever way the scalar is written.
* `Reader.takes_string`, `Reader.takes_bool` and so on: the readers of scalars.
* `Reader.Takes.decode`: what is taken for a value is decoded as this value.
-/

namespace CharDispatch.Json

/-! ## Heads -/

theorem skipBlank_cons {c : Char} (rest : List Char) (plain : isBlank c = false) :
    skipBlank (c :: rest) = c :: rest := by
  rw [skipBlank, List.dropWhile_cons_of_neg (by simp [plain])]

theorem skipBlank_of_blank {c : Char} (rest : List Char) (blank : isBlank c = true) :
    skipBlank (c :: rest) = skipBlank rest := by
  rw [skipBlank, List.dropWhile_cons_of_pos blank, ← skipBlank]

theorem skipBlank_append {blanks : List Char} (isBlanks : IsBlanks blanks) (rest : List Char) :
    skipBlank (blanks ++ rest) = skipBlank rest := by
  rw [skipBlank, List.dropWhile_append_of_pos isBlanks, ← skipBlank]

namespace Head

theorem read_blank {c : Char} (rest : List Char) (blank : isBlank c = true) :
    read (c :: rest) = read rest := by
  rw [read, skipBlank_of_blank rest blank, ← read]

/-- Some characters have a given head, and nothing of them is left behind it. -/
def Stands (text : List Char) (head : Head) : Prop :=
  ∀ rest, Numeral.Stops rest → read (text ++ rest) = some (head, rest)

theorem stands_null : Stands "null".toList .null := fun _ _ => rfl

theorem stands_bool (value : Bool) :
    Stands (if value then "true" else "false").toList (.bool value) := by
  intro rest _
  cases value with
  | false => rfl
  | true => rfl

theorem stands_quoted {value : String} {chars : List Char}
    (written : StringText.WrittenAs value.toList chars) :
    Stands ('"' :: chars) (.string value) := by
  intro rest _
  rw [List.cons_append]
  change (StringText.read _).map _ = _
  rw [StringText.read_written written, Option.map_some]
  dsimp only
  rw [String.ofList_toList]

theorem stands_numeral {numeral : Numeral} {chars : List Char} {value : Number}
    (written : numeral.WrittenAs chars) (fits : numeral.number? = some value) :
    Stands chars (.number value) := by
  intro rest stops
  have whole := Numeral.read_written written stops
  rcases Numeral.exists_written written rest with ⟨c, tail, eq, start⟩
  rw [eq] at whole ⊢
  -- none of the other beginnings of a value is a beginning of a numeral
  have plain := start.plain
  unfold read
  rw [skipBlank_cons tail plain.1]
  split
  case h_1 eq => cases eq
  case h_8 =>
    rw [whole, Option.bind_some]
    dsimp only
    rw [fits, Option.map_some]
  all_goals
    next eq => simp [plain] at eq

theorem Stands.blank {text : List Char} {head : Head} {c : Char} (blank : isBlank c = true)
    (stands : Stands text head) : Stands (c :: text) head := by
  intro rest stops
  rw [List.cons_append, read_blank _ blank, stands rest stops]

end Head

/-- The head that is all of a scalar, unless this is a number that is too great. -/
def Value.head? : Value → Option Head
  | .null => some .null
  | .bool value => some (.bool value)
  | .number numeral => numeral.number?.map .number
  | .string value => some (.string value)
  | .array _ | .object _ => none

/-- In whatever way a scalar is written, its head is all of it. -/
theorem Value.WrittenAs.stands {json : Value} {text : List Char} {head : Head}
    (written : json.WrittenAs text) (scalar : json.head? = some head) :
    Head.Stands text head := by
  induction written with
  | blank blank _ ih => exact (ih scalar).blank blank
  | null =>
    cases scalar
    exact Head.stands_null
  | bool value =>
    cases scalar
    exact Head.stands_bool value
  | number written =>
    obtain ⟨value, fits, rfl⟩ := Option.map_eq_some_iff.1 scalar
    exact Head.stands_numeral written fits
  | string written =>
    cases scalar
    exact Head.stands_quoted written
  | array _ _ _ => cases scalar
  | object _ _ _ _ => cases scalar

/-! ## Readers -/

namespace Reader

variable {α β : Type} {reader : Reader α} {text : List Char} {head : Head} {value : α}
  {json : Value} {Writes : Value → Prop}

/-- A reader takes some characters for a value, whatever follows them. -/
def Reads (reader : Reader α) (text : List Char) (value : α) : Prop :=
  ∀ rest, Numeral.Stops rest → reader.run (text ++ rest) = .ok (value, rest)

/-- A reader takes some JSON values for a value, in whatever way they are written. -/
def Takes (reader : Reader α) (Writes : Value → Prop) (value : α) : Prop :=
  ∀ ⦃json : Value⦄, Writes json → ∀ ⦃text : List Char⦄, json.WrittenAs text →
    reader.Reads text value

theorem Reads.map (reads : reader.Reads text value) (f : α → β) :
    (reader.map f).Reads text (f value) := by
  intro rest stops
  unfold Reader.map
  dsimp only
  rw [reads rest stops]

theorem Takes.map (takes : reader.Takes Writes value) (f : α → β) :
    (reader.map f).Takes Writes (f value) :=
  fun _ writes _ written => (takes writes written).map f

theorem takes_ofHead {next : Head → List Char → Reading α}
    {keeps : ∀ {head : Head} {s rest : List Char} {value : α},
      next head s = .ok (value, rest) → rest.length ≤ s.length}
    (scalar : json.head? = some head) (found : ∀ rest, next head rest = .ok (value, rest)) :
    (ofHead next @keeps).Takes (· = json) value := by
  rintro _ rfl text written rest stops
  unfold ofHead
  dsimp only
  rw [written.stands scalar rest stops]
  exact found rest

theorem takes_scalar {accept : Head → Except Mismatch α} (stands : json.head? = some head)
    (accepted : accept head = .ok value) : (scalar accept).Takes (· = json) value := by
  unfold scalar
  refine takes_ofHead stands fun rest => ?_
  rw [accepted]

theorem takes_string (value : String) : string.Takes (· = .string value) value :=
  takes_scalar rfl rfl

theorem takes_bool (value : Bool) : bool.Takes (· = .bool value) value :=
  takes_scalar rfl rfl

theorem takes_size (value : UInt64) : size.Takes (· = .natural value.toNat) value := by
  have fits : value.toNat < Numeral.bound := value.toNat_lt
  have number : (Value.natural value.toNat).head? = some (.number (.natural value.toNat)) := by
    rw [Value.natural, Value.head?, Numeral.number?_ofNat fits, Option.map_some]
  exact takes_scalar number (congrArg Except.ok UInt64.ofNat_toNat)

theorem takes_character (c : Char) :
    character.Takes (· = .string (String.singleton c)) c := by
  refine takes_scalar rfl ?_
  dsimp only
  rw [String.toList_singleton]

theorem takes_optionalString (value : Option String) :
    optionalString.Takes (· = value.elim .null .string) value := by
  cases value with
  | none => exact takes_scalar rfl rfl
  | some value => exact takes_scalar rfl rfl

/-- What is taken for a value is decoded as this value, from each of its whole texts. -/
theorem Takes.decode (takes : reader.Takes Writes value) (writes : Writes json) {whole : String}
    (hasText : json.HasText whole) : reader.decode whole = .ok value := by
  rcases hasText with ⟨chars, blanks, written, isBlanks, eq⟩
  have stops := Numeral.stops_blanks isBlanks Numeral.stops_nil
  have done := skipBlank_append isBlanks []
  rw [List.append_nil] at stops done
  rw [Reader.decode, eq, takes writes written blanks stops]
  dsimp only
  rw [done]
  rfl

/-- A reader that takes the characters of a value decodes its text. -/
theorem decode_render (reads : reader.Reads json.chars value) :
    reader.decode json.render = .ok value := by
  have run := reads [] Numeral.stops_nil
  rw [List.append_nil] at run
  rw [decode, Value.render, String.toList_ofList, run]
  rfl

end Reader

end CharDispatch.Json
