import CharDispatch.Json.Record
import CharDispatch.Proofs.Json.Scalars
import Mathlib.Data.List.Forall2

/-!
# Containers read back

What stands inside a container is a row of texts with commas between them.  A reader of a
container goes through the row and changes its state with each text (`Reader.Passes`), so a
container reads back if every text in it does.

* `Value.WrittenAs.inside_array`, `Value.WrittenAs.inside_object`: behind its opening mark, a
  written container holds texts of its items or members.
* `Reader.collect_of_passes`: reading the inside of a container.
* `Reader.takes_list`, `Reader.takes_orderedMap`: sequences and maps, with what is kept of
  each value.
* `Shape.reads_written`: records.
-/

namespace CharDispatch.Json

namespace Value

/-! ## What stands inside a written container -/

/-- The characters of a member of an object. -/
def MemberWrittenAs (member : String × Value) (text : List Char) : Prop :=
  ∃ front back, KeyWrittenAs member.1 front ∧ member.2.WrittenAs back ∧ text = front ++ back

/-- Behind its opening mark, a written array holds texts of its items. -/
theorem WrittenAs.inside_array {items : List Value} {text : List Char}
    (written : (Value.array items).WrittenAs text) :
    ∃ texts chars, List.Forall₂ WrittenAs items texts ∧ Inside ']' texts chars ∧
      ∀ rest, Head.read (text ++ rest) = some (.sequence, chars ++ rest) := by
  generalize eq : Value.array items = json at written
  induction written with
  | @blank _ c chars blank _ ih =>
    rcases ih eq with ⟨texts, chars, written, inside, head⟩
    refine ⟨texts, chars, written, inside, fun rest => ?_⟩
    rw [List.cons_append, Head.read_blank _ blank, head]
  | @array items chars written inside _ =>
    cases eq
    refine ⟨_, chars, ?_, inside, fun rest => rfl⟩
    rw [List.forall₂_map_left_iff, List.forall₂_map_right_iff]
    exact List.forall₂_same.2 written
  | null | bool | number | string | object => cases eq

/-- Behind its opening mark, a written object holds texts of its members. -/
theorem WrittenAs.inside_object {members : List (String × Value)} {text : List Char}
    (written : (Value.object members).WrittenAs text) :
    ∃ texts chars, List.Forall₂ MemberWrittenAs members texts ∧ Inside '\x7d' texts chars ∧
      ∀ rest, Head.read (text ++ rest) = some (.map, chars ++ rest) := by
  generalize eq : Value.object members = json at written
  induction written with
  | @blank _ c chars blank _ ih =>
    rcases ih eq with ⟨texts, chars, written, inside, head⟩
    refine ⟨texts, chars, written, inside, fun rest => ?_⟩
    rw [List.cons_append, Head.read_blank _ blank, head]
  | @object members chars keys values inside _ =>
    cases eq
    refine ⟨_, chars, ?_, inside, fun rest => rfl⟩
    rw [List.forall₂_map_left_iff, List.forall₂_map_right_iff]
    exact List.forall₂_same.2 fun member listed =>
      ⟨_, _, keys member listed, values member listed, rfl⟩
  | null | bool | number | string | array => cases eq

/-! ## How texts open -/

/-- A text begins neither with a blank nor with a closing mark. -/
def Opens (text : List Char) : Prop :=
  ∃ c tail, text = c :: tail ∧ isBlank c = false ∧ c ≠ ']' ∧ c ≠ '\x7d'

/-- A text that opens is not changed by leaving out the blanks in front. -/
theorem Opens.skipBlank {text : List Char} (opens : Opens text) : Opens (skipBlank text) := by
  have whole := opens
  rcases opens with ⟨c, tail, rfl, plain, -⟩
  rw [skipBlank_cons tail plain]
  exact whole

theorem opens_of_key {key : String} {front : List Char} (written : KeyWrittenAs key front)
    (back : List Char) : Opens (Json.skipBlank (front ++ back)) := by
  rcases written with ⟨before, quoted, behind, blanks, -, -, rfl⟩
  rw [List.append_assoc, skipBlank_append blanks]
  exact Opens.skipBlank ⟨'"', _, rfl, by decide⟩

theorem WrittenAs.opens {value : Value} {text : List Char} (written : value.WrittenAs text) :
    Opens (Json.skipBlank text) := by
  induction written with
  | blank blank _ ih => rwa [skipBlank_of_blank _ blank]
  | null => exact Opens.skipBlank ⟨'n', _, rfl, by decide⟩
  | bool value =>
    cases value with
    | false => exact Opens.skipBlank ⟨'f', _, rfl, by decide⟩
    | true => exact Opens.skipBlank ⟨'t', _, rfl, by decide⟩
  | number written =>
    rcases Numeral.exists_written written [] with ⟨c, tail, eq, start⟩
    rcases start.plain with ⟨plain, -, -, -, -, -, -, notClosing⟩
    exact Opens.skipBlank ⟨c, tail, (List.append_nil _).symm.trans eq, plain, notClosing⟩
  | string => exact Opens.skipBlank ⟨'"', _, rfl, by decide⟩
  | array => exact Opens.skipBlank ⟨'[', _, rfl, by decide⟩
  | object => exact Opens.skipBlank ⟨'\x7b', _, rfl, by decide⟩

theorem opens_of_items {items : List Value} {texts : List (List Char)}
    (written : List.Forall₂ WrittenAs items texts) :
    ∀ text ∈ texts, Opens (Json.skipBlank text) := by
  induction written with
  | nil => nofun
  | cons first _ ih => exact List.forall_mem_cons.2 ⟨first.opens, ih⟩

theorem opens_of_members {members : List (String × Value)} {texts : List (List Char)}
    (written : List.Forall₂ MemberWrittenAs members texts) :
    ∀ text ∈ texts, Opens (Json.skipBlank text) := by
  induction written with
  | nil => nofun
  | cons first _ ih =>
    rcases first with ⟨front, back, key, -, rfl⟩
    exact List.forall_mem_cons.2 ⟨opens_of_key key back, ih⟩

end Value

theorem after?_self {mark : Char} (rest : List Char) (plain : isBlank mark = false) :
    after? mark (mark :: rest) = some rest := by
  rw [after?, skipBlank_cons rest plain]
  exact if_pos rfl

theorem after?_other {mark c : Char} (rest : List Char) (plain : isBlank c = false)
    (other : c ≠ mark) : after? mark (c :: rest) = none := by
  rw [after?, skipBlank_cons rest plain]
  exact if_neg other

/-- Blanks in front of a mark do not count. -/
theorem after?_append {blanks : List Char} (isBlanks : IsBlanks blanks) (mark : Char)
    (rest : List Char) : after? mark (blanks ++ rest) = after? mark rest := by
  rw [after?, skipBlank_append isBlanks, ← after?]

namespace Reader

variable {α β σ : Type}

/-! ## Rows of texts -/

/-- Going through a row of texts, item by item, changes one state into another. -/
inductive Passes (item : σ → Reader σ) : σ → List (List Char) → σ → Prop
  | nil {state : σ} : Passes item state [] state
  | cons {state changed final : σ} {text : List Char} {texts : List (List Char)} :
    (item state).Reads text changed → Passes item changed texts final →
    Passes item state (text :: texts) final

section Items

variable {close : Char} {item : σ → Reader σ} {state changed : σ} {s rest : List Char}

theorem items_of_comma {next : List Char} (read : (item state).run s = .ok (changed, rest))
    (comma : after? ',' rest = some next) :
    items close item state s = items close item changed next := by
  rw [items]
  split
  · next wrong => cases read.symm.trans wrong
  · next same =>
    cases read.symm.trans same
    split
    · next found => cases comma.symm.trans found; rfl
    · next missing => cases comma.symm.trans missing

theorem items_of_close {final : List Char} (read : (item state).run s = .ok (changed, rest))
    (comma : after? ',' rest = none) (closed : after? close rest = some final) :
    items close item state s = .ok (changed, final) := by
  rw [items]
  split
  · next wrong => cases read.symm.trans wrong
  · next same =>
    cases read.symm.trans same
    split
    · next found => cases comma.symm.trans found
    · rw [closed]

end Items

/-- What closes a container. -/
def IsClosing (close : Char) : Prop := close = ']' ∨ close = '\x7d'

theorem IsClosing.plain {close : Char} (closing : IsClosing close) :
    isBlank close = false ∧ close ≠ ',' ∧
      Numeral.digit? close = none ∧ close ≠ '.' ∧ close ≠ 'e' ∧ close ≠ 'E' := by
  rcases closing with rfl | rfl
  · decide
  · decide

variable {close : Char} {item : σ → Reader σ} {start final : σ} {texts : List (List Char)}

/-- What opens does not close. -/
theorem after?_of_opens {text : List Char} (closing : IsClosing close)
    (opens : Value.Opens (skipBlank text)) (rest : List Char) :
    after? close (text ++ rest) = none := by
  rcases opens with ⟨c, tail, eq, plain, notBracket, notBrace⟩
  have other : c ≠ close := by
    rcases closing with rfl | rfl
    · exact notBracket
    · exact notBrace
  have split : skipBlank (text ++ rest) = c :: (tail ++ rest) := by
    unfold skipBlank at eq ⊢
    rw [List.dropWhile_append, eq]
    rfl
  rw [after?, split]
  exact if_neg other

theorem stops_of_further (closing : IsClosing close) {chars : List Char}
    (further : Further close texts chars) (rest : List Char) : Numeral.Stops (chars ++ rest) := by
  cases further with
  | close isBlanks =>
    rw [List.append_assoc]
    exact Numeral.stops_blanks isBlanks (Numeral.stops_cons closing.plain.2.2)
  | comma isBlanks _ =>
    rw [List.append_assoc]
    exact Numeral.stops_blanks isBlanks (Numeral.stops_cons (by decide))

theorem items_of_passes (closing : IsClosing close) {changed : σ} {text chars : List Char}
    (further : Further close texts chars) (first : (item start).Reads text changed)
    (passes : Passes item changed texts final) (rest : List Char) :
    items close item start (text ++ (chars ++ rest)) = .ok (final, rest) := by
  -- what stands behind a text cannot go on a numeral at its end, so the text is read as a whole
  induction further generalizing start changed text with
  | @close blanks isBlanks =>
    cases passes with
    | nil =>
      have read := first _ (stops_of_further closing (.close isBlanks) rest)
      rw [List.append_assoc, List.singleton_append] at read ⊢
      refine items_of_close read ?_ ?_
      · rw [after?_append isBlanks]
        exact after?_other rest closing.plain.1 closing.plain.2.1
      · rw [after?_append isBlanks]
        exact after?_self rest closing.plain.1
  | @comma blanks next chars texts isBlanks further ih =>
    cases passes with
    | cons second passes =>
      have more : Further close (next :: texts) (blanks ++ ',' :: (next ++ chars)) :=
        .comma isBlanks further
      have read := first _ (stops_of_further closing more rest)
      rw [List.append_assoc, List.cons_append, List.append_assoc] at read ⊢
      have comma : after? ',' (blanks ++ ',' :: (next ++ (chars ++ rest))) =
          some (next ++ (chars ++ rest)) := by
        rw [after?_append isBlanks]
        exact after?_self _ (by decide)
      rw [items_of_comma read comma]
      exact ih second passes

theorem contents_of_passes (closing : IsClosing close) {chars : List Char}
    (inside : Inside close texts chars) (passes : Passes item start texts final)
    (opens : ∀ text ∈ texts, Value.Opens (skipBlank text)) (rest : List Char) :
    contents close item start (chars ++ rest) = .ok (final, rest) := by
  unfold contents
  cases inside with
  | none isBlanks =>
    cases passes with
    | nil =>
      rw [List.append_assoc, after?_append isBlanks, List.singleton_append,
        after?_self rest closing.plain.1]
  | some further =>
    cases passes with
    | cons first passes =>
      rw [List.append_assoc, after?_of_opens closing (opens _ (.head _))]
      exact items_of_passes closing further first passes rest

/-- The inside of a container reads as what is made of the last state. -/
theorem collect_of_passes {finish : σ → Except Mismatch α} {value : α} {chars : List Char}
    (closing : IsClosing close) (inside : Inside close texts chars)
    (passes : Passes item start texts final)
    (opens : ∀ text ∈ texts, Value.Opens (skipBlank text)) (finished : finish final = .ok value)
    (rest : List Char) :
    collect close item start finish (chars ++ rest) = .ok (value, rest) := by
  rw [collect, contents_of_passes closing inside passes opens]
  dsimp only
  rw [finished]

/-- A member reads as its value does for the reader that the key chooses. -/
theorem reads_member {choose : String → Except Mismatch (Reader α)} {reader : Reader α}
    {key : String} {front back : List Char} {value : α} (written : KeyWrittenAs key front)
    (chosen : choose key = .ok reader) (reads : reader.Reads back value) :
    (keyed choose).Reads (front ++ back) value := by
  intro rest stops
  rcases written with ⟨before, quoted, behind, blanks, text, blanksBehind, rfl⟩
  have regroup : before ++ '"' :: (quoted ++ (behind ++ [':'])) ++ back ++ rest =
      before ++ ('"' :: quoted ++ (behind ++ ':' :: (back ++ rest))) := by simp
  have head : Head.read (before ++ ('"' :: quoted ++ (behind ++ ':' :: (back ++ rest)))) =
      some (.string key, behind ++ ':' :: (back ++ rest)) := by
    rw [Head.read, skipBlank_append blanks, ← Head.read]
    exact Head.stands_quoted text _
      (Numeral.stops_blanks blanksBehind (Numeral.stops_cons (by decide)))
  rw [regroup]
  unfold keyed
  dsimp only
  rw [head]
  dsimp only
  rw [chosen]
  dsimp only
  rw [after?_append blanksBehind, after?_self _ (by decide)]
  exact reads rest stops

/-! ## Sequences and maps -/

/-- An array that writes some items, each on its own. -/
def WritesItems (Writes : β → Value → Prop) (xs : List β) (json : Value) : Prop :=
  ∃ items, json = .array items ∧ List.Forall₂ Writes xs items

theorem writesItems_map {Writes : β → Value → Prop} {toJson : β → Value}
    (writes : ∀ x, Writes x (toJson x)) (xs : List β) :
    WritesItems Writes xs (.array (xs.map toJson)) := by
  refine ⟨_, rfl, ?_⟩
  rw [List.forall₂_map_right_iff]
  exact List.forall₂_same.2 fun x _ => writes x

section Items

variable {item : Reader α} {Writes : β → Value → Prop} {keep : β → α}

theorem passes_items (takes : ∀ x, item.Takes (Writes x) (keep x)) {xs : List β}
    {items : List Value} {texts : List (List Char)} (writes : List.Forall₂ Writes xs items)
    (written : List.Forall₂ Value.WrittenAs items texts) (collected : List α) :
    Passes item.listItem collected texts ((xs.map keep).reverse ++ collected) := by
  induction writes generalizing texts collected with
  | nil =>
    cases written
    exact .nil
  | @cons x _ xs _ first _ ih =>
    cases written with
    | cons firstWritten others =>
      refine .cons ((takes x first firstWritten).map _) ?_
      rw [List.map_cons, List.reverse_cons, List.append_assoc]
      exact ih others (keep x :: collected)

/-- An array that writes some items is taken for the list of what is kept of them. -/
theorem takes_list (takes : ∀ x, item.Takes (Writes x) (keep x)) (xs : List β) :
    (list item).Takes (WritesItems Writes xs) (xs.map keep) := by
  rintro _ ⟨items, rfl, writes⟩ text written
  rcases written.inside_array with ⟨texts, chars, itemsWritten, inside, head⟩
  have passes := passes_items takes writes itemsWritten []
  rw [List.append_nil] at passes
  intro rest _
  unfold list ofHead
  dsimp only
  rw [head rest]
  refine collect_of_passes (.inl rfl) inside passes (Value.opens_of_items itemsWritten) ?_ rest
  rw [List.reverse_reverse]

end Items

section Entries

variable {item : Reader α} {keep : Value → α} {members : List (String × Value)}

theorem passes_entries {texts : List (List Char)}
    (takes : ∀ member ∈ members, item.Takes (· = member.2) (keep member.2))
    (written : List.Forall₂ Value.MemberWrittenAs members texts) (collected : OrderedMap α) :
    Passes item.mapEntry collected texts
      ((members.map fun member => (member.1, keep member.2)).foldl
        (fun m entry => m.insert entry.1 entry.2) collected) := by
  induction written generalizing collected with
  | nil => exact .nil
  | cons first _ ih =>
    rcases first with ⟨front, back, key, value, rfl⟩
    obtain ⟨firstTakes, others⟩ := List.forall_mem_cons.1 takes
    exact .cons (reads_member key rfl ((firstTakes rfl value).map _)) (ih others _)

/-- An object is taken for the map of what is kept of its values, entry by entry. -/
theorem takes_orderedMap
    (takes : ∀ member ∈ members, item.Takes (· = member.2) (keep member.2)) :
    (orderedMap item).Takes (· = .object members)
      (OrderedMap.ofList (members.map fun member => (member.1, keep member.2))) := by
  rintro _ rfl text written
  rcases written.inside_object with ⟨texts, chars, membersWritten, inside, head⟩
  intro rest _
  unfold orderedMap ofHead
  dsimp only
  rw [head rest]
  exact collect_of_passes (.inr rfl) inside (passes_entries takes membersWritten .empty)
    (Value.opens_of_members membersWritten) rfl rest

end Entries

end Reader

/-! ## Records -/

namespace Shape

variable {σ α : Type}

/-- An object whose members lead to a draft of a record reads as that record, in whatever
way it is written. -/
theorem reads_written {shape : Shape σ α} {members : List (String × Value)} {text : List Char}
    {final : σ} {value : α} (written : (Value.object members).WrittenAs text)
    (passes : ∀ texts, List.Forall₂ Value.MemberWrittenAs members texts →
      Reader.Passes shape.member shape.start texts final)
    (finished : shape.finish final = .ok value) : shape.reader.Reads text value := by
  rcases written.inside_object with ⟨texts, chars, membersWritten, inside, head⟩
  have done : shape.finishMap final = .ok value := by rw [finishMap, finished]
  intro rest _
  unfold reader Reader.ofHead
  dsimp only
  rw [head rest]
  exact Reader.collect_of_passes (.inr rfl) inside (passes texts membersWritten)
    (Value.opens_of_members membersWritten) done rest

end Shape

end CharDispatch.Json
