import CharDispatch.Dispatch.Table
import Mathlib.Data.List.Basic

/-!
# Reading switch expressions back

The reader of dispatch tables looks at lines one by one and takes no notice of
their indentation, so of a rendered layout it sees what the lines say
(`Table.read_render`).  An arm reads back as the character and its string
whatever the character is (`Table.readArm_arm`), no arm can be taken for another
line of the expression, and so the lines of a switch expression read back as its
characters (`Table.readLines_body`).
-/

namespace CharDispatch

/-! ## What the lines of a layout say -/

/-- The characters of a line below `margin`, without its line feed. -/
def Line.indented (margin step : List Char) (line : Line) : List Char :=
  if line.text.isEmpty then []
  else margin ++ (List.replicate line.depth step).flatten ++ line.text.toList

theorem Line.chars_eq_indented (margin step : List Char) (line : Line) :
    line.chars margin step = line.indented margin step ++ ['\n'] := by
  unfold Line.chars Line.indented
  split
  · rfl
  · rfl

/-- What the lines of a layout say, each without a carriage return at its end. -/
def Layout.words (lines : Layout) : List (List Char) :=
  lines.map fun line => Text.dropReturn line.text.toList

namespace Layout

@[simp] theorem words_cons (line : Line) (lines : Layout) :
    words (line :: lines) = Text.dropReturn line.text.toList :: words lines := rfl

@[simp] theorem words_append (above below : Layout) :
    words (above ++ below) = words above ++ words below := List.map_append

/-- Nesting changes nothing about what the lines say. -/
@[simp] theorem words_deeper (lines : Layout) : words (deeper lines) = words lines := by
  rw [words, deeper, List.map_map, words]
  rfl

theorem words_block (opening closing : String) (inner : Layout) :
    words (block opening inner closing) =
      Text.dropReturn opening.toList :: ['\x7b'] :: words inner ++
        [Text.dropReturn closing.toList] := by
  rw [block, List.cons_append, List.cons_append, words_cons, words_cons, words_append,
    words_deeper]
  rfl

theorem portableLines_chars {margin step : List Char} {lines : Layout}
    (noFeed : ∀ line ∈ lines, '\n' ∉ line.indented margin step) :
    Text.portableLines (chars margin step lines) =
      lines.map fun line => Text.dropReturn (line.indented margin step) := by
  induction lines with
  | nil => rfl
  | cons line lines ih =>
    have rest := ih fun other member => noFeed other (.tail _ member)
    rw [chars_cons, Line.chars_eq_indented, List.append_assoc, List.singleton_append,
      Text.portableLines_append (noFeed line (.head _)), rest, List.map_cons]

end Layout

/-! ## Lines without line feeds -/

/-- No line of a layout says a line feed. -/
def Layout.IsFeedless (lines : Layout) : Prop := ∀ line ∈ lines, '\n' ∉ line.text.toList

namespace Layout

@[simp] theorem isFeedless_cons {line : Line} {lines : Layout} :
    IsFeedless (line :: lines) ↔ '\n' ∉ line.text.toList ∧ IsFeedless lines :=
  List.forall_mem_cons

@[simp] theorem isFeedless_append {above below : Layout} :
    IsFeedless (above ++ below) ↔ IsFeedless above ∧ IsFeedless below :=
  List.forall_mem_append

@[simp] theorem isFeedless_deeper {lines : Layout} :
    IsFeedless (deeper lines) ↔ IsFeedless lines :=
  List.forall_mem_map

theorem isFeedless_nil : IsFeedless [] := nofun

/-- The lines of a block are what opens and closes it, the brace, and those inside. -/
theorem forall_mem_block {P : String → Prop} (brace : P "\x7b")
    {opening closing : String} {inner : Layout} :
    (∀ line ∈ block opening inner closing, P line.text) ↔
      P opening ∧ (∀ line ∈ inner, P line.text) ∧ P closing := by
  simp only [block, deeper, List.cons_append, List.forall_mem_cons, List.forall_mem_append,
    List.forall_mem_map, brace, true_and, List.not_mem_nil, false_implies, implies_true, and_true]

theorem isFeedless_block {opening closing : String} {inner : Layout} :
    IsFeedless (block opening inner closing) ↔
      '\n' ∉ opening.toList ∧ IsFeedless inner ∧ '\n' ∉ closing.toList := by
  have brace : '\n' ∉ "\x7b".toList := by decide
  unfold IsFeedless
  exact forall_mem_block (P := fun text => '\n' ∉ text.toList) brace

end Layout

/-! ## Texts and their characters -/

/-- A fixed text is checked through its characters: as a text it is an array of
bytes, which is slow to decode. -/
theorem Text.all_toList {text : String} {characters : List Char} {accepts : Char → Bool}
    (spelled : text = String.ofList characters) (all : characters.all accepts = true) :
    text.toList.all accepts = true := by
  rw [spelled, String.toList_ofList]
  exact all

/-! ## Indentation -/

theorem Text.mem_of_mem_dropReturn {line : List Char} {c : Char} (member : c ∈ dropReturn line) :
    c ∈ line := by
  unfold dropReturn at member
  split at member
  · exact List.dropLast_subset line member
  · exact member

theorem Text.dropReturn_concat {line : List Char} {c : Char} (other : c ≠ '\r') :
    dropReturn (line ++ [c]) = line ++ [c] := by
  have last : (line ++ [c]).getLast? ≠ some '\r' := by simpa using other
  rw [dropReturn, if_neg last]

theorem Text.dropReturn_append {front back : List Char} (full : back ≠ []) :
    dropReturn (front ++ back) = front ++ dropReturn back := by
  have last : (front ++ back).getLast? = back.getLast? :=
    List.getLast?_append_of_ne_nil front full
  unfold dropReturn
  rw [last]
  split
  · rw [List.dropLast_append_of_ne_nil full]
  · rfl

/-- Blanks in front of a line do not show once the line is trimmed. -/
theorem Text.trim_append {blanks : List Char} (blank : ∀ c ∈ blanks, c = ' ')
    (line : List Char) :
    (dropReturn (blanks ++ line)).dropWhile (· == ' ') =
      (dropReturn line).dropWhile (· == ' ') := by
  have spaces : ∀ c ∈ blanks, (c == ' ') = true := fun c member => beq_iff_eq.2 (blank c member)
  cases line with
  | nil =>
    have kept : dropReturn blanks = blanks := by
      refine if_neg fun last => ?_
      cases blank '\r' (List.mem_of_getLast? last)
    rw [List.append_nil, kept, ← List.append_nil blanks, List.dropWhile_append_of_pos spaces]
    rfl
  | cons c line =>
    rw [dropReturn_append (List.cons_ne_nil c line), List.dropWhile_append_of_pos spaces]

/-- The blanks that indent a line. -/
theorem blank_of_mem_indent {margin step : List Char} (blankMargin : ∀ c ∈ margin, c = ' ')
    (blankStep : ∀ c ∈ step, c = ' ') (depth : Nat) :
    ∀ c ∈ margin ++ (List.replicate depth step).flatten, c = ' ' := by
  intro c member
  rcases List.mem_append.1 member with outer | inner
  · exact blankMargin c outer
  · obtain ⟨level, repeated, inside⟩ := List.mem_flatten.1 inner
    exact blankStep c ((List.mem_replicate.1 repeated).2 ▸ inside)

/-- Blanks in front of the lines of a layout bring in no line feed. -/
theorem Layout.IsFeedless.indented {lines : Layout} (noFeed : lines.IsFeedless)
    {margin step : List Char} (blankMargin : ∀ c ∈ margin, c = ' ')
    (blankStep : ∀ c ∈ step, c = ' ') :
    ∀ line ∈ lines, '\n' ∉ line.indented margin step := by
  intro line member feed
  unfold Line.indented at feed
  split at feed
  · cases feed
  · rcases List.mem_append.1 feed with indent | said
    · cases blank_of_mem_indent blankMargin blankStep line.depth _ indent
    · exact noFeed line member said

namespace Dispatch.Table

/-- Reading depends on the trimmed lines only. -/
theorem readLines_congr {inside : Bool} {first second : List (List Char)}
    (same : first.map (·.dropWhile (· == ' ')) = second.map (·.dropWhile (· == ' '))) :
    readLines inside first = readLines inside second := by
  induction first generalizing inside second with
  | nil =>
    rw [List.map_nil] at same
    rw [List.map_eq_nil_iff.1 same.symm]
  | cons line first ih =>
    cases second with
    | nil => cases same
    | cons other second =>
      simp only [List.map_cons, List.cons.injEq] at same
      simp only [readLines, same.1, ih same.2]

/-- The reader sees what the lines of a layout say, however they are indented. -/
theorem read_render {margin step : String} {lines : Layout}
    (blankMargin : ∀ c ∈ margin.toList, c = ' ') (blankStep : ∀ c ∈ step.toList, c = ' ')
    (noFeed : lines.IsFeedless) :
    read (lines.render margin step) = readLines false lines.words := by
  rw [read, Layout.render, String.toList_ofList,
    Layout.portableLines_chars (noFeed.indented blankMargin blankStep)]
  apply readLines_congr
  rw [Layout.words, List.map_map, List.map_map]
  apply List.map_congr_left
  intro line _
  change (Text.dropReturn (line.indented _ _)).dropWhile _ = _
  unfold Line.indented
  split
  · next empty =>
    have nothing : line.text.toList = [] := by simpa using empty
    rw [Function.comp_apply, nothing]
  · rw [Text.trim_append (blank_of_mem_indent blankMargin blankStep line.depth)]
    rfl

/-! ## Arms -/

/-- The length of a character literal shows at its front. -/
theorem literalLength_write (c : Char) (rest : List Char) :
    literalLength (Literal.write '\'' c ++ rest) = (Literal.write '\'' c).length := by
  unfold Literal.write Literal.escape
  split
  · next marked =>
    rcases marked with rfl | rfl
    · rfl
    · rfl
  · next unmarked =>
    split
    · rfl
    · have plain : c ≠ '\\' := fun eq => unmarked (Or.inr eq)
      simp [literalLength, plain]

/-- Capital digits stand for themselves in a literal. -/
theorem capital_plain (n : Nat) :
    Hex.capital (n % 16) ≠ '\\' ∧ Hex.capital (n % 16) ≠ '\'' ∧ Hex.capital (n % 16) ≠ '"' ∧
      Literal.endsLine (Hex.capital (n % 16)) = false := by
  have all : ∀ k : Fin 16, Hex.capital k.val ≠ '\\' ∧ Hex.capital k.val ≠ '\'' ∧
      Hex.capital k.val ≠ '"' ∧ Literal.endsLine (Hex.capital k.val) = false := by decide
  exact all ⟨n % 16, by omega⟩

/-- Nothing inside a literal ends the line. -/
theorem endsLine_of_mem_escape {mark : Char} (kind : mark = '\'' ∨ mark = '"') {c d : Char}
    (member : d ∈ Literal.escape mark c) : Literal.endsLine d = false := by
  unfold Literal.escape at member
  split at member
  · next marked =>
    simp only [List.mem_cons, List.not_mem_nil, or_false] at member
    obtain rfl | rfl := member
    · rfl
    · obtain rfl | rfl := marked
      · obtain rfl | rfl := kind
        · rfl
        · rfl
      · rfl
  · split at member
    · simp only [Hex.four, List.mem_cons, List.not_mem_nil, or_false] at member
      obtain rfl | rfl | rfl | rfl | rfl | rfl := member
      · rfl
      · rfl
      all_goals exact (capital_plain _).2.2.2
    · next plain =>
      cases List.mem_singleton.1 member
      exact Bool.eq_false_iff.2 fun ends => plain (Literal.needsCode_of_endsLine ends)

theorem endsLine_of_mem_write {mark : Char} (kind : mark = '\'' ∨ mark = '"') {c d : Char}
    (member : d ∈ Literal.write mark c) : Literal.endsLine d = false := by
  have ends : Literal.endsLine mark = false := by
    obtain rfl | rfl := kind
    · rfl
    · rfl
  rw [Literal.write, List.mem_append, List.mem_cons, List.mem_singleton] at member
  obtain (rfl | inside) | rfl := member
  · exact ends
  · exact endsLine_of_mem_escape kind inside
  · exact ends

theorem feed_notMem_write {mark : Char} (kind : mark = '\'' ∨ mark = '"') (c : Char) :
    '\n' ∉ Literal.write mark c := by
  intro member
  cases endsLine_of_mem_write kind member

theorem dropFront?_append (front text : List Char) :
    dropFront? front (front ++ text) = some text := by
  induction front with
  | nil => cases text <;> rfl
  | cons c front ih => rw [List.cons_append, dropFront?, if_pos rfl, ih]

theorem toList_arm (c : Char) :
    (arm c ++ ",").toList =
      (Literal.write '\'' c ++ (" => ".toList ++ Literal.write '"' c)) ++ [','] := by
  simp only [arm, Literal.character, Literal.string, String.toList_append, String.toList_ofList,
    List.append_assoc]
  rfl

/-- An arm reads back as its character and the string of it. -/
theorem readArm_arm (c : Char) : readArm (arm c ++ ",").toList = some (c, [c]) := by
  have character : Literal.readCharacter (Literal.write '\'' c) = some c := by
    rw [Literal.readCharacter, Literal.read_write (Or.inl rfl)]
  rw [toList_arm, readArm, if_pos List.getLast?_concat, List.dropLast_concat]
  dsimp only
  rw [literalLength_write, List.take_left, List.drop_left, character, dropFront?_append]
  simp [Literal.read_write]

/-! ## Lines of a switch expression -/

/-- The line does not open a switch expression. -/
def IsOutside (line : List Char) : Prop := line.dropWhile (· == ' ') ≠ "=> value switch".toList

instance (line : List Char) : Decidable (IsOutside line) := inferInstanceAs (Decidable (_ ≠ _))

/-- Lines in front of the expression are passed over. -/
theorem readLines_skip {front : List (List Char)} (outside : ∀ line ∈ front, IsOutside line)
    (rest : List (List Char)) : readLines false (front ++ rest) = readLines false rest := by
  induction front with
  | nil => rfl
  | cons line front ih =>
    have tail := ih fun line member => outside line (.tail _ member)
    rw [List.cons_append, readLines, if_neg (outside line (.head _)),
      if_pos (Or.inl Bool.not_false), tail]

/-- A line of an arm adds the arm in front of those behind it.  It begins with
an apostrophe, as no other line of the expression does. -/
theorem readLines_arm (c : Char) (rest : List (List Char)) :
    readLines true ((arm c ++ ",").toList :: rest) =
      (readLines true rest).map (withArm (c, [c])) := by
  obtain ⟨tail, begins⟩ : ∃ tail, (arm c ++ ",").toList = '\'' :: tail := ⟨_, toList_arm c⟩
  have trimmed : (arm c ++ ",").toList.dropWhile (· == ' ') = (arm c ++ ",").toList := by
    rw [begins]
    rfl
  have apostrophe : ∀ line : List Char, line.head? ≠ some '\'' → (arm c ++ ",").toList ≠ line := by
    rintro line other rfl
    rw [begins] at other
    exact other rfl
  rw [readLines, trimmed, if_neg (apostrophe _ (by decide)), if_neg,
    if_neg (apostrophe _ (by decide)), if_neg (apostrophe _ (by decide)), readArm_arm]
  · rfl
  · intro skipped
    rcases skipped with outside | brace
    · cases outside
    · exact apostrophe _ (by decide) brace

theorem readLines_arms (characters : List Char) (rest : List (List Char)) :
    readLines true (characters.map (fun c => (arm c ++ ",").toList) ++ rest) =
      (readLines true rest).map fun table =>
        { table with arms := characters.map (fun c => (c, [c])) ++ table.arms } := by
  induction characters with
  | nil => exact Option.map_id_apply.symm
  | cons c characters ih =>
    rw [List.map_cons, List.cons_append, readLines_arm, ih, Option.map_map]
    rfl

theorem words_body (characters : List Char) :
    (body characters).words =
      "=> value switch".toList :: ['\x7b'] ::
        (characters.map (fun c => (arm c ++ ",").toList) ++
          ["_ => value.ToString()".toList]) ++ [['\x7d', ';']] := by
  have arms : Layout.words (characters.map fun c => ⟨0, arm c ++ ","⟩) =
      characters.map fun c => (arm c ++ ",").toList := by
    rw [Layout.words, List.map_map]
    apply List.map_congr_left
    intro c _
    rw [Function.comp_apply, toList_arm, Text.dropReturn_concat (by decide)]
  rw [body, Layout.words_block, Layout.words_append, arms]
  rfl

theorem isFeedless_body (characters : List Char) : (body characters).IsFeedless := by
  refine Layout.isFeedless_block.2 ⟨by decide, Layout.isFeedless_append.2 ⟨?_, ?_⟩, by decide⟩
  · intro line member
    obtain ⟨c, -, rfl⟩ := List.mem_map.1 member
    have character := feed_notMem_write (Or.inl rfl : '\'' = '\'' ∨ _) c
    have string := feed_notMem_write (Or.inr rfl : '"' = '\'' ∨ _) c
    rw [toList_arm]
    simp [character, string]
  · exact Layout.isFeedless_cons.2 ⟨by decide, Layout.isFeedless_nil⟩

/-- A switch expression reads back as an arm for every character and the
fallback, whatever follows it. -/
theorem readLines_body (characters : List Char) (rest : List (List Char)) :
    readLines false ((body characters).words ++ rest) =
      some ⟨characters.map fun c => (c, [c]), true⟩ := by
  have close : readLines true
      (["_ => value.ToString()".toList] ++ ([['\x7d', ';']] ++ rest)) = some ⟨[], true⟩ := rfl
  have opening (lines : List (List Char)) :
      readLines false ("=> value switch".toList :: ['\x7b'] :: lines) = readLines true lines := rfl
  rw [words_body, List.append_assoc, List.cons_append, List.cons_append, opening,
    List.append_assoc, readLines_arms, close, Option.map_some, List.append_nil]

/-- A table with an arm for every character evaluates to the string of any
character, by its arm or by the fallback. -/
theorem evaluate_arms (characters : List Char) (c : Char) :
    evaluate ⟨characters.map fun c => (c, [c]), true⟩ c = some [c] := by
  unfold evaluate
  split
  · next arm found =>
    obtain ⟨other, -, rfl⟩ := List.mem_map.1 (List.mem_of_find?_eq_some found)
    have same : other = c := by simpa using List.find?_some found
    rw [same]
  · rfl

end Dispatch.Table

end CharDispatch
