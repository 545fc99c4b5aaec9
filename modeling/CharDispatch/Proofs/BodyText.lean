import CharDispatch.Proofs.TargetText

/-!
# The text of a switch expression

The text of a switch expression below any blank margin has one line for every
character, between the lines that open it and those that close it
(`Dispatch.portableLines_render`).  No character gets out of its line: a literal
ends at the mark that was written behind it (`Literal.behind?_escape`), nothing
inside ends the line, and an arm begins as no other line does.  So the text
decodes to the characters it was made from (`Dispatch.render_decodes`).
-/

namespace CharDispatch

/-! ## Where a literal ends -/

/-- What stands behind a literal whose opening mark has been passed.  A backslash
takes the next character with it; the first mark that is left ends the literal. -/
def Literal.behind? (mark : Char) : List Char → Option (List Char)
  | [] => none
  | '\\' :: _ :: rest => behind? mark rest
  | c :: rest => if c = mark then some rest else behind? mark rest

theorem Literal.behind?_cons {mark c : Char} (notSlash : c ≠ '\\') (notMark : c ≠ mark)
    (rest : List Char) : behind? mark (c :: rest) = behind? mark rest := by
  rw [behind?, if_neg notMark]
  rintro _ _ rfl
  exact absurd rfl notSlash

/-- A literal ends at its own closing mark, whatever character it holds and
whatever follows. -/
theorem Literal.behind?_escape {mark : Char} (kind : mark = '\'' ∨ mark = '"') (c : Char)
    (rest : List Char) : behind? mark (escape mark c ++ mark :: rest) = some rest := by
  have closes : behind? mark (mark :: rest) = some rest := by
    obtain rfl | rfl := kind
    · rfl
    · rfl
  have digit (n : Nat) : Hex.capital (n % 16) ≠ '\\' ∧ Hex.capital (n % 16) ≠ mark := by
    obtain ⟨notSlash, notApostrophe, notQuote, -⟩ := Dispatch.Table.capital_plain n
    obtain rfl | rfl := kind
    · exact ⟨notSlash, notApostrophe⟩
    · exact ⟨notSlash, notQuote⟩
  unfold escape
  split
  · exact closes
  · next other =>
    obtain ⟨notMark, notSlash⟩ := not_or.1 other
    split
    · simp only [Hex.four, List.cons_append, List.nil_append, behind?]
      rw [behind?_cons (digit _).1 (digit _).2, behind?_cons (digit _).1 (digit _).2,
        behind?_cons (digit _).1 (digit _).2, behind?_cons (digit _).1 (digit _).2]
      exact closes
    · rw [List.singleton_append, behind?_cons notSlash notMark]
      exact closes

/-! ## The lines of the expression -/

/-- A line that does not end in a carriage return is read with its indentation. -/
theorem Line.dropReturn_indented (margin step : List Char) (depth : Nat) {text : String}
    (full : text.toList ≠ []) (ends : text.toList.getLast? ≠ some '\r') :
    Text.dropReturn (Line.indented margin step ⟨depth, text⟩) =
      margin ++ (List.replicate depth step).flatten ++ text.toList := by
  have said : ¬ text.isEmpty = true := by
    rw [String.isEmpty_iff, ← String.toList_eq_nil_iff]
    exact full
  rw [indented, if_neg said, Text.dropReturn, List.getLast?_append_of_ne_nil _ full, if_neg ends]

namespace Dispatch

/-- The lines of a switch expression that are no arms. -/
def frame : List String := ["=> value switch", "\x7b", "_ => value.ToString()", "\x7d;"]

/-- The lines of a switch expression below `margin`. -/
def bodyLines (margin step : List Char) (characters : List Char) : List (List Char) :=
  (margin ++ "=> value switch".toList) :: (margin ++ ['\x7b']) ::
    characters.map (fun c => margin ++ step ++ (arm c ++ ",").toList) ++
    [margin ++ step ++ "_ => value.ToString()".toList, margin ++ ['\x7d', ';']]

/-- An arm begins with an apostrophe, and no other line does. -/
theorem arm_notMem_frame (c : Char) : arm c ++ "," ∉ frame := by
  have begins : (arm c ++ ",").toList.head? = some '\'' := by
    rw [Table.toList_arm]
    rfl
  have differ : ∀ line ∈ frame, line.toList.head? ≠ some '\'' := by decide
  intro member
  exact differ _ member begins

/-- The lines of the text of a switch expression are the two that open it, one for
every character, and the two that close it. -/
theorem portableLines_render {margin step : String}
    (blankMargin : ∀ c ∈ margin.toList, c = ' ') (blankStep : ∀ c ∈ step.toList, c = ' ')
    (characters : List Char) :
    Text.portableLines (render margin step characters).toList =
      bodyLines margin.toList step.toList characters := by
  have feedless := (Table.isFeedless_body characters).indented blankMargin blankStep
  have outer (text : String) (full : text.toList ≠ [])
      (ends : text.toList.getLast? ≠ some '\r') :
      Text.dropReturn (Line.indented margin.toList step.toList ⟨0, text⟩) =
        margin.toList ++ text.toList := by
    rw [Line.dropReturn_indented _ _ 0 full ends]
    simp
  have inner (text : String) (full : text.toList ≠ [])
      (ends : text.toList.getLast? ≠ some '\r') :
      Text.dropReturn (Line.indented margin.toList step.toList ⟨1, text⟩) =
        margin.toList ++ step.toList ++ text.toList := by
    rw [Line.dropReturn_indented _ _ 1 full ends]
    simp
  have arms : (characters.map fun c => Text.dropReturn
      (Line.indented margin.toList step.toList ⟨1, arm c ++ ","⟩)) =
        characters.map fun c => margin.toList ++ step.toList ++ (arm c ++ ",").toList := by
    refine List.map_congr_left fun c _ => inner _ ?_ ?_
    · rw [Table.toList_arm]
      exact List.append_ne_nil_of_right_ne_nil _ (List.cons_ne_nil ',' [])
    · rw [Table.toList_arm, List.getLast?_concat]
      decide
  have discard : ("_ => " ++ fallback) = "_ => value.ToString()" := by decide
  rw [render, Layout.render, String.toList_ofList, Layout.portableLines_chars feedless, body,
    Layout.block, Layout.deeper, discard]
  simp only [List.map_append, List.map_map, List.map_cons, List.map_nil, List.cons_append,
    Function.comp_def, Nat.zero_add]
  rw [arms, outer _ (by decide) (by decide), outer _ (by decide) (by decide),
    inner _ (by decide) (by decide), outer _ (by decide) (by decide)]
  simp [bodyLines]

/-- The text of a switch expression below a margin of blanks decodes to an arm for
every character, in their order, and the fallback.  It has a line for every
character and four others; every literal ends at its own closing mark, nothing
inside one ends the line, and no arm is another line of the expression.  Texts below
one margin are equal only for equal lists of characters. -/
theorem render_decodes {margin step : String} (blankMargin : ∀ c ∈ margin.toList, c = ' ')
    (blankStep : ∀ c ∈ step.toList, c = ' ') (characters : List Char) :
    Table.read (render margin step characters) =
        some ⟨characters.map fun c => (c, [c]), true⟩ ∧
      Text.portableLines (render margin step characters).toList =
        bodyLines margin.toList step.toList characters ∧
      (∀ c ∈ characters, arm c ++ "," ∉ frame ∧
        ∀ mark, mark = '\'' ∨ mark = '"' →
          (∀ rest, Literal.behind? mark (Literal.escape mark c ++ mark :: rest) = some rest) ∧
          ∀ d ∈ Literal.write mark c, Literal.endsLine d = false) ∧
      Function.Injective (render margin step) ∧ Function.Injective renderPlain := by
  have injective (margin step : String) : Function.Injective (render margin step) := by
    intro first second same
    rw [render, render, Layout.render, Layout.render, String.ofList_inj] at same
    exact Template.chars_body_inj (congrArg (· ++ []) same)
  refine ⟨?_, portableLines_render blankMargin blankStep characters, ?_, injective margin step,
    injective "" "    "⟩
  · have reads := Table.readLines_body characters []
    rw [List.append_nil] at reads
    rw [render, Table.read_render blankMargin blankStep (Table.isFeedless_body characters), reads]
  · intro c _
    refine ⟨arm_notMem_frame c, fun mark kind => ⟨Literal.behind?_escape kind c, ?_⟩⟩
    intro d member
    exact Table.endsLine_of_mem_write kind member

/-- Every kind of literal and of character that occurs in the syntax, an astral
character and a repeated one. -/
theorem render_decodes_marks :
    (∀ c ∈ "  ".toList, c = ' ') ∧ (∀ c ∈ " ".toList, c = ' ') ∧
      Table.read (render "  " " " ['\'', '"', '\\', ',', '\n', '\u2028', '😀', '_', '_']) =
        some ⟨[('\'', ['\'']), ('"', ['"']), ('\\', ['\\']), (',', [',']), ('\n', ['\n']),
          ('\u2028', ['\u2028']), ('😀', ['😀']), ('_', ['_']), ('_', ['_'])], true⟩ := by
  have blankMargin : ∀ c ∈ "  ".toList, c = ' ' := by
    intro c member
    change c ∈ List.replicate 2 ' ' at member
    exact (List.mem_replicate.1 member).2
  have blankStep : ∀ c ∈ " ".toList, c = ' ' := fun c member => List.mem_singleton.1 member
  exact ⟨blankMargin, blankStep, (render_decodes blankMargin blankStep _).1⟩

end Dispatch

end CharDispatch
