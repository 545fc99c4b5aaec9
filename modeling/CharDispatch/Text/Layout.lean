/-!
# Layouts

Generated source is a list of lines, each with its nesting depth.  A layout
becomes text in one place, `Layout.render`, which writes a margin in front of
every line and one step of indentation for every level of depth.  A line that
says nothing stays empty: it gets neither margin nor indentation.

* `Layout.chars_append`: layouts put one below the other render one after the
  other.
* `Layout.chars_deeper`: one more level of nesting is one more step of margin
  in front of every line.
* `Layout.chars_block`: a block is its opening, what is inside one step further
  in, and its closing.
-/

namespace CharDispatch

/-- A line of source: how many levels it is indented, and what it says. -/
structure Line where
  depth : Nat
  text : String
deriving DecidableEq, Repr

/-- Lines from top to bottom. -/
abbrev Layout := List Line

/-- The characters of `line` below `margin`, with `step` for every level, line
feed included. -/
def Line.chars (margin step : List Char) (line : Line) : List Char :=
  if line.text.isEmpty then ['\n']
  else margin ++ (List.replicate line.depth step).flatten ++ line.text.toList ++ ['\n']

theorem Line.chars_top (margin step : List Char) {text : String} (full : text.toList ≠ []) :
    Line.chars margin step ⟨0, text⟩ = margin ++ (text.toList ++ ['\n']) := by
  have said : ¬ text.isEmpty = true := by
    rw [String.isEmpty_iff, ← String.toList_eq_nil_iff]
    exact full
  rw [Line.chars, if_neg said]
  simp

namespace Layout

/-- The same lines, one level deeper. -/
def deeper (lines : Layout) : Layout :=
  lines.map fun line => { line with depth := line.depth + 1 }

/-- A brace block: what opens it, the lines inside, and what closes it. -/
def block (opening : String) (inner : Layout) (closing : String) : Layout :=
  ⟨0, opening⟩ :: ⟨0, "\x7b"⟩ :: deeper inner ++ [⟨0, closing⟩]

/-- The characters of a layout, every line with its line feed. -/
def chars (margin step : List Char) (lines : Layout) : List Char :=
  lines.flatMap (Line.chars margin step)

/-- The text of a layout below `margin`, indented by `step` for every level. -/
def render (margin step : String) (lines : Layout) : String :=
  String.ofList (chars margin.toList step.toList lines)

@[simp] theorem chars_nil (margin step : List Char) : chars margin step [] = [] := rfl

@[simp] theorem chars_cons (margin step : List Char) (line : Line) (lines : Layout) :
    chars margin step (line :: lines) =
      line.chars margin step ++ chars margin step lines := rfl

@[simp] theorem chars_append (margin step : List Char) (above below : Layout) :
    chars margin step (above ++ below) =
      chars margin step above ++ chars margin step below :=
  List.flatMap_append

/-- One more level is one more step of margin. -/
theorem chars_deeper (margin step : List Char) (lines : Layout) :
    chars margin step (deeper lines) = chars (margin ++ step) step lines := by
  induction lines with
  | nil => rfl
  | cons line lines ih =>
    simp only [deeper, List.map_cons, chars_cons] at ih ⊢
    rw [ih]
    simp [Line.chars, List.replicate_succ]

theorem chars_block (margin step : List Char) (opening closing : String) (inner : Layout) :
    chars margin step (block opening inner closing) =
      Line.chars margin step ⟨0, opening⟩ ++ (Line.chars margin step ⟨0, "\x7b"⟩ ++
        (chars (margin ++ step) step inner ++ Line.chars margin step ⟨0, closing⟩)) := by
  rw [block, List.cons_append, List.cons_append, chars_cons, chars_cons, chars_append,
    chars_deeper, chars_cons, chars_nil, List.append_nil]

end Layout

end CharDispatch
