/-!
# Lines of a text

A line ends at a line feed, which is not part of the line.  The last line need
not be ended.

* `lines_append`: a line without line feeds in front of a text is its first line.
* `lines_unlines`: lines without line feeds are the lines of their text.
* `portableLines_append`: where lines may also end at a carriage return and a
  line feed, the first line loses the carriage return at its end.
-/

namespace CharDispatch.Text

/-- The lines of a text. -/
def lines : List Char → List (List Char)
  | [] => []
  | c :: rest =>
    if c = '\n' then [] :: lines rest
    else
      match lines rest with
      | [] => [[c]]
      | first :: others => (c :: first) :: others

/-- The text of some lines, each of them ended. -/
def unlines (all : List (List Char)) : List Char := all.flatMap (· ++ ['\n'])

/-- The lines of a text in which a carriage return in front of a line feed is
part of the end of its line. -/
def portableLines : List Char → List (List Char)
  | [] => []
  | '\n' :: rest => [] :: portableLines rest
  | '\r' :: '\n' :: rest => [] :: portableLines rest
  | c :: rest =>
    match portableLines rest with
    | [] => [[c]]
    | first :: others => (c :: first) :: others

/-- A line without a carriage return at its end. -/
def dropReturn (line : List Char) : List Char :=
  if line.getLast? = some '\r' then line.dropLast else line

/-- A line that holds no line feed is the first line of the text it begins. -/
theorem lines_append {line : List Char} (noFeed : '\n' ∉ line) (rest : List Char) :
    lines (line ++ '\n' :: rest) = line :: lines rest := by
  induction line with
  | nil => simp [lines]
  | cons c line ih =>
    have tail := ih fun member => noFeed (.tail _ member)
    have other : c ≠ '\n' := fun eq => noFeed (eq ▸ .head _)
    rw [List.cons_append, lines, if_neg other, tail]

theorem dropReturn_cons {c d : Char} {line : List Char} :
    dropReturn (c :: d :: line) = c :: dropReturn (d :: line) := by
  unfold dropReturn
  rw [List.getLast?_cons_cons]
  split <;> rfl

/-- A line that holds no line feed is the first line of the text it begins, but
for a carriage return at its end. -/
theorem portableLines_append {line : List Char} (noFeed : '\n' ∉ line) (rest : List Char) :
    portableLines (line ++ '\n' :: rest) = dropReturn line :: portableLines rest := by
  induction line with
  | nil => simp [portableLines, dropReturn]
  | cons c line ih =>
    have tail := ih fun member => noFeed (.tail _ member)
    have other : c ≠ '\n' := fun eq => noFeed (eq ▸ .head _)
    cases line with
    | nil =>
      by_cases isReturn : c = '\r'
      · subst isReturn
        simp [portableLines, dropReturn]
      · simp [portableLines, dropReturn, isReturn]
    | cons d line =>
      have next : d ≠ '\n' := fun eq => noFeed (eq ▸ .tail _ (.head _))
      rw [List.cons_append, portableLines, tail, dropReturn_cons]
      · exact other
      · rintro rest' _ eq
        exact next (List.cons.inj eq).1

/-- Lines without line feeds are the lines of their text. -/
theorem lines_unlines {all : List (List Char)} (noFeed : ∀ line ∈ all, '\n' ∉ line) :
    lines (unlines all) = all := by
  induction all with
  | nil => rfl
  | cons line all ih =>
    have tail := ih fun other member => noFeed other (.tail _ member)
    rw [unlines, List.flatMap_cons, List.append_assoc, List.singleton_append,
      lines_append (noFeed line (.head _))]
    exact congrArg (line :: ·) tail

end CharDispatch.Text
