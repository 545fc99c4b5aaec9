import CharDispatch.Literal
import CharDispatch.Text.Layout

/-!
# Dispatch bodies

The body of a generated method is a switch expression: an arm for every
character of the set, in the order of the set, then the fallback, which
converts any other character in the ordinary way.
-/

namespace CharDispatch.Dispatch

/-- The expression for characters without an arm. -/
def fallback : String := "value.ToString()"

/-- The arm that maps `c` to the string of `c`. -/
def arm (c : Char) : String := Literal.character c ++ " => " ++ Literal.string c

/-- The switch expression over `characters`. -/
def body (characters : List Char) : Layout :=
  Layout.block "=> value switch"
    (characters.map (fun c => ⟨0, arm c ++ ","⟩) ++ [⟨0, "_ => " ++ fallback⟩])
    "\x7d;"

/-- The text of the switch expression below `margin`, its arms one `step` deeper. -/
def render (margin step : String) (characters : List Char) : String :=
  (body characters).render margin step

/-- What is written so far, and behind it the text of the switch expression. -/
def renderBehind (written margin step : String) (characters : List Char) : String :=
  written ++ render margin step characters

/-- The text of the switch expression on its own. -/
def renderPlain (characters : List Char) : String := render "" "    " characters

end CharDispatch.Dispatch
