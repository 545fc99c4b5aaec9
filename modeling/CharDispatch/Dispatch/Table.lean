import CharDispatch.Dispatch
import CharDispatch.Text.Lines

/-!
# Dispatch tables

What a switch expression means: a list of arms, tried in order, and perhaps a
fallback.  `Table.read` finds the table in the text of an artifact, line by line
and with the literals of the language, so it knows nothing of how the text came
about.  A line inside the switch that is no arm makes the text unreadable.
-/

namespace CharDispatch.Dispatch

/-- The meaning of a switch expression. -/
structure Table where
  arms : List (Char × List Char)
  hasFallback : Bool
deriving DecidableEq, Repr

namespace Table

/-- The table without arms and fallback. -/
def empty : Table := ⟨[], false⟩

/-- Puts an arm in front of the others. -/
def withArm (arm : Char × List Char) (table : Table) : Table :=
  { table with arms := arm :: table.arms }

/-- Adds the fallback. -/
def withFallback (table : Table) : Table := { table with hasFallback := true }

/-- The string for a character: that of its first arm, or the character itself
by the fallback. -/
def evaluate (table : Table) (c : Char) : Option (List Char) :=
  match table.arms.find? fun arm => arm.1 == c with
  | some arm => some arm.2
  | none => if table.hasFallback then some [c] else none

/-- How many characters the character literal at the front of an arm takes. -/
def literalLength (text : List Char) : Nat :=
  match text with
  | '\'' :: '\\' :: 'u' :: _ => 8
  | '\'' :: '\\' :: _ => 4
  | _ => 3

/-- What follows `front` at the front of a text. -/
def dropFront? : (front text : List Char) → Option (List Char)
  | [], text => some text
  | f :: front, c :: text => if c = f then dropFront? front text else none
  | _ :: _, [] => none

/-- Reads an arm with its comma. -/
def readArm (line : List Char) : Option (Char × List Char) :=
  if line.getLast? = some ',' then do
    let text := line.dropLast
    let split := literalLength text
    let c ← Literal.readCharacter (text.take split)
    let string ← dropFront? " => ".toList (text.drop split)
    return (c, ← Literal.read '"' string)
  else none

/-- Reads a table from lines; `inside` says whether the switch has begun. -/
def readLines (inside : Bool) : List (List Char) → Option Table
  | [] => some empty
  | line :: rest =>
    let text := line.dropWhile (· == ' ')
    if text = "=> value switch".toList then readLines true rest
    else if !inside ∨ text = ['\x7b'] then readLines inside rest
    else if text = ['\x7d', ';'] then some empty
    else if text = "_ => value.ToString()".toList then (readLines inside rest).map withFallback
    else (readArm text).bind fun arm => (readLines inside rest).map (withArm arm)

/-- Reads the table of the first switch expression in a text. -/
def read (source : String) : Option Table :=
  readLines false (Text.portableLines source.toList)

end Table

end CharDispatch.Dispatch
