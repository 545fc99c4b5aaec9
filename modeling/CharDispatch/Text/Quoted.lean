import CharDispatch.Text.Hex
import CharDispatch.Text.Unprintable

/-!
# Quoted characters and strings

Messages show the characters and strings they talk about in quotes.  The NUL,
tab, line feed and carriage return have short names, the quote in use and the
backslash are escaped, and characters that cannot be told apart by eye are
written as `\u` and their code point in braces.
-/

namespace CharDispatch.Quoted

/-- How `c` is written between two marks `quote`. -/
def escape (quote c : Char) : List Char :=
  if c = '\x00' then ['\\', '0']
  else if c = '\t' then ['\\', 't']
  else if c = '\n' then ['\\', 'n']
  else if c = '\r' then ['\\', 'r']
  else if c = quote ∨ c = '\\' then ['\\', c]
  else if Unprintable.contains c then
    ['\\', 'u', '\x7b'] ++ Hex.shortest c.toNat ++ ['\x7d']
  else [c]

/-- A character between apostrophes. -/
def char (c : Char) : String :=
  String.ofList ('\'' :: escape '\'' c ++ ['\''])

/-- A string between quotation marks. -/
def string (s : String) : String :=
  String.ofList ('"' :: s.toList.flatMap (escape '"') ++ ['"'])

example : char '\'' = "'\\''" ∧ char '"' = "'\"'" := by decide +kernel

example : string "it's \"e\u0301\"" = "\"it's \\\"e\\u\x7b301\x7d\\\"\"" := by
  decide +kernel

end CharDispatch.Quoted
