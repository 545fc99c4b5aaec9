import CharDispatch.CharacterSet

/-!
# Targets

A target is all that a renderer needs to know of one declaration.
-/

namespace CharDispatch

/-- A name inside a scope; the empty scope is the global one. -/
def qualifiedName (scope name : String) : String :=
  if scope.isEmpty then name else scope ++ "." ++ name

/-- The configuration of one artifact. -/
structure Target where
  name : String
  qualifiedName : String
  /-- The dotted namespace, empty for the global one. -/
  scope : String
  visibility : Visibility
  characters : List Char
  /-- Whether the shared class is asked for instead of a private helper. -/
  isGlobal : Bool
deriving DecidableEq, Repr

namespace Target

/-- A public declaration that asks for a private helper over the standard set. -/
def named (name scope : String) : Target where
  name := name
  qualifiedName := CharDispatch.qualifiedName scope name
  scope := scope
  visibility := .public
  characters := CharacterSet.effective none
  isGlobal := false

/-- Gives the declaration another visibility. -/
def withVisibility (target : Target) (visibility : Visibility) : Target :=
  { target with visibility }

/-- Serves the listed characters, or the standard set if none is listed. -/
def withCharacters (target : Target) (listed : String) : Target :=
  { target with characters := CharacterSet.effective (some listed) }

/-- Chooses between the shared class and a private helper. -/
def withGlobal (target : Target) (isGlobal : Bool) : Target := { target with isGlobal }

end Target

end CharDispatch
