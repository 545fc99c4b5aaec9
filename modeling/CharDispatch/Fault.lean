import CharDispatch.Text.Quoted
import CharDispatch.Visibility

/-!
# Faults

What can go wrong with one declaration, with registering an artifact, or with
a whole pass, and how each fault is worded.
-/

namespace CharDispatch

/-- Why a declaration, an artifact or a pass is refused. -/
inductive Fault where
  /-- A character is listed twice for one declaration. -/
  | duplicateCharacter (declaration : String) (character : Char)
  /-- A character needs two UTF-16 units, so it has no character literal. -/
  | unrepresentableCharacter (declaration : String) (character : Char)
  /-- Another text is already registered under the same name. -/
  | conflictingArtifact (hintName : String)
  /-- The pass was asked to stop. -/
  | cancelled
  /-- A private helper was asked for on a type that can only be nested. -/
  | nestedVisibility (declaration : String) (visibility : Visibility)
deriving DecidableEq, Repr

/-- The wording of a fault. -/
def Fault.message : Fault → String
  | .duplicateCharacter declaration character =>
    "'" ++ declaration ++ "': character " ++ Quoted.char character ++
      " appears more than once in OptimizeFor\n" ++
      "Help: every character may be listed only once"
  | .unrepresentableCharacter declaration character =>
    "'" ++ declaration ++ "': character " ++ Quoted.char character ++
      " lies outside the Basic Multilingual Plane and has no C# char literal"
  | .conflictingArtifact hintName =>
    "Conflicting artifact '" ++ hintName ++
      "': a different source was already registered under this name"
  | .cancelled => "Generation cancelled"
  | .nestedVisibility declaration visibility =>
    "'" ++ declaration ++ "': '" ++ visibility.keywords ++
      "' is only valid on nested types, which cannot receive a private helper\n" ++
      "Help: declare the type public or internal, or set Global = true"

end CharDispatch
