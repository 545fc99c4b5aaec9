import CharDispatch.Artifact
import CharDispatch.OrderedMap

/-!
# The registry of artifacts

Artifacts are registered under their hint names.  The first text under a name
stays; the same text again changes nothing, and another text is a conflict.
-/

namespace CharDispatch

/-- The registered artifacts, in the order of registration. -/
structure Registry where
  entries : OrderedMap String
deriving DecidableEq

namespace Registry

/-- The registry before any registration. -/
def empty : Registry := ⟨.empty⟩

/-- The text registered under a name. -/
def get? (registry : Registry) (hintName : String) : Option String :=
  registry.entries.get? hintName

/-- Registers `artifact` and says whether its name was new. -/
def add (registry : Registry) (artifact : Artifact) : Except Fault (Bool × Registry) :=
  match registry.get? artifact.hintName with
  | none => .ok (true, ⟨registry.entries.insert artifact.hintName artifact.source⟩)
  | some source =>
    if source = artifact.source then .ok (false, registry)
    else .error (.conflictingArtifact artifact.hintName)

/-- The number of registered artifacts. -/
def size (registry : Registry) : Nat := registry.entries.size

/-- Whether nothing is registered. -/
def isEmpty (registry : Registry) : Bool := registry.entries.isEmpty

/-- The registered names. -/
def hintNames (registry : Registry) : List String := registry.entries.keys

/-- The registered names with their texts. -/
def toList (registry : Registry) : List (String × String) := registry.entries.toList

/-- The registered artifacts. -/
def artifacts (registry : Registry) : List Artifact :=
  registry.toList.map fun entry => ⟨entry.1, entry.2⟩

/-- A loop over a registry goes through its artifacts. -/
instance {m : Type → Type} [Monad m] : ForIn m Registry Artifact where
  forIn registry := forIn registry.artifacts

end Registry

end CharDispatch
