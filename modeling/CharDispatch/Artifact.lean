import CharDispatch.Artifact.Template

/-!
# Artifacts

An artifact is a generated source text and the name under which it is
registered.
-/

namespace CharDispatch

/-- A generated source text under its hint name. -/
structure Artifact where
  hintName : String
  source : String
deriving DecidableEq, Repr

namespace Artifact

/-- The artifact that a target asks for.  A private helper carries the name of
its declaration, the shared class only that of its scope. -/
def ofTarget (options : Options) (target : Target) : Artifact where
  hintName := options.hintName (if target.isGlobal then none else some target.name) target.scope
  source := Template.renderTarget options target

/-- The artifact that defines the marker. -/
def markerDefinition (options : Options) : Artifact where
  hintName := options.markerHintName
  source := Template.renderMarker options

end Artifact

end CharDispatch
