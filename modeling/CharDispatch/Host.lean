import CharDispatch.Declaration

/-!
# Hosts

A pass asks its host four questions.  A host answers each of them the same way
whenever it is asked, so it is a record of functions; recorded declarations are
one such host.
-/

namespace CharDispatch

/-- The answers of a host whose declarations are identified by `ι`. -/
structure Host (ι : Type) where
  /-- Whether the marker is known at all. -/
  knowsMarker : (marker : String) → Bool
  /-- The declarations that carry the marker, in the order of traversal; an id
  may come several times. -/
  annotated : (marker : String) → List ι
  /-- What is known of a declaration. -/
  resolve : ι → Option ResolvedDeclaration
  /-- A named argument of the marker on a declaration. -/
  argument : ι → (marker key : String) → Option ArgumentValue

/-- A question put to a host. -/
inductive Call (ι : Type) where
  | knowsMarker (marker : String)
  | annotated (marker : String)
  | resolve (id : ι)
  | argument (id : ι) (marker key : String)
deriving DecidableEq, Repr

/-- Recorded declarations as a host.  A declaration is looked up by its id, and
the first with that id answers. -/
def DeclarationSet.host (set : DeclarationSet) : Host String where
  knowsMarker _ := set.markerAvailable
  annotated marker :=
    (set.declarations.filter fun entry => (entry.attribute? marker).isSome).map (·.id)
  resolve id := (set.entry? id).bind DeclarationEntry.resolved?
  argument id marker key :=
    (set.entry? id).bind fun entry =>
      (entry.attribute? marker).bind fun applied => applied.arguments.get? key

end CharDispatch
