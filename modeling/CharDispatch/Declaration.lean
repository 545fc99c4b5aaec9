import CharDispatch.OrderedMap
import CharDispatch.Target

/-!
# Declarations

What a host has recorded of its declarations: the attributes that stand on
each with their named arguments, and what is known of the declared type.
-/

namespace CharDispatch

/-- The value of a named argument, as far as a pass looks at it. -/
inductive ArgumentValue where
  | null
  | bool (value : Bool)
  | string (value : String)
  /-- A value of a kind that no argument of the marker has. -/
  | other
deriving DecidableEq, Repr

namespace ArgumentValue

/-- The string that a value holds. -/
def string? : ArgumentValue → Option String
  | .string value => some value
  | _ => none

/-- The truth value that a value holds. -/
def bool? : ArgumentValue → Option Bool
  | .bool value => some value
  | _ => none

end ArgumentValue

/-- What the host knows of a declaration that it could resolve. -/
structure ResolvedDeclaration where
  name : String
  qualifiedName : String
  scope : String
  visibility : Visibility
deriving DecidableEq, Repr

/-- An attribute on a declaration. -/
structure AttributeEntry where
  name : String
  arguments : OrderedMap ArgumentValue
deriving DecidableEq

/-- A recorded declaration.  Without a name, the host could not resolve it. -/
structure DeclarationEntry where
  id : String
  name : Option String := none
  scope : String := ""
  visibility : Visibility := .public
  attributes : List AttributeEntry := []
deriving DecidableEq

namespace DeclarationEntry

/-- A public declaration in the global scope whose name is its id. -/
def named (name : String) : DeclarationEntry where
  id := name
  name := some name

/-- Gives the declaration another id. -/
def withId (entry : DeclarationEntry) (id : String) : DeclarationEntry := { entry with id }

/-- Moves the declaration to a scope. -/
def inScope (entry : DeclarationEntry) (scope : String) : DeclarationEntry := { entry with scope }

/-- Gives the declaration another visibility. -/
def withVisibility (entry : DeclarationEntry) (visibility : Visibility) : DeclarationEntry :=
  { entry with visibility }

/-- Records that the host could not resolve the declaration. -/
def unresolved (entry : DeclarationEntry) : DeclarationEntry := { entry with name := none }

/-- Puts an attribute behind those already there.  Of an argument given several
times the last value counts, in the place of the first. -/
def withAttribute (entry : DeclarationEntry) (name : String)
    (arguments : List (String × ArgumentValue)) : DeclarationEntry :=
  { entry with attributes := entry.attributes ++ [⟨name, .ofList arguments⟩] }

/-- The first attribute with the name of the marker. -/
def attribute? (entry : DeclarationEntry) (marker : String) : Option AttributeEntry :=
  entry.attributes.find? (·.name == marker)

/-- What is known of the declaration, if it has a name. -/
def resolved? (entry : DeclarationEntry) : Option ResolvedDeclaration :=
  entry.name.map fun name =>
    { name
      qualifiedName := qualifiedName entry.scope name
      scope := entry.scope
      visibility := entry.visibility }

end DeclarationEntry

/-- All recorded declarations, in the order of traversal. -/
structure DeclarationSet where
  /-- Whether the host knows the marker at all. -/
  markerAvailable : Bool := true
  declarations : List DeclarationEntry := []
deriving DecidableEq

namespace DeclarationSet

/-- No declarations, with the marker available. -/
def empty : DeclarationSet := {}

/-- Puts a declaration behind those already there. -/
def withDeclaration (set : DeclarationSet) (entry : DeclarationEntry) : DeclarationSet :=
  { set with declarations := set.declarations ++ [entry] }

/-- Records that the host does not know the marker. -/
def withoutMarker (set : DeclarationSet) : DeclarationSet := { set with markerAvailable := false }

/-- The first declaration with a given id. -/
def entry? (set : DeclarationSet) (id : String) : Option DeclarationEntry :=
  set.declarations.find? fun entry => entry.id == id

end DeclarationSet

end CharDispatch
