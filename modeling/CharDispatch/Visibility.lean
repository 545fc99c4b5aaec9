/-!
# Visibility

How far a type can be seen.  Only a public or an internal type may stand
directly in a namespace; the other visibilities belong to nested types.
-/

namespace CharDispatch

/-- The declared visibility of a type. -/
inductive Visibility where
  | «public» | internal | «private» | «protected» | protectedInternal | privateProtected
deriving DecidableEq, Repr

namespace Visibility

/-- Every visibility, in the order in which messages list them. -/
def all : List Visibility :=
  [.public, .internal, .private, .protected, .protectedInternal, .privateProtected]

/-- The modifiers that declare a type with this visibility. -/
def keywords : Visibility → String
  | .public => "public"
  | .internal => "internal"
  | .private => "private"
  | .protected => "protected"
  | .protectedInternal => "protected internal"
  | .privateProtected => "private protected"

/-- The name of this visibility in stored configuration. -/
def name : Visibility → String
  | .public => "public"
  | .internal => "internal"
  | .private => "private"
  | .protected => "protected"
  | .protectedInternal => "protected-internal"
  | .privateProtected => "private-protected"

/-- Whether a type directly in a namespace may have this visibility. -/
def isNamespaceLevel : Visibility → Bool
  | .public | .internal => true
  | _ => false

/-- The visibility with a given stored name. -/
def ofName? (name : String) : Option Visibility :=
  all.find? fun visibility => visibility.name == name

theorem mem_all (visibility : Visibility) : visibility ∈ all := by
  cases visibility <;> decide

/-- A stored name reads back. -/
theorem ofName?_name (visibility : Visibility) : ofName? visibility.name = some visibility := by
  cases visibility <;> decide

end Visibility

end CharDispatch
