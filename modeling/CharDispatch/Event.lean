import CharDispatch.Target

/-!
# Events

A pass reports what it does as it goes.  Every event has a level, a wording and
named fields.
-/

namespace CharDispatch

/-- A fault of one declaration. -/
structure Diagnostic where
  /-- The qualified name of the declaration. -/
  declaration : String
  fault : Fault
deriving DecidableEq, Repr

/-- How much attention an event asks for. -/
inductive Level where
  | trace | debug | info | warn
deriving DecidableEq, Repr

/-- The value of a field of an event. -/
inductive FieldValue where
  | text (value : String)
  | count (value : Nat)
  | flag (value : Bool)
deriving DecidableEq, Repr

/-- What a pass reports. -/
inductive Event where
  /-- The host does not know the marker. -/
  | markerUnknown (marker : String)
  /-- A declaration came again. -/
  | repeated
  /-- The host could not resolve a declaration. -/
  | unresolved
  /-- A declaration has become a target. -/
  | extracted (target : Target)
  /-- A declaration is refused. -/
  | diagnosed (diagnostic : Diagnostic)
  /-- All declarations are visited. -/
  | discovered (targets diagnostics : Nat)
  /-- All targets are rendered and registered. -/
  | generated (artifacts diagnostics : Nat)
deriving DecidableEq, Repr

namespace Event

/-- The level of an event. -/
def level : Event → Level
  | .markerUnknown _ | .extracted _ => .debug
  | .repeated | .unresolved => .trace
  | .diagnosed _ => .warn
  | .discovered .. | .generated .. => .info

/-- The wording of an event. -/
def message : Event → String
  | .markerUnknown _ => "marker type not found, nothing to generate"
  | .repeated => "declaration visited twice, skipping"
  | .unresolved => "declaration has no semantic symbol, skipping"
  | .extracted _ => "extracted generation target"
  | .diagnosed diagnostic => diagnostic.fault.message
  | .discovered .. => "discovery finished"
  | .generated .. => "generation finished"

/-- The fields of an event. -/
def fields : Event → List (String × FieldValue)
  | .markerUnknown marker => [("marker", .text marker)]
  | .repeated | .unresolved => []
  | .extracted target =>
    [("target", .text target.qualifiedName), ("global", .flag target.isGlobal),
      ("characters", .count target.characters.length)]
  | .diagnosed diagnostic => [("declaration", .text diagnostic.declaration)]
  | .discovered targets diagnostics =>
    [("targets", .count targets), ("diagnostics", .count diagnostics)]
  | .generated artifacts diagnostics =>
    [("artifacts", .count artifacts), ("diagnostics", .count diagnostics)]

end Event

end CharDispatch
