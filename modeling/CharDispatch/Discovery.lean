import CharDispatch.Cancellation
import CharDispatch.Event
import CharDispatch.Host
import CharDispatch.Options

/-!
# Discovery

A pass asks its host which declarations carry the marker and visits them in
turn.  What comes of a visit depends on the host and on the declarations
visited before, not on the rest of the pass; so all visits are worked out first
(`Host.visits`), and a request to stop cuts the list of visits short
(`Cancellation.cut`).  The result, the calls and the events of the pass are
read off the visits that were made.
-/

namespace CharDispatch

/-- The named argument that lists the characters. -/
def optimizeForArgument : String := "OptimizeFor"

/-- The named argument that asks for the shared class. -/
def globalArgument : String := "Global"

/-- What a pass leaves behind: its outcome, the questions it put to its host
and the events it reported, each in order. -/
structure Pass (ι α : Type) where
  outcome : Except Fault α
  calls : List (Call ι)
  log : List Event

/-- What a discovery finds. -/
structure Discovery where
  /-- Whether the host knows the marker. -/
  markerResolved : Bool
  targets : List Target
  diagnostics : List Diagnostic
deriving DecidableEq, Repr

/-- What comes of a visit to a declaration. -/
inductive Finding where
  | repeated
  | unresolved
  | extracted (target : Target)
  | rejected (diagnostic : Diagnostic)
deriving DecidableEq, Repr

namespace Finding

/-- The target that was found. -/
def target? : Finding → Option Target
  | .extracted target => some target
  | _ => none

/-- The diagnostic that was found. -/
def diagnostic? : Finding → Option Diagnostic
  | .rejected diagnostic => some diagnostic
  | _ => none

/-- The event that reports the finding. -/
def event : Finding → Event
  | .repeated => .repeated
  | .unresolved => .unresolved
  | .extracted target => .extracted target
  | .rejected diagnostic => .diagnosed diagnostic

end Finding

/-- A visit to a declaration and what came of it. -/
structure Visit (ι : Type) where
  id : ι
  finding : Finding

/-- The questions that a visit puts to the host.  Nothing is asked about a
repeated declaration, and no arguments are read of an unresolved one. -/
def Visit.calls {ι : Type} (marker : String) (visit : Visit ι) : List (Call ι) :=
  match visit.finding with
  | .repeated => []
  | .unresolved => [.resolve visit.id]
  | .extracted _ | .rejected _ =>
    [.resolve visit.id, .argument visit.id marker optimizeForArgument,
      .argument visit.id marker globalArgument]

namespace Host

variable {ι : Type}

/-- The target of a resolved declaration, read off the arguments of the marker.
Arguments that are missing or of the wrong kind count as not given.  The
characters are checked first, then whether the declaration can have a private
helper if it asks for one. -/
def extract (host : Host ι) (marker : String) (id : ι) (declaration : ResolvedDeclaration) :
    Except Diagnostic Target :=
  let listed := (host.argument id marker optimizeForArgument).bind ArgumentValue.string?
  let characters := CharacterSet.effective listed
  let isGlobal := ((host.argument id marker globalArgument).bind ArgumentValue.bool?).getD false
  match CharacterSet.validate declaration.qualifiedName characters with
  | .error fault => .error ⟨declaration.qualifiedName, fault⟩
  | .ok () =>
    if !isGlobal && !declaration.visibility.isNamespaceLevel then
      .error ⟨declaration.qualifiedName,
        .nestedVisibility declaration.qualifiedName declaration.visibility⟩
    else
      .ok
        { name := declaration.name
          qualifiedName := declaration.qualifiedName
          scope := declaration.scope
          visibility := declaration.visibility
          characters
          isGlobal }

/-- What comes of a visit to a declaration that was not visited before. -/
def find (host : Host ι) (marker : String) (id : ι) : Finding :=
  match host.resolve id with
  | none => .unresolved
  | some declaration =>
    match host.extract marker id declaration with
    | .ok target => .extracted target
    | .error diagnostic => .rejected diagnostic

/-- The visits to `ids` in turn, when the declarations `earlier` were visited. -/
def visitsAfter [DecidableEq ι] (host : Host ι) (marker : String) (earlier : List ι) :
    List ι → List (Visit ι)
  | [] => []
  | id :: ids =>
    ⟨id, if id ∈ earlier then .repeated else host.find marker id⟩ ::
      host.visitsAfter marker (id :: earlier) ids

/-- The visits of a pass that nobody stops. -/
def visits [DecidableEq ι] (host : Host ι) (marker : String) : List (Visit ι) :=
  host.visitsAfter marker [] (host.annotated marker)

end Host

/-- The visits made before a request to stop is seen, and whether these are all.
The request is looked for before each visit; `calls` is the number of questions
put so far. -/
def Cancellation.cut {ι : Type} (cancellation : Cancellation) (marker : String) (calls : Nat) :
    List (Visit ι) → List (Visit ι) × Bool
  | [] => ([], true)
  | visit :: rest =>
    if cancellation.isRequested calls then ([], false)
    else
      let (made, complete) :=
        cancellation.cut marker (calls + (visit.calls marker).length) rest
      (visit :: made, complete)

/-- What the visits of a complete pass have found. -/
def Discovery.ofVisits {ι : Type} (visits : List (Visit ι)) : Discovery where
  markerResolved := true
  targets := visits.filterMap (·.finding.target?)
  diagnostics := visits.filterMap (·.finding.diagnostic?)

/-- Visits every declaration that carries the marker of the options.  A host
that does not know the marker is asked nothing else. -/
def discover {ι : Type} [DecidableEq ι] (host : Host ι) (options : Options)
    (cancellation : Cancellation) : Pass ι Discovery :=
  let marker := options.marker
  if host.knowsMarker marker then
    let (made, complete) := cancellation.cut marker 2 (host.visits marker)
    let found := Discovery.ofVisits made
    { outcome := if complete then .ok found else .error .cancelled
      calls := .knowsMarker marker :: .annotated marker :: made.flatMap (Visit.calls marker)
      log := made.map (·.finding.event) ++
        if complete then [.discovered found.targets.length found.diagnostics.length] else [] }
  else
    { outcome := .ok ⟨false, [], []⟩
      calls := [.knowsMarker marker]
      log := [.markerUnknown marker] }

end CharDispatch
