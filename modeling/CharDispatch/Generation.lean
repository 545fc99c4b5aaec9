import CharDispatch.Artifact.Registry
import CharDispatch.Discovery

/-!
# Generation

Once discovery is complete, the marker definition is registered if the options
ask for it, then the artifact of every target in turn.  A target whose artifact
conflicts with an earlier one is dropped with a diagnostic.
-/

namespace CharDispatch

/-- What a generation leaves behind. -/
structure Generation where
  artifacts : Registry
  diagnostics : List Diagnostic
deriving DecidableEq

namespace Generation

/-- Registers the artifacts of `targets` in turn; conflicts become diagnostics. -/
def registerAll (options : Options) (registry : Registry) :
    List Target → Registry × List Diagnostic
  | [] => (registry, [])
  | target :: rest =>
    match registry.add (.ofTarget options target) with
    | .ok (_, registry) => registerAll options registry rest
    | .error fault =>
      let (registry, diagnostics) := registerAll options registry rest
      (registry, ⟨target.qualifiedName, fault⟩ :: diagnostics)

/-- The registry to which targets are added: it holds the marker definition if
the options ask for it. -/
def initial (options : Options) : Except Fault Registry :=
  if options.embedAttribute then
    (Registry.empty.add (.markerDefinition options)).map Prod.snd
  else .ok .empty

end Generation

/-- Discovers targets and renders and registers their artifacts.  Nothing is
rendered for a host that does not know the marker, or when the pass is stopped. -/
def generate {ι : Type} [DecidableEq ι] (host : Host ι) (options : Options)
    (cancellation : Cancellation) : Pass ι Generation :=
  let discovery := discover host options cancellation
  match discovery.outcome with
  | .error fault => { discovery with outcome := .error fault }
  | .ok found =>
    if found.markerResolved then
      match Generation.initial options with
      | .error fault => { discovery with outcome := .error fault }
      | .ok registry =>
        let (artifacts, conflicts) := Generation.registerAll options registry found.targets
        let diagnostics := found.diagnostics ++ conflicts
        { outcome := .ok { artifacts, diagnostics }
          calls := discovery.calls
          log := discovery.log ++ conflicts.map .diagnosed ++
            [.generated artifacts.size diagnostics.length] }
    else { discovery with outcome := .ok { artifacts := .empty, diagnostics := found.diagnostics } }

end CharDispatch
