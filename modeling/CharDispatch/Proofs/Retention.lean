import CharDispatch.Proofs.Accounting
import CharDispatch.Proofs.Offers
import CharDispatch.Proofs.TargetText

/-!
# No target is lost

The registry keeps what was offered first under a hint name, so the text of a
target is either the one in the registry at the end (`Generation.Keeps`) or was
refused when it was offered, and then a diagnostic says so.

* `Generation.refused_iff`: an offer is refused in its turn if and only if the
  text is not the one that is left in the end.
* `generate_keeps_or_reports`: what becomes of every target, where every artifact
  and every diagnostic of a generation comes from, and in which order they stand.
-/

namespace CharDispatch

namespace Generation

/-- The text of a target stands under its hint name. -/
def Keeps (generation : Generation) (options : Options) (target : Target) : Prop :=
  generation.artifacts.get? (Artifact.ofTarget options target).hintName =
    some (Artifact.ofTarget options target).source

instance (generation : Generation) (options : Options) :
    DecidablePred (generation.Keeps options) :=
  fun _ => inferInstanceAs (Decidable (_ = _))

/-! ## Offers that are refused -/

/-- Nothing that comes behind a target changes what is left under its hint name. -/
theorem get?_registerAll_own (options : Options) (registry : Registry)
    (before after : List Target) (target : Target) :
    (registerAll options registry (before ++ target :: after)).1.get?
        (Artifact.ofTarget options target).hintName =
      ((registerAll options registry before).1.get?
        (Artifact.ofTarget options target).hintName).or
          (some (Artifact.ofTarget options target).source) := by
  have split : (registerAll options registry (before ++ target :: after)).1 =
      (registerAll options (registerAll options registry before).1 (target :: after)).1 := by
    rw [fst_registerAll, fst_registerAll, fst_registerAll, List.foldl_append]
  rw [split, get?_registerAll, firstUnder_cons, if_pos rfl, Option.map_some]

/-- An offer is refused in its turn if and only if another text is left in the end. -/
theorem refused_iff (options : Options) (registry : Registry) (before after : List Target)
    (target : Target) :
    (registerAll options registry before).1.add (.ofTarget options target) =
        .error (.conflictingArtifact (Artifact.ofTarget options target).hintName) ↔
      (registerAll options registry (before ++ target :: after)).1.get?
          (Artifact.ofTarget options target).hintName ≠
        some (Artifact.ofTarget options target).source := by
  rw [get?_registerAll_own]
  cases held : (registerAll options registry before).1.get?
      (Artifact.ofTarget options target).hintName with
  | none =>
    rw [Registry.add_of_free held]
    exact iff_of_false nofun fun other => other rfl
  | some source =>
    rw [Option.some_or]
    by_cases same : source = (Artifact.ofTarget options target).source
    · rw [Registry.add_of_same (same ▸ held)]
      exact iff_of_false nofun fun other => other (congrArg some same)
    · rw [Registry.add_of_other held same]
      exact iff_of_true rfl fun eq => same (Option.some.inj eq)

/-- Something is left under the hint name of every target. -/
theorem exists_get?_ofDiscovery (options : Options) {found : Discovery} {target : Target}
    (resolved : found.markerResolved = true) (discovered : target ∈ found.targets) :
    ∃ source, (ofDiscovery options found).artifacts.get?
      (Artifact.ofTarget options target).hintName = some source := by
  rw [artifacts_ofDiscovery resolved]
  exact Registry.exists_get?_of_mem (mem_offered_iff.2 (.inr ⟨target, discovered, rfl⟩))

/-- The diagnostics of a generation are those of its discovery and then one for
every target that is not kept. -/
theorem diagnostics_ofDiscovery {options : Options} {found : Discovery}
    (resolved : found.markerResolved = true) :
    (ofDiscovery options found).diagnostics = found.diagnostics ++
      (found.targets.filter fun target => ¬ (ofDiscovery options found).Keeps options target).map
        (Target.conflict options) := by
  have run := conflicts_registerAll options (start options) found.targets
  unfold Keeps
  rw [ofDiscovery, if_pos resolved]
  exact congrArg (found.diagnostics ++ ·) run

/-- A target that is not kept is reported, and another text has its hint name. -/
theorem keeps_or_reports {options : Options} {found : Discovery} {target : Target}
    (resolved : found.markerResolved = true) (discovered : target ∈ found.targets) :
    (ofDiscovery options found).Keeps options target ∨
      target.conflict options ∈ (ofDiscovery options found).diagnostics ∧
        ∃ other, (ofDiscovery options found).artifacts.get?
            (Artifact.ofTarget options target).hintName = some other ∧
          other ≠ (Artifact.ofTarget options target).source := by
  by_cases kept : (ofDiscovery options found).Keeps options target
  · exact .inl kept
  · rcases exists_get?_ofDiscovery options resolved discovered with ⟨other, held⟩
    refine .inr ⟨?_, other, held, ?_⟩
    · rw [diagnostics_ofDiscovery resolved]
      refine List.mem_append_right _ (List.mem_map_of_mem ?_)
      exact List.mem_filter.2 ⟨discovered, decide_eq_true kept⟩
    · rintro rfl
      exact kept held

end Generation

variable {ι : Type} [DecidableEq ι]

theorem Host.discovery_markerResolved (host : Host ι) (marker : String) :
    (host.discovery marker).markerResolved = host.knowsMarker marker := by
  unfold discovery
  cases host.knowsMarker marker with
  | false => rfl
  | true => rfl

/-- A generation fails only when it is cancelled; the definition of the marker can
always be registered.  When a generation over a host that knows the marker
succeeds, every discovered target either has its text under its hint name, or is
reported as a conflict under its qualified name while another text stands there.
The diagnostics are those of the discovery and then one for each target whose
offer was refused, in the order of the targets.  The artifacts are the first ones
offered under their hint names, in the order of the offers, which begin with the
definition of the marker if the options ask for it; so each of them is that
definition, and then it is the first, or it comes from the first target with its
hint name. -/
theorem generate_keeps_or_reports (host : Host ι) (options : Options)
    (cancellation : Cancellation) :
    (∃ registry, Generation.initial options = .ok registry) ∧
    (∀ fault, (generate host options cancellation).outcome = .error fault →
      fault = .cancelled) ∧
    ∀ generation, (generate host options cancellation).outcome = .ok generation →
      host.knowsMarker options.marker = true →
      ∃ found, (discover host options cancellation).outcome = .ok found ∧
        (∀ target ∈ found.targets,
          generation.Keeps options target ∨
            target.conflict options ∈ generation.diagnostics ∧
              ∃ other, generation.artifacts.get? (Artifact.ofTarget options target).hintName =
                  some other ∧
                other ≠ (Artifact.ofTarget options target).source) ∧
        generation.diagnostics = found.diagnostics ++
          (found.targets.filter fun target => ¬ generation.Keeps options target).map
            (Target.conflict options) ∧
        (∀ before target after, found.targets = before ++ target :: after →
          ((Generation.registerAll options (Generation.start options) before).1.add
              (.ofTarget options target) =
                .error (.conflictingArtifact (Artifact.ofTarget options target).hintName) ↔
            ¬ generation.Keeps options target)) ∧
        generation.artifacts.artifacts =
          Artifact.firsts (Generation.offered options found.targets) ∧
        (options.embedAttribute = true →
          generation.artifacts.artifacts.head? = some (.markerDefinition options)) ∧
        ∀ artifact ∈ generation.artifacts.artifacts,
          (options.embedAttribute = true ∧ artifact = .markerDefinition options) ∨
            ∃ target, found.targets.find? (fun other =>
                (Artifact.ofTarget options other).hintName = artifact.hintName) = some target ∧
              artifact = .ofTarget options target := by
  refine ⟨⟨_, Generation.initial_eq_ok options⟩, ?_, ?_⟩
  · intro fault failed
    rw [outcome_generate] at failed
    split at failed
    · cases failed
      rfl
    · cases failed
  · intro generation generated knows
    rw [outcome_generate] at generated
    rw [outcome_discover]
    split at generated
    · cases generated
    · next undisturbed =>
      cases generated
      have resolved := (host.discovery_markerResolved options.marker).trans knows
      have listed : (host.generation options).artifacts.artifacts = Artifact.firsts
          (Generation.offered options (host.discovery options.marker).targets) := by
        rw [Host.generation, Generation.artifacts_ofDiscovery resolved,
          Registry.artifacts_offerAll]
      refine ⟨_, if_neg undisturbed, fun target => Generation.keeps_or_reports resolved,
        Generation.diagnostics_ofDiscovery resolved, ?_, listed, ?_,
        fun artifact => Generation.mem_artifacts⟩
      · intro before target after split
        have refused := Generation.refused_iff options (Generation.start options) before after
          target
        rw [← split] at refused
        unfold Host.generation Generation.Keeps
        rw [Generation.ofDiscovery, if_pos resolved]
        exact refused
      · intro embedded
        rw [listed, Generation.offered, if_pos embedded]
        rcases Artifact.firsts_cons (.markerDefinition options)
          ((host.discovery options.marker).targets.map (Artifact.ofTarget options)) with
          ⟨others, first⟩
        exact congrArg List.head? first

theorem generate_keeps_or_reports_assorted :
    DeclarationSet.assorted.host.knowsMarker Options.default.marker = true ∧
      ∃ generation, (generate DeclarationSet.assorted.host .default .never).outcome =
          .ok generation ∧
        generation.artifacts.artifacts.map Artifact.hintName =
          ["CharExtensionsAttribute.g.cs", "LexerCharExtensions.g.cs", "CharExtensions.g.cs"] ∧
        ⟨"Letters", .conflictingArtifact "CharExtensions.g.cs"⟩ ∈ generation.diagnostics := by
  have generated := outcome_generate_never DeclarationSet.assorted.host .default
  rcases (generate_keeps_or_reports DeclarationSet.assorted.host .default .never).2.2 _
    generated rfl with ⟨found, discovered, becomes, -, -, listed, -, -⟩
  rw [outcome_discover_never] at discovered
  cases discovered
  refine ⟨rfl, _, generated, ?_, ?_⟩
  · rw [listed]
    decide +kernel
  · let digits : Target := ⟨"Digits", "Digits", "", .public, ['0', '1'], true⟩
    let letters : Target := ⟨"Letters", "Letters", "", .public, ['a', 'b'], true⟩
    have name : (Artifact.ofTarget .default letters).hintName = "CharExtensions.g.cs" := by
      decide +kernel
    have first : Generation.firstUnder .default "CharExtensions.g.cs"
        (DeclarationSet.assorted.host.discovery Options.default.marker).targets =
          some digits := by decide +kernel
    have free : ¬ (Options.default.embedAttribute = true ∧
        "CharExtensions.g.cs" = Options.default.markerHintName) := by decide +kernel
    have refused : ¬ (DeclarationSet.assorted.host.generation .default).Keeps .default
        letters := by
      intro kept
      rw [Generation.Keeps, name, Host.generation, Generation.get?_ofDiscovery rfl, if_neg free,
        first] at kept
      have sameText : Template.renderTarget .default digits =
          Template.renderTarget .default letters ↔ digits.Agrees letters :=
        Template.renderTarget_eq_iff .default rfl rfl nofun
      exact absurd (sameText.1 (Option.some.inj kept)).1 (by decide)
    have discovered : letters ∈
        (DeclarationSet.assorted.host.discovery Options.default.marker).targets := by
      decide +kernel
    rcases becomes letters discovered with kept | reported
    · exact (refused kept).elim
    · rw [← name]
      exact reported.1

end CharDispatch
