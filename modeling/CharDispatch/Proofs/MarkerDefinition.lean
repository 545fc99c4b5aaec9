import CharDispatch.Proofs.HintName
import CharDispatch.Proofs.Identity
import CharDispatch.Proofs.Retention

/-!
# Generations with and without the definition of the marker

When the options ask for it, the definition of the marker is offered to the registry
in front of the artifacts of all targets.  So it takes its hint name away from every
target that would have had it (`Target.IsNamedLikeMarker`), and as its text is none
that a target asks for (`Template.renderMarker_ne_renderTarget`), each of these is
refused.  Under other names nothing changes.

* `Options.hintName_eq_markerHintName_iff`: the short name of the marker holds no
  dot, so only an artifact without scope can share its hint name.
* `generate_embedding`: what the definition adds to a generation, and what it takes.
-/

namespace CharDispatch

/-! ## The hint name of the definition -/

namespace Options

theorem eq_empty_of_noDot {scope : String} (noDot : '.' ∉ front scope) : scope = "" := by
  unfold front at noDot
  split at noDot
  · next isEmpty => exact String.isEmpty_iff.1 isEmpty
  · exact (noDot (List.mem_append_right _ (List.mem_singleton.2 rfl))).elim

/-- An artifact has the hint name of the definition if and only if it has no scope
and the rest of its name is the short name of the marker. -/
theorem hintName_eq_markerHintName_iff (options : Options) (declaration : Option String)
    (scope : String) :
    options.hintName declaration scope = options.markerHintName ↔
      scope = "" ∧ declaration.getD "" ++ options.artifactName = options.markerShortName := by
  have parts : options.hintName declaration scope = options.markerHintName ↔
      front scope ++ ((declaration.getD "").toList ++ options.artifactName.toList) =
        options.markerShortName.toList := by
    rw [← String.toList_inj, toList_hintName, markerHintName, String.toList_append,
      String.toList_append, List.append_assoc (options.markerShortName.toList),
      ← List.append_assoc, List.append_left_inj, List.append_assoc]
  rw [parts]
  constructor
  · intro same
    have noDot : '.' ∉ front scope := fun member =>
      options.shortName_noDot (same ▸ List.mem_append_left _ member)
    have global := eq_empty_of_noDot noDot
    rw [global] at same
    exact ⟨global, String.toList_inj.1 ((String.toList_append).trans same)⟩
  · rintro ⟨rfl, same⟩
    rw [← same, String.toList_append]
    rfl

end Options

/-- A target that has the hint name of the marker definition: it stands in the global
scope, and its own name, if its artifact carries that, makes up the short name of the
marker together with the part that all artifacts share. -/
def Target.IsNamedLikeMarker (options : Options) (target : Target) : Prop :=
  target.scope = "" ∧
    (if target.isGlobal then "" else target.name) ++ options.artifactName =
      options.markerShortName

instance (options : Options) : DecidablePred (Target.IsNamedLikeMarker options) :=
  fun _ => inferInstanceAs (Decidable (_ ∧ _))

theorem Artifact.hintName_eq_marker_iff (options : Options) (target : Target) :
    (ofTarget options target).hintName = (markerDefinition options).hintName ↔
      target.IsNamedLikeMarker options := by
  refine (options.hintName_eq_markerHintName_iff _ _).trans ?_
  unfold Target.IsNamedLikeMarker
  cases target.isGlobal with
  | true => exact Iff.rfl
  | false => exact Iff.rfl

/-! ## Generations with and without the definition -/

namespace Generation

/-- A generation that has registered the artifacts of some targets refuses that of the
next. -/
def Refuses (options : Options) (before : List Target) (target : Target) : Prop :=
  (registerAll options (start options) before).1.add (.ofTarget options target) =
    .error (.conflictingArtifact (Artifact.ofTarget options target).hintName)

/-- The targets that are refused are those that are not kept. -/
theorem refuses_iff {options : Options} {found : Discovery}
    (resolved : found.markerResolved = true) {before after : List Target} {target : Target}
    (split : found.targets = before ++ target :: after) :
    Refuses options before target ↔ ¬ (ofDiscovery options found).Keeps options target := by
  have refused := refused_iff options (start options) before after target
  rw [← split] at refused
  unfold Refuses Keeps
  rw [ofDiscovery, if_pos resolved]
  exact refused

section Embedding

variable (options : Options) {found : Discovery} (resolved : found.markerResolved = true)
include resolved

/-- The definition of the marker comes first, and under other names stands what would
stand there without it. -/
theorem artifacts_withEmbedAttribute :
    (ofDiscovery (options.withEmbedAttribute true) found).artifacts.artifacts =
      .markerDefinition options ::
        (ofDiscovery (options.withEmbedAttribute false) found).artifacts.artifacts.filter
          fun artifact => artifact.hintName ≠ (Artifact.markerDefinition options).hintName := by
  rw [artifacts_ofDiscovery resolved, artifacts_ofDiscovery resolved,
    Registry.artifacts_offerAll, Registry.artifacts_offerAll]
  exact Artifact.firsts_cons_filter (.markerDefinition options)
    (found.targets.map (Artifact.ofTarget options))

/-- With the definition, a target is kept if it is kept without and has another name. -/
theorem keeps_withEmbedAttribute_iff (target : Target) :
    (ofDiscovery (options.withEmbedAttribute true) found).Keeps options target ↔
      ¬ target.IsNamedLikeMarker options ∧
        (ofDiscovery (options.withEmbedAttribute false) found).Keeps options target := by
  have artifacts := artifacts_withEmbedAttribute options resolved
  rw [← Artifact.hintName_eq_marker_iff]
  by_cases named : (Artifact.ofTarget options target).hintName =
      (Artifact.markerDefinition options).hintName
  · refine iff_of_false (fun kept => ?_) fun kept => kept.1 named
    have first : Artifact.markerDefinition options ∈
        (ofDiscovery (options.withEmbedAttribute true) found).artifacts.artifacts := by
      rw [artifacts]
      exact List.mem_cons_self
    rw [Registry.mem_artifacts_iff, ← named] at first
    exact Template.renderMarker_ne_renderTarget options target
      (Option.some.inj (first.symm.trans kept))
  · let keeps (name : String) : Bool := name ≠ (Artifact.markerDefinition options).hintName
    have same : ((ofDiscovery (options.withEmbedAttribute true) found).artifacts.artifacts.filter
        fun artifact => keeps artifact.hintName) =
          (ofDiscovery (options.withEmbedAttribute false) found).artifacts.artifacts.filter
            fun artifact => keeps artifact.hintName := by
      rw [artifacts, List.filter_cons_of_neg (by simp [keeps]), List.filter_filter]
      refine List.filter_congr fun artifact _ => ?_
      exact Bool.and_self _
    have texts := (Registry.agree_of_filter_artifacts same).2 _ (decide_eq_true named)
    unfold Keeps
    rw [texts]
    exact (and_iff_right named).symm

/-- With the definition, a target is lost if it is named like the marker or is lost
without. -/
theorem not_keeps_withEmbedAttribute_iff (target : Target) :
    ¬ (ofDiscovery (options.withEmbedAttribute true) found).Keeps options target ↔
      target.IsNamedLikeMarker options ∨
        ¬ (ofDiscovery (options.withEmbedAttribute false) found).Keeps options target := by
  rw [keeps_withEmbedAttribute_iff options resolved, not_and_or, not_not]

/-- With the definition, the conflicts reported are those of the targets that are
named like the marker, and those reported without. -/
theorem diagnostics_withEmbedAttribute :
    (ofDiscovery (options.withEmbedAttribute true) found).diagnostics =
      found.diagnostics ++ (found.targets.filter fun target =>
        target.IsNamedLikeMarker options ∨
          ¬ (ofDiscovery (options.withEmbedAttribute false) found).Keeps options target).map
            (Target.conflict options) := by
  rw [← List.filter_congr fun target _ =>
    decide_eq_decide.2 (not_keeps_withEmbedAttribute_iff options resolved target)]
  exact diagnostics_ofDiscovery resolved

/-- Where no target is named like the marker, the definition is put in front and
nothing else changes. -/
theorem withEmbedAttribute_of_unlike
    (unlike : ∀ target ∈ found.targets, ¬ target.IsNamedLikeMarker options) :
    (ofDiscovery (options.withEmbedAttribute true) found).artifacts.artifacts =
        .markerDefinition options ::
          (ofDiscovery (options.withEmbedAttribute false) found).artifacts.artifacts ∧
      (ofDiscovery (options.withEmbedAttribute true) found).diagnostics =
        (ofDiscovery (options.withEmbedAttribute false) found).diagnostics := by
  constructor
  · rw [artifacts_withEmbedAttribute options resolved]
    refine congrArg _ (List.filter_eq_self.2 fun artifact member => ?_)
    rcases mem_artifacts member with ⟨embedded, -⟩ | ⟨target, first, rfl⟩
    · cases embedded
    · refine decide_eq_true fun named => ?_
      exact unlike target (of_firstUnder first).1
        ((Artifact.hintName_eq_marker_iff options target).1 named)
  · rw [diagnostics_withEmbedAttribute options resolved, diagnostics_ofDiscovery resolved]
    refine congrArg (fun targets => found.diagnostics ++ targets.map (Target.conflict options))
      (List.filter_congr fun target member => decide_eq_decide.2 ?_)
    exact or_iff_right (unlike target member)

end Embedding

end Generation

variable {ι : Type} [DecidableEq ι]

/-- Over a host that knows the marker, a generation that embeds the definition of the
marker and one that does not go by the same discovery.  A target has the hint name of
the definition if and only if it is named like the marker, and never the text of the
definition.  If no target is so named, the definition stands in front of the artifacts
that are there without it, and the diagnostics are the same.  In any case the
definition comes first and the artifacts under other names follow as they are without
it; a target is refused if it is named like the marker or is refused without the
definition too, and the diagnostics of the generation report just these. -/
theorem generate_embedding (host : Host ι) (options : Options)
    (knows : host.knowsMarker options.marker = true) :
    ∃ found left right,
      (discover host (options.withEmbedAttribute true) .never).outcome = .ok found ∧
      (discover host (options.withEmbedAttribute false) .never).outcome = .ok found ∧
      (generate host (options.withEmbedAttribute true) .never).outcome = .ok left ∧
      (generate host (options.withEmbedAttribute false) .never).outcome = .ok right ∧
      (∀ target ∈ found.targets,
        ((Artifact.ofTarget options target).hintName =
            (Artifact.markerDefinition options).hintName ↔ target.IsNamedLikeMarker options) ∧
        (Artifact.ofTarget options target).source ≠
          (Artifact.markerDefinition options).source) ∧
      ((∀ target ∈ found.targets, ¬ target.IsNamedLikeMarker options) →
        left.artifacts.artifacts = .markerDefinition options :: right.artifacts.artifacts ∧
        left.diagnostics = right.diagnostics) ∧
      left.artifacts.artifacts = .markerDefinition options ::
        right.artifacts.artifacts.filter (fun artifact =>
          artifact.hintName ≠ (Artifact.markerDefinition options).hintName) ∧
      (∀ before target after, found.targets = before ++ target :: after →
        (Generation.Refuses (options.withEmbedAttribute true) before target ↔
          target.IsNamedLikeMarker options ∨
            Generation.Refuses (options.withEmbedAttribute false) before target)) ∧
      left.diagnostics = found.diagnostics ++
        (found.targets.filter fun target =>
          target.IsNamedLikeMarker options ∨ ¬ right.Keeps options target).map
            (Target.conflict options) ∧
      right.diagnostics = found.diagnostics ++
        (found.targets.filter fun target => ¬ right.Keeps options target).map
          (Target.conflict options) := by
  have resolved : (host.discovery options.marker).markerResolved = true :=
    (host.discovery_markerResolved options.marker).trans knows
  have discovered (embed : Bool) :=
    outcome_discover_never host (options.withEmbedAttribute embed)
  have generated (embed : Bool) :=
    outcome_generate_never host (options.withEmbedAttribute embed)
  refine ⟨_, _, _, discovered true, discovered false, generated true, generated false, ?_,
    Generation.withEmbedAttribute_of_unlike options resolved,
    Generation.artifacts_withEmbedAttribute options resolved, ?_,
    Generation.diagnostics_withEmbedAttribute options resolved,
    Generation.diagnostics_ofDiscovery resolved⟩
  · intro target _
    exact ⟨Artifact.hintName_eq_marker_iff options target,
      (Template.renderMarker_ne_renderTarget options target).symm⟩
  · intro before target after split
    rw [Generation.refuses_iff resolved split, Generation.refuses_iff resolved split]
    exact Generation.not_keeps_withEmbedAttribute_iff options resolved target

theorem generate_embedding_assorted :
    let options := Options.default.withArtifactName "CharExtensionsAttribute"
    DeclarationSet.assorted.host.knowsMarker options.marker = true ∧
      ∃ left,
        (generate DeclarationSet.assorted.host (options.withEmbedAttribute true) .never).outcome =
          .ok left ∧
        left.artifacts.artifacts.head? = some (.markerDefinition options) ∧
        ⟨"Digits", .conflictingArtifact "CharExtensionsAttribute.g.cs"⟩ ∈ left.diagnostics ∧
        ⟨"Letters", .conflictingArtifact "CharExtensionsAttribute.g.cs"⟩ ∈ left.diagnostics := by
  intro options
  rcases generate_embedding DeclarationSet.assorted.host options rfl with
    ⟨found, left, right, discovered, -, generated, -, -, -, listed, -, reported, -⟩
  rw [outcome_discover_never] at discovered
  cases discovered
  have taken (target : Target) (named : target.IsNamedLikeMarker options)
      (member : target ∈ (DeclarationSet.assorted.host.discovery
        (options.withEmbedAttribute true).marker).targets) :
      target.conflict options ∈ left.diagnostics := by
    rw [reported]
    refine List.mem_append_right _ (List.mem_map_of_mem (List.mem_filter.2 ⟨member, ?_⟩))
    exact decide_eq_true (.inl named)
  have name (target : Target) (named : target.IsNamedLikeMarker options) :
      target.conflict options =
        ⟨target.qualifiedName, .conflictingArtifact "CharExtensionsAttribute.g.cs"⟩ := by
    rw [Target.conflict, (Artifact.hintName_eq_marker_iff options target).2 named]
    have marker : (Artifact.markerDefinition options).hintName =
        "CharExtensionsAttribute.g.cs" := by decide +kernel
    rw [marker]
  let digits : Target := ⟨"Digits", "Digits", "", .public, ['0', '1'], true⟩
  let letters : Target := ⟨"Letters", "Letters", "", .public, ['a', 'b'], true⟩
  have namedDigits : digits.IsNamedLikeMarker options := by decide +kernel
  have namedLetters : letters.IsNamedLikeMarker options := by decide +kernel
  refine ⟨rfl, left, generated, ?_, ?_, ?_⟩
  · rw [listed]
    rfl
  · exact name digits namedDigits ▸ taken digits namedDigits (by decide +kernel)
  · exact name letters namedLetters ▸ taken letters namedLetters (by decide +kernel)

end CharDispatch
