import CharDispatch.Proofs.Accounting
import CharDispatch.Proofs.Retention
import Mathlib.Data.List.Perm.Basic

/-!
# The order of traversal

What a declaration gives does not depend on when it is visited, so hosts that
list the same declarations in another order, or more often, lead to the same
targets and the same diagnostics up to their order.  The order decides only which
of several texts under one hint name is taken.  Whether there are such texts is
said of the offers as a set (`Artifact.Clash`), and with none the registry is
said of them as a set too.

* `Registry.get?_offerAll_iff`: the registry of offers that do not clash.
* `Generation.hasConflict_iff`: a generation reports a conflict if and only if
  its offers clash.
* `generate_upToOrder`: what two passes over the same declarations share.
-/

namespace CharDispatch

/-! ## Offers as a set -/

/-- Two artifacts have one hint name and different texts. -/
def Artifact.Clash (offered : List Artifact) : Prop :=
  ∃ first ∈ offered, ∃ second ∈ offered,
    first.hintName = second.hintName ∧ first.source ≠ second.source

theorem Artifact.clash_congr {first second : List Artifact}
    (same : ∀ artifact, artifact ∈ first ↔ artifact ∈ second) : Clash first ↔ Clash second := by
  unfold Clash
  simp only [same]

namespace Registry

/-- What a registry holds was offered to it. -/
theorem exists_of_get?_offerAll {artifacts : List Artifact} {name source : String}
    (held : (offerAll artifacts).get? name = some source) :
    ∃ artifact ∈ artifacts, artifact.hintName = name ∧ artifact.source = source := by
  rw [get?_offerAll] at held
  rcases Option.map_eq_some_iff.1 held with ⟨artifact, found, same⟩
  exact ⟨artifact, List.mem_of_find?_eq_some found, by simpa using List.find?_some found, same⟩

/-- Of offers that do not clash, each is taken. -/
theorem get?_offerAll_iff {artifacts : List Artifact} (clear : ¬ Artifact.Clash artifacts)
    {name source : String} :
    (offerAll artifacts).get? name = some source ↔
      ∃ artifact ∈ artifacts, artifact.hintName = name ∧ artifact.source = source := by
  refine ⟨exists_of_get?_offerAll, ?_⟩
  rintro ⟨artifact, member, rfl, rfl⟩
  rcases exists_get?_of_mem member with ⟨source, held⟩
  rcases exists_of_get?_offerAll held with ⟨other, memberOther, name, rfl⟩
  rw [held]
  by_contra differ
  exact clear ⟨other, memberOther, artifact, member, name, fun same => differ (congrArg some same)⟩

/-- Offers that do not clash may come in any order. -/
theorem get?_offerAll_congr {first second : List Artifact} (clear : ¬ Artifact.Clash first)
    (same : ∀ artifact, artifact ∈ first ↔ artifact ∈ second) (name : String) :
    (offerAll first).get? name = (offerAll second).get? name := by
  have clearSecond : ¬ Artifact.Clash second := fun clash =>
    clear ((Artifact.clash_congr same).2 clash)
  refine Option.ext fun source => ?_
  rw [get?_offerAll_iff clear, get?_offerAll_iff clearSecond]
  simp only [same]

end Registry

/-! ## Conflicts of a generation -/

namespace Generation

/-- A conflict between artifacts is reported. -/
def HasConflict (generation : Generation) : Prop :=
  ∃ diagnostic ∈ generation.diagnostics, ∃ name, diagnostic.fault = .conflictingArtifact name

theorem offered_perm (options : Options) {first second : List Target}
    (perm : first.Perm second) : (offered options first).Perm (offered options second) :=
  (perm.map _).append_left _

/-- The definition of the marker is offered first, so it is taken. -/
theorem get?_markerDefinition {options : Options} (embedded : options.embedAttribute = true)
    (targets : List Target) :
    (Registry.offerAll (offered options targets)).get?
        (Artifact.markerDefinition options).hintName =
      some (Artifact.markerDefinition options).source := by
  have first : (offered options targets).find? (fun artifact =>
      artifact.hintName = (Artifact.markerDefinition options).hintName) =
        some (.markerDefinition options) := by
    rw [offered, if_pos embedded]
    exact List.find?_cons_of_pos (decide_eq_true rfl)
  rw [Registry.get?_offerAll, first, Option.map_some]

/-- A text that is not the one under its hint name is that of a target which is
not kept. -/
theorem exists_not_keeps {options : Options} {found : Discovery}
    (resolved : found.markerResolved = true) {artifact : Artifact}
    (member : artifact ∈ offered options found.targets)
    (other : (Registry.offerAll (offered options found.targets)).get? artifact.hintName ≠
      some artifact.source) :
    ∃ target ∈ found.targets, ¬ (ofDiscovery options found).Keeps options target := by
  rcases mem_offered_iff.1 member with ⟨embedded, rfl⟩ | ⟨target, discovered, rfl⟩
  · exact (other (get?_markerDefinition embedded found.targets)).elim
  · refine ⟨target, discovered, ?_⟩
    rw [Keeps, artifacts_ofDiscovery resolved]
    exact other

/-- Some target is not kept if and only if the offers clash. -/
theorem exists_not_keeps_iff {options : Options} {found : Discovery}
    (resolved : found.markerResolved = true) :
    (∃ target ∈ found.targets, ¬ (ofDiscovery options found).Keeps options target) ↔
      Artifact.Clash (offered options found.targets) := by
  constructor
  · rintro ⟨target, discovered, lost⟩
    rw [Keeps, artifacts_ofDiscovery resolved] at lost
    have member : Artifact.ofTarget options target ∈ offered options found.targets :=
      mem_offered_iff.2 (.inr ⟨target, discovered, rfl⟩)
    rcases Registry.exists_get?_of_mem member with ⟨source, held⟩
    rcases Registry.exists_of_get?_offerAll held with ⟨first, memberFirst, name, rfl⟩
    refine ⟨first, memberFirst, _, member, name, fun same => lost ?_⟩
    rw [held, same]
  · rintro ⟨first, memberFirst, second, memberSecond, name, differ⟩
    rcases Registry.exists_get?_of_mem memberFirst with ⟨source, held⟩
    by_cases same : source = first.source
    · refine exists_not_keeps resolved memberSecond ?_
      rw [← name, held, same]
      exact fun eq => differ (Option.some.inj eq)
    · refine exists_not_keeps resolved memberFirst ?_
      rw [held]
      exact fun eq => same (Option.some.inj eq)

/-- When the discovery reports no conflict, the generation reports one if and only
if its offers clash. -/
theorem hasConflict_iff (options : Options) {found : Discovery}
    (resolved : found.markerResolved = true)
    (none : ∀ diagnostic ∈ found.diagnostics, ∀ name,
      diagnostic.fault ≠ .conflictingArtifact name) :
    (ofDiscovery options found).HasConflict ↔
      Artifact.Clash (offered options found.targets) := by
  rw [← exists_not_keeps_iff resolved, HasConflict, diagnostics_ofDiscovery resolved]
  constructor
  · rintro ⟨diagnostic, member, name, fault⟩
    rcases List.mem_append.1 member with early | late
    · exact (none diagnostic early name fault).elim
    · rcases List.mem_map.1 late with ⟨target, lost, -⟩
      rcases List.mem_filter.1 lost with ⟨discovered, lost⟩
      exact ⟨target, discovered, of_decide_eq_true lost⟩
  · rintro ⟨target, discovered, lost⟩
    refine ⟨target.conflict options, List.mem_append_right _ (List.mem_map_of_mem ?_), _, rfl⟩
    exact List.mem_filter.2 ⟨discovered, decide_eq_true lost⟩

end Generation

variable {ι : Type} [DecidableEq ι]

namespace Host

/-! ## Hosts that differ in the order of traversal -/

/-- Two hosts give the same answers, except that they may list the same
declarations in another order and with other repeats. -/
structure AnswersAlike (first second : Host ι) (marker : String) : Prop where
  knowsMarker : first.knowsMarker = second.knowsMarker
  resolve : first.resolve = second.resolve
  argument : first.argument = second.argument
  listed : ∀ id, id ∈ first.annotated marker ↔ id ∈ second.annotated marker

/-- A discovery reports no conflict between artifacts. -/
theorem fault_ne_conflict (host : Host ι) (marker : String) :
    ∀ diagnostic ∈ (host.discovery marker).diagnostics, ∀ name,
      diagnostic.fault ≠ .conflictingArtifact name := by
  intro diagnostic member name conflict
  by_cases knows : host.knowsMarker marker = true
  · rw [discovery_of_knows knows] at member
    rcases List.mem_filterMap.1 member with ⟨id, -, rejected⟩
    rcases find_rejected (Finding.diagnostic?_eq_some_iff.1 rejected) with
      ⟨declaration, -, -, named⟩
    rw [conflict] at named
    cases named
  · rw [discovery, if_neg knows] at member
    cases member

/-- Without the marker nothing is generated, and so nothing conflicts. -/
theorem generation_unresolved (host : Host ι) {options : Options}
    (unresolved : (host.discovery options.marker).markerResolved = false) :
    (host.generation options).artifacts = .empty ∧ ¬ (host.generation options).HasConflict := by
  rw [generation, Generation.ofDiscovery, unresolved]
  refine ⟨rfl, ?_⟩
  rintro ⟨diagnostic, member, name, conflict⟩
  exact host.fault_ne_conflict options.marker diagnostic member name conflict

variable {first second : Host ι} {marker : String}

omit [DecidableEq ι] in
theorem AnswersAlike.find_eq (alike : first.AnswersAlike second marker) (id : ι) :
    first.find marker id = second.find marker id :=
  find_eq_of_answers (congrFun alike.resolve id) fun key => by rw [alike.argument]

theorem AnswersAlike.distinct_perm (alike : first.AnswersAlike second marker) :
    (first.distinct marker).Perm (second.distinct marker) := by
  refine (List.perm_ext_iff_of_nodup (nodup_eraseDups _) (nodup_eraseDups _)).2 fun id => ?_
  rw [List.mem_eraseDups, List.mem_eraseDups]
  exact alike.listed id

/-- Such hosts lead to the same targets and diagnostics up to their order. -/
theorem AnswersAlike.discovery_perm (alike : first.AnswersAlike second marker) :
    (first.discovery marker).markerResolved = (second.discovery marker).markerResolved ∧
      (first.discovery marker).targets.Perm (second.discovery marker).targets ∧
      (first.discovery marker).diagnostics.Perm (second.discovery marker).diagnostics := by
  by_cases knows : first.knowsMarker marker = true
  · have knowsSecond : second.knowsMarker marker = true := by rwa [← alike.knowsMarker]
    rw [discovery_of_knows knows, discovery_of_knows knowsSecond]
    refine ⟨rfl, ?_, ?_⟩
    · simp only [alike.find_eq]
      exact alike.distinct_perm.filterMap _
    · simp only [alike.find_eq]
      exact alike.distinct_perm.filterMap _
  · have unknown : ¬ second.knowsMarker marker = true := by rwa [← alike.knowsMarker]
    rw [discovery, discovery, if_neg knows, if_neg unknown]
    exact ⟨rfl, .nil, .nil⟩

/-- The same host, listing its declarations back to front. -/
def reversed (host : Host ι) : Host ι :=
  { host with annotated := fun marker => (host.annotated marker).reverse }

omit [DecidableEq ι] in
theorem answersAlike_reversed (host : Host ι) (marker : String) :
    host.AnswersAlike host.reversed marker where
  knowsMarker := rfl
  resolve := rfl
  argument := rfl
  listed _ := List.mem_reverse.symm

end Host

/-- Over hosts that give the same answers but for the order and the repeats of
their lists, two passes find the same targets and the same diagnostics up to
order, and their generations take the same hint names.  One generation reports a
conflict if and only if the other does; if there is none, every hint name has the
same text in both. -/
theorem generate_upToOrder (first second : Host ι) (options : Options)
    (alike : first.AnswersAlike second options.marker) :
    ∃ foundFirst foundSecond left right,
      (discover first options .never).outcome = .ok foundFirst ∧
      (discover second options .never).outcome = .ok foundSecond ∧
      (generate first options .never).outcome = .ok left ∧
      (generate second options .never).outcome = .ok right ∧
      foundFirst.markerResolved = foundSecond.markerResolved ∧
      foundFirst.targets.Perm foundSecond.targets ∧
      foundFirst.diagnostics.Perm foundSecond.diagnostics ∧
      (∀ name, name ∈ left.artifacts.hintNames ↔ name ∈ right.artifacts.hintNames) ∧
      (left.HasConflict ↔ right.HasConflict) ∧
      (¬ left.HasConflict → ∀ name, left.artifacts.get? name = right.artifacts.get? name) := by
  rcases alike.discovery_perm with ⟨resolved, targets, diagnostics⟩
  refine ⟨_, _, _, _, outcome_discover_never first options, outcome_discover_never second options,
    outcome_generate_never first options, outcome_generate_never second options, resolved,
    targets, diagnostics, ?_⟩
  have offers := fun artifact => (Generation.offered_perm options targets).mem_iff (a := artifact)
  cases known : (first.discovery options.marker).markerResolved with
  | false =>
    have unknown := resolved.symm.trans known
    rcases first.generation_unresolved known with ⟨emptyFirst, clearFirst⟩
    rcases second.generation_unresolved unknown with ⟨emptySecond, clearSecond⟩
    rw [emptyFirst, emptySecond]
    exact ⟨fun _ => Iff.rfl, iff_of_false clearFirst clearSecond, fun _ _ => rfl⟩
  | true =>
    have knownSecond := resolved.symm.trans known
    have conflictsFirst := Generation.hasConflict_iff options known
      (first.fault_ne_conflict options.marker)
    have conflictsSecond := Generation.hasConflict_iff options knownSecond
      (second.fault_ne_conflict options.marker)
    unfold Host.generation
    rw [conflictsFirst, conflictsSecond, Generation.artifacts_ofDiscovery known,
      Generation.artifacts_ofDiscovery knownSecond]
    refine ⟨fun name => ?_, Artifact.clash_congr offers,
      fun clear => Registry.get?_offerAll_congr clear offers⟩
    rw [Registry.mem_hintNames_offerAll_iff, Registry.mem_hintNames_offerAll_iff]
    simp only [offers]

theorem generate_upToOrder_reversed :
    DeclarationSet.assorted.host.AnswersAlike DeclarationSet.assorted.host.reversed
        Options.default.marker ∧
      ∃ foundFirst foundSecond,
        (discover DeclarationSet.assorted.host .default .never).outcome = .ok foundFirst ∧
        (discover DeclarationSet.assorted.host.reversed .default .never).outcome =
          .ok foundSecond ∧
        foundFirst.targets.Perm foundSecond.targets ∧
        foundFirst.targets.map Target.name = ["Lexer", "Digits", "Letters"] ∧
        foundSecond.targets.map Target.name = ["Letters", "Lexer", "Digits"] := by
  have alike := DeclarationSet.assorted.host.answersAlike_reversed Options.default.marker
  rcases generate_upToOrder _ _ .default alike with
    ⟨foundFirst, foundSecond, left, right, discovered, discoveredSecond, -, -, -, targets, -⟩
  refine ⟨alike, foundFirst, foundSecond, discovered, discoveredSecond, targets, ?_, ?_⟩
  · rw [outcome_discover_never] at discovered
    cases discovered
    decide +kernel
  · rw [outcome_discover_never] at discoveredSecond
    cases discoveredSecond
    decide +kernel

end CharDispatch
