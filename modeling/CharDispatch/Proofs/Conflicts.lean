import CharDispatch.Proofs.Accounting
import CharDispatch.Proofs.Identity
import Mathlib.Data.List.Find

/-!
# Which targets conflict

Where private helpers belong to declarations with plain names, hint names stand
for places (`Artifact.hintName_eq_iff`) and, in one place, texts stand for what
is asked (`Template.renderTarget_eq_iff`).  So a registry can be read in terms of
targets, and a target is dropped exactly when the first target in its place asks
for something else (`Target.IsDropped`).

* `Generation.add_eq`: what happens to one target, given those before it.
* `generate_conflicts`: which targets of a generation are dropped, which are
  merged, and which pairs are in conflict.
-/

namespace CharDispatch

namespace Target

theorem sameSlot_self (target : Target) : target.SameSlot target := ⟨rfl, rfl, fun _ => rfl⟩

theorem agrees_self (target : Target) : target.Agrees target := ⟨rfl, fun _ => rfl⟩

/-- All private helpers belong to declarations with plain names. -/
def ArePlain (targets : List Target) : Prop :=
  ∀ target ∈ targets, target.isGlobal = false → IsPlain target.name

theorem ArePlain.subset {part whole : List Target} (plain : ArePlain whole)
    (inside : part ⊆ whole) : ArePlain part := fun target member => plain target (inside member)

/-- The first of some targets in the place of a target. -/
def firstInSlot (targets : List Target) (target : Target) : Option Target :=
  targets.find? fun other => other.SameSlot target

theorem sameSlot_of_firstInSlot {targets : List Target} {target first : Target}
    (found : firstInSlot targets target = some first) : first.SameSlot target := by
  simpa using List.find?_some found

/-- The first target in its place asks for something else. -/
def IsDropped (targets : List Target) (target : Target) : Prop :=
  ∃ first, firstInSlot targets target = some first ∧ ¬ first.Agrees target

instance (targets : List Target) (target : Target) : Decidable (IsDropped targets target) :=
  match held : firstInSlot targets target with
  | none => isFalse fun ⟨_, first, _⟩ => by rw [held] at first; cases first
  | some first =>
    decidable_of_iff (¬ first.Agrees target)
      ⟨fun differ => ⟨first, held, differ⟩, fun ⟨_, same, differ⟩ => by
        rw [held] at same
        cases same
        exact differ⟩

end Target

/-! ## Artifacts and targets -/

/-- Of plain names, targets ask for different texts under one hint name if and only if
they are in one place and do not agree. -/
theorem Artifact.conflict_iff (options : Options) {first second : Target}
    (plainFirst : first.isGlobal = false → IsPlain first.name)
    (plainSecond : second.isGlobal = false → IsPlain second.name) :
    (ofTarget options first).hintName = (ofTarget options second).hintName ∧
        (ofTarget options first).source ≠ (ofTarget options second).source ↔
      first.SameSlot second ∧ ¬ first.Agrees second := by
  rw [hintName_eq_iff options plainFirst plainSecond]
  exact and_congr_right fun slot => not_congr (source_eq_iff options slot)

namespace Generation

/-- Looking for a hint name is looking for a place. -/
theorem firstUnder_eq (options : Options) {targets : List Target} {target : Target}
    (plain : Target.ArePlain (target :: targets)) :
    firstUnder options (Artifact.ofTarget options target).hintName targets =
      Target.firstInSlot targets target := by
  unfold firstUnder Target.firstInSlot
  refine List.find?_congr fun other member => ?_
  rw [decide_eq_decide]
  exact Artifact.hintName_eq_iff options (plain other (.tail _ member)) (plain target (.head _))

/-- What a run over `before` leaves under the hint name of a target. -/
theorem get?_hintName (options : Options) {before : List Target} {target : Target}
    (plain : Target.ArePlain (target :: before)) :
    (registerAll options .empty before).1.get? (Artifact.ofTarget options target).hintName =
      (Target.firstInSlot before target).map fun first =>
        (Artifact.ofTarget options first).source := by
  rw [get?_registerAll, firstUnder_eq options plain]
  exact Option.none_or

/-- What happens to a target after those before it: it is registered if it is
the first in its place, merged if it agrees with the first, and refused
otherwise. -/
theorem add_eq (options : Options) {before : List Target} {target : Target}
    (plain : Target.ArePlain (target :: before)) :
    (registerAll options .empty before).1.add (.ofTarget options target) =
      match Target.firstInSlot before target with
      | none => .ok (true, (registerAll options .empty before).1.offer (.ofTarget options target))
      | some first =>
        if first.Agrees target then .ok (false, (registerAll options .empty before).1)
        else .error (.conflictingArtifact (Artifact.ofTarget options target).hintName) := by
  have held := get?_hintName options plain
  cases found : Target.firstInSlot before target with
  | none =>
    rw [found] at held
    rw [Registry.offer, Registry.add_of_free held]
  | some first =>
    have slot := Target.sameSlot_of_firstInSlot found
    rw [found] at held
    dsimp only
    split
    · next agrees =>
      have same := (Artifact.source_eq_iff options slot).2 agrees
      exact Registry.add_of_same (same ▸ held)
    · next differ =>
      have other := mt (Artifact.source_eq_iff options slot).1 differ
      exact Registry.add_of_other held other

theorem add_refused_iff (options : Options) {before after : List Target} {target : Target}
    (plain : Target.ArePlain (target :: before)) :
    (registerAll options .empty before).1.add (.ofTarget options target) =
        .error (.conflictingArtifact (Artifact.ofTarget options target).hintName) ↔
      target.IsDropped (before ++ target :: after) := by
  have own : Target.firstInSlot (target :: after) target = some target :=
    List.find?_cons_of_pos (decide_eq_true target.sameSlot_self)
  have whole : Target.firstInSlot (before ++ target :: after) target =
      (Target.firstInSlot before target).or (some target) :=
    List.find?_append.trans (congrArg _ own)
  rw [add_eq options plain, Target.IsDropped, whole]
  cases Target.firstInSlot before target with
  | none =>
    refine iff_of_false nofun ?_
    intro dropped
    rcases dropped with ⟨first, same, differ⟩
    cases same
    exact differ target.agrees_self
  | some first =>
    rw [Option.some_or]
    dsimp only
    split
    · next agrees =>
      refine iff_of_false nofun ?_
      intro dropped
      rcases dropped with ⟨other, same, differ⟩
      cases same
      exact differ agrees
    · next differ => exact iff_of_true rfl ⟨first, rfl, differ⟩

theorem add_merged_iff (options : Options) {before : List Target} {target : Target}
    (plain : Target.ArePlain (target :: before)) :
    (registerAll options .empty before).1.add (.ofTarget options target) =
        .ok (false, (registerAll options .empty before).1) ↔
      ∃ first, Target.firstInSlot before target = some first ∧ first.Agrees target := by
  rw [add_eq options plain]
  cases Target.firstInSlot before target with
  | none => exact iff_of_false nofun nofun
  | some first =>
    dsimp only
    split
    · next agrees => exact iff_of_true rfl ⟨first, rfl, agrees⟩
    · next differ =>
      refine iff_of_false nofun ?_
      intro merged
      rcases merged with ⟨other, same, agrees⟩
      cases same
      exact differ agrees

/-- A run drops the targets whose place is taken by another request. -/
theorem conflicts_eq (options : Options) {targets : List Target}
    (plain : Target.ArePlain targets) :
    (registerAll options .empty targets).2 =
      (targets.filter (Target.IsDropped targets)).map (Target.conflict options) := by
  rw [conflicts_registerAll]
  refine congrArg _ (List.filter_congr fun target member => ?_)
  have all := plain.subset (List.cons_subset.2 ⟨member, List.Subset.refl targets⟩)
  rw [get?_hintName options all, decide_eq_decide, Target.IsDropped]
  cases found : Target.firstInSlot targets target with
  | none => exact (List.find?_eq_none.1 found target member (by simp [target.sameSlot_self])).elim
  | some first =>
    have slot := Target.sameSlot_of_firstInSlot found
    have same := Artifact.source_eq_iff options slot
    simp [same]

end Generation

variable {ι : Type} [DecidableEq ι]

/-- Where no marker definition is generated, a generation is a run over the
discovered targets from the empty registry. -/
theorem Host.generation_alone (host : Host ι) {options : Options}
    (alone : options.embedAttribute = false) :
    (host.generation options).artifacts =
        (Generation.registerAll options .empty (host.discovery options.marker).targets).1 ∧
      (host.generation options).diagnostics = (host.discovery options.marker).diagnostics ++
        (Generation.registerAll options .empty (host.discovery options.marker).targets).2 := by
  unfold Host.generation Host.discovery Generation.ofDiscovery Generation.start
  rw [alone]
  split
  · exact ⟨rfl, rfl⟩
  · exact ⟨rfl, rfl⟩

/-- Where no marker definition is generated and private helpers belong to plain
names, a target is dropped if and only if the first target in its place asks for
something else, and it is merged if and only if there is an earlier target in its
place and the first of them agrees with it.  Two targets are in conflict only if
they are in one place and do not agree, and they share an artifact only if they
are in one place and agree. -/
theorem generate_conflicts (host : Host ι) (options : Options) (cancellation : Cancellation)
    (alone : options.embedAttribute = false)
    (undisturbed : (discover host options cancellation).outcome ≠ .error .cancelled)
    (plain : ∀ found, (discover host options cancellation).outcome = .ok found →
      Target.ArePlain found.targets) :
    ∃ found generation,
      (discover host options cancellation).outcome = .ok found ∧
      (generate host options cancellation).outcome = .ok generation ∧
      generation.artifacts = (Generation.registerAll options .empty found.targets).1 ∧
      generation.diagnostics = found.diagnostics ++
        (found.targets.filter (Target.IsDropped found.targets)).map (Target.conflict options) ∧
      (∀ before target after, found.targets = before ++ target :: after →
        ((Generation.registerAll options .empty before).1.add (.ofTarget options target) =
            .error (.conflictingArtifact (Artifact.ofTarget options target).hintName) ↔
          target.IsDropped found.targets) ∧
        ((Generation.registerAll options .empty before).1.add (.ofTarget options target) =
            .ok (false, (Generation.registerAll options .empty before).1) ↔
          ∃ first, Target.firstInSlot before target = some first ∧ first.Agrees target)) ∧
      (∀ first ∈ found.targets, ∀ second ∈ found.targets,
        ((Artifact.ofTarget options first).hintName = (Artifact.ofTarget options second).hintName ∧
            (Artifact.ofTarget options first).source ≠ (Artifact.ofTarget options second).source ↔
          first.SameSlot second ∧ ¬ first.Agrees second) ∧
        (Artifact.ofTarget options first = Artifact.ofTarget options second ↔
          first.SameSlot second ∧ first.Agrees second)) := by
  have stopped := mt (discover_cancelled_iff host options cancellation).2 undisturbed
  have discovered := outcome_discover host options cancellation
  have generated := outcome_generate host options cancellation
  rw [if_neg stopped] at discovered generated
  have allPlain := plain _ discovered
  have run := host.generation_alone alone
  refine ⟨_, _, discovered, generated, run.1, ?_, ?_, ?_⟩
  · rw [run.2, Generation.conflicts_eq options allPlain]
  · intro before target after split
    have earlier : Target.ArePlain (target :: before) := by
      refine allPlain.subset ?_
      rw [split]
      exact List.cons_subset.2
        ⟨by simp, List.subset_append_left before (target :: after)⟩
    rw [split]
    exact ⟨Generation.add_refused_iff options earlier, Generation.add_merged_iff options earlier⟩
  · intro first memberFirst second memberSecond
    have plainFirst := allPlain first memberFirst
    have plainSecond := allPlain second memberSecond
    exact ⟨Artifact.conflict_iff options plainFirst plainSecond,
      Artifact.ofTarget_eq_iff options⟩

theorem generate_conflicts_assorted :
    (Options.default.withEmbedAttribute false).embedAttribute = false ∧
      (discover DeclarationSet.assorted.host (Options.default.withEmbedAttribute false)
        .never).outcome ≠ .error .cancelled ∧
      (∀ found, (discover DeclarationSet.assorted.host
          (Options.default.withEmbedAttribute false) .never).outcome = .ok found →
        Target.ArePlain found.targets) ∧
      ∃ generation, (generate DeclarationSet.assorted.host
          (Options.default.withEmbedAttribute false) .never).outcome = .ok generation ∧
        generation.diagnostics.drop 2 =
          [⟨"Letters", .conflictingArtifact "CharExtensions.g.cs"⟩] := by
  have discovered := outcome_discover_never DeclarationSet.assorted.host
    (Options.default.withEmbedAttribute false)
  have undisturbed : (discover DeclarationSet.assorted.host
      (Options.default.withEmbedAttribute false) .never).outcome ≠ .error .cancelled := by
    rw [discovered]
    exact nofun
  have plain : ∀ found, (discover DeclarationSet.assorted.host
      (Options.default.withEmbedAttribute false) .never).outcome = .ok found →
        Target.ArePlain found.targets := by
    intro found same
    rw [discovered] at same
    cases same
    unfold Target.ArePlain
    decide +kernel
  rcases generate_conflicts DeclarationSet.assorted.host _ .never rfl undisturbed plain with
    ⟨found, generation, same, generated, -, diagnostics, -, -⟩
  rw [discovered] at same
  cases same
  refine ⟨rfl, undisturbed, plain, generation, generated, ?_⟩
  rw [diagnostics]
  decide +kernel

end CharDispatch
