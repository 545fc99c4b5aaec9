import CharDispatch.Proofs.Accounting
import CharDispatch.Proofs.Registration
import CharDispatch.Proofs.TargetText

/-!
# Generated text means what was asked for

Every artifact of a generation but the definition of the marker is the text of a
target, and a target has characters that can be served, so the switch expression
of the artifact is sound: it has an arm for each of the characters, none for any
other, and converts every character to the string of it (`generate_sound`).
Nothing is assumed of the host except that the names it gives hold no line feed.
-/

namespace CharDispatch

/-- A table that has a fallback and distinct arms for single UTF-16 units, and
converts every character to the string of it. -/
structure Dispatch.Table.IsSound (table : Table) : Prop where
  hasFallback : table.hasFallback = true
  full : table.arms ≠ []
  distinct : (table.arms.map Prod.fst).Nodup
  single : ∀ arm ∈ table.arms, arm.1.toNat ≤ 0xFFFF
  faithful : ∀ c, table.evaluate c = some [c]

/-- Characters that can be served make a sound table. -/
theorem Dispatch.Table.isSound_of_isServable {characters : List Char} (full : characters ≠ [])
    (servable : CharacterSet.IsServable characters) :
    IsSound ⟨characters.map fun c => (c, [c]), true⟩ where
  hasFallback := rfl
  full := mt List.map_eq_nil_iff.1 full
  distinct := by
    rw [List.map_map]
    exact (List.map_id characters).symm ▸ servable.1
  single := by
    intro arm member
    rcases List.mem_map.1 member with ⟨c, listed, rfl⟩
    exact servable.2 c listed
  faithful := evaluate_arms characters

variable {ι : Type} [DecidableEq ι]

/-- No name or scope that the host gives for a marked declaration holds a line
feed. -/
def Host.IsFeedless (host : Host ι) (marker : String) : Prop :=
  ∀ id ∈ host.annotated marker, ∀ declaration ∈ host.resolve id,
    '\n' ∉ declaration.name.toList ∧ '\n' ∉ declaration.scope.toList

/-- The text of a discovered target reads back as a sound table with the
characters of the target. -/
theorem Host.read_target {host : Host ι} {options : Options} {target : Target}
    (inArtifactName : '\n' ∉ options.artifactName.toList)
    (feedless : host.IsFeedless options.marker)
    (discovered : target ∈ (host.discovery options.marker).targets) :
    ∃ table, Dispatch.Table.read (Template.renderTarget options target) = some table ∧
      table.arms.map Prod.fst = target.characters ∧ table.IsSound := by
  rcases mem_targets_discovery discovered with ⟨id, listed, extracted⟩
  rcases find_extracted extracted with
    ⟨declaration, resolved, name, -, scope, -, -, full, servable, -⟩
  rcases feedless id listed declaration resolved with ⟨inName, inScope⟩
  rw [← name] at inName
  rw [← scope] at inScope
  refine ⟨_, Template.read_renderTarget inArtifactName inName inScope, ?_,
    Dispatch.Table.isSound_of_isServable full servable⟩
  rw [List.map_map]
  exact List.map_id _

/-- Whenever a generation succeeds, every artifact but the definition of the
marker comes from the first discovered target with its hint name.  It reads back
as a sound table, whose arms are the characters of that target in their order. -/
theorem generate_sound (host : Host ι) (options : Options) (cancellation : Cancellation)
    (inArtifactName : '\n' ∉ options.artifactName.toList)
    (feedless : host.IsFeedless options.marker) {generation : Generation}
    (generated : (generate host options cancellation).outcome = .ok generation) :
    ∃ found, (discover host options cancellation).outcome = .ok found ∧
      ∀ artifact ∈ generation.artifacts.artifacts,
        ¬ (options.embedAttribute = true ∧ artifact = .markerDefinition options) →
        ∃ target ∈ found.targets, artifact = .ofTarget options target ∧
          found.targets.find? (fun other =>
            (Artifact.ofTarget options other).hintName = artifact.hintName) = some target ∧
          ∃ table, Dispatch.Table.read artifact.source = some table ∧
            table.arms.map Prod.fst = target.characters ∧ table.IsSound := by
  rw [outcome_generate] at generated
  rw [outcome_discover]
  split at generated
  · cases generated
  · next undisturbed =>
    cases generated
    refine ⟨_, if_neg undisturbed, ?_⟩
    intro artifact member other
    rcases Generation.mem_artifacts member with marker | ⟨target, first, rfl⟩
    · exact (other marker).elim
    · have discovered := (Generation.of_firstUnder first).1
      exact ⟨target, discovered, rfl, first,
        host.read_target inArtifactName feedless discovered⟩

theorem generate_sound_assorted :
    '\n' ∉ Options.default.artifactName.toList ∧
      DeclarationSet.assorted.host.IsFeedless Options.default.marker ∧
      ∃ generation, (generate DeclarationSet.assorted.host .default .never).outcome =
          .ok generation ∧
        ∃ artifact ∈ generation.artifacts.artifacts,
          artifact.hintName = "LexerCharExtensions.g.cs" ∧
          ∃ table, Dispatch.Table.read artifact.source = some table ∧
            table.arms.map Prod.fst = ['\'', '"', '\\'] ∧ table.IsSound := by
  have inArtifactName : '\n' ∉ Options.default.artifactName.toList := by decide +kernel
  have feedless : DeclarationSet.assorted.host.IsFeedless Options.default.marker := by
    unfold Host.IsFeedless
    decide +kernel
  have generated := outcome_generate_never DeclarationSet.assorted.host .default
  let lexer : Target := ⟨"Lexer", "Lexer", "", .public, ['\'', '"', '\\'], false⟩
  have first : Generation.firstUnder .default "LexerCharExtensions.g.cs"
      (DeclarationSet.assorted.host.discovery Options.default.marker).targets = some lexer := by
    decide +kernel
  have name : (Artifact.ofTarget .default lexer).hintName = "LexerCharExtensions.g.cs" :=
    (Generation.of_firstUnder first).2
  have held : Artifact.ofTarget .default lexer ∈
      (DeclarationSet.assorted.host.generation .default).artifacts.artifacts := by
    have free : ¬ (Options.default.embedAttribute = true ∧
        "LexerCharExtensions.g.cs" = Options.default.markerHintName) := by decide +kernel
    rw [Registry.mem_artifacts_iff, name, Host.generation, Generation.get?_ofDiscovery rfl,
      if_neg free, first]
    rfl
  have other : ¬ (Options.default.embedAttribute = true ∧
      Artifact.ofTarget .default lexer = .markerDefinition .default) := by
    intro marker
    have names := congrArg Artifact.hintName marker.2
    revert names
    decide +kernel
  rcases generate_sound _ _ _ inArtifactName feedless generated with ⟨found, discovered, sound⟩
  rw [outcome_discover_never] at discovered
  cases discovered
  rcases sound _ held other with ⟨target, -, -, firstHere, reads⟩
  rw [name] at firstHere
  cases Option.some.inj (firstHere.symm.trans first)
  exact ⟨inArtifactName, feedless, _, generated, _, held, name, reads⟩

end CharDispatch
