import CharDispatch.Proofs.Accounting
import CharDispatch.Proofs.Offers

/-!
# One more declaration

A declaration that is recorded behind the others is visited last, if it is visited at
all, and no earlier answer changes: a declaration is looked up by its id, and the
first with that id answers.  So a pass over the longer set finds what it found
before, then at most one thing more, and registers what it registered before, then at
most one artifact more.

* `Host.Extends.discovery`: a discovery over a host that lists one declaration more.
* `Generation.ofDiscovery_append`: a generation from a discovery that found more.
* `DeclarationSet.extends_withDeclaration`: a longer set is such a host.
* `generate_withDeclaration`: what becomes of earlier targets, diagnostics and
  artifacts.
-/

namespace CharDispatch

/-! ## Hosts that list one declaration more -/

variable {ι : Type}

namespace Host

/-- A host gives the answers of another one, but may list one declaration more,
behind those of the other host. -/
structure Extends (after before : Host ι) (marker : String) : Prop where
  knowsMarker : after.knowsMarker marker = before.knowsMarker marker
  annotated : after.annotated marker = before.annotated marker ∨
    ∃ id, after.annotated marker = before.annotated marker ++ [id]
  find : ∀ id ∈ before.annotated marker, after.find marker id = before.find marker id

variable [DecidableEq ι] {after before : Host ι} {marker : String}

/-- The further declaration may have been listed before; then it is not visited. -/
theorem Extends.distinct (grown : after.Extends before marker) :
    ∃ fresh, after.distinct marker = before.distinct marker ++ fresh ∧ fresh.length ≤ 1 := by
  unfold Host.distinct
  rcases grown.annotated with same | ⟨id, more⟩
  · exact ⟨[], by rw [same, List.append_nil], Nat.zero_le 1⟩
  · rw [more, eraseDups_concat]
    split
    · exact ⟨[], (List.append_nil _).symm, Nat.zero_le 1⟩
    · exact ⟨[id], rfl, Nat.le_refl 1⟩

/-- A discovery finds what it found before, and then at most one target or one
diagnostic. -/
theorem Extends.discovery (grown : after.Extends before marker) :
    (after.discovery marker).markerResolved = (before.discovery marker).markerResolved ∧
      ∃ targets diagnostics,
        (after.discovery marker).targets = (before.discovery marker).targets ++ targets ∧
        (after.discovery marker).diagnostics =
          (before.discovery marker).diagnostics ++ diagnostics ∧
        targets.length + diagnostics.length ≤ 1 := by
  by_cases knows : before.knowsMarker marker = true
  · have knowsAfter : after.knowsMarker marker = true := grown.knowsMarker.trans knows
    rcases grown.distinct with ⟨fresh, distinct, short⟩
    have earlier {β : Type} (read : Finding → Option β) :
        ((before.distinct marker).filterMap fun id => read (after.find marker id)) =
          (before.distinct marker).filterMap fun id => read (before.find marker id) :=
      List.filterMap_congr fun id member => by rw [grown.find id (List.mem_eraseDups.1 member)]
    have count := after.length_targets_diagnostics marker fresh
    rw [discovery_of_knows knows, discovery_of_knows knowsAfter, distinct]
    refine ⟨rfl, fresh.filterMap fun id => (after.find marker id).target?,
      fresh.filterMap fun id => (after.find marker id).diagnostic?, ?_, ?_, by omega⟩
    · dsimp only
      rw [List.filterMap_append, earlier Finding.target?]
    · dsimp only
      rw [List.filterMap_append, earlier Finding.diagnostic?]
  · have unknown : ¬ after.knowsMarker marker = true := by rwa [grown.knowsMarker]
    rw [Host.discovery, Host.discovery, if_neg knows, if_neg unknown]
    exact ⟨rfl, [], [], rfl, rfl, Nat.zero_le 1⟩

end Host

/-! ## Generations from a discovery that found more -/

namespace Generation

/-- A run over more targets reports what it reported, then what becomes of the
others. -/
theorem snd_registerAll_append (options : Options) (registry : Registry)
    (before after : List Target) :
    (registerAll options registry (before ++ after)).2 =
      (registerAll options registry before).2 ++
        (registerAll options (registerAll options registry before).1 after).2 := by
  induction before generalizing registry with
  | nil => rfl
  | cons target before ih =>
    rw [List.cons_append, registerAll, registerAll]
    cases registry.add (.ofTarget options target) with
    | ok added => exact ih added.2
    | error fault => exact congrArg (_ :: ·) (ih registry)

/-- A target is reported once at most. -/
theorem length_snd_registerAll_le (options : Options) (registry : Registry)
    (targets : List Target) :
    (registerAll options registry targets).2.length ≤ targets.length := by
  rw [conflicts_registerAll, List.length_map]
  exact List.length_filter_le _ _

theorem diagnostics_eq (options : Options) (found : Discovery) :
    (ofDiscovery options found).diagnostics =
      found.diagnostics ++ if found.markerResolved then
        (registerAll options (start options) found.targets).2 else [] := by
  unfold ofDiscovery
  split
  · rfl
  · exact (List.append_nil _).symm

/-- A discovery that has found more leads to the same artifacts in front, and to the
same diagnostics among others. -/
theorem ofDiscovery_append (options : Options) {before after : Discovery}
    {targets : List Target} {diagnostics : List Diagnostic}
    (resolved : after.markerResolved = before.markerResolved)
    (moreTargets : after.targets = before.targets ++ targets)
    (moreDiagnostics : after.diagnostics = before.diagnostics ++ diagnostics) :
    ((ofDiscovery options before).artifacts.artifacts <+:
        (ofDiscovery options after).artifacts.artifacts ∧
      (ofDiscovery options after).artifacts.artifacts.length ≤
        (ofDiscovery options before).artifacts.artifacts.length + targets.length) ∧
    ((ofDiscovery options before).diagnostics.Sublist (ofDiscovery options after).diagnostics ∧
      (ofDiscovery options after).diagnostics.length ≤
        (ofDiscovery options before).diagnostics.length +
          (targets.length + diagnostics.length)) := by
  cases known : before.markerResolved with
  | false =>
    have empty {found : Discovery} (unknown : found.markerResolved = false) :
        (ofDiscovery options found).artifacts = .empty := by
      rw [ofDiscovery, unknown]
      rfl
    rw [known] at resolved
    rw [empty known, empty resolved, diagnostics_eq, diagnostics_eq, known, resolved,
      moreDiagnostics]
    simp only [Bool.false_eq_true, if_false, List.append_nil, List.length_append]
    exact ⟨⟨List.prefix_refl _, by omega⟩, List.sublist_append_left _ _, by omega⟩
  | true =>
    have reported := length_snd_registerAll_le options
      (registerAll options (start options) before.targets).1 targets
    rw [known] at resolved
    refine ⟨?_, ?_⟩
    · rw [artifacts_ofDiscovery known, artifacts_ofDiscovery resolved,
        Registry.artifacts_offerAll, Registry.artifacts_offerAll, moreTargets, offered,
        offered, List.map_append, ← List.append_assoc,
        ← List.length_map (Artifact.ofTarget options)]
      exact Artifact.firsts_append _ _
    · rw [diagnostics_eq, diagnostics_eq, known, resolved, moreDiagnostics, moreTargets,
        snd_registerAll_append]
      simp only [if_true, List.length_append]
      refine ⟨?_, by omega⟩
      exact (List.sublist_append_left _ _).append (List.sublist_append_left _ _)

end Generation

/-! ## A longer set of declarations -/

namespace DeclarationSet

/-- A declaration behind the others answers for its id only if that is new. -/
theorem entry?_withDeclaration {set : DeclarationSet} {id : String}
    (recorded : (set.entry? id).isSome = true) (entry : DeclarationEntry) :
    entry? (set.withDeclaration entry) id = set.entry? id := by
  unfold entry? at recorded ⊢
  rw [withDeclaration, List.find?_append, Option.or_of_isSome recorded]

/-- A declaration that carries the marker is listed behind the others. -/
theorem annotated_withDeclaration (set : DeclarationSet) (entry : DeclarationEntry)
    (marker : String) :
    (set.withDeclaration entry).host.annotated marker = set.host.annotated marker ++
      if (entry.attribute? marker).isSome then [entry.id] else [] := by
  unfold host withDeclaration
  dsimp only
  rw [List.filter_append, List.map_append, List.filter_singleton]
  cases (entry.attribute? marker).isSome with
  | true => rfl
  | false => rfl

/-- What is listed is recorded. -/
theorem isSome_entry?_of_annotated {set : DeclarationSet} {marker id : String}
    (listed : id ∈ set.host.annotated marker) : (set.entry? id).isSome = true := by
  rcases List.mem_map.1 listed with ⟨entry, member, rfl⟩
  exact List.find?_isSome.2 ⟨entry, (List.mem_filter.1 member).1, beq_self_eq_true _⟩

/-- A longer set is a host that lists one declaration more at most. -/
theorem extends_withDeclaration (set : DeclarationSet) (entry : DeclarationEntry)
    (marker : String) :
    (set.withDeclaration entry).host.Extends set.host marker where
  knowsMarker := rfl
  annotated := by
    rw [annotated_withDeclaration]
    split
    · exact .inr ⟨_, rfl⟩
    · exact .inl (List.append_nil _)
  find id listed := by
    have same := entry?_withDeclaration (isSome_entry?_of_annotated listed) entry
    refine Host.find_eq_of_answers ?_ fun key => ?_
    · unfold host
      dsimp only
      rw [same]
    · unfold host
      dsimp only
      rw [same]

end DeclarationSet

/-- Recording one more declaration, whatever its id, leaves what a pass finds and
registers as it was, in front of at most one thing more: the targets and the
diagnostics of the discovery begin with the earlier ones, and so do the artifacts of
the generation; its diagnostics are the earlier ones, with at most one more among
them. -/
theorem generate_withDeclaration (set : DeclarationSet) (entry : DeclarationEntry)
    (options : Options) :
    ∃ found foundAfter left right,
      (discover set.host options .never).outcome = .ok found ∧
      (discover (set.withDeclaration entry).host options .never).outcome = .ok foundAfter ∧
      (generate set.host options .never).outcome = .ok left ∧
      (generate (set.withDeclaration entry).host options .never).outcome = .ok right ∧
      found.targets <+: foundAfter.targets ∧
      found.diagnostics <+: foundAfter.diagnostics ∧
      foundAfter.targets.length + foundAfter.diagnostics.length ≤
        found.targets.length + found.diagnostics.length + 1 ∧
      left.artifacts.artifacts <+: right.artifacts.artifacts ∧
      right.artifacts.artifacts.length ≤ left.artifacts.artifacts.length + 1 ∧
      left.diagnostics.Sublist right.diagnostics ∧
      right.diagnostics.length ≤ left.diagnostics.length + 1 := by
  rcases (set.extends_withDeclaration entry options.marker).discovery with
    ⟨resolved, targets, diagnostics, moreTargets, moreDiagnostics, short⟩
  rcases Generation.ofDiscovery_append options resolved moreTargets moreDiagnostics with
    ⟨⟨artifacts, oneArtifact⟩, reported, oneReport⟩
  refine ⟨_, _, _, _, outcome_discover_never set.host options,
    outcome_discover_never (set.withDeclaration entry).host options,
    outcome_generate_never set.host options,
    outcome_generate_never (set.withDeclaration entry).host options,
    ⟨targets, moreTargets.symm⟩, ⟨diagnostics, moreDiagnostics.symm⟩, ?_, artifacts, ?_,
    reported, ?_⟩
  · rw [moreTargets, moreDiagnostics, List.length_append, List.length_append]
    omega
  · exact Nat.le_trans oneArtifact (Nat.add_le_add_left (by omega) _)
  · exact Nat.le_trans oneReport (Nat.add_le_add_left short _)

end CharDispatch
