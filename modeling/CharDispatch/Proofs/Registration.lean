import CharDispatch.Proofs.Outcome

/-!
# Registering the artifacts of targets

The text under a hint name is that of the first artifact registered there, so a
registry is described by what it holds under each name.

* `Generation.get?_registerAll`: a run of registrations leaves, under a name that
  was free, the text of the first target with that hint name.
* `Generation.conflicts_registerAll`: it drops the targets whose text is not the
  one left under their hint name.
* `Generation.mem_artifacts`: so every artifact of a generation is the definition
  of the marker or comes from the first target with its hint name.
-/

namespace CharDispatch

/-! ## Entries and lookups -/

/-- Keys are distinct, so every entry is the one that is looked up. -/
theorem OrderedMap.mem_toList_iff {β : Type} {m : OrderedMap β} {key : String} {value : β} :
    (key, value) ∈ m.toList ↔ m.get? key = some value := by
  have distinct := m.distinct
  unfold get?
  generalize m.toList = entries at distinct ⊢
  induction entries with
  | nil => simp
  | cons entry rest ih =>
    rcases entry with ⟨first, old⟩
    rcases List.nodup_cons.1 distinct with ⟨new, distinct⟩
    have held := ih distinct
    rw [List.mem_cons, Prod.mk.injEq, List.lookup_cons]
    by_cases same : key = first
    · have absent : (key, value) ∉ rest := fun member =>
        new (List.mem_map.2 ⟨(key, value), member, same⟩)
      simp [same ▸ absent, same, eq_comm]
    · have differ : (key == first) = false := beq_eq_false_iff_ne.2 same
      simp [same, differ, held]

namespace Registry

theorem mem_artifacts_iff {registry : Registry} {artifact : Artifact} :
    artifact ∈ registry.artifacts ↔ registry.get? artifact.hintName = some artifact.source := by
  rw [get?, ← OrderedMap.mem_toList_iff, artifacts, toList, List.mem_map]
  constructor
  · intro listed
    rcases listed with ⟨entry, held, rfl⟩
    exact held
  · intro held
    exact ⟨_, held, rfl⟩

/-! ## One registration -/

/-- The registry after an artifact was offered to it, whether or not it was
taken. -/
def offer (registry : Registry) (artifact : Artifact) : Registry :=
  match registry.add artifact with
  | .ok (_, registry) => registry
  | .error _ => registry

variable {registry : Registry} {artifact : Artifact}

/-- Under a free name, an artifact is registered. -/
theorem add_of_free (free : registry.get? artifact.hintName = none) :
    registry.add artifact =
      .ok (true, ⟨registry.entries.insert artifact.hintName artifact.source⟩) := by
  rw [add, free]

/-- The text that is registered already is accepted again. -/
theorem add_of_same (held : registry.get? artifact.hintName = some artifact.source) :
    registry.add artifact = .ok (false, registry) := by
  rw [add, held]
  exact if_pos rfl

/-- Another text is refused. -/
theorem add_of_other {source : String} (held : registry.get? artifact.hintName = some source)
    (other : source ≠ artifact.source) :
    registry.add artifact = .error (.conflictingArtifact artifact.hintName) := by
  rw [add, held]
  exact if_neg other

theorem offer_of_held {source : String} (held : registry.get? artifact.hintName = some source) :
    registry.offer artifact = registry := by
  unfold offer
  by_cases same : source = artifact.source
  · rw [add_of_same (same ▸ held)]
  · rw [add_of_other held same]

/-- What is registered stays, and an artifact that is offered fills its name if
that is free. -/
theorem get?_offer (registry : Registry) (artifact : Artifact) (name : String) :
    (registry.offer artifact).get? name =
      (registry.get? name).or
        (if artifact.hintName = name then some artifact.source else none) := by
  cases held : registry.get? artifact.hintName with
  | none =>
    have taken : (registry.offer artifact).get? name =
        if name = artifact.hintName then some artifact.source else registry.get? name := by
      rw [offer, add_of_free held]
      exact registry.entries.get?_insert _ _ _
    rw [taken]
    by_cases own : artifact.hintName = name
    · rw [if_pos own.symm, if_pos own, ← own, held, Option.none_or]
    · rw [if_neg (Ne.symm own), if_neg own, Option.or_none]
  | some source =>
    rw [offer_of_held held]
    by_cases own : artifact.hintName = name
    · rw [← own, held, Option.some_or]
    · rw [if_neg own, Option.or_none]

end Registry

/-! ## A run of registrations -/

/-- The diagnostic of a target whose artifact is refused. -/
def Target.conflict (options : Options) (target : Target) : Diagnostic :=
  ⟨target.qualifiedName, .conflictingArtifact (Artifact.ofTarget options target).hintName⟩

namespace Generation

/-- The first of some targets with a hint name. -/
def firstUnder (options : Options) (name : String) (targets : List Target) : Option Target :=
  targets.find? fun target => (Artifact.ofTarget options target).hintName = name

theorem firstUnder_cons (options : Options) (name : String) (target : Target)
    (rest : List Target) :
    firstUnder options name (target :: rest) =
      if (Artifact.ofTarget options target).hintName = name then some target
      else firstUnder options name rest := by
  rw [firstUnder, List.find?_cons]
  by_cases own : (Artifact.ofTarget options target).hintName = name
  · rw [if_pos own, decide_eq_true own]
  · rw [if_neg own, decide_eq_false own]
    rfl

theorem of_firstUnder {options : Options} {name : String} {targets : List Target}
    {target : Target} (first : firstUnder options name targets = some target) :
    target ∈ targets ∧ (Artifact.ofTarget options target).hintName = name := by
  unfold firstUnder at first
  exact ⟨List.mem_of_find?_eq_some first, by simpa using List.find?_some first⟩

/-- A run offers the artifacts in turn. -/
theorem fst_registerAll (options : Options) (registry : Registry) (targets : List Target) :
    (registerAll options registry targets).1 =
      targets.foldl (fun registry target => registry.offer (.ofTarget options target))
        registry := by
  induction targets generalizing registry with
  | nil => rfl
  | cons target rest ih =>
    rw [List.foldl_cons, ← ih, registerAll, Registry.offer]
    cases registry.add (.ofTarget options target) with
    | ok added => rfl
    | error fault => rfl

/-- What was registered before a run stays, and a name that was free holds the
text of the first target with that name. -/
theorem get?_registerAll (options : Options) (registry : Registry) (targets : List Target)
    (name : String) :
    (registerAll options registry targets).1.get? name =
      (registry.get? name).or ((firstUnder options name targets).map fun target =>
        (Artifact.ofTarget options target).source) := by
  rw [fst_registerAll]
  induction targets generalizing registry with
  | nil => exact (Option.or_none).symm
  | cons target rest ih =>
    rw [List.foldl_cons, ih, Registry.get?_offer, Option.or_assoc, firstUnder_cons]
    split
    · rfl
    · rfl

/-- A run drops the targets whose text is not the one that it leaves under their
hint names. -/
theorem conflicts_registerAll (options : Options) (registry : Registry)
    (targets : List Target) :
    (registerAll options registry targets).2 =
      (targets.filter fun target =>
        (registerAll options registry targets).1.get?
          (Artifact.ofTarget options target).hintName ≠
            some (Artifact.ofTarget options target).source).map (Target.conflict options) := by
  induction targets generalizing registry with
  | nil => rfl
  | cons target rest ih =>
    -- nothing behind `target` changes what is left under its hint name
    have left := get?_registerAll options registry (target :: rest)
      (Artifact.ofTarget options target).hintName
    rw [firstUnder_cons, if_pos rfl] at left
    cases held : registry.get? (Artifact.ofTarget options target).hintName with
    | none =>
      rw [held] at left
      rw [List.filter_cons_of_neg (by simp [left]), registerAll, Registry.add_of_free held]
      exact ih _
    | some source =>
      rw [held, Option.some_or] at left
      by_cases same : source = (Artifact.ofTarget options target).source
      · rw [List.filter_cons_of_neg (by simp [left, same]), registerAll,
          Registry.add_of_same (same ▸ held)]
        exact ih registry
      · rw [List.filter_cons_of_pos (by simp [left, same]), registerAll,
          Registry.add_of_other held same, List.map_cons]
        exact congrArg (target.conflict options :: ·) (ih registry)

/-! ## The artifacts of a generation -/

theorem get?_start (options : Options) (name : String) :
    (start options).get? name =
      if options.embedAttribute = true ∧ name = options.markerHintName then
        some (Template.renderMarker options)
      else none := by
  unfold start
  cases options.embedAttribute with
  | false => rfl
  | true =>
    rw [if_pos rfl, Registry.get?, OrderedMap.get?_insert]
    simp only [true_and]
    rfl

theorem get?_ofDiscovery {options : Options} {found : Discovery}
    (resolved : found.markerResolved = true) (name : String) :
    (ofDiscovery options found).artifacts.get? name =
      (if options.embedAttribute = true ∧ name = options.markerHintName then
        some (Template.renderMarker options)
      else none).or ((firstUnder options name found.targets).map fun target =>
        (Artifact.ofTarget options target).source) := by
  rw [ofDiscovery, if_pos resolved, ← get?_start, ← get?_registerAll]

/-- An artifact of a generation is the definition of the marker or comes from the
first target with its hint name. -/
theorem mem_artifacts {options : Options} {found : Discovery} {artifact : Artifact}
    (member : artifact ∈ (ofDiscovery options found).artifacts.artifacts) :
    (options.embedAttribute = true ∧ artifact = .markerDefinition options) ∨
      ∃ target, firstUnder options artifact.hintName found.targets = some target ∧
        artifact = .ofTarget options target := by
  rw [Registry.mem_artifacts_iff] at member
  cases resolved : found.markerResolved with
  | false =>
    rw [ofDiscovery, resolved] at member
    cases member
  | true =>
    rw [get?_ofDiscovery resolved] at member
    split at member
    · next embedded =>
      refine Or.inl ⟨embedded.1, ?_⟩
      change (⟨artifact.hintName, artifact.source⟩ : Artifact) = _
      rw [embedded.2, ← Option.some.inj member]
      rfl
    · rw [Option.none_or, Option.map_eq_some_iff] at member
      rcases member with ⟨target, first, source⟩
      refine Or.inr ⟨target, first, ?_⟩
      change (⟨artifact.hintName, artifact.source⟩ : Artifact) = _
      rw [← (of_firstUnder first).2, ← source]

end Generation

end CharDispatch
