import CharDispatch.Proofs.Registration

/-!
# Artifacts offered to a registry

A generation offers its registry the definition of the marker, if the options
ask for it, and then the artifact of every target in turn
(`Generation.offered`).  An offer never changes what is registered already, so
the registry in the end is read off the list of offers alone: of every hint name
it holds the first artifact, and the names stand in the order in which they were
first offered (`Artifact.firsts`).

* `Artifact.firsts_concat`: what one more offer adds; from it, how the first artifacts
  of a list behave under filters and appends.
* `Registry.get?_offerAll`, `Registry.hintNames_offerAll`: the text under a name,
  and the order of the names.
* `Registry.artifacts_offerAll`: both at once.
* `Generation.artifacts_ofDiscovery`: the registry of a generation.
-/

namespace CharDispatch

/-- Of each hint name, the first artifact; the names stand in the order in which
they first occur. -/
def Artifact.firsts (offered : List Artifact) : List Artifact :=
  (offered.map Artifact.hintName).eraseDups.filterMap fun name =>
    offered.find? fun artifact => artifact.hintName = name

namespace Artifact

/-- A name that was offered is looked up where it was offered first. -/
theorem find?_append_of_mem {offered : List Artifact} {name : String}
    (member : name ∈ offered.map hintName) (more : List Artifact) :
    ((offered ++ more).find? fun artifact => artifact.hintName = name) =
      offered.find? fun artifact => artifact.hintName = name := by
  rcases List.mem_map.1 member with ⟨artifact, listed, own⟩
  have found : (offered.find? fun artifact => artifact.hintName = name).isSome :=
    List.find?_isSome.2 ⟨artifact, listed, decide_eq_true own⟩
  rw [List.find?_append, Option.or_of_isSome found]

/-- One more artifact comes last if its name is new, and is passed over if it is not. -/
theorem firsts_concat (offered : List Artifact) (artifact : Artifact) :
    firsts (offered ++ [artifact]) =
      if artifact.hintName ∈ offered.map hintName then firsts offered
      else firsts offered ++ [artifact] := by
  have earlier : (offered.map hintName).eraseDups.filterMap (fun name =>
      (offered ++ [artifact]).find? fun other => other.hintName = name) = firsts offered :=
    List.filterMap_congr fun name member =>
      find?_append_of_mem (List.mem_eraseDups.1 member) [artifact]
  rw [firsts, List.map_append, List.map_singleton, Host.eraseDups_concat]
  split
  · exact earlier
  · next new =>
    have unheld : (offered.find? fun other => other.hintName = artifact.hintName) = none := by
      refine List.find?_eq_none.2 fun other listed => ?_
      simpa using fun own => new (List.mem_map.2 ⟨other, listed, own⟩)
    have own : ((offered ++ [artifact]).find? fun other =>
        other.hintName = artifact.hintName) = some artifact := by
      rw [List.find?_append, unheld, Option.none_or]
      exact List.find?_cons_of_pos (decide_eq_true rfl)
    rw [List.filterMap_append, earlier, List.filterMap_cons, own, List.filterMap_nil]

/-- Behind the first artifact come the first ones of the other names. -/
theorem firsts_cons_filter (artifact : Artifact) (rest : List Artifact) :
    firsts (artifact :: rest) =
      artifact :: (firsts rest).filter fun other => other.hintName ≠ artifact.hintName := by
  -- from the back: whether the last artifact is new is seen from those in front of it
  induction rest using List.reverseRecOn with
  | nil => exact firsts_concat [] artifact
  | append_singleton rest last ih =>
    rw [← List.cons_append, firsts_concat, firsts_concat, ih, List.map_cons]
    by_cases own : last.hintName = artifact.hintName
    · rw [if_pos (List.mem_cons.2 (.inl own))]
      split
      · rfl
      · rw [List.filter_append, List.filter_cons_of_neg (by simpa using own),
          List.filter_nil, List.append_nil]
    · by_cases met : last.hintName ∈ rest.map hintName
      · rw [if_pos (List.mem_cons_of_mem _ met), if_pos met]
      · have new : last.hintName ∉ artifact.hintName :: rest.map hintName := fun member =>
          (List.mem_cons.1 member).elim own met
        rw [if_neg new, if_neg met, List.filter_append,
          List.filter_cons_of_pos (by simpa using own), List.filter_nil, List.cons_append]

theorem firsts_cons (artifact : Artifact) (rest : List Artifact) :
    ∃ others, firsts (artifact :: rest) = artifact :: others :=
  ⟨_, firsts_cons_filter artifact rest⟩

/-- Which artifact is first under a name does not depend on the other names. -/
theorem firsts_filter (keeps : String → Bool) (offered : List Artifact) :
    firsts (offered.filter fun artifact => keeps artifact.hintName) =
      (firsts offered).filter fun artifact => keeps artifact.hintName := by
  induction offered using List.reverseRecOn with
  | nil => rfl
  | append_singleton offered last ih =>
    rw [List.filter_append, firsts_concat]
    by_cases kept : keeps last.hintName = true
    · have alone : ([last].filter fun artifact => keeps artifact.hintName) = [last] :=
        List.filter_cons_of_pos kept
      -- a name that is kept was met before if and only if it was met among those kept
      have met : last.hintName ∈
          (offered.filter fun artifact => keeps artifact.hintName).map hintName ↔
            last.hintName ∈ offered.map hintName := by
        simp only [List.mem_map, List.mem_filter]
        refine exists_congr fun artifact => ⟨fun held => ⟨held.1.1, held.2⟩, fun held => ?_⟩
        exact ⟨⟨held.1, held.2 ▸ kept⟩, held.2⟩
      rw [alone, firsts_concat, ih]
      simp only [met]
      split
      · rfl
      · rw [List.filter_append, alone]
    · have gone : ([last].filter fun artifact => keeps artifact.hintName) = [] :=
        List.filter_cons_of_neg kept
      rw [gone, List.append_nil, ih]
      split
      · rfl
      · rw [List.filter_append, gone, List.append_nil]

/-- Of artifacts with different names, each is the first. -/
theorem firsts_of_nodup {offered : List Artifact} (distinct : (offered.map hintName).Nodup) :
    firsts offered = offered := by
  induction offered using List.reverseRecOn with
  | nil => rfl
  | append_singleton offered last ih =>
    rw [List.map_append, List.map_singleton] at distinct
    rcases List.nodup_append.1 distinct with ⟨distinct, -, apart⟩
    have new : last.hintName ∉ offered.map hintName := fun met =>
      apart _ met _ (List.mem_singleton.2 rfl) rfl
    rw [firsts_concat, if_neg new, ih distinct]

/-- Further offers add to the first artifacts behind those that are there. -/
theorem firsts_append (offered more : List Artifact) :
    firsts offered <+: firsts (offered ++ more) ∧
      (firsts (offered ++ more)).length ≤ (firsts offered).length + more.length := by
  induction more using List.reverseRecOn with
  | nil => simp
  | append_singleton more last ih =>
    rw [← List.append_assoc, firsts_concat, List.length_append, List.length_singleton]
    split
    · exact ⟨ih.1, by omega⟩
    · refine ⟨ih.1.trans (List.prefix_append _ _), ?_⟩
      rw [List.length_append, List.length_singleton]
      omega

end Artifact

namespace Registry

/-! ## Names and texts of a registry -/

theorem mem_hintNames_iff {registry : Registry} {name : String} :
    name ∈ registry.hintNames ↔ ∃ source, registry.get? name = some source := by
  refine List.mem_map.trans ⟨?_, ?_⟩
  · rintro ⟨⟨key, source⟩, member, rfl⟩
    exact ⟨source, OrderedMap.mem_toList_iff.1 member⟩
  · rintro ⟨source, held⟩
    exact ⟨(name, source), OrderedMap.mem_toList_iff.2 held, rfl⟩

/-- The artifacts are the texts under the names, in the order of the names. -/
theorem artifacts_eq (registry : Registry) :
    registry.artifacts =
      registry.hintNames.filterMap fun name => (registry.get? name).map (Artifact.mk name) := by
  unfold artifacts hintNames OrderedMap.keys
  rw [List.filterMap_map, ← List.filterMap_eq_map]
  refine List.filterMap_congr fun entry member => ?_
  have held : registry.get? entry.1 = some entry.2 := OrderedMap.mem_toList_iff.1 member
  rw [Function.comp_apply, Function.comp_apply, held, Option.map_some]

theorem map_hintName_artifacts (registry : Registry) :
    registry.artifacts.map Artifact.hintName = registry.hintNames := by
  unfold artifacts hintNames OrderedMap.keys
  rw [List.map_map]
  rfl

/-- Registries that hold the same artifacts under some names have these names in the
same order, and under each of them the same text. -/
theorem agree_of_filter_artifacts {first second : Registry} {keeps : String → Bool}
    (same : (first.artifacts.filter fun artifact => keeps artifact.hintName) =
      second.artifacts.filter fun artifact => keeps artifact.hintName) :
    first.hintNames.filter keeps = second.hintNames.filter keeps ∧
      ∀ name, keeps name = true → first.get? name = second.get? name := by
  have kept (registry : Registry) : registry.hintNames.filter keeps =
      (registry.artifacts.filter fun artifact => keeps artifact.hintName).map
        Artifact.hintName := by
    rw [← map_hintName_artifacts, List.filter_map]
    rfl
  have held (registry : Registry) {name source : String} (inside : keeps name = true) :
      registry.get? name = some source ↔ (⟨name, source⟩ : Artifact) ∈
        registry.artifacts.filter fun artifact => keeps artifact.hintName := by
    rw [List.mem_filter, mem_artifacts_iff]
    exact (and_iff_left inside).symm
  refine ⟨by rw [kept, kept, same], fun name inside => Option.ext fun source => ?_⟩
  rw [held first inside, held second inside, same]

/-- An offer adds its name behind the others if that is free. -/
theorem hintNames_offer (registry : Registry) (artifact : Artifact) :
    (registry.offer artifact).hintNames =
      if artifact.hintName ∈ registry.hintNames then registry.hintNames
      else registry.hintNames ++ [artifact.hintName] := by
  cases held : registry.get? artifact.hintName with
  | none =>
    rw [offer, add_of_free held]
    exact registry.entries.keys_insert _ _
  | some source => rw [offer_of_held held, if_pos (mem_hintNames_iff.2 ⟨source, held⟩)]

/-! ## A run of offers -/

/-- The registry after some artifacts were offered in turn. -/
def offerAll (artifacts : List Artifact) : Registry := artifacts.foldl offer .empty

theorem offerAll_concat (artifacts : List Artifact) (artifact : Artifact) :
    offerAll (artifacts ++ [artifact]) = (offerAll artifacts).offer artifact := by
  rw [offerAll, List.foldl_append]
  rfl

/-- Under a name stands the text of the first artifact that was offered under it. -/
theorem get?_offerAll (artifacts : List Artifact) (name : String) :
    (offerAll artifacts).get? name =
      (artifacts.find? fun artifact => artifact.hintName = name).map Artifact.source := by
  induction artifacts using List.reverseRecOn with
  | nil => rfl
  | append_singleton artifacts artifact ih =>
    rw [offerAll_concat, get?_offer, ih, List.find?_append, Option.map_or, List.find?_singleton]
    by_cases own : artifact.hintName = name
    · rw [if_pos own, if_pos (decide_eq_true own), Option.map_some]
    · rw [if_neg own, if_neg (by simpa using own), Option.map_none]

/-- Names stand in the order in which they were first offered. -/
theorem hintNames_offerAll (artifacts : List Artifact) :
    (offerAll artifacts).hintNames = (artifacts.map Artifact.hintName).eraseDups := by
  induction artifacts using List.reverseRecOn with
  | nil => rfl
  | append_singleton artifacts artifact ih =>
    rw [offerAll_concat, hintNames_offer, ih, List.map_append, List.map_singleton,
      Host.eraseDups_concat]
    simp only [List.mem_eraseDups]

/-- A name is taken if and only if an artifact was offered under it. -/
theorem mem_hintNames_offerAll_iff {artifacts : List Artifact} {name : String} :
    name ∈ (offerAll artifacts).hintNames ↔
      ∃ artifact ∈ artifacts, artifact.hintName = name := by
  rw [hintNames_offerAll, List.mem_eraseDups, List.mem_map]

/-- Something stands under the name of every artifact that was offered. -/
theorem exists_get?_of_mem {artifacts : List Artifact} {artifact : Artifact}
    (member : artifact ∈ artifacts) :
    ∃ source, (offerAll artifacts).get? artifact.hintName = some source :=
  mem_hintNames_iff.1 (mem_hintNames_offerAll_iff.2 ⟨artifact, member, rfl⟩)

/-- A run of offers leaves the first artifact of every name. -/
theorem artifacts_offerAll (artifacts : List Artifact) :
    (offerAll artifacts).artifacts = Artifact.firsts artifacts := by
  rw [artifacts_eq, hintNames_offerAll, Artifact.firsts]
  refine List.filterMap_congr fun name _ => ?_
  rw [get?_offerAll]
  cases found : artifacts.find? fun artifact => artifact.hintName = name with
  | none => rfl
  | some artifact =>
    have own : artifact.hintName = name := by simpa using List.find?_some found
    rw [Option.map_some, Option.map_some, ← own]

end Registry

namespace Generation

/-! ## What a generation offers -/

/-- The artifacts that a generation offers to its registry. -/
def offered (options : Options) (targets : List Target) : List Artifact :=
  (if options.embedAttribute then [.markerDefinition options] else []) ++
    targets.map (Artifact.ofTarget options)

theorem mem_offered_iff {options : Options} {targets : List Target} {artifact : Artifact} :
    artifact ∈ offered options targets ↔
      (options.embedAttribute = true ∧ artifact = .markerDefinition options) ∨
        ∃ target ∈ targets, artifact = .ofTarget options target := by
  rw [offered, List.mem_append]
  refine or_congr ?_ ?_
  · cases options.embedAttribute with
    | false => exact iff_of_false nofun nofun
    | true => simp
  · rw [List.mem_map]
    simp only [eq_comm]

theorem start_eq (options : Options) :
    start options =
      Registry.offerAll (if options.embedAttribute then [.markerDefinition options] else []) := by
  unfold start
  cases options.embedAttribute with
  | false => rfl
  | true => rfl

/-- A run of registrations from the first registry is a run of offers. -/
theorem fst_registerAll_start (options : Options) (targets : List Target) :
    (registerAll options (start options) targets).1 =
      Registry.offerAll (offered options targets) := by
  rw [fst_registerAll, start_eq, offered, Registry.offerAll, Registry.offerAll,
    List.foldl_append, List.foldl_map]

/-- The registry of a generation. -/
theorem artifacts_ofDiscovery {options : Options} {found : Discovery}
    (resolved : found.markerResolved = true) :
    (ofDiscovery options found).artifacts = Registry.offerAll (offered options found.targets) := by
  rw [ofDiscovery, if_pos resolved]
  exact fst_registerAll_start options found.targets

end Generation

end CharDispatch
