import CharDispatch.Proofs.Offers

/-!
# A registry is an ordered store in which the first text wins

What a registry answers and what it holds is said of the history of calls alone:
a call is answered by the first earlier call with its hint name
(`Registry.answer_offerAll`), and in the end the registry holds the first artifact
of every name, in the order in which the names came (`Artifact.firsts`).

* `Registry.addAll_append`: a sequence of calls is answered piece by piece.
* `Registry.addAll_artifacts`: what a registry holds can be registered anew, and
  every call finds its name free.
* `Registry.addAll_firstWins`: the answers to any sequence of calls, what each call
  changes, and all that can be seen of the registry in the end.
-/

namespace CharDispatch

namespace Registry

/-! ## Sequences of calls -/

/-- Registers some artifacts in turn: what the calls answer, and the registry in the
end.  A call that is refused leaves the registry to the next one as it was. -/
def addAll (registry : Registry) : List Artifact → List (Except Fault Bool) × Registry
  | [] => ([], registry)
  | artifact :: rest =>
    match registry.add artifact with
    | .ok (isNew, registry) =>
      let (answers, final) := addAll registry rest
      (.ok isNew :: answers, final)
    | .error fault =>
      let (answers, final) := addAll registry rest
      (.error fault :: answers, final)

/-- What a call answers. -/
def answer (registry : Registry) (artifact : Artifact) : Except Fault Bool :=
  (registry.add artifact).map Prod.fst

theorem addAll_cons (registry : Registry) (artifact : Artifact) (rest : List Artifact) :
    registry.addAll (artifact :: rest) =
      (registry.answer artifact :: ((registry.offer artifact).addAll rest).1,
        ((registry.offer artifact).addAll rest).2) := by
  rw [addAll, answer, offer]
  cases registry.add artifact with
  | ok added => rfl
  | error fault => rfl

/-- Calls are answered piece by piece. -/
theorem addAll_append (registry : Registry) (before after : List Artifact) :
    registry.addAll (before ++ after) =
      ((registry.addAll before).1 ++ ((registry.addAll before).2.addAll after).1,
        ((registry.addAll before).2.addAll after).2) := by
  induction before generalizing registry with
  | nil => rfl
  | cons artifact before ih => rw [List.cons_append, addAll_cons, addAll_cons, ih]; rfl

theorem length_fst_addAll (registry : Registry) (calls : List Artifact) :
    (registry.addAll calls).1.length = calls.length := by
  induction calls generalizing registry with
  | nil => rfl
  | cons artifact rest ih => rw [addAll_cons, List.length_cons, List.length_cons, ih]

/-- A sequence of calls on a new registry leaves what a run of offers leaves. -/
theorem snd_addAll_empty (calls : List Artifact) : (empty.addAll calls).2 = offerAll calls := by
  induction calls using List.reverseRecOn with
  | nil => rfl
  | append_singleton calls artifact ih =>
    rw [addAll_append, addAll_cons, offerAll_concat, ← ih]
    rfl

theorem answer_of_split {calls before after : List Artifact} {artifact : Artifact}
    (split : calls = before ++ artifact :: after) :
    (empty.addAll calls).1[before.length]? = some ((offerAll before).answer artifact) := by
  rw [split, addAll_append, snd_addAll_empty, addAll_cons,
    List.getElem?_append_right (Nat.le_of_eq (length_fst_addAll empty before)),
    length_fst_addAll, Nat.sub_self, List.getElem?_cons_zero]

/-! ## One call after a history -/

/-- A call is answered by the first earlier call with its hint name. -/
theorem answer_offerAll (before : List Artifact) (artifact : Artifact) :
    (offerAll before).answer artifact =
      match before.find? fun earlier => earlier.hintName = artifact.hintName with
      | none => .ok true
      | some first =>
        if first.source = artifact.source then .ok false
        else .error (.conflictingArtifact artifact.hintName) := by
  have held := get?_offerAll before artifact.hintName
  unfold answer
  cases found : before.find? fun earlier => earlier.hintName = artifact.hintName with
  | none =>
    rw [found] at held
    rw [add_of_free held]
    rfl
  | some first =>
    rw [found] at held
    dsimp only
    split
    · next same =>
      rw [add_of_same (same ▸ held)]
      rfl
    · next other =>
      rw [add_of_other held other]
      rfl

/-- The three answers, and the histories that lead to them. -/
theorem answer_offerAll_iff (before : List Artifact) (artifact : Artifact) :
    ((offerAll before).answer artifact = .ok true ↔
      ∀ earlier ∈ before, earlier.hintName ≠ artifact.hintName) ∧
    ((offerAll before).answer artifact = .ok false ↔
      ∃ first, (before.find? fun earlier => earlier.hintName = artifact.hintName) = some first ∧
        first.source = artifact.source) ∧
    ((offerAll before).answer artifact = .error (.conflictingArtifact artifact.hintName) ↔
      ∃ first, (before.find? fun earlier => earlier.hintName = artifact.hintName) = some first ∧
        first.source ≠ artifact.source) := by
  have isNew : (∀ earlier ∈ before, earlier.hintName ≠ artifact.hintName) ↔
      (before.find? fun earlier => earlier.hintName = artifact.hintName) = none := by
    simp [List.find?_eq_none]
  rw [answer_offerAll, isNew]
  cases before.find? fun earlier => earlier.hintName = artifact.hintName with
  | none => exact ⟨iff_of_true rfl rfl, iff_of_false nofun nofun, iff_of_false nofun nofun⟩
  | some first =>
    dsimp only
    split
    · next same =>
      refine ⟨iff_of_false nofun nofun, iff_of_true rfl ⟨first, rfl, same⟩,
        iff_of_false nofun ?_⟩
      rintro ⟨other, eq, differ⟩
      cases eq
      exact differ same
    · next differ =>
      refine ⟨iff_of_false nofun nofun, iff_of_false nofun ?_,
        iff_of_true rfl ⟨first, rfl, differ⟩⟩
      rintro ⟨other, eq, same⟩
      cases eq
      exact differ same

/-- A call that does not fill a free name changes nothing. -/
theorem offer_of_answer {registry : Registry} {artifact : Artifact}
    (taken : registry.answer artifact ≠ .ok true) : registry.offer artifact = registry := by
  cases held : registry.get? artifact.hintName with
  | none =>
    refine (taken ?_).elim
    rw [answer, add_of_free held]
    rfl
  | some source => exact offer_of_held held

/-! ## What can be seen of a registry -/

theorem toList_eq (registry : Registry) :
    registry.toList =
      registry.artifacts.map fun artifact => (artifact.hintName, artifact.source) := by
  rw [artifacts, List.map_map]
  exact (List.map_id _).symm

/-- A registry is told by its artifacts. -/
theorem artifacts_inj {first second : Registry} (same : first.artifacts = second.artifacts) :
    first = second := by
  have lists : first.toList = second.toList := by rw [toList_eq, toList_eq, same]
  cases first
  cases second
  exact congrArg mk (OrderedMap.ext lists)

theorem size_eq (registry : Registry) : registry.size = registry.artifacts.length :=
  (List.length_map _).symm

theorem isEmpty_eq (registry : Registry) : registry.isEmpty = registry.artifacts.isEmpty :=
  List.isEmpty_map.symm

/-- Calls with different names are all answered alike: their names are free. -/
theorem fst_addAll_of_nodup {calls : List Artifact}
    (distinct : (calls.map Artifact.hintName).Nodup) :
    (empty.addAll calls).1 = List.replicate calls.length (.ok true) := by
  induction calls using List.reverseRecOn with
  | nil => rfl
  | append_singleton calls artifact ih =>
    rw [List.map_append, List.map_singleton] at distinct
    rcases List.nodup_append.1 distinct with ⟨distinct, -, apart⟩
    have free : (offerAll calls).answer artifact = .ok true :=
      (answer_offerAll_iff calls artifact).1.2 fun earlier member same =>
        apart _ (List.mem_map_of_mem member) _ (List.mem_singleton.2 rfl) same
    rw [addAll_append, snd_addAll_empty, addAll_cons, free, ih distinct, List.length_append,
      List.length_singleton, List.replicate_succ']
    rfl

/-- What a registry holds can be registered anew. -/
theorem addAll_artifacts (registry : Registry) :
    empty.addAll registry.artifacts =
      (List.replicate registry.size (.ok true), registry) := by
  have distinct : (registry.artifacts.map Artifact.hintName).Nodup := by
    rw [map_hintName_artifacts]
    exact registry.entries.distinct
  refine Prod.ext ?_ ?_
  · rw [fst_addAll_of_nodup distinct, size_eq]
  · refine artifacts_inj ?_
    rw [snd_addAll_empty, artifacts_offerAll, Artifact.firsts_of_nodup distinct]

/-- In any sequence of calls on a new registry, a call answers that its name is new
if and only if no call before it had that name; else it answers that the artifact is
there already if the first call with the name had the same text, and is refused if it
had another.  A call whose name is not new leaves the registry as it was.  In the end
the registry lists the names in the order in which they first came, each with the
text of its first call, in whichever way it is looked at; it is empty if and only if
there was no call.  What it holds can be registered anew, every name being new. -/
theorem addAll_firstWins (calls : List Artifact) :
    ∃ answers registry, empty.addAll calls = (answers, registry) ∧
      answers.length = calls.length ∧
      (∀ before artifact after, calls = before ++ artifact :: after →
        ∃ answer, answers[before.length]? = some answer ∧
          (answer = .ok true ↔ ∀ earlier ∈ before, earlier.hintName ≠ artifact.hintName) ∧
          (answer = .ok false ↔ ∃ first,
            (before.find? fun earlier => earlier.hintName = artifact.hintName) = some first ∧
              first.source = artifact.source) ∧
          (answer = .error (.conflictingArtifact artifact.hintName) ↔ ∃ first,
            (before.find? fun earlier => earlier.hintName = artifact.hintName) = some first ∧
              first.source ≠ artifact.source) ∧
          (answer ≠ .ok true →
            (empty.addAll (before ++ [artifact])).2 = (empty.addAll before).2)) ∧
      registry.hintNames = (calls.map Artifact.hintName).eraseDups ∧
      registry.artifacts = Artifact.firsts calls ∧
      registry.toList =
        (Artifact.firsts calls).map (fun artifact => (artifact.hintName, artifact.source)) ∧
      (∀ (β : Type) (start : β) (visit : Artifact → β → Id (ForInStep β)),
        forIn registry start visit = forIn (Artifact.firsts calls) start visit) ∧
      (∀ name, registry.get? name =
        (calls.find? fun artifact => artifact.hintName = name).map Artifact.source) ∧
      (∀ name, (registry.get? name).isSome = true ↔ name ∈ calls.map Artifact.hintName) ∧
      registry.size = (calls.map Artifact.hintName).eraseDups.length ∧
      (registry.isEmpty = true ↔ calls = []) ∧
      empty.addAll registry.artifacts = (List.replicate registry.size (.ok true), registry) := by
  have names := hintNames_offerAll calls
  have listed := artifacts_offerAll calls
  refine ⟨_, offerAll calls, Prod.ext rfl (snd_addAll_empty calls), length_fst_addAll empty calls,
    ?_, names, listed, ?_, ?_, get?_offerAll calls, ?_, ?_, ?_, addAll_artifacts _⟩
  · intro before artifact after split
    rcases answer_offerAll_iff before artifact with ⟨isNew, isSame, isOther⟩
    refine ⟨_, answer_of_split split, isNew, isSame, isOther, fun taken => ?_⟩
    rw [snd_addAll_empty, snd_addAll_empty, offerAll_concat, offer_of_answer taken]
  · rw [toList_eq, listed]
  · intro β start visit
    rw [← listed]
    rfl
  · intro name
    rw [Option.isSome_iff_exists, ← mem_hintNames_iff, names, List.mem_eraseDups]
  · rw [size_eq, ← List.length_map Artifact.hintName, map_hintName_artifacts, names]
  · rw [isEmpty_eq, List.isEmpty_iff, ← List.map_eq_nil_iff (f := Artifact.hintName),
      map_hintName_artifacts, names]
    cases calls with
    | nil => exact iff_of_true rfl rfl
    | cons artifact rest =>
      rw [List.map_cons, List.eraseDups_cons]
      exact iff_of_false nofun nofun

/-- Two names, one of them with its text again and then with another text. -/
theorem addAll_firstWins_mixed :
    let calls : List Artifact :=
      [⟨"A.g.cs", "1"⟩, ⟨"B.g.cs", "2"⟩, ⟨"A.g.cs", "1"⟩, ⟨"A.g.cs", "3"⟩]
    calls = [⟨"A.g.cs", "1"⟩, ⟨"B.g.cs", "2"⟩, ⟨"A.g.cs", "1"⟩] ++ ⟨"A.g.cs", "3"⟩ :: [] ∧
      ∃ answers registry, empty.addAll calls = (answers, registry) ∧
        answers[3]? = some (.error (.conflictingArtifact "A.g.cs")) ∧
        registry.artifacts = [⟨"A.g.cs", "1"⟩, ⟨"B.g.cs", "2"⟩] ∧
        empty.addAll registry.artifacts = ([.ok true, .ok true], registry) := by
  intro calls
  refine ⟨rfl, ?_⟩
  rcases addAll_firstWins calls with
    ⟨answers, registry, run, -, each, -, listed, -, -, -, -, size, -, anew⟩
  rcases each [⟨"A.g.cs", "1"⟩, ⟨"B.g.cs", "2"⟩, ⟨"A.g.cs", "1"⟩] ⟨"A.g.cs", "3"⟩ [] rfl with
    ⟨answer, place, -, -, refused, -⟩
  have other : answer = .error (.conflictingArtifact "A.g.cs") :=
    refused.2 ⟨⟨"A.g.cs", "1"⟩, rfl, by decide⟩
  have two : registry.size = 2 := by
    rw [size]
    decide
  refine ⟨answers, registry, run, place.trans (congrArg some other), ?_, ?_⟩
  · rw [listed]
    decide
  · rw [anew, two]
    rfl

end Registry

end CharDispatch
