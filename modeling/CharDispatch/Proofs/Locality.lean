import CharDispatch.Proofs.Accounting
import CharDispatch.Proofs.Offers

/-!
# A declaration changes what stands under its own hint names

Let two hosts answer alike but for one declaration.  It may be resolved by one of
them only, be refused by one, ask for another artifact, win a conflict here and lose
it there.  All of that concerns the hint names of its targets in the two passes: the
offers of the other declarations are the same, in the same order, and which offer is
first under a name does not depend on the other names (`Artifact.firsts_filter`).

* `Host.targets_discovery`: a discovery finds the target of every distinct
  declaration.
* `Host.AgreesExcept.filter_offered`: under other names the same is offered.
* `generate_local`: what two generations have in common.
-/

namespace CharDispatch

variable {ι : Type} [DecidableEq ι]

namespace Host

/-! ## The target of a declaration -/

/-- The target that comes of a declaration in a pass, if the host knows the marker
and lists the declaration. -/
def targetOf? (host : Host ι) (marker : String) (id : ι) : Option Target :=
  if host.knowsMarker marker = true ∧ id ∈ host.annotated marker then
    (host.find marker id).target?
  else none

/-- The hint name of the target of a declaration. -/
def hintNameOf? (host : Host ι) (options : Options) (id : ι) : Option String :=
  (host.targetOf? options.marker id).map fun target => (Artifact.ofTarget options target).hintName

/-- A discovery finds the targets of the distinct declarations, in order. -/
theorem targets_discovery (host : Host ι) (marker : String) :
    (host.discovery marker).targets = (host.distinct marker).filterMap (host.targetOf? marker) := by
  by_cases knows : host.knowsMarker marker = true
  · rw [discovery_of_knows knows]
    refine List.filterMap_congr fun id member => ?_
    rw [targetOf?, if_pos ⟨knows, List.mem_eraseDups.1 member⟩]
  · rw [discovery, if_neg knows]
    refine (List.filterMap_eq_nil_iff.2 fun id _ => ?_).symm
    rw [targetOf?, if_neg fun both => knows both.1]

/-- The registry of a generation. -/
theorem artifacts_generation (host : Host ι) (options : Options) :
    (host.generation options).artifacts =
      if host.knowsMarker options.marker then
        Registry.offerAll (Generation.offered options (host.discovery options.marker).targets)
      else .empty := by
  unfold generation
  by_cases knows : host.knowsMarker options.marker = true
  · have resolved : (host.discovery options.marker).markerResolved = true := by
      rw [discovery_of_knows knows]
    rw [if_pos knows, Generation.artifacts_ofDiscovery resolved]
  · rw [if_neg knows, discovery, if_neg knows]
    rfl

/-! ## Hosts that differ in one declaration -/

/-- Two hosts give the same answers about the marker, and about all declarations
but one. -/
structure AgreesExcept (first second : Host ι) (marker : String) (id : ι) : Prop where
  knowsMarker : first.knowsMarker marker = second.knowsMarker marker
  annotated : first.annotated marker = second.annotated marker
  resolve : ∀ other, other ≠ id → first.resolve other = second.resolve other
  argument : ∀ other, other ≠ id → ∀ key,
    first.argument other marker key = second.argument other marker key

variable {first second : Host ι} {id : ι}

theorem AgreesExcept.targetOf?_eq {marker : String}
    (agree : first.AgreesExcept second marker id) {other : ι} (apart : other ≠ id) :
    first.targetOf? marker other = second.targetOf? marker other := by
  have found : first.find marker other = second.find marker other :=
    find_eq_of_answers (agree.resolve other apart) (agree.argument other apart)
  unfold targetOf?
  rw [agree.knowsMarker, agree.annotated, found]

/-- The artifacts of targets, as far as their names are kept, come from the
declarations one by one. -/
theorem filter_artifacts_eq (host : Host ι) (options : Options) (keeps : String → Bool) :
    (((host.discovery options.marker).targets.map (Artifact.ofTarget options)).filter
        fun artifact => keeps artifact.hintName) =
      (host.distinct options.marker).filterMap fun id =>
        ((host.targetOf? options.marker id).map (Artifact.ofTarget options)).filter
          fun artifact => keeps artifact.hintName := by
  rw [targets_discovery, List.map_filterMap, List.filter_filterMap]

/-- Under names that the declaration has in neither pass, the same is offered in the
same order. -/
theorem AgreesExcept.filter_offered {options : Options}
    (agree : first.AgreesExcept second options.marker id) (keeps : String → Bool)
    (outsideFirst : ∀ name ∈ first.hintNameOf? options id, keeps name = false)
    (outsideSecond : ∀ name ∈ second.hintNameOf? options id, keeps name = false) :
    ((Generation.offered options (first.discovery options.marker).targets).filter
        fun artifact => keeps artifact.hintName) =
      (Generation.offered options (second.discovery options.marker).targets).filter
        fun artifact => keeps artifact.hintName := by
  have own {host : Host ι} (outside : ∀ name ∈ host.hintNameOf? options id, keeps name = false) :
      (((host.targetOf? options.marker id).map (Artifact.ofTarget options)).filter
        fun artifact => keeps artifact.hintName) = none := by
    unfold hintNameOf? at outside
    cases found : host.targetOf? options.marker id with
    | none => rfl
    | some target =>
      rw [found] at outside
      exact Option.filter_some_neg (by simp [outside _ rfl])
  have distinct : first.distinct options.marker = second.distinct options.marker :=
    congrArg List.eraseDups agree.annotated
  rw [Generation.offered, Generation.offered, List.filter_append, List.filter_append,
    filter_artifacts_eq, filter_artifacts_eq, distinct]
  refine congrArg _ (List.filterMap_congr fun other _ => ?_)
  by_cases same : other = id
  · rw [same, own outsideFirst, own outsideSecond]
  · rw [agree.targetOf?_eq same]

/-- The same host, but it cannot resolve one declaration. -/
def forgetting (host : Host ι) (id : ι) : Host ι :=
  { host with resolve := fun other => if other = id then none else host.resolve other }

theorem agreesExcept_forgetting (host : Host ι) (marker : String) (id : ι) :
    host.AgreesExcept (host.forgetting id) marker id where
  knowsMarker := rfl
  annotated := rfl
  resolve _ apart := (if_neg apart).symm
  argument _ _ _ := rfl

end Host

/-- Over hosts that answer alike except about one declaration, two generations have
the same text, or none, under every hint name that the target of this declaration has
in neither pass, and these names stand in the same order in both. -/
theorem generate_local (first second : Host ι) (options : Options) (id : ι)
    (agree : first.AgreesExcept second options.marker id) :
    ∃ left right,
      (generate first options .never).outcome = .ok left ∧
      (generate second options .never).outcome = .ok right ∧
      (∀ name, first.hintNameOf? options id ≠ some name →
        second.hintNameOf? options id ≠ some name →
          left.artifacts.get? name = right.artifacts.get? name) ∧
      (left.artifacts.hintNames.filter fun name =>
          first.hintNameOf? options id ≠ some name ∧ second.hintNameOf? options id ≠ some name) =
        right.artifacts.hintNames.filter fun name =>
          first.hintNameOf? options id ≠ some name ∧
            second.hintNameOf? options id ≠ some name := by
  let keeps (name : String) : Bool :=
    first.hintNameOf? options id ≠ some name ∧ second.hintNameOf? options id ≠ some name
  have same : ((first.generation options).artifacts.artifacts.filter
      fun artifact => keeps artifact.hintName) =
        (second.generation options).artifacts.artifacts.filter
          fun artifact => keeps artifact.hintName := by
    rw [Host.artifacts_generation, Host.artifacts_generation, agree.knowsMarker]
    split
    · have offers := agree.filter_offered keeps
        (fun name own => decide_eq_false fun outside => outside.1 own)
        (fun name own => decide_eq_false fun outside => outside.2 own)
      rw [Registry.artifacts_offerAll, Registry.artifacts_offerAll, ← Artifact.firsts_filter,
        ← Artifact.firsts_filter, offers]
    · rfl
  rcases Registry.agree_of_filter_artifacts same with ⟨names, texts⟩
  exact ⟨_, _, outcome_generate_never first options, outcome_generate_never second options,
    fun name outsideFirst outsideSecond =>
      texts name (decide_eq_true ⟨outsideFirst, outsideSecond⟩), names⟩

theorem generate_local_forgetting :
    DeclarationSet.assorted.host.AgreesExcept (DeclarationSet.assorted.host.forgetting "Digits")
        Options.default.marker "Digits" ∧
      DeclarationSet.assorted.host.hintNameOf? .default "Digits" = some "CharExtensions.g.cs" ∧
      (DeclarationSet.assorted.host.forgetting "Digits").hintNameOf? .default "Digits" = none ∧
      ∃ left right,
        (generate DeclarationSet.assorted.host .default .never).outcome = .ok left ∧
        (generate (DeclarationSet.assorted.host.forgetting "Digits") .default .never).outcome =
          .ok right ∧
        left.artifacts.get? "LexerCharExtensions.g.cs" =
          right.artifacts.get? "LexerCharExtensions.g.cs" := by
  have agree := DeclarationSet.assorted.host.agreesExcept_forgetting Options.default.marker
    "Digits"
  have ownFirst : DeclarationSet.assorted.host.hintNameOf? .default "Digits" =
      some "CharExtensions.g.cs" := by decide +kernel
  have ownSecond : (DeclarationSet.assorted.host.forgetting "Digits").hintNameOf? .default
      "Digits" = none := by decide +kernel
  rcases generate_local _ _ .default "Digits" agree with
    ⟨left, right, generatedFirst, generatedSecond, texts, -⟩
  refine ⟨agree, ownFirst, ownSecond, left, right, generatedFirst, generatedSecond,
    texts _ ?_ ?_⟩
  · rw [ownFirst]
    decide
  · rw [ownSecond]
    exact nofun

end CharDispatch
