import CharDispatch.Proofs.HintName
import CharDispatch.Proofs.Registration
import CharDispatch.Proofs.TargetText

/-!
# The identity of artifacts

Names and scopes are written out as they are.  So a hint name does not say where its
scope ends, as a name may hold dots, and neither does a text, as a scope may hold line
feeds.  Both together do: behind the scope there is a dot in the one and a line feed
in the other (`Text.eq_of_marks`).  Once the scope is known, the hint name says what
the declaration is called, and the text says the rest.

* `Template.renderMarker_ne_renderTarget`: no target asks for the text that defines
  the marker.
* `Artifact.scope_eq_of_ofTarget`: whatever the names, targets of different scopes ask
  for different artifacts.
* `Artifact.ofTarget_eq_iff`: targets ask for one artifact if and only if they are in
  one place and agree.
* `Artifact.ofTarget_identifies`: so an artifact is merged only into one that an
  earlier target asks for in the same way.
-/

namespace CharDispatch

/-- Two texts that are followed by one mark here and by another there end at the same
place. -/
theorem Text.eq_of_marks {mark other : Char} (differ : mark ≠ other)
    {first second front back left right : List Char}
    (marked : first ++ mark :: front = second ++ mark :: back)
    (otherwise : first ++ other :: left = second ++ other :: right) : first = second := by
  -- what one text has more than the other would begin with both marks
  have nothing {more front back left right : List Char}
      (marked : mark :: front = more ++ mark :: back)
      (otherwise : other :: left = more ++ other :: right) : more = [] := by
    cases more with
    | nil => rfl
    | cons c more =>
      have isMark := (List.cons.inj marked).1
      have isOther := (List.cons.inj otherwise).1
      exact (differ (isMark.trans isOther.symm)).elim
  obtain ⟨more, longer, goesOn⟩ | ⟨more, longer, goesOn⟩ := List.append_eq_append_iff.1 marked
  · rw [longer, List.append_assoc, List.append_cancel_left_eq] at otherwise
    rw [longer, nothing goesOn otherwise, List.append_nil]
  · rw [longer, List.append_assoc, List.append_cancel_left_eq] at otherwise
    rw [longer, nothing goesOn otherwise.symm, List.append_nil]

theorem Options.front_of_scope {scope : String} (inside : scope ≠ "") :
    front scope = scope.toList ++ ['.'] :=
  if_neg fun isEmpty => inside (String.isEmpty_iff.1 isEmpty)

/-! ## Behind the banner -/

namespace Template

/-- What a target asks for, in its scope. -/
def enclosed (options : Options) (target : Target) : Layout :=
  inNamespace target.scope
    (dispatchClass (opening options target) (signature target) target.characters)

theorem chars_renderTarget (options : Options) (target : Target) :
    (renderTarget options target).toList =
      Layout.chars [] options.step.toList (banner ++ [⟨0, ""⟩]) ++
        Layout.chars [] options.step.toList (enclosed options target) := by
  rw [renderTarget_eq, Layout.render, String.toList_ofList, ← Layout.chars_append, enclosed,
    inFile, List.append_assoc]
  rfl

theorem chars_block_top (step : List Char) {opening : String} (full : opening.toList ≠ [])
    (inner : Layout) (closing : String) :
    ∃ behind, Layout.chars [] step (Layout.block opening inner closing) =
      opening.toList ++ '\n' :: behind := by
  rw [Layout.chars_block, Line.chars_top _ _ full, List.nil_append, List.append_assoc]
  exact ⟨_, rfl⟩

/-- A class begins with a modifier, hence neither as a namespace nor as a condition does. -/
theorem opening_eq_cons (options : Options) (target : Target) :
    ∃ c said, (opening options target).toList = c :: said ∧ c ≠ 'n' ∧ c ≠ '#' := by
  rw [opening_eq, String.toList_append, String.toList_append]
  rcases declared target with _ | visibility
  · exact ⟨'p', _, rfl, by decide⟩
  · cases visibility with
    | «public» | «private» | «protected» | protectedInternal | privateProtected =>
      exact ⟨'p', _, rfl, by decide⟩
    | internal => exact ⟨'i', _, rfl, by decide⟩

/-- In the global scope, the class comes at once. -/
theorem chars_enclosed_of_global (options : Options) {target : Target} (step : List Char)
    (global : target.scope = "") :
    ∃ c behind, Layout.chars [] step (enclosed options target) = c :: behind ∧
      c ≠ 'n' ∧ c ≠ '#' := by
  obtain ⟨c, said, begins, differs⟩ := opening_eq_cons options target
  have full : (opening options target).toList ≠ [] := by
    rw [begins]
    exact List.cons_ne_nil _ _
  obtain ⟨behind, chars⟩ := chars_block_top step full
    (⟨0, signature target⟩ :: Layout.deeper (Dispatch.body target.characters)) "\x7d"
  refine ⟨c, said ++ '\n' :: behind, ?_, differs⟩
  rw [enclosed, global, ← List.cons_append, ← begins]
  exact chars

/-- In another scope, its namespace is opened on the first line. -/
theorem chars_enclosed_of_scope (options : Options) {target : Target} (step : List Char)
    (inside : target.scope ≠ "") :
    ∃ behind, Layout.chars [] step (enclosed options target) =
      'n' :: ("amespace ".toList ++ (target.scope.toList ++ '\n' :: behind)) := by
  have begins : ("namespace " ++ target.scope).toList =
      'n' :: ("amespace ".toList ++ target.scope.toList) := by
    rw [String.toList_append]
    rfl
  have full : ("namespace " ++ target.scope).toList ≠ [] := by
    rw [begins]
    exact List.cons_ne_nil _ _
  obtain ⟨behind, chars⟩ := chars_block_top step full
    (dispatchClass (opening options target) (signature target) target.characters) "\x7d"
  refine ⟨behind, ?_⟩
  rw [begins, List.cons_append, List.append_assoc] at chars
  rw [enclosed, inNamespace, if_neg fun isEmpty => inside (String.isEmpty_iff.1 isEmpty)]
  exact chars

/-- Texts in the global scope and in another differ in the first character behind the
banner. -/
theorem renderTarget_ne_of_global (options : Options) {first second : Target}
    (global : first.scope = "") (inside : second.scope ≠ "") :
    renderTarget options first ≠ renderTarget options second := by
  intro same
  have chars := congrArg String.toList same
  obtain ⟨c, _, begins, notNamespace, -⟩ :=
    chars_enclosed_of_global options options.step.toList global
  obtain ⟨_, opens⟩ := chars_enclosed_of_scope options options.step.toList inside
  rw [chars_renderTarget, chars_renderTarget, List.append_cancel_left_eq, begins, opens] at chars
  exact notNamespace (List.cons.inj chars).1

/-- Behind the banner, the definition of the marker begins with a condition, so its
text is none that a target asks for. -/
theorem renderMarker_ne_renderTarget (options : Options) (target : Target) :
    renderMarker options ≠ renderTarget options target := by
  intro same
  have chars := congrArg String.toList same
  have condition : ("#if " ++ embedSymbol).toList =
      '#' :: ("if ".toList ++ embedSymbol.toList) := by
    rw [String.toList_append]
    rfl
  have full : ("#if " ++ embedSymbol).toList ≠ [] := by
    rw [condition]
    exact List.cons_ne_nil _ _
  have empty : "".toList = [] := rfl
  rw [chars_renderTarget] at chars
  simp only [renderMarker, markerFile, Layout.render, String.toList_ofList,
    Layout.chars_append, Layout.chars_cons, Layout.chars_nil, List.append_assoc,
    List.append_cancel_left_eq, empty, Line.chars_top _ _ full, condition, List.nil_append,
    List.cons_append] at chars
  by_cases global : target.scope = ""
  · obtain ⟨c, _, begins, -, notCondition⟩ :=
      chars_enclosed_of_global options options.step.toList global
    rw [begins] at chars
    exact notCondition (List.cons.inj chars).1.symm
  · obtain ⟨_, opens⟩ := chars_enclosed_of_scope options options.step.toList global
    rw [opens] at chars
    cases (List.cons.inj chars).1

end Template

/-! ## Artifacts of targets -/

namespace Artifact

variable (options : Options) {first second : Target}

theorem ofTarget_eq_parts :
    ofTarget options first = ofTarget options second ↔
      (ofTarget options first).hintName = (ofTarget options second).hintName ∧
        (ofTarget options first).source = (ofTarget options second).source := by
  unfold ofTarget
  rw [mk.injEq]

/-- Whatever the names, targets of different scopes ask for different artifacts. -/
theorem scope_eq_of_ofTarget (same : ofTarget options first = ofTarget options second) :
    first.scope = second.scope := by
  have source : Template.renderTarget options first = Template.renderTarget options second :=
    congrArg Artifact.source same
  by_cases globalFirst : first.scope = ""
  · by_cases globalSecond : second.scope = ""
    · rw [globalFirst, globalSecond]
    · exact (Template.renderTarget_ne_of_global options globalFirst globalSecond source).elim
  · by_cases globalSecond : second.scope = ""
    · exact (Template.renderTarget_ne_of_global options globalSecond globalFirst source.symm).elim
    · have names := (Options.hintName_eq_iff ..).1 (congrArg hintName same)
      rw [Options.front_of_scope globalFirst, Options.front_of_scope globalSecond,
        List.append_assoc, List.append_assoc] at names
      have texts := congrArg String.toList source
      obtain ⟨_, opensFirst⟩ :=
        Template.chars_enclosed_of_scope options options.step.toList globalFirst
      obtain ⟨_, opensSecond⟩ :=
        Template.chars_enclosed_of_scope options options.step.toList globalSecond
      rw [Template.chars_renderTarget, Template.chars_renderTarget, List.append_cancel_left_eq,
        opensFirst, opensSecond, List.cons.injEq, List.append_cancel_left_eq] at texts
      exact String.toList_inj.1 (Text.eq_of_marks (by decide) names texts.2)

/-- In one place, the same text is asked for if and only if the targets agree. -/
theorem source_eq_iff (slot : first.SameSlot second) :
    (ofTarget options first).source = (ofTarget options second).source ↔ first.Agrees second :=
  Template.renderTarget_eq_iff options slot.1 slot.2.1 slot.2.2

/-- Targets ask for one artifact if and only if they are in one place and agree. -/
theorem ofTarget_eq_iff :
    ofTarget options first = ofTarget options second ↔
      first.SameSlot second ∧ first.Agrees second := by
  constructor
  · intro same
    have scope := scope_eq_of_ofTarget options same
    obtain ⟨names, source⟩ := (ofTarget_eq_parts options).1 same
    have kind := (Template.declared_eq_iff.1 (Template.declared_of_renderTarget scope source)).1
    have name : first.isGlobal = false → first.name = second.name := by
      intro isPrivate
      rw [hintName_ofTarget, hintName_ofTarget, Options.hintName_eq_iff, scope,
        List.append_cancel_left_eq, Target.carried, Target.carried, ← kind, isPrivate] at names
      exact String.toList_inj.1 names
    have slot : first.SameSlot second := ⟨kind, scope, name⟩
    exact ⟨slot, (source_eq_iff options slot).1 source⟩
  · intro alike
    obtain ⟨slot, agrees⟩ := alike
    exact (ofTarget_eq_parts options).2
      ⟨hintName_eq_of_sameSlot options slot, (source_eq_iff options slot).2 agrees⟩

end Artifact

/-! ## Merging -/

/-- An artifact is merged only into itself. -/
theorem Registry.held_of_merged {registry after : Registry} {artifact : Artifact}
    (merged : registry.add artifact = .ok (false, after)) :
    registry.get? artifact.hintName = some artifact.source := by
  cases held : registry.get? artifact.hintName with
  | none =>
    rw [add_of_free held] at merged
    cases merged
  | some source =>
    by_cases same : source = artifact.source
    · rw [same]
    · rw [add_of_other held same] at merged
      cases merged

/-- An artifact is merged only if an earlier target is in the same place and agrees. -/
theorem Generation.alike_of_merged {options : Options} {before : List Target} {target : Target}
    {after : Registry}
    (merged : (registerAll options (start options) before).1.add (.ofTarget options target) =
      .ok (false, after)) :
    ∃ earlier ∈ before, earlier.SameSlot target ∧ earlier.Agrees target := by
  have held := Registry.held_of_merged merged
  rw [get?_registerAll, get?_start] at held
  split at held
  · rw [Option.some_or, Option.some_inj] at held
    exact (Template.renderMarker_ne_renderTarget options target held).elim
  · rw [Option.none_or, Option.map_eq_some_iff] at held
    obtain ⟨earlier, first, source⟩ := held
    obtain ⟨member, name⟩ := of_firstUnder first
    have same := (Artifact.ofTarget_eq_parts options).2 ⟨name, source⟩
    exact ⟨earlier, member, (Artifact.ofTarget_eq_iff options).1 same⟩

/-- Two targets ask for one artifact if and only if they are of one kind, in one scope and
have the same characters in the same order, and private helpers also belong to
declarations of one name and one visibility.  Hence, if a generation merges the artifact
of a target that comes after others into what is registered, then one of those asks for
this very helper. -/
theorem Artifact.ofTarget_identifies (options : Options) (first second : Target) :
    (ofTarget options first = ofTarget options second ↔
      first.isGlobal = second.isGlobal ∧ first.scope = second.scope ∧
        first.characters = second.characters ∧
        (first.isGlobal = false →
          first.name = second.name ∧ first.visibility = second.visibility)) ∧
    ∀ before after,
      (Generation.registerAll options (Generation.start options) before).1.add
          (ofTarget options second) = .ok (false, after) →
        ∃ earlier ∈ before, earlier.SameSlot second ∧ earlier.Agrees second := by
  refine ⟨?_, fun _ _ merged => Generation.alike_of_merged merged⟩
  rw [ofTarget_eq_iff]
  constructor
  · intro alike
    obtain ⟨⟨kind, scope, name⟩, characters, visibility⟩ := alike
    exact ⟨kind, scope, characters, fun isPrivate => ⟨name isPrivate, visibility isPrivate⟩⟩
  · intro alike
    obtain ⟨kind, scope, characters, own⟩ := alike
    exact ⟨⟨kind, scope, fun isPrivate => (own isPrivate).1⟩,
      characters, fun isPrivate => (own isPrivate).2⟩

/-- `B.C` in the scope `A` and `C` in the scope `A.B` have one hint name, but not one
artifact; two declarations that share a class with one list have one. -/
theorem Artifact.ofTarget_identifies_dotted :
    let outer := Target.named "B.C" "A"
    let inner := Target.named "C" "A.B"
    let digits := ((Target.named "Digits" "A").withCharacters "01").withGlobal true
    let bits := ((Target.named "Bits" "A").withCharacters "01").withGlobal true
    (ofTarget .default outer).hintName = (ofTarget .default inner).hintName ∧
      ofTarget .default outer ≠ ofTarget .default inner ∧
      (∃ after, (Generation.registerAll .default (Generation.start .default) [digits]).1.add
        (ofTarget .default bits) = .ok (false, after)) ∧
      ∃ earlier ∈ [digits], earlier.SameSlot bits ∧ earlier.Agrees bits := by
  intro outer inner digits bits
  have apart : ofTarget .default outer ≠ ofTarget .default inner := by
    intro same
    obtain ⟨-, scope, -⟩ := (ofTarget_identifies .default outer inner).1.1 same
    revert scope
    decide
  have one : ofTarget .default digits = ofTarget .default bits :=
    (ofTarget_identifies .default digits bits).1.2 ⟨rfl, rfl, rfl, nofun⟩
  have held : (Generation.registerAll .default (Generation.start .default) [digits]).1.get?
      (ofTarget .default bits).hintName = some (ofTarget .default bits).source := by
    rw [Generation.get?_registerAll, Generation.get?_start, if_neg (by decide +kernel),
      Generation.firstUnder_cons, if_pos (congrArg hintName one), ← one]
    rfl
  have merged := Registry.add_of_same held
  exact ⟨by decide +kernel, apart, ⟨_, merged⟩,
    (ofTarget_identifies .default outer bits).2 [digits] _ merged⟩

end CharDispatch
