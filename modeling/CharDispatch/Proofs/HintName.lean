import CharDispatch.Artifact
import Mathlib.Data.List.Basic

/-!
# Hint names

A hint name is a scope with its dot, then the name of a declaration, then what
all artifacts of a pass share.  The last part cancels, so hint names are told
apart by the first two (`Options.hintName_eq_iff`), and these by the last dot
between them if the declaration has a plain name.

* `Options.scope_eq_of_hintName`: whatever the name, another scope is another
  hint name.
* `Options.hintName_inj`: of plain names, none is taken twice.
* `Options.hintName_collisionFree`: both together.
* `Artifact.hintName_eq_iff`: targets with plain names have one hint name if and
  only if they ask for an artifact in one place (`Target.SameSlot`).
-/

namespace CharDispatch

/-- A name that is there and holds no dot. -/
def IsPlain (name : String) : Prop := name ≠ "" ∧ '.' ∉ name.toList

instance (name : String) : Decidable (IsPlain name) := inferInstanceAs (Decidable (_ ∧ _))

/-- Two targets ask for an artifact in one place: for the shared class of one
scope, or for a private helper of one declaration. -/
def Target.SameSlot (first second : Target) : Prop :=
  first.isGlobal = second.isGlobal ∧ first.scope = second.scope ∧
    (first.isGlobal = false → first.name = second.name)

instance (first second : Target) : Decidable (first.SameSlot second) :=
  inferInstanceAs (Decidable (_ ∧ _ ∧ (_ → _)))

namespace Options

/-! ## The parts of a hint name -/

/-- What a scope puts in front of hint names. -/
def front (scope : String) : List Char := if scope.isEmpty then [] else scope.toList ++ ['.']

theorem front_inj {first second : String} (same : front first = front second) :
    first = second := by
  unfold front at same
  split at same
  · next emptyFirst =>
    split at same
    · next emptySecond =>
      rw [String.isEmpty_iff.1 emptyFirst, String.isEmpty_iff.1 emptySecond]
    · simp at same
  · split at same
    · simp at same
    · exact String.toList_inj.1 (List.append_cancel_right same)

theorem toList_hintName (options : Options) (declaration : Option String) (scope : String) :
    (options.hintName declaration scope).toList =
      front scope ++ (declaration.getD "").toList ++
        (options.artifactName.toList ++ (".g.".toList ++ options.extension.toList)) := by
  unfold hintName front
  split
  · simp [String.toList_append]
  · simp [String.toList_append]

theorem hintName_eq_iff (options : Options) (first second : Option String)
    (scope other : String) :
    options.hintName first scope = options.hintName second other ↔
      front scope ++ (first.getD "").toList = front other ++ (second.getD "").toList := by
  rw [← String.toList_inj, toList_hintName, toList_hintName, List.append_left_inj]

/-- Whatever the name, another scope is another hint name. -/
theorem scope_eq_of_hintName {options : Options} {declaration : Option String}
    {scope other : String}
    (same : options.hintName declaration scope = options.hintName declaration other) :
    scope = other := by
  rw [hintName_eq_iff] at same
  exact front_inj (List.append_cancel_right same)

/-! ## Plain names -/

/-- From the back, a name without dots is passed over on the way to a dot. -/
theorem passes_of_noDot {name : List Char} (noDot : '.' ∉ name) :
    ∀ c ∈ name.reverse, (c != '.') = true := by
  intro c member
  rw [bne_iff_ne]
  rintro rfl
  exact noDot (List.mem_reverse.1 member)

/-- Behind a scope, a name without dots is what stands behind the last dot. -/
theorem takeWhile_front (scope : String) {name : List Char} (noDot : '.' ∉ name) :
    (front scope ++ name).reverse.takeWhile (· != '.') = name.reverse := by
  have stop : (front scope).reverse.takeWhile (· != '.') = [] := by
    unfold front
    split
    · rfl
    · rw [List.reverse_append]
      rfl
  rw [List.reverse_append, List.takeWhile_append_of_pos (passes_of_noDot noDot), stop,
    List.append_nil]

theorem front_append_inj {scope other : String} {first second : List Char}
    (noDotFirst : '.' ∉ first) (noDotSecond : '.' ∉ second)
    (same : front scope ++ first = front other ++ second) : first = second ∧ scope = other := by
  have names : first = second := by
    rw [← List.reverse_inj, ← takeWhile_front scope noDotFirst, same,
      takeWhile_front other noDotSecond]
  rw [names] at same
  exact ⟨names, front_inj (List.append_cancel_right same)⟩

/-- Of plain names, and of no name at all, each has hint names of its own in
every scope. -/
theorem hintName_inj {options : Options} {first second : Option String} {scope other : String}
    (plainFirst : ∀ name ∈ first, IsPlain name) (plainSecond : ∀ name ∈ second, IsPlain name)
    (same : options.hintName first scope = options.hintName second other) :
    first = second ∧ scope = other := by
  have noDot {declaration : Option String} (plain : ∀ name ∈ declaration, IsPlain name) :
      '.' ∉ (declaration.getD "").toList := by
    cases declaration with
    | none => simp
    | some name => exact (plain name rfl).2
  rw [hintName_eq_iff] at same
  rcases front_append_inj (noDot plainFirst) (noDot plainSecond) same with ⟨names, scopes⟩
  refine ⟨?_, scopes⟩
  rw [String.toList_inj] at names
  cases first with
  | none =>
    cases second with
    | none => rfl
    | some name => exact ((plainSecond name rfl).1 names.symm).elim
  | some name =>
    cases second with
    | none => exact ((plainFirst name rfl).1 names).elim
    | some other => exact congrArg some names

/-- Hint names do not collide, whatever the artifact name and the extension are.  Of a
plain name, or of no name, the hint name tells the name and the scope; and of any name,
whether it holds dots or not, there is another hint name in every scope. -/
theorem hintName_collisionFree (options : Options) :
    (∀ (first second : Option String) (scope other : String),
      (∀ name ∈ first, IsPlain name) → (∀ name ∈ second, IsPlain name) →
      options.hintName first scope = options.hintName second other →
        first = second ∧ scope = other) ∧
    ∀ (declaration : Option String) (scope other : String), scope ≠ other →
      options.hintName declaration scope ≠ options.hintName declaration other := by
  refine ⟨fun first second scope other plainFirst plainSecond same => ?_,
    fun declaration scope other differ same => ?_⟩
  · exact hintName_inj plainFirst plainSecond same
  · exact differ (scope_eq_of_hintName same)

/-- With dots in all the other parts, a declaration in a scope and the shared class of the
scope with its qualified name still have two hint names. -/
theorem hintName_collisionFree_dotted :
    (∀ name ∈ some "Lexer", IsPlain name) ∧ (∀ name ∈ (none : Option String), IsPlain name) ∧
      hintName { artifactName := ".g.Chars.", extension := ".g.cs" } (some "Lexer") "App.Text" ≠
        hintName { artifactName := ".g.Chars.", extension := ".g.cs" } none "App.Text.Lexer" := by
  have plain : ∀ name ∈ some "Lexer", IsPlain name := by
    intro name member
    rw [← Option.mem_some_iff.1 member]
    decide
  have absent : ∀ name ∈ (none : Option String), IsPlain name := nofun
  refine ⟨plain, absent, fun same => ?_⟩
  cases ((hintName_collisionFree _).1 _ _ _ _ plain absent same).1

/-- Names with dots are not told apart from scopes. -/
example : default.hintName (some "Text.Lexer") "App" =
    default.hintName (some "Lexer") "App.Text" := by decide

end Options

/-- The name that the artifact of a target carries. -/
def Target.carried (target : Target) : Option String :=
  if target.isGlobal then none else some target.name

theorem Target.sameSlot_iff {first second : Target} :
    first.SameSlot second ↔ first.carried = second.carried ∧ first.scope = second.scope := by
  unfold SameSlot carried
  cases first.isGlobal with
  | true => cases second.isGlobal <;> simp
  | false => cases second.isGlobal <;> simp [and_comm]

theorem Artifact.hintName_ofTarget (options : Options) (target : Target) :
    (ofTarget options target).hintName = options.hintName target.carried target.scope :=
  rfl

/-- In one place, there is one hint name. -/
theorem Artifact.hintName_eq_of_sameSlot (options : Options) {first second : Target}
    (slot : first.SameSlot second) :
    (ofTarget options first).hintName = (ofTarget options second).hintName := by
  obtain ⟨names, scopes⟩ := Target.sameSlot_iff.1 slot
  rw [hintName_ofTarget, hintName_ofTarget, names, scopes]

/-- Targets with plain names have one hint name if and only if they ask for an
artifact in one place. -/
theorem Artifact.hintName_eq_iff (options : Options) {first second : Target}
    (plainFirst : first.isGlobal = false → IsPlain first.name)
    (plainSecond : second.isGlobal = false → IsPlain second.name) :
    (ofTarget options first).hintName = (ofTarget options second).hintName ↔
      first.SameSlot second := by
  have plain {target : Target} (named : target.isGlobal = false → IsPlain target.name) :
      ∀ name ∈ target.carried, IsPlain name := by
    intro name member
    unfold Target.carried at member
    split at member
    · cases member
    · next isPrivate =>
      cases member
      exact named (Bool.eq_false_iff.2 isPrivate)
  constructor
  · intro same
    rw [hintName_ofTarget, hintName_ofTarget] at same
    exact Target.sameSlot_iff.2 (Options.hintName_inj (plain plainFirst) (plain plainSecond) same)
  · exact hintName_eq_of_sameSlot options

end CharDispatch
