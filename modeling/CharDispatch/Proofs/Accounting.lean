import CharDispatch.Proofs.Outcome
import CharDispatch.Proofs.Validation

/-!
# What becomes of every declaration

`Host.Yields` says what a declaration gives, in terms of what its host answers:
nothing when it is unresolved, a diagnostic for a character that cannot be
served, a diagnostic for a private helper on a type that can only be nested, and
a target otherwise, in this order.  `Host.find_eq_iff` says that a visit finds
just that, and `discover_accounts` that a pass finds it for every distinct
declaration, in order, and nothing else.

Characters and kind are what the two arguments of the marker ask for, which
`AsksFor` says for answers of every kind (`Host.asksFor`).
-/

namespace CharDispatch

theorem Visibility.isNamespaceLevel_iff {visibility : Visibility} :
    visibility.isNamespaceLevel = true ↔ visibility = .public ∨ visibility = .internal := by
  cases visibility <;> decide

/-- The declaration that a fault names. -/
def Fault.declaration? : Fault → Option String
  | .duplicateCharacter declaration _ => some declaration
  | .unrepresentableCharacter declaration _ => some declaration
  | .nestedVisibility declaration _ => some declaration
  | .conflictingArtifact _ | .cancelled => none

namespace Finding

theorem target?_eq_some_iff {finding : Finding} {target : Target} :
    finding.target? = some target ↔ finding = .extracted target := by
  cases finding <;> simp [target?]

theorem diagnostic?_eq_some_iff {finding : Finding} {diagnostic : Diagnostic} :
    finding.diagnostic? = some diagnostic ↔ finding = .rejected diagnostic := by
  cases finding <;> simp [diagnostic?]

end Finding

/-! ## What arguments ask for -/

/-- What the answers about the two arguments of a marker ask for: the characters of a
string in which there are some, and a truth value.  Everything else counts as not given. -/
structure AsksFor (listed shared : Option ArgumentValue) (characters : List Char)
    (isGlobal : Bool) : Prop where
  string : ∀ text, listed = some (.string text) → text ≠ "" → characters = text.toList
  emptyString : listed = some (.string "") → characters = CharacterSet.standard
  noString : (∀ text, listed ≠ some (.string text)) → characters = CharacterSet.standard
  bool : ∀ value, shared = some (.bool value) → isGlobal = value
  noBool : (∀ value, shared ≠ some (.bool value)) → isGlobal = false

/-- The answers leave no choice. -/
theorem AsksFor.unique {listed shared : Option ArgumentValue} {first second : List Char}
    {firstGlobal secondGlobal : Bool} (asks : AsksFor listed shared first firstGlobal)
    (other : AsksFor listed shared second secondGlobal) :
    first = second ∧ firstGlobal = secondGlobal := by
  constructor
  · by_cases given : ∃ text, listed = some (.string text)
    · obtain ⟨text, given⟩ := given
      by_cases full : text = ""
      · subst full
        rw [asks.emptyString given, other.emptyString given]
      · rw [asks.string text given full, other.string text given full]
    · have missing := not_exists.1 given
      rw [asks.noString missing, other.noString missing]
  · by_cases given : ∃ value, shared = some (.bool value)
    · obtain ⟨value, given⟩ := given
      rw [asks.bool value given, other.bool value given]
    · have missing := not_exists.1 given
      rw [asks.noBool missing, other.noBool missing]

section Answers

variable {answer : Option ArgumentValue}

theorem CharacterSet.effective_of_string {text : String} (given : answer = some (.string text))
    (full : text ≠ "") : effective (answer.bind ArgumentValue.string?) = text.toList := by
  rw [given]
  exact if_neg fun isEmpty => full (String.isEmpty_iff.1 isEmpty)

theorem CharacterSet.effective_of_emptyString (given : answer = some (.string "")) :
    effective (answer.bind ArgumentValue.string?) = standard := by
  rw [given]
  rfl

/-- An answer of another kind counts as a missing one. -/
theorem CharacterSet.effective_of_noString (missing : ∀ text, answer ≠ some (.string text)) :
    effective (answer.bind ArgumentValue.string?) = standard := by
  rcases answer with _ | (_ | _ | text | _)
  case some.string => exact absurd rfl (missing text)
  all_goals rfl

theorem ArgumentValue.getD_of_bool {value : Bool} (given : answer = some (.bool value)) :
    (answer.bind bool?).getD false = value := by
  rw [given]
  rfl

theorem ArgumentValue.getD_of_noBool (missing : ∀ value, answer ≠ some (.bool value)) :
    (answer.bind bool?).getD false = false := by
  rcases answer with _ | (_ | value | _ | _)
  case some.bool => exact absurd rfl (missing value)
  all_goals rfl

/-- What is read off two answers is what they ask for. -/
theorem AsksFor.read (listed shared : Option ArgumentValue) :
    AsksFor listed shared (CharacterSet.effective (listed.bind ArgumentValue.string?))
      ((shared.bind ArgumentValue.bool?).getD false) where
  string _ given full := CharacterSet.effective_of_string given full
  emptyString given := CharacterSet.effective_of_emptyString given
  noString missing := CharacterSet.effective_of_noString missing
  bool _ given := ArgumentValue.getD_of_bool given
  noBool missing := ArgumentValue.getD_of_noBool missing

end Answers

variable {ι : Type}

namespace Host

/-! ## What one declaration gives -/

/-- The characters that a declaration asks for. -/
def charactersOf (host : Host ι) (marker : String) (id : ι) : List Char :=
  CharacterSet.effective ((host.argument id marker optimizeForArgument).bind ArgumentValue.string?)

/-- Whether a declaration asks for the shared class. -/
def asksForShared (host : Host ι) (marker : String) (id : ι) : Bool :=
  ((host.argument id marker globalArgument).bind ArgumentValue.bool?).getD false

/-- Characters and kind are what the answers about the arguments ask for. -/
theorem asksFor (host : Host ι) (marker : String) (id : ι) :
    AsksFor (host.argument id marker optimizeForArgument) (host.argument id marker globalArgument)
      (host.charactersOf marker id) (host.asksForShared marker id) :=
  .read _ _

/-- What a declaration gives depends on what is known of it, on its characters and
on the kind of its artifact. -/
theorem find_congr {first second : Host ι} {marker : String} {id : ι}
    (resolve : first.resolve id = second.resolve id)
    (characters : first.charactersOf marker id = second.charactersOf marker id)
    (shared : first.asksForShared marker id = second.asksForShared marker id) :
    first.find marker id = second.find marker id := by
  unfold charactersOf at characters
  unfold asksForShared at shared
  unfold find extract
  simp only [resolve, characters, shared]

/-- Hosts that give the same answers about a declaration find the same of it. -/
theorem find_eq_of_answers {first second : Host ι} {marker : String} {id : ι}
    (resolve : first.resolve id = second.resolve id)
    (argument : ∀ key, first.argument id marker key = second.argument id marker key) :
    first.find marker id = second.find marker id := by
  refine find_congr resolve ?_ ?_
  · unfold charactersOf
    rw [argument]
  · unfold asksForShared
    rw [argument]

/-- What a declaration gives when it is visited for the first time. -/
inductive Yields (host : Host ι) (marker : String) (id : ι) : Finding → Prop
  | nothing : host.resolve id = none → host.Yields marker id .unresolved
  | character {declaration : ResolvedDeclaration} {front back : List Char} {c : Char} :
    host.resolve id = some declaration →
    host.charactersOf marker id = front ++ c :: back →
    CharacterSet.IsServable front → ¬ CharacterSet.IsServable (front ++ [c]) →
    host.Yields marker id (.rejected ⟨declaration.qualifiedName,
      CharacterSet.offence declaration.qualifiedName c⟩)
  | nested {declaration : ResolvedDeclaration} :
    host.resolve id = some declaration →
    CharacterSet.IsServable (host.charactersOf marker id) →
    host.asksForShared marker id = false →
    declaration.visibility ≠ .public → declaration.visibility ≠ .internal →
    host.Yields marker id (.rejected ⟨declaration.qualifiedName,
      .nestedVisibility declaration.qualifiedName declaration.visibility⟩)
  | target {declaration : ResolvedDeclaration} :
    host.resolve id = some declaration →
    CharacterSet.IsServable (host.charactersOf marker id) →
    host.asksForShared marker id = true ∨
      declaration.visibility = .public ∨ declaration.visibility = .internal →
    host.Yields marker id (.extracted
      { name := declaration.name
        qualifiedName := declaration.qualifiedName
        scope := declaration.scope
        visibility := declaration.visibility
        characters := host.charactersOf marker id
        isGlobal := host.asksForShared marker id })

theorem extract_of_isServable {host : Host ι} {marker : String} {id : ι}
    (declaration : ResolvedDeclaration)
    (servable : CharacterSet.IsServable (host.charactersOf marker id)) :
    host.extract marker id declaration =
      if !host.asksForShared marker id && !declaration.visibility.isNamespaceLevel then
        .error ⟨declaration.qualifiedName,
          .nestedVisibility declaration.qualifiedName declaration.visibility⟩
      else
        .ok
          { name := declaration.name
            qualifiedName := declaration.qualifiedName
            scope := declaration.scope
            visibility := declaration.visibility
            characters := host.charactersOf marker id
            isGlobal := host.asksForShared marker id } := by
  have accepted := CharacterSet.validate_of_isServable declaration.qualifiedName servable
  unfold charactersOf at accepted
  unfold extract
  simp only [accepted]
  rfl

theorem extract_of_refused {host : Host ι} {marker : String} {id : ι}
    {declaration : ResolvedDeclaration} {fault : Fault}
    (refused : CharacterSet.validate declaration.qualifiedName (host.charactersOf marker id) =
      .error fault) :
    host.extract marker id declaration = .error ⟨declaration.qualifiedName, fault⟩ := by
  unfold charactersOf at refused
  unfold extract
  simp only [refused]

/-- Every declaration gives something. -/
theorem exists_yields (host : Host ι) (marker : String) (id : ι) :
    ∃ finding, host.Yields marker id finding := by
  cases resolved : host.resolve id with
  | none => exact ⟨_, .nothing resolved⟩
  | some declaration =>
    by_cases servable : CharacterSet.IsServable (host.charactersOf marker id)
    · by_cases placed : host.asksForShared marker id = true ∨
          declaration.visibility = .public ∨ declaration.visibility = .internal
      · exact ⟨_, .target resolved servable placed⟩
      · obtain ⟨own, place⟩ := not_or.1 placed
        obtain ⟨notPublic, notInternal⟩ := not_or.1 place
        exact ⟨_, .nested resolved servable (Bool.eq_false_iff.2 own) notPublic notInternal⟩
    · obtain ⟨front, c, back, split, before, breaks⟩ := CharacterSet.exists_offence servable
      exact ⟨_, .character resolved split before breaks⟩

/-- A first visit finds what the declaration gives. -/
theorem Yields.find_eq {host : Host ι} {marker : String} {id : ι} {finding : Finding}
    (yields : host.Yields marker id finding) : host.find marker id = finding := by
  unfold find
  cases yields with
  | nothing unresolved => rw [unresolved]
  | @character declaration front back c resolved split before breaks =>
    have refused :=
      CharacterSet.validate_of_offence declaration.qualifiedName back before breaks
    rw [← split] at refused
    simp only [resolved, extract_of_refused refused]
  | nested resolved servable own notPublic notInternal =>
    have level := mt Visibility.isNamespaceLevel_iff.1 (not_or.2 ⟨notPublic, notInternal⟩)
    simp only [resolved, extract_of_isServable _ servable, own, Bool.eq_false_iff.2 level]
    rfl
  | @target declaration resolved servable placed =>
    have fits : (!host.asksForShared marker id &&
        !declaration.visibility.isNamespaceLevel) = false := by
      rcases placed with shared | level
      · rw [shared, Bool.not_true, Bool.false_and]
      · rw [Visibility.isNamespaceLevel_iff.2 level, Bool.not_true, Bool.and_false]
    simp only [resolved, extract_of_isServable _ servable, fits]
    rfl

theorem find_eq_iff (host : Host ι) (marker : String) (id : ι) (finding : Finding) :
    host.find marker id = finding ↔ host.Yields marker id finding := by
  refine ⟨?_, Yields.find_eq⟩
  rintro rfl
  obtain ⟨other, yields⟩ := host.exists_yields marker id
  rw [yields.find_eq]
  exact yields

theorem find_yields (host : Host ι) (marker : String) (id : ι) :
    host.Yields marker id (host.find marker id) :=
  (host.find_eq_iff marker id _).1 rfl

/-- When a declaration gives a diagnostic. -/
theorem find_rejected_iff (host : Host ι) (marker : String) (id : ι) :
    (∃ diagnostic, host.find marker id = .rejected diagnostic) ↔
      ∃ declaration, host.resolve id = some declaration ∧
        (¬ CharacterSet.IsServable (host.charactersOf marker id) ∨
          host.asksForShared marker id = false ∧
            declaration.visibility ≠ .public ∧ declaration.visibility ≠ .internal) := by
  have yields := host.find_yields marker id
  generalize host.find marker id = finding at yields
  cases yields with
  | nothing unresolved => simp [unresolved]
  | character resolved split _ breaks =>
    refine iff_of_true ⟨_, rfl⟩ ⟨_, resolved, Or.inl fun servable => breaks ?_⟩
    rw [split, ← List.singleton_append, ← List.append_assoc] at servable
    exact servable.left
  | nested resolved _ own notPublic notInternal =>
    exact iff_of_true ⟨_, rfl⟩ ⟨_, resolved, Or.inr ⟨own, notPublic, notInternal⟩⟩
  | target resolved servable placed =>
    refine iff_of_false nofun ?_
    intro refused
    rcases refused with ⟨other, resolvedOther, broken | ⟨own, notPublic, notInternal⟩⟩
    · exact broken servable
    · cases Option.some.inj (resolved.symm.trans resolvedOther)
      rcases placed with shared | isPublic | isInternal
      · rw [own] at shared
        cases shared
      · exact notPublic isPublic
      · exact notInternal isInternal

/-- A diagnostic stands under the qualified name of its declaration, and so does
its fault. -/
theorem find_rejected {host : Host ι} {marker : String} {id : ι} {diagnostic : Diagnostic}
    (rejected : host.find marker id = .rejected diagnostic) :
    ∃ declaration, host.resolve id = some declaration ∧
      diagnostic.declaration = declaration.qualifiedName ∧
      diagnostic.fault.declaration? = some declaration.qualifiedName := by
  have yields := host.find_yields marker id
  rw [rejected] at yields
  cases yields with
  | character resolved _ _ _ =>
    refine ⟨_, resolved, rfl, ?_⟩
    dsimp only
    unfold CharacterSet.offence
    split
    · rfl
    · rfl
  | nested resolved _ _ _ _ => exact ⟨_, resolved, rfl, rfl⟩

/-- A target is servable, has a place for its text, and is otherwise what the
host says of its declaration. -/
theorem find_extracted {host : Host ι} {marker : String} {id : ι} {target : Target}
    (extracted : host.find marker id = .extracted target) :
    ∃ declaration, host.resolve id = some declaration ∧
      target.name = declaration.name ∧ target.qualifiedName = declaration.qualifiedName ∧
      target.scope = declaration.scope ∧ target.visibility = declaration.visibility ∧
      target.characters = host.charactersOf marker id ∧ target.characters ≠ [] ∧
      CharacterSet.IsServable target.characters ∧
      (target.isGlobal = true ∨ target.visibility = .public ∨ target.visibility = .internal) := by
  have yields := host.find_yields marker id
  rw [extracted] at yields
  cases yields with
  | target resolved servable placed =>
    exact ⟨_, resolved, rfl, rfl, rfl, rfl, rfl, CharacterSet.effective_ne_nil _, servable, placed⟩

/-! ## What a pass finds -/

/-- Every declaration is a target, a diagnostic or unresolved. -/
theorem length_targets_diagnostics (host : Host ι) (marker : String) (ids : List ι) :
    (ids.filterMap fun id => (host.find marker id).target?).length +
      (ids.filterMap fun id => (host.find marker id).diagnostic?).length +
      ids.countP (fun id => (host.resolve id).isNone) = ids.length := by
  induction ids with
  | nil => rfl
  | cons id ids ih =>
    have yields := host.find_yields marker id
    rw [List.filterMap_cons, List.filterMap_cons, List.countP_cons, List.length_cons, ← ih]
    generalize host.find marker id = finding at yields
    cases yields with
    | nothing unresolved =>
      simp only [Finding.target?, Finding.diagnostic?, unresolved, Option.isNone_none, if_true]
      omega
    | character resolved _ _ _ | nested resolved _ _ _ _ =>
      simp only [Finding.target?, Finding.diagnostic?, resolved, Option.isNone_some,
        Bool.false_eq_true, if_false, List.length_cons]
      omega
    | target resolved _ _ =>
      simp only [Finding.target?, Finding.diagnostic?, resolved, Option.isNone_some,
        Bool.false_eq_true, if_false, List.length_cons]
      omega

variable [DecidableEq ι]

/-- The same host, but listing every declaration once. -/
def withoutRepeats (host : Host ι) : Host ι :=
  { host with annotated := fun marker => (host.annotated marker).eraseDups }

theorem discovery_of_knows {host : Host ι} {marker : String}
    (knows : host.knowsMarker marker = true) :
    host.discovery marker =
      { markerResolved := true
        targets := (host.distinct marker).filterMap fun id => (host.find marker id).target?
        diagnostics :=
          (host.distinct marker).filterMap fun id => (host.find marker id).diagnostic? } := by
  rw [discovery, if_pos knows, ← host.targets_ofVisits, ← host.diagnostics_ofVisits]
  rfl

/-- A target that is discovered comes of a declaration that the host lists. -/
theorem mem_targets_discovery {host : Host ι} {marker : String} {target : Target}
    (member : target ∈ (host.discovery marker).targets) :
    ∃ id ∈ host.annotated marker, host.find marker id = .extracted target := by
  by_cases knows : host.knowsMarker marker = true
  · rw [discovery_of_knows knows] at member
    rcases List.mem_filterMap.1 member with ⟨id, listed, found⟩
    exact ⟨id, List.mem_eraseDups.1 listed, Finding.target?_eq_some_iff.1 found⟩
  · rw [discovery, if_neg knows] at member
    cases member

theorem discovery_withoutRepeats (host : Host ι) (marker : String) :
    host.withoutRepeats.discovery marker = host.discovery marker := by
  by_cases knows : host.knowsMarker marker = true
  · have same : host.withoutRepeats.distinct marker = host.distinct marker :=
      eraseDups_of_nodup (nodup_eraseDups _)
    rw [discovery_of_knows knows, @discovery_of_knows _ _ host.withoutRepeats marker knows, same]
    rfl
  · have unknown : ¬ host.withoutRepeats.knowsMarker marker = true := knows
    rw [discovery, discovery, if_neg knows, if_neg unknown]

end Host

/-- A pass over a host that knows the marker finds, for every distinct
declaration and in the order of first occurrence, what the declaration gives:
nothing, one target or one diagnostic.  Repeats make no difference.  A
declaration gives a diagnostic for its characters, or else for a private helper
without a place, and every target has characters that can be served and a place,
and is otherwise what the host says. -/
theorem discover_accounts [DecidableEq ι] (host : Host ι) (options : Options)
    (knows : host.knowsMarker options.marker = true) :
    ∃ found, (discover host options .never).outcome = .ok found ∧
      found.markerResolved = true ∧
      found.targets = (host.annotated options.marker).eraseDups.filterMap
        (fun id => (host.find options.marker id).target?) ∧
      found.diagnostics = (host.annotated options.marker).eraseDups.filterMap
        (fun id => (host.find options.marker id).diagnostic?) ∧
      (∀ id finding, host.find options.marker id = finding ↔
        host.Yields options.marker id finding) ∧
      found.targets.length + found.diagnostics.length +
        (host.annotated options.marker).eraseDups.countP (fun id => (host.resolve id).isNone) =
        (host.annotated options.marker).eraseDups.length ∧
      (discover host.withoutRepeats options .never).outcome = .ok found ∧
      (∀ id, (∃ diagnostic, host.find options.marker id = .rejected diagnostic) ↔
        ∃ declaration, host.resolve id = some declaration ∧
          (¬ CharacterSet.IsServable (host.charactersOf options.marker id) ∨
            host.asksForShared options.marker id = false ∧
              declaration.visibility ≠ .public ∧ declaration.visibility ≠ .internal)) ∧
      (∀ diagnostic ∈ found.diagnostics, ∃ id ∈ host.annotated options.marker,
        ∃ declaration, host.resolve id = some declaration ∧
          diagnostic.declaration = declaration.qualifiedName ∧
          diagnostic.fault.declaration? = some declaration.qualifiedName) ∧
      (∀ target ∈ found.targets, ∃ id ∈ host.annotated options.marker,
        ∃ declaration, host.resolve id = some declaration ∧
          target.name = declaration.name ∧ target.qualifiedName = declaration.qualifiedName ∧
          target.scope = declaration.scope ∧ target.visibility = declaration.visibility ∧
          target.characters = host.charactersOf options.marker id ∧ target.characters ≠ [] ∧
          CharacterSet.IsServable target.characters ∧
          (target.isGlobal = true ∨
            target.visibility = .public ∨ target.visibility = .internal)) := by
  have found := Host.discovery_of_knows knows
  refine ⟨host.discovery options.marker, outcome_discover_never host options, ?_, ?_, ?_,
    host.find_eq_iff options.marker, ?_, ?_, host.find_rejected_iff options.marker, ?_, ?_⟩
  · rw [found]
  · rw [found, Host.distinct]
  · rw [found, Host.distinct]
  · rw [found]
    exact host.length_targets_diagnostics options.marker _
  · rw [outcome_discover_never, host.discovery_withoutRepeats]
  · rw [found]
    intro diagnostic member
    rcases List.mem_filterMap.1 member with ⟨id, listed, rejected⟩
    exact ⟨id, List.mem_eraseDups.1 listed,
      Host.find_rejected (Finding.diagnostic?_eq_some_iff.1 rejected)⟩
  · intro target member
    rcases Host.mem_targets_discovery member with ⟨id, listed, extracted⟩
    exact ⟨id, listed, Host.find_extracted extracted⟩

/-- Recorded declarations of every kind: a private helper that is recorded
twice, two shared classes with different characters, an unresolved declaration,
a repeated character and a nested type. -/
def DeclarationSet.assorted : DeclarationSet :=
  let marked (entry : DeclarationEntry) (characters : String) (shared : Bool) :=
    entry.withAttribute Options.default.marker
      [(optimizeForArgument, .string characters), (globalArgument, .bool shared)]
  { declarations :=
      [marked (.named "Lexer") "'\"\\" false,
        marked (.named "Digits") "01" true,
        marked (DeclarationEntry.named "Broken").unresolved "ab" false,
        marked (.named "Lexer") "'\"\\" false,
        marked (.named "Twice") "abca" false,
        marked ((DeclarationEntry.named "Inner").withVisibility .private) "ab" false,
        marked (.named "Letters") "ab" true] }

/-- The set has three targets, two diagnostics and one declaration that is unresolved. -/
theorem discover_accounts_assorted :
    DeclarationSet.assorted.host.knowsMarker Options.default.marker = true ∧
      ∃ found, (discover DeclarationSet.assorted.host .default .never).outcome = .ok found ∧
        found.targets.length + found.diagnostics.length + 1 = 6 ∧
        found.targets =
          [⟨"Lexer", "Lexer", "", .public, ['\'', '"', '\\'], false⟩,
            ⟨"Digits", "Digits", "", .public, ['0', '1'], true⟩,
            ⟨"Letters", "Letters", "", .public, ['a', 'b'], true⟩] ∧
        found.diagnostics =
          [⟨"Twice", .duplicateCharacter "Twice" 'a'⟩,
            ⟨"Inner", .nestedVisibility "Inner" .private⟩] := by
  refine ⟨rfl, ?_⟩
  obtain ⟨found, outcome, -, targets, diagnostics, -, count, -⟩ :=
    discover_accounts DeclarationSet.assorted.host .default rfl
  have unresolved : (DeclarationSet.assorted.host.annotated
      Options.default.marker).eraseDups.countP
      (fun id => (DeclarationSet.assorted.host.resolve id).isNone) = 1 := by decide +kernel
  have distinct : (DeclarationSet.assorted.host.annotated
      Options.default.marker).eraseDups.length = 6 := by decide +kernel
  rw [unresolved, distinct] at count
  refine ⟨found, outcome, count, targets.trans ?_, diagnostics.trans ?_⟩
  · decide +kernel
  · decide +kernel

end CharDispatch
