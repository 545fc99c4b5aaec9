import CharDispatch.Proofs.Growth

/-!
# Which declaration answers for an id

An id may be recorded several times.  It is listed under a marker if one of its
declarations carries the marker, but the questions about it are answered by the first
declaration that has the id, with or without the marker.

* `DeclarationSet.marked?_of_carries`: if the first declaration of an id carries the
  marker, it is also the first of those that do.
* `DeclarationSet.argument_of_unmarked`: if it does not, no argument of the marker is
  given, whatever another declaration of the id says.
* `DeclarationSet.answers_of_annotated`: what becomes of a listed id in both cases, and
  when the answers are those of the declaration for which the id is listed.
-/

namespace CharDispatch

/-- A target serves the characters and asks for the kind of artifact that the arguments
on its declaration say. -/
theorem Host.asks_of_extracted {ι : Type} {host : Host ι} {marker : String} {id : ι}
    {target : Target} (extracted : host.find marker id = .extracted target) :
    target.characters = host.charactersOf marker id ∧
      target.isGlobal = host.asksForShared marker id := by
  have yields := host.find_yields marker id
  rw [extracted] at yields
  cases yields with
  | target resolved servable placed => exact ⟨rfl, rfl⟩

namespace DeclarationSet

/-- The first declaration that has an id and carries the marker. -/
def marked? (set : DeclarationSet) (marker id : String) : Option DeclarationEntry :=
  set.declarations.find? fun entry => entry.id == id && (entry.attribute? marker).isSome

/-- A named argument as that declaration gives it. -/
def written? (set : DeclarationSet) (marker id key : String) : Option ArgumentValue :=
  (set.marked? marker id).bind fun entry =>
    (entry.attribute? marker).bind fun applied => applied.arguments.get? key

/-- All questions about an id are answered as that declaration says. -/
structure AnswersAsMarked (set : DeclarationSet) (marker id : String) : Prop where
  resolve : set.host.resolve id = (set.marked? marker id).bind DeclarationEntry.resolved?
  argument : ∀ key, set.host.argument id marker key = set.written? marker id key

variable {set : DeclarationSet} {marker id : String} {first marked : DeclarationEntry}

/-- What is listed carries the marker somewhere. -/
theorem isSome_marked?_of_annotated (listed : id ∈ set.host.annotated marker) :
    (set.marked? marker id).isSome = true := by
  obtain ⟨entry, member, rfl⟩ := List.mem_map.1 listed
  obtain ⟨recorded, carries⟩ := List.mem_filter.1 member
  refine List.find?_isSome.2 ⟨entry, recorded, ?_⟩
  rw [beq_self_eq_true, Bool.true_and]
  exact carries

theorem carries_of_marked? (held : set.marked? marker id = some marked) :
    (marked.attribute? marker).isSome = true := by
  have fits := List.find?_some held
  rw [Bool.and_eq_true] at fits
  exact fits.2

/-- If the first declaration of an id carries the marker, it is also the first of those
that do. -/
theorem marked?_of_carries (held : set.entry? id = some first)
    (carries : (first.attribute? marker).isSome = true) :
    set.marked? marker id = some first := by
  obtain ⟨fits, front, back, split, others⟩ := List.find?_eq_some_iff_append.1 held
  refine List.find?_eq_some_iff_append.2 ⟨?_, front, back, split, fun entry member => ?_⟩
  · rw [fits, carries]
    rfl
  · rw [Bool.not_and, others entry member, Bool.true_or]

theorem resolve_of_first (held : set.entry? id = some first) :
    set.host.resolve id = first.resolved? := by
  unfold host
  dsimp only
  rw [held, Option.bind_some]

theorem argument_of_first (held : set.entry? id = some first) (key : String) :
    set.host.argument id marker key =
      (first.attribute? marker).bind fun applied => applied.arguments.get? key := by
  unfold host
  dsimp only
  rw [held, Option.bind_some]

/-- A declaration without the marker gives no argument of it, whatever another
declaration of the same id says. -/
theorem argument_of_unmarked (held : set.entry? id = some first)
    (unmarked : first.attribute? marker = none) (key : String) :
    set.host.argument id marker key = none := by
  rw [argument_of_first held, unmarked, Option.bind_none]

theorem answersAsMarked_of_carries (held : set.entry? id = some first)
    (carries : (first.attribute? marker).isSome = true) : set.AnswersAsMarked marker id where
  resolve := by
    rw [resolve_of_first held, marked?_of_carries held carries, Option.bind_some]
  argument key := by
    rw [argument_of_first held, written?, marked?_of_carries held carries, Option.bind_some]

/-- A target of an id whose first declaration carries no marker has the standard set and
is a private helper. -/
theorem extracted_of_unmarked (held : set.entry? id = some first)
    (unmarked : first.attribute? marker = none) {target : Target}
    (extracted : set.host.find marker id = .extracted target) :
    target.characters = CharacterSet.standard ∧ target.isGlobal = false := by
  obtain ⟨characters, shared⟩ := Host.asks_of_extracted extracted
  have asks := set.host.asksFor marker id
  rw [argument_of_unmarked held unmarked, argument_of_unmarked held unmarked] at asks
  exact ⟨characters.trans (asks.noString nofun), shared.trans (asks.noBool nofun)⟩

/-- Where all questions are answered by a declaration with the marker, so are those about
characters and kind. -/
theorem AnswersAsMarked.extracted (answers : set.AnswersAsMarked marker id) {target : Target}
    (extracted : set.host.find marker id = .extracted target) :
    target.characters = CharacterSet.effective
        ((set.written? marker id optimizeForArgument).bind ArgumentValue.string?) ∧
      target.isGlobal =
        ((set.written? marker id globalArgument).bind ArgumentValue.bool?).getD false := by
  obtain ⟨characters, shared⟩ := Host.asks_of_extracted extracted
  rw [characters, shared, Host.charactersOf, Host.asksForShared, answers.argument,
    answers.argument]
  exact ⟨rfl, rfl⟩

/-- The answers are those of the first declaration that carries the marker if and only if
this is the first with its id, or the first with its id is known by the same facts and
no argument is written on the marker. -/
theorem answersAsMarked_iff (held : set.entry? id = some first)
    (found : set.marked? marker id = some marked) :
    set.AnswersAsMarked marker id ↔
      first = marked ∨
        first.resolved? = marked.resolved? ∧ ∀ key, set.written? marker id key = none := by
  cases applied : first.attribute? marker with
  | some written =>
    have carries : (first.attribute? marker).isSome = true := by
      rw [applied]
      rfl
    have same := Option.some.inj ((marked?_of_carries held carries).symm.trans found)
    exact iff_of_true (answersAsMarked_of_carries held carries) (.inl same)
  | none =>
    constructor
    · intro answers
      have resolve := answers.resolve
      rw [resolve_of_first held, found, Option.bind_some] at resolve
      refine .inr ⟨resolve, fun key => ?_⟩
      rw [← answers.argument, argument_of_unmarked held applied]
    · intro alternatives
      rcases alternatives with rfl | ⟨resolve, silent⟩
      · have carries := carries_of_marked? found
        rw [applied] at carries
        cases carries
      · refine ⟨?_, fun key => ?_⟩
        · rw [resolve_of_first held, found, Option.bind_some, resolve]
        · rw [argument_of_unmarked held applied, silent]

/-- About a listed id, the first declaration with this id answers.  If it carries the
marker, it is the first that does, and a target has the characters and the kind that are
written on the marker.  If it does not, a target has the standard set and is a private
helper, whatever is written there.  Hence the answers are those of the first declaration
that carries the marker if and only if no other has the id before it, or the first that
has it is known by the same facts and nothing is written on the marker. -/
theorem answers_of_annotated (set : DeclarationSet) (marker id : String)
    (listed : id ∈ set.host.annotated marker) :
    ∃ first marked,
      set.entry? id = some first ∧ set.marked? marker id = some marked ∧
      set.host.resolve id = first.resolved? ∧
      (∀ key, set.host.argument id marker key =
        (first.attribute? marker).bind fun applied => applied.arguments.get? key) ∧
      ((first.attribute? marker).isSome = true →
        ∀ target, set.host.find marker id = .extracted target →
          target.characters = CharacterSet.effective
              ((set.written? marker id optimizeForArgument).bind ArgumentValue.string?) ∧
            target.isGlobal =
              ((set.written? marker id globalArgument).bind ArgumentValue.bool?).getD false) ∧
      (first.attribute? marker = none →
        ∀ target, set.host.find marker id = .extracted target →
          target.characters = CharacterSet.standard ∧ target.isGlobal = false) ∧
      (set.AnswersAsMarked marker id ↔
        first = marked ∨
          first.resolved? = marked.resolved? ∧ ∀ key, set.written? marker id key = none) := by
  obtain ⟨first, held⟩ := Option.isSome_iff_exists.1 (isSome_entry?_of_annotated listed)
  obtain ⟨marked, found⟩ := Option.isSome_iff_exists.1 (isSome_marked?_of_annotated listed)
  refine ⟨first, marked, held, found, resolve_of_first held, argument_of_first held, ?_, ?_,
    answersAsMarked_iff held found⟩
  · intro carries target extracted
    exact (answersAsMarked_of_carries held carries).extracted extracted
  · intro unmarked target extracted
    exact extracted_of_unmarked held unmarked extracted

/-- Two parts of one declaration, of which the second carries the marker. -/
def twoParts : DeclarationSet :=
  (empty.withDeclaration (.named "A")).withDeclaration
    ((DeclarationEntry.named "A").withAttribute Options.default.marker
      [(optimizeForArgument, .string "ab"), (globalArgument, .bool true)])

theorem answers_of_annotated_twoParts :
    "A" ∈ twoParts.host.annotated Options.default.marker ∧
      ∀ target, twoParts.host.find Options.default.marker "A" = .extracted target →
        target.characters = CharacterSet.standard ∧ target.isGlobal = false := by
  have listed : "A" ∈ twoParts.host.annotated Options.default.marker := by decide +kernel
  obtain ⟨first, -, held, -, -, -, -, unmarked, -⟩ :=
    twoParts.answers_of_annotated Options.default.marker "A" listed
  have known : twoParts.entry? "A" = some (.named "A") := by decide +kernel
  cases Option.some.inj (known.symm.trans held)
  exact ⟨listed, unmarked rfl⟩

/-- What is written on the second part is lost: its declaration is listed, but the
arguments of the marker count as missing and the standard set is served. -/
theorem not_answersAsMarked_twoParts :
    "A" ∈ twoParts.host.annotated Options.default.marker ∧
      twoParts.written? Options.default.marker "A" optimizeForArgument = some (.string "ab") ∧
      twoParts.host.argument "A" Options.default.marker optimizeForArgument = none ∧
      (twoParts.host.discovery Options.default.marker).targets = [.named "A" ""] ∧
      ¬ twoParts.AnswersAsMarked Options.default.marker "A" := by
  have written : twoParts.written? Options.default.marker "A" optimizeForArgument =
      some (.string "ab") := by decide +kernel
  have missing : twoParts.host.argument "A" Options.default.marker optimizeForArgument =
      none := by decide +kernel
  refine ⟨by decide +kernel, written, missing, by decide +kernel, fun answers => ?_⟩
  have same := answers.argument optimizeForArgument
  rw [missing, written] at same
  cases same

end DeclarationSet

end CharDispatch
