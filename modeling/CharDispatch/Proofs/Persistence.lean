import CharDispatch.Generation
import CharDispatch.Proofs.Accounting
import CharDispatch.Proofs.RoundTrip

/-!
# Passes over stored declarations

Storing declarations and reading them again loses the arguments of another kind:
where one was, the host now answers `null`.  A pass cannot tell.  It reads an
argument as a string or as a truth value only, and neither kind is either
(`Host.ReadsAlike`).

* `generate_congr`: hosts that read alike lead to the same pass, call by call and
  event by event.
* `DeclarationSet.host_stored`: declarations read alike before and after they are
  stored.
* `generate_restored`: a pass over what was stored and read again.
-/

namespace CharDispatch

/-! ## Hosts that read alike -/

variable {ι : Type}

namespace Host

/-- Two hosts give the same answers, as far as a pass reads them: of an argument
only the string or the truth value that it holds. -/
structure ReadsAlike (first second : Host ι) : Prop where
  knowsMarker : first.knowsMarker = second.knowsMarker
  annotated : first.annotated = second.annotated
  resolve : first.resolve = second.resolve
  string : ∀ id marker key, (first.argument id marker key).bind ArgumentValue.string? =
    (second.argument id marker key).bind ArgumentValue.string?
  bool : ∀ id marker key, (first.argument id marker key).bind ArgumentValue.bool? =
    (second.argument id marker key).bind ArgumentValue.bool?

variable {first second : Host ι}

theorem ReadsAlike.find_eq (alike : first.ReadsAlike second) (marker : String) (id : ι) :
    first.find marker id = second.find marker id := by
  refine find_congr (congrFun alike.resolve id) ?_ ?_
  · exact congrArg CharacterSet.effective (alike.string id marker optimizeForArgument)
  · exact congrArg (·.getD false) (alike.bool id marker globalArgument)

variable [DecidableEq ι]

theorem ReadsAlike.visitsAfter_eq (alike : first.ReadsAlike second) (marker : String)
    (ids earlier : List ι) :
    first.visitsAfter marker earlier ids = second.visitsAfter marker earlier ids := by
  induction ids generalizing earlier with
  | nil => rfl
  | cons id ids ih => rw [visitsAfter, visitsAfter, alike.find_eq, ih]

theorem ReadsAlike.visits_eq (alike : first.ReadsAlike second) (marker : String) :
    first.visits marker = second.visits marker := by
  rw [visits, visits, alike.annotated, alike.visitsAfter_eq]

end Host

variable [DecidableEq ι] {first second : Host ι}

theorem discover_congr (alike : first.ReadsAlike second) (options : Options)
    (cancellation : Cancellation) :
    discover first options cancellation = discover second options cancellation := by
  unfold discover
  dsimp only
  rw [alike.knowsMarker, alike.visits_eq]

/-- Hosts that read alike lead to the same pass. -/
theorem generate_congr (alike : first.ReadsAlike second) (options : Options)
    (cancellation : Cancellation) :
    generate first options cancellation = generate second options cancellation := by
  unfold generate
  rw [discover_congr alike]

/-! ## Declarations that were stored -/

namespace ArgumentValue

@[simp] theorem string?_stored (value : ArgumentValue) : value.stored.string? = value.string? := by
  cases value with
  | null | bool _ | string _ | other => rfl

@[simp] theorem bool?_stored (value : ArgumentValue) : value.stored.bool? = value.bool? := by
  cases value with
  | null | bool _ | string _ | other => rfl

end ArgumentValue

theorem DeclarationEntry.attribute?_stored (entry : DeclarationEntry) (marker : String) :
    entry.stored.attribute? marker = (entry.attribute? marker).map AttributeEntry.stored :=
  List.find?_map

namespace DeclarationSet

theorem entry?_stored (set : DeclarationSet) (id : String) :
    set.stored.entry? id = (set.entry? id).map DeclarationEntry.stored :=
  List.find?_map

theorem annotated_stored (set : DeclarationSet) (marker : String) :
    set.stored.host.annotated marker = set.host.annotated marker := by
  unfold host stored
  dsimp only
  have carries : (fun entry : DeclarationEntry => (entry.attribute? marker).isSome) ∘
      DeclarationEntry.stored = fun entry => (entry.attribute? marker).isSome := by
    funext entry
    rw [Function.comp_apply, DeclarationEntry.attribute?_stored, Option.isSome_map]
  rw [List.filter_map, carries, List.map_map]
  rfl

theorem resolve_stored (set : DeclarationSet) (id : String) :
    set.stored.host.resolve id = set.host.resolve id := by
  unfold host
  dsimp only
  rw [entry?_stored, Option.bind_map]
  rfl

/-- An argument is answered as it is stored. -/
theorem argument_stored (set : DeclarationSet) (id marker key : String) :
    set.stored.host.argument id marker key =
      (set.host.argument id marker key).map ArgumentValue.stored := by
  unfold host
  dsimp only
  rw [entry?_stored]
  cases set.entry? id with
  | none => rfl
  | some entry =>
    rw [Option.map_some, Option.bind_some, Option.bind_some, entry.attribute?_stored]
    cases entry.attribute? marker with
    | none => rfl
    | some applied => exact OrderedMap.get?_mapValues _ applied.arguments key

example :
    let set := empty.withDeclaration
      ((DeclarationEntry.named "Lexer").withAttribute "Mark" [("Global", .other)])
    set.host.argument "Lexer" "Mark" "Global" = some .other ∧
      set.stored.host.argument "Lexer" "Mark" "Global" = some .null := by decide

/-- Declarations read alike before and after they are stored. -/
theorem host_stored (set : DeclarationSet) : set.stored.host.ReadsAlike set.host where
  knowsMarker := rfl
  annotated := funext set.annotated_stored
  resolve := funext set.resolve_stored
  string id marker key := by
    rw [argument_stored, Option.bind_map]
    exact congrArg _ (funext ArgumentValue.string?_stored)
  bool id marker key := by
    rw [argument_stored, Option.bind_map]
    exact congrArg _ (funext ArgumentValue.bool?_stored)

end DeclarationSet

/-- The text of a set of declarations can be decoded, and a pass over the set that
this gives is the same as one over the set that was encoded, whatever the options
and whenever it is asked to stop: the outcome is the same, and so are the calls and
the events.  Between the hosts there is one difference: where an argument was of
another kind, it is now `null`. -/
theorem generate_restored (set : DeclarationSet) :
    ∃ restored, DeclarationSet.reader.decode set.toJson.render = .ok restored ∧
      (∀ options cancellation,
        discover restored.host options cancellation = discover set.host options cancellation ∧
        generate restored.host options cancellation = generate set.host options cancellation) ∧
      (∀ id marker key, restored.host.argument id marker key =
        (set.host.argument id marker key).map ArgumentValue.stored) := by
  refine ⟨set.stored, Json.Reader.decode_render set.reads, ?_, set.argument_stored⟩
  intro options cancellation
  exact ⟨discover_congr set.host_stored options cancellation,
    generate_congr set.host_stored options cancellation⟩

end CharDispatch
