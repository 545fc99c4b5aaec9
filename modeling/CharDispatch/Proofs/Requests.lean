import CharDispatch.Proofs.Lookup

/-!
# What recorded declarations ask for

A declaration with a name that carries the marker asks for a target, which can be put
together by hand from what is recorded (`DeclarationEntry.request?`).  If no id is
recorded twice, a pass finds what the declarations ask for, one after the other: the
target, or the diagnostic that refuses it (`Target.refusal?`).

* `DeclarationEntry.request?_eq_some_iff`: the request is the target whose name, scope,
  characters and kind are recorded.
* `Host.Describes.find_eq`: a host whose answers make up a target finds that target or
  its refusal.
* `DeclarationSet.discovery_eq`: the discovery over a set is read off the requests.
* `DeclarationSet.requests_essential`: declarations without the marker, other attributes
  and other arguments ask for nothing.
* `discover_requests`: both together, for a whole pass.
-/

namespace CharDispatch

/-! ## Maps with only some of their keys -/

namespace OrderedMap

variable {β : Type}

/-- The entries of a map under some keys. -/
def restrict (m : OrderedMap β) (keys : List String) : OrderedMap β where
  toList := m.toList.filter fun entry => decide (entry.1 ∈ keys)
  distinct := m.distinct.sublist (List.filter_sublist.map Prod.fst)

theorem get?_restrict (m : OrderedMap β) {keys : List String} {key : String}
    (kept : key ∈ keys) : (m.restrict keys).get? key = m.get? key := by
  unfold get? restrict
  dsimp only
  induction m.toList with
  | nil => rfl
  | cons entry rest ih =>
    rcases entry with ⟨first, value⟩
    by_cases same : key = first
    · subst same
      rw [List.filter_cons_of_pos (by simpa using kept), List.lookup_cons_self,
        List.lookup_cons_self]
    · have other : (key == first) = false := beq_eq_false_iff_ne.2 same
      rw [List.lookup_cons, other, List.filter_cons]
      split
      · rw [List.lookup_cons, other]
        exact ih
      · exact ih

end OrderedMap

/-! ## Targets put together by hand -/

theorem qualifiedName_eq (scope name : String) :
    qualifiedName scope name = if scope = "" then name else scope ++ "." ++ name := by
  simp only [qualifiedName, String.isEmpty_iff]

/-- No characters and an empty list of them are the same request. -/
theorem CharacterSet.effective_getD (listed : Option String) :
    effective (some (listed.getD "")) = effective listed := by
  cases listed with
  | none => rfl
  | some characters => rfl

namespace Target

/-- A target is accepted if its characters are valid and there is a place for its text. -/
def IsAccepted (target : Target) : Prop :=
  CharacterSet.validate target.qualifiedName target.characters = .ok () ∧
    (target.isGlobal = true ∨ target.visibility.isNamespaceLevel = true)

/-- The diagnostic that refuses a target, if it is not accepted: for its characters, or
else for a private helper without a place. -/
def refusal? (target : Target) : Option Diagnostic :=
  match CharacterSet.validate target.qualifiedName target.characters with
  | .error fault => some ⟨target.qualifiedName, fault⟩
  | .ok () =>
    if target.isGlobal || target.visibility.isNamespaceLevel then none
    else some ⟨target.qualifiedName,
      .nestedVisibility target.qualifiedName target.visibility⟩

theorem refusal?_eq_none_iff {target : Target} : target.refusal? = none ↔ target.IsAccepted := by
  unfold refusal? IsAccepted
  cases CharacterSet.validate target.qualifiedName target.characters with
  | error fault => simp
  | ok =>
    cases target.isGlobal with
    | true => simp
    | false => simp

instance (target : Target) : Decidable target.IsAccepted :=
  decidable_of_iff (target.refusal? = none) refusal?_eq_none_iff

theorem declaration_of_refusal? {target : Target} {diagnostic : Diagnostic}
    (refused : target.refusal? = some diagnostic) :
    diagnostic.declaration = target.qualifiedName := by
  unfold refusal? at refused
  split at refused
  · cases refused
    rfl
  · split at refused
    · cases refused
    · cases refused
      rfl

/-- There is one diagnostic for every target that is not accepted, under its name. -/
theorem declarations_refusals (targets : List Target) :
    (targets.filterMap refusal?).map (·.declaration) =
      (targets.filter fun target => !decide target.IsAccepted).map (·.qualifiedName) := by
  induction targets with
  | nil => rfl
  | cons target targets ih =>
    rw [List.filterMap_cons, List.filter_cons]
    cases refused : target.refusal? with
    | none =>
      have accepted := refusal?_eq_none_iff.1 refused
      rw [decide_eq_true accepted]
      exact ih
    | some diagnostic =>
      have broken : ¬ target.IsAccepted := fun accepted => by
        rw [refusal?_eq_none_iff.2 accepted] at refused
        cases refused
      rw [decide_eq_false broken]
      exact congrArg₂ List.cons (declaration_of_refusal? refused) ih

/-- What a pass finds when it comes to a target. -/
def verdict (target : Target) : Finding :=
  target.refusal?.elim (.extracted target) .rejected

theorem target?_verdict (target : Target) :
    target.verdict.target? = if target.IsAccepted then some target else none := by
  unfold verdict
  split
  · next accepted => rw [refusal?_eq_none_iff.2 accepted]; rfl
  · next refused =>
    obtain ⟨diagnostic, found⟩ := Option.ne_none_iff_exists'.1 (mt refusal?_eq_none_iff.1 refused)
    rw [found]
    rfl

theorem diagnostic?_verdict (target : Target) : target.verdict.diagnostic? = target.refusal? := by
  unfold verdict
  cases target.refusal? with
  | none => rfl
  | some diagnostic => rfl

end Target

/-- A host's answers about a declaration are what a target is made of. -/
structure Host.Describes {ι : Type} (host : Host ι) (marker : String) (id : ι)
    (target : Target) : Prop where
  resolve : host.resolve id =
    some ⟨target.name, target.qualifiedName, target.scope, target.visibility⟩
  characters : host.charactersOf marker id = target.characters
  shared : host.asksForShared marker id = target.isGlobal

/-- A visit to a declaration finds the target that the answers make up, or refuses it. -/
theorem Host.Describes.find_eq {ι : Type} {host : Host ι} {marker : String} {id : ι}
    {target : Target} (describes : host.Describes marker id target) :
    host.find marker id = target.verdict := by
  rcases target with ⟨name, qualifiedName, scope, visibility, characters, isGlobal⟩
  rcases describes with ⟨resolve, listed, shared⟩
  unfold Host.charactersOf at listed
  unfold Host.asksForShared at shared
  unfold Host.find Host.extract Target.verdict Target.refusal?
  simp only [resolve, listed, shared]
  cases CharacterSet.validate qualifiedName characters with
  | error fault => rfl
  | ok =>
    cases isGlobal with
    | true => rfl
    | false =>
      cases visibility.isNamespaceLevel with
      | true => rfl
      | false => rfl

/-! ## What recorded declarations ask for -/

namespace DeclarationEntry

/-- The target that a declaration asks for if it has a name and carries the marker.  The
characters and the kind are those on the first attribute with the name of the marker. -/
def request? (entry : DeclarationEntry) (marker : String) : Option Target :=
  match entry.name, entry.attribute? marker with
  | some name, some applied =>
    let listed := (applied.arguments.get? optimizeForArgument).bind ArgumentValue.string?
    let shared := (applied.arguments.get? globalArgument).bind ArgumentValue.bool?
    some ((((Target.named name entry.scope).withVisibility entry.visibility).withCharacters
      (listed.getD "")).withGlobal (shared.getD false))
  | _, _ => none

/-- A target is what is recorded of a declaration and of an attribute on it. -/
structure Asks (entry : DeclarationEntry) (applied : AttributeEntry) (target : Target) : Prop where
  name : entry.name = some target.name
  qualifiedName : target.qualifiedName =
    if entry.scope = "" then target.name else entry.scope ++ "." ++ target.name
  scope : target.scope = entry.scope
  visibility : target.visibility = entry.visibility
  arguments : AsksFor (applied.arguments.get? optimizeForArgument)
    (applied.arguments.get? globalArgument) target.characters target.isGlobal

section Asks

variable {entry : DeclarationEntry} {marker : String} {applied : AttributeEntry}

theorem Asks.unique {first second : Target} (asks : entry.Asks applied first)
    (other : entry.Asks applied second) : first = second := by
  have names := Option.some.inj (asks.name.symm.trans other.name)
  have qualified : first.qualifiedName = second.qualifiedName := by
    rw [asks.qualifiedName, other.qualifiedName, names]
  have scopes := asks.scope.trans other.scope.symm
  have visibilities := asks.visibility.trans other.visibility.symm
  obtain ⟨characters, kinds⟩ := asks.arguments.unique other.arguments
  cases first
  cases second
  exact (Target.mk.injEq ..).mpr ⟨names, qualified, scopes, visibilities, characters, kinds⟩

/-- A declaration with a name and the marker asks for what is recorded of both. -/
theorem exists_request {name : String} (named : entry.name = some name)
    (marked : entry.attribute? marker = some applied) :
    ∃ target, entry.request? marker = some target ∧ entry.Asks applied target := by
  refine ⟨_, by rw [request?, named, marked], named, qualifiedName_eq _ _, rfl, rfl, ?_⟩
  have asks := AsksFor.read (applied.arguments.get? optimizeForArgument)
    (applied.arguments.get? globalArgument)
  rwa [← CharacterSet.effective_getD] at asks

/-- Without a name or without the marker, nothing is asked for. -/
theorem request?_eq_none_iff :
    entry.request? marker = none ↔ entry.name = none ∨ entry.attribute? marker = none := by
  unfold request?
  cases entry.name with
  | none => simp
  | some name =>
    cases entry.attribute? marker with
    | none => simp
    | some applied => simp

/-- What a declaration asks for is recorded of it and of its first attribute with the name
of the marker. -/
theorem request?_eq_some_iff {target : Target} :
    entry.request? marker = some target ↔
      ∃ applied, entry.attribute? marker = some applied ∧ entry.Asks applied target := by
  constructor
  · intro request
    have something : ¬ (entry.name = none ∨ entry.attribute? marker = none) := by
      rw [← request?_eq_none_iff, request]
      nofun
    obtain ⟨hasName, hasMarker⟩ := not_or.1 something
    obtain ⟨name, named⟩ := Option.ne_none_iff_exists'.1 hasName
    obtain ⟨applied, marked⟩ := Option.ne_none_iff_exists'.1 hasMarker
    obtain ⟨other, found, asks⟩ := exists_request named marked
    cases Option.some.inj (request.symm.trans found)
    exact ⟨applied, marked, asks⟩
  · rintro ⟨applied, marked, asks⟩
    obtain ⟨other, found, asksOther⟩ := exists_request asks.name marked
    rw [found, asks.unique asksOther]

theorem request?_of_unmarked (unmarked : entry.attribute? marker = none) :
    entry.request? marker = none :=
  request?_eq_none_iff.2 (.inr unmarked)

end Asks

/-- What is left of a declaration when everything that does not count for a marker is
left out: other attributes, further ones with its name, and arguments with other keys. -/
def essential (entry : DeclarationEntry) (marker : String) : DeclarationEntry where
  id := entry.id
  name := entry.name
  scope := entry.scope
  visibility := entry.visibility
  attributes := (entry.attribute? marker).toList.map fun applied =>
    ⟨applied.name, applied.arguments.restrict [optimizeForArgument, globalArgument]⟩

theorem attribute?_essential (entry : DeclarationEntry) (marker : String) :
    (entry.essential marker).attribute? marker = (entry.attribute? marker).map fun applied =>
      ⟨applied.name, applied.arguments.restrict [optimizeForArgument, globalArgument]⟩ := by
  rw [attribute?, essential]
  cases held : entry.attribute? marker with
  | none => rfl
  | some applied =>
    have named := List.find?_some held
    exact List.find?_cons_of_pos named

theorem request?_essential (entry : DeclarationEntry) (marker : String) :
    (entry.essential marker).request? marker = entry.request? marker := by
  have names : (entry.essential marker).name = entry.name := rfl
  unfold request?
  rw [attribute?_essential, names]
  cases entry.name with
  | none => rfl
  | some name =>
    cases entry.attribute? marker with
    | none => rfl
    | some applied =>
      simp only [Option.map_some]
      rw [OrderedMap.get?_restrict _ (.head _), OrderedMap.get?_restrict _ (.tail _ (.head _))]
      rfl

end DeclarationEntry

namespace DeclarationSet

/-- The targets that the declarations of a set ask for, in order. -/
def requests (set : DeclarationSet) (marker : String) : List Target :=
  set.declarations.filterMap (·.request? marker)

/-- What is left of a set when everything that does not count for a marker is left out:
declarations without it, and what does not count of the others. -/
def essential (set : DeclarationSet) (marker : String) : DeclarationSet where
  markerAvailable := set.markerAvailable
  declarations := (set.declarations.filter fun entry => (entry.attribute? marker).isSome).map
    (·.essential marker)

theorem requests_essential (set : DeclarationSet) (marker : String) :
    (set.essential marker).requests marker = set.requests marker := by
  unfold requests essential
  dsimp only
  rw [List.filterMap_map, List.filterMap_filter]
  refine List.filterMap_congr fun entry _ => ?_
  cases held : entry.attribute? marker with
  | none => exact (DeclarationEntry.request?_of_unmarked held).symm
  | some applied => exact entry.request?_essential marker

/-- No id is recorded twice. -/
def HasDistinctIds (set : DeclarationSet) : Prop := (set.declarations.map (·.id)).Nodup

instance (set : DeclarationSet) : Decidable set.HasDistinctIds :=
  inferInstanceAs (Decidable (List.Nodup _))

theorem HasDistinctIds.essential {set : DeclarationSet} (distinct : set.HasDistinctIds)
    (marker : String) : (set.essential marker).HasDistinctIds := by
  have ids : (set.essential marker).declarations.map (·.id) =
      (set.declarations.filter fun entry => (entry.attribute? marker).isSome).map (·.id) :=
    List.map_map ..
  rw [HasDistinctIds, ids]
  exact distinct.sublist (List.filter_sublist.map _)

/-- Where no id is recorded twice, every declaration answers for its own. -/
theorem HasDistinctIds.entry?_eq {set : DeclarationSet} (distinct : set.HasDistinctIds)
    {entry : DeclarationEntry} (recorded : entry ∈ set.declarations) :
    set.entry? entry.id = some entry := by
  rcases set with ⟨available, declarations⟩
  unfold HasDistinctIds at distinct
  unfold entry?
  dsimp only at distinct recorded ⊢
  induction declarations with
  | nil => cases recorded
  | cons first rest ih =>
    rw [List.map_cons, List.nodup_cons] at distinct
    cases recorded with
    | head => exact List.find?_cons_of_pos (beq_self_eq_true _)
    | tail _ later =>
      have other : first.id ≠ entry.id := fun same =>
        distinct.1 (same ▸ List.mem_map_of_mem later)
      rw [List.find?_cons_of_neg (by simpa using other)]
      exact ih distinct.2 later

variable {set : DeclarationSet} {marker : String} {entry : DeclarationEntry}

/-- The answers about a declaration make up the target that it asks for. -/
theorem describes_of_request (held : set.entry? entry.id = some entry) {target : Target}
    (request : entry.request? marker = some target) :
    set.host.Describes marker entry.id target := by
  obtain ⟨applied, marked, asks⟩ := DeclarationEntry.request?_eq_some_iff.1 request
  have argument (key : String) :
      set.host.argument entry.id marker key = applied.arguments.get? key := by
    rw [argument_of_first held, marked, Option.bind_some]
  have answers := set.host.asksFor marker entry.id
  rw [argument, argument] at answers
  obtain ⟨characters, shared⟩ := answers.unique asks.arguments
  refine ⟨?_, characters, shared⟩
  rw [resolve_of_first held, DeclarationEntry.resolved?, asks.name, Option.map_some,
    qualifiedName_eq, asks.qualifiedName, asks.scope, asks.visibility]

/-- A declaration that carries the marker and asks for nothing has no name. -/
theorem find_of_no_request (held : set.entry? entry.id = some entry)
    (carries : (entry.attribute? marker).isSome = true) (request : entry.request? marker = none) :
    set.host.find marker entry.id = .unresolved := by
  have nameless : entry.name = none := by
    obtain nameless | unmarked := DeclarationEntry.request?_eq_none_iff.1 request
    · exact nameless
    · rw [unmarked] at carries
      cases carries
  rw [Host.find_eq_iff]
  refine .nothing ?_
  rw [resolve_of_first held, DeclarationEntry.resolved?, nameless]
  rfl

/-- What a visit to a declaration finds, when it is read, is read off its request. -/
theorem read_find {β : Type} {read : Finding → Option β} (silent : read .unresolved = none)
    (held : set.entry? entry.id = some entry)
    (carries : (entry.attribute? marker).isSome = true) :
    read (set.host.find marker entry.id) =
      (entry.request? marker).bind fun target => read target.verdict := by
  cases request : entry.request? marker with
  | none => rw [find_of_no_request held carries request, silent, Option.bind_none]
  | some target => rw [(describes_of_request held request).find_eq, Option.bind_some]

/-- Whatever is read off the visits of a pass is read off the requests. -/
theorem HasDistinctIds.filterMap_find {β : Type} (distinct : set.HasDistinctIds)
    {read : Finding → Option β} (silent : read .unresolved = none) :
    (set.host.distinct marker).filterMap (fun id => read (set.host.find marker id)) =
      (set.requests marker).filterMap fun target => read target.verdict := by
  have listed : (set.host.annotated marker).Nodup :=
    distinct.sublist (List.filter_sublist.map _)
  -- no declaration is met twice, so every one that carries the marker is looked at
  rw [Host.distinct, Host.eraseDups_of_nodup listed, host, List.filterMap_map,
    List.filterMap_filter, requests, List.filterMap_filterMap]
  refine List.filterMap_congr fun entry recorded => ?_
  split
  · next carries => exact read_find silent (distinct.entry?_eq recorded) carries
  · next unmarked =>
    rw [Option.not_isSome_iff_eq_none] at unmarked
    rw [DeclarationEntry.request?_of_unmarked unmarked, Option.bind_none]

/-- The discovery over a set is read off what its declarations ask for. -/
theorem HasDistinctIds.discovery_eq (distinct : set.HasDistinctIds)
    (available : set.markerAvailable = true) (marker : String) :
    set.host.discovery marker =
      { markerResolved := true
        targets := (set.requests marker).filter fun target => decide target.IsAccepted
        diagnostics := (set.requests marker).filterMap Target.refusal? } := by
  have knows : set.host.knowsMarker marker = true := available
  have targets : ((set.requests marker).filterMap fun target => target.verdict.target?) =
      (set.requests marker).filter fun target => decide target.IsAccepted := by
    rw [← List.filterMap_eq_filter]
    refine List.filterMap_congr fun target _ => ?_
    rw [target.target?_verdict, Option.guard_def]
    simp only [decide_eq_true_eq]
  rw [Host.discovery_of_knows knows, @filterMap_find _ marker Target distinct Finding.target? rfl,
    @filterMap_find _ marker Diagnostic distinct Finding.diagnostic? rfl, targets]
  simp only [Target.diagnostic?_verdict]

end DeclarationSet

/-- Over a set in which no id is recorded twice, a pass finds what the declarations with
a name and the marker ask for, in the order in which they are recorded: the targets put
together by hand that have valid characters and a place for their text, and for each of
the others one diagnostic, under its qualified name.  Nothing else counts: the pass finds
the same without the declarations that do not carry the marker, without the attributes
behind the first one with its name or with another name, and without further arguments. -/
theorem discover_requests (set : DeclarationSet) (options : Options)
    (distinct : set.HasDistinctIds) (available : set.markerAvailable = true) :
    ∃ found, (discover set.host options .never).outcome = .ok found ∧
      found.markerResolved = true ∧
      found.targets =
        (set.requests options.marker).filter (fun target => decide target.IsAccepted) ∧
      found.diagnostics = (set.requests options.marker).filterMap Target.refusal? ∧
      found.diagnostics.map (·.declaration) =
        ((set.requests options.marker).filter fun target => !decide target.IsAccepted).map
          (·.qualifiedName) ∧
      (discover (set.essential options.marker).host options .never).outcome = .ok found := by
  have found := distinct.discovery_eq available options.marker
  have without := (distinct.essential options.marker).discovery_eq available options.marker
  rw [set.requests_essential, ← found] at without
  refine ⟨set.host.discovery options.marker, outcome_discover_never set.host options, ?_, ?_, ?_,
    ?_, ?_⟩
  · rw [found]
  · rw [found]
  · rw [found]
  · rw [found]
    exact Target.declarations_refusals _
  · rw [outcome_discover_never, without]

/-- Recorded declarations with distinct ids: one with two attributes of the marker's name
and an argument of the wrong kind, one that does not carry the marker, one without a
name, one with a character that has no literal, a nested type, and a nested type that asks
for the shared class, with characters of the wrong kind. -/
def DeclarationSet.requesting : DeclarationSet :=
  let marker := Options.default.marker
  { declarations :=
      [((((DeclarationEntry.named "Lexer").inScope "App.Text").withAttribute "Obsolete"
            [(globalArgument, .bool true)]).withAttribute marker
          [("Note", .other), (globalArgument, .string "yes"),
            (optimizeForArgument, .string "'\"\\")]).withAttribute marker
          [(optimizeForArgument, .string "aa")],
        (DeclarationEntry.named "Plain").withAttribute "Obsolete" [],
        (DeclarationEntry.named "Broken").unresolved.withAttribute marker [],
        (DeclarationEntry.named "Faces").withAttribute marker
          [(optimizeForArgument, .string "a😀")],
        ((DeclarationEntry.named "Inner").withVisibility .private).withAttribute marker [],
        (((DeclarationEntry.named "Hidden").inScope "App").withVisibility .private).withAttribute
          marker [(globalArgument, .bool true), (optimizeForArgument, .bool true)]] }

theorem discover_requests_requesting :
    DeclarationSet.requesting.HasDistinctIds ∧
      DeclarationSet.requesting.markerAvailable = true ∧
      ∃ found, (discover DeclarationSet.requesting.host .default .never).outcome = .ok found ∧
        found.targets =
          [⟨"Lexer", "App.Text.Lexer", "App.Text", .public, ['\'', '"', '\\'], false⟩,
            ⟨"Hidden", "App.Hidden", "App", .private, CharacterSet.standard, true⟩] ∧
        found.diagnostics.map (·.declaration) = ["Faces", "Inner"] := by
  have distinct : DeclarationSet.requesting.HasDistinctIds := by decide
  refine ⟨distinct, rfl, ?_⟩
  obtain ⟨found, outcome, -, targets, -, declarations, -⟩ :=
    discover_requests DeclarationSet.requesting .default distinct rfl
  refine ⟨found, outcome, targets.trans ?_, declarations.trans ?_⟩
  · decide +kernel
  · decide +kernel

end CharDispatch
