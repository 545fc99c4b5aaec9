import CharDispatch.Codec.Options
import CharDispatch.Codec.Target
import CharDispatch.Proofs.Arguments
import Mathlib.Data.List.Nodup

/-!
# Stored values

A stored record is an object with its fields in any order and with members under unknown
keys between them.  A field that has a default may be left out if it holds the default.
`Options.StoredAs` and its like say which objects stand for a value, and reading any of them
gives the value back.  The one thing that is not kept is an argument of another kind, which
is written as `null` (`ArgumentValue.stored`); the arguments keep their order.

* `OrderedMap.ofList_toList`: a map is what its entries make when they are written
  in turn, which is how a map is read.
* `DeclarationSet.storedAs_toJson`, and likewise for the other types: the full object is one
  of those that stand for a value.
* `DeclarationSet.takes`, and likewise for the other types: what is read of them.
-/

namespace CharDispatch

open Json Reader

/-! ## Maps -/

namespace OrderedMap

variable {β γ : Type}

/-- The map with every value changed. -/
def mapValues (f : β → γ) (m : OrderedMap β) : OrderedMap γ where
  toList := m.toList.map fun entry => (entry.1, f entry.2)
  distinct := by
    rw [List.map_map]
    exact m.distinct

theorem get?_mapValues (f : β → γ) (m : OrderedMap β) (key : String) :
    (m.mapValues f).get? key = (m.get? key).map f := by
  unfold get? mapValues
  dsimp only
  induction m.toList with
  | nil => rfl
  | cons entry rest ih =>
    rw [List.map_cons, List.lookup_cons, List.lookup_cons, ih]
    cases key == entry.1 with
    | true => rfl
    | false => rfl

theorem place_of_new {key : String} (value : β) {entries : List (String × β)}
    (new : key ∉ entries.map Prod.fst) : place key value entries = entries ++ [(key, value)] := by
  induction entries with
  | nil => rfl
  | cons entry rest ih =>
    rw [List.map_cons, List.mem_cons, not_or] at new
    rw [place, if_neg (Ne.symm new.1), ih new.2, List.cons_append]

/-- Entries with new keys come behind those that are there. -/
theorem toList_foldl_insert {entries : List (String × β)} {m : OrderedMap β}
    (distinct : ((m.toList ++ entries).map Prod.fst).Nodup) :
    (entries.foldl (fun m entry => m.insert entry.1 entry.2) m).toList =
      m.toList ++ entries := by
  induction entries generalizing m with
  | nil => exact (List.append_nil _).symm
  | cons entry rest ih =>
    have new : entry.1 ∉ m.toList.map Prod.fst := by
      rw [List.map_append, List.map_cons] at distinct
      intro member
      exact (List.nodup_append.1 distinct).2.2 _ member _ (.head _) rfl
    have inserted : (m.insert entry.1 entry.2).toList = m.toList ++ [entry] :=
      place_of_new entry.2 new
    have regroup : m.toList ++ entry :: rest = (m.insert entry.1 entry.2).toList ++ rest := by
      rw [inserted, List.append_assoc, List.singleton_append]
    rw [regroup] at distinct ⊢
    exact ih distinct

/-- A map is what its entries make when they are written in turn. -/
theorem ofList_toList (m : OrderedMap β) : ofList m.toList = m :=
  ext (toList_foldl_insert (m := empty) m.distinct)

end OrderedMap

/-! ## What storing keeps -/

/-- What is left of an argument value when it is stored. -/
def ArgumentValue.stored : ArgumentValue → ArgumentValue
  | .other => .null
  | value => value

/-- What is left of an attribute when it is stored. -/
def AttributeEntry.stored (entry : AttributeEntry) : AttributeEntry :=
  { entry with arguments := entry.arguments.mapValues ArgumentValue.stored }

/-- What is left of a declaration when it is stored. -/
def DeclarationEntry.stored (entry : DeclarationEntry) : DeclarationEntry :=
  { entry with attributes := entry.attributes.map AttributeEntry.stored }

/-- What is left of a set of declarations when it is stored. -/
def DeclarationSet.stored (set : DeclarationSet) : DeclarationSet :=
  { set with declarations := set.declarations.map DeclarationEntry.stored }

/-! ## Options -/

namespace Options

/-- The fields of options.  Each may be left out if it is the default. -/
def forms (options : Options) : List FieldForm :=
  [⟨"marker", (· = .string options.marker), options.marker = default.marker⟩,
    ⟨"artifact_name", (· = .string options.artifactName),
      options.artifactName = default.artifactName⟩,
    ⟨"extension", (· = .string options.extension), options.extension = default.extension⟩,
    ⟨"indent", (· = .natural options.indent.toNat), options.indent = default.indent⟩,
    ⟨"embed_attribute", (· = .bool options.embedAttribute),
      options.embedAttribute = default.embedAttribute⟩]

/-- An object that stands for options. -/
def StoredAs (options : Options) : Value → Prop := WritesRecord options.forms

theorem storedAs_toJson (options : Options) : options.StoredAs options.toJson :=
  writesRecord_full (by simp [forms]) (by simp [forms])

/-- The draft of some options once some keys have been met. -/
def draft (options : Options) (seen : List String) : Draft where
  marker := given seen "marker" options.marker
  artifactName := given seen "artifact_name" options.artifactName
  extension := given seen "extension" options.extension
  indent := given seen "indent" options.indent
  embedAttribute := given seen "embed_attribute" options.embedAttribute

theorem follows (options : Options) : shape.Follows options.forms options.draft where
  start := rfl
  names := rfl
  other seen unknown := by
    simp only [forms, List.map_cons, List.map_nil, List.mem_cons, not_or] at unknown
    simp only [draft, given_cons, unknown, ne_eq, not_false_eq_true]
  field := by
    simp only [forms, List.forall_mem_cons]
    refine ⟨Shape.follows_field rfl (takes_string _) (fun _ => rfl) fun seen => ?_,
      Shape.follows_field rfl (takes_string _) (fun _ => rfl) fun seen => ?_,
      Shape.follows_field rfl (takes_string _) (fun _ => rfl) fun seen => ?_,
      Shape.follows_field rfl (takes_size _) (fun _ => rfl) fun seen => ?_,
      Shape.follows_field rfl (takes_bool _) (fun _ => rfl) fun seen => ?_, nofun⟩
    all_goals simp (disch := decide) only [draft, given_self, given_cons]

theorem takes (options : Options) : reader.Takes options.StoredAs options := by
  refine options.follows.takes fun seen known => ?_
  simp only [forms, List.forall_mem_cons] at known
  obtain ⟨marker, artifactName, extension, indent, embedAttribute, -⟩ := known
  unfold shape Draft.options draft
  dsimp only
  rw [getD_given marker, getD_given artifactName, getD_given extension, getD_given indent,
    getD_given embedAttribute]

end Options

/-! ## Visibilities -/

theorem Visibility.takes (visibility : Visibility) :
    Visibility.reader.Takes (· = visibility.toJson) visibility := by
  refine takes_ofHead rfl fun rest => ?_
  dsimp only
  rw [choose, ofName?_name]

/-! ## Targets -/

namespace Target

/-- The fields of a target.  None may be left out. -/
def forms (target : Target) : List FieldForm :=
  [⟨"name", (· = .string target.name), False⟩,
    ⟨"fully_qualified_name", (· = .string target.qualifiedName), False⟩,
    ⟨"scope_path", (· = .string target.scope), False⟩,
    ⟨"visibility", (· = target.visibility.toJson), False⟩,
    ⟨"optimize_for",
      WritesItems (fun c json => json = .string (String.singleton c)) target.characters, False⟩,
    ⟨"global", (· = .bool target.isGlobal), False⟩]

/-- An object that stands for a target. -/
def StoredAs (target : Target) : Value → Prop := WritesRecord target.forms

theorem storedAs_toJson (target : Target) : target.StoredAs target.toJson := by
  have characters : WritesItems (fun c json => json = .string (String.singleton c))
      target.characters (.array (target.characters.map fun c => .string (String.singleton c))) := by
    refine writesItems_map ?_ target.characters
    exact fun _ => rfl
  exact writesRecord_full (by simp [forms]) (by simpa [forms] using characters)

/-- The draft of a target once some keys have been met. -/
def draft (target : Target) (seen : List String) : Draft where
  name := given seen "name" target.name
  qualifiedName := given seen "fully_qualified_name" target.qualifiedName
  scope := given seen "scope_path" target.scope
  visibility := given seen "visibility" target.visibility
  characters := given seen "optimize_for" target.characters
  isGlobal := given seen "global" target.isGlobal

theorem follows (target : Target) : shape.Follows target.forms target.draft where
  start := rfl
  names := rfl
  other seen unknown := by
    simp only [forms, List.map_cons, List.map_nil, List.mem_cons, not_or] at unknown
    simp only [draft, given_cons, unknown, ne_eq, not_false_eq_true]
  field := by
    have characters := takes_list takes_character target.characters
    rw [List.map_id'] at characters
    simp only [forms, List.forall_mem_cons]
    refine ⟨Shape.follows_field rfl (takes_string _) (fun _ => rfl) fun seen => ?_,
      Shape.follows_field rfl (takes_string _) (fun _ => rfl) fun seen => ?_,
      Shape.follows_field rfl (takes_string _) (fun _ => rfl) fun seen => ?_,
      Shape.follows_field rfl target.visibility.takes (fun _ => rfl) fun seen => ?_,
      Shape.follows_field rfl characters (fun _ => rfl) fun seen => ?_,
      Shape.follows_field rfl (takes_bool _) (fun _ => rfl) fun seen => ?_, nofun⟩
    all_goals simp (disch := decide) only [draft, given_self, given_cons]

theorem takes (target : Target) : reader.Takes target.StoredAs target := by
  refine target.follows.takes fun seen known => ?_
  simp only [forms, List.forall_mem_cons] at known
  obtain ⟨name, qualifiedName, scope, visibility, characters, isGlobal, -⟩ := known
  unfold shape Draft.target draft
  dsimp only
  rw [required_given name, required_given qualifiedName, required_given scope,
    required_given visibility, required_given characters, required_given isGlobal]
  rfl

end Target

/-! ## Resolved declarations -/

namespace ResolvedDeclaration

/-- The fields of a resolved declaration.  None may be left out. -/
def forms (declaration : ResolvedDeclaration) : List FieldForm :=
  [⟨"name", (· = .string declaration.name), False⟩,
    ⟨"fully_qualified_name", (· = .string declaration.qualifiedName), False⟩,
    ⟨"scope_path", (· = .string declaration.scope), False⟩,
    ⟨"visibility", (· = declaration.visibility.toJson), False⟩]

/-- An object that stands for a resolved declaration. -/
def StoredAs (declaration : ResolvedDeclaration) : Value → Prop := WritesRecord declaration.forms

theorem storedAs_toJson (declaration : ResolvedDeclaration) :
    declaration.StoredAs declaration.toJson :=
  writesRecord_full (by simp [forms]) (by simp [forms])

/-- The draft of a resolved declaration once some keys have been met. -/
def draft (declaration : ResolvedDeclaration) (seen : List String) : Draft where
  name := given seen "name" declaration.name
  qualifiedName := given seen "fully_qualified_name" declaration.qualifiedName
  scope := given seen "scope_path" declaration.scope
  visibility := given seen "visibility" declaration.visibility

theorem follows (declaration : ResolvedDeclaration) :
    shape.Follows declaration.forms declaration.draft where
  start := rfl
  names := rfl
  other seen unknown := by
    simp only [forms, List.map_cons, List.map_nil, List.mem_cons, not_or] at unknown
    simp only [draft, given_cons, unknown, ne_eq, not_false_eq_true]
  field := by
    simp only [forms, List.forall_mem_cons]
    refine ⟨Shape.follows_field rfl (takes_string _) (fun _ => rfl) fun seen => ?_,
      Shape.follows_field rfl (takes_string _) (fun _ => rfl) fun seen => ?_,
      Shape.follows_field rfl (takes_string _) (fun _ => rfl) fun seen => ?_,
      Shape.follows_field rfl declaration.visibility.takes (fun _ => rfl) fun seen => ?_, nofun⟩
    all_goals simp (disch := decide) only [draft, given_self, given_cons]

theorem takes (declaration : ResolvedDeclaration) :
    reader.Takes declaration.StoredAs declaration := by
  refine declaration.follows.takes fun seen known => ?_
  simp only [forms, List.forall_mem_cons] at known
  obtain ⟨name, qualifiedName, scope, visibility, -⟩ := known
  unfold shape Draft.resolved draft
  dsimp only
  rw [required_given name, required_given qualifiedName, required_given scope,
    required_given visibility]
  rfl

end ResolvedDeclaration

/-! ## Attributes -/

theorem ArgumentValue.ofJson_toJson (value : ArgumentValue) :
    ofJson value.toJson = value.stored := by
  cases value with
  | null => rfl
  | bool value => rfl
  | string value => rfl
  | other => rfl

theorem ArgumentValue.inRange_toJson (value : ArgumentValue) : value.toJson.InRange := by
  cases value with
  | null => trivial
  | bool value => trivial
  | string value => trivial
  | other => trivial

namespace AttributeEntry

/-- The arguments of an attribute as JSON. -/
def storedArguments (entry : AttributeEntry) : List (String × Value) :=
  entry.arguments.toList.map fun argument => (argument.1, argument.2.toJson)

/-- An object that stands for an attribute. -/
def StoredAs (entry : AttributeEntry) : Value → Prop :=
  WritesRecord (forms entry.name entry.storedArguments)

theorem storedAs_toJson (entry : AttributeEntry) : entry.StoredAs entry.toJson :=
  writesRecord_full (by simp [forms]) (by simp [forms, storedArguments])

/-- What is read of the arguments is what is left of them. -/
theorem ofList_classified (entry : AttributeEntry) :
    OrderedMap.ofList (classified entry.storedArguments) =
      entry.arguments.mapValues ArgumentValue.stored := by
  have kept : classified entry.storedArguments =
      (entry.arguments.mapValues ArgumentValue.stored).toList := by
    unfold classified storedArguments
    rw [List.map_map]
    refine List.map_congr_left fun argument _ => ?_
    exact congrArg (Prod.mk argument.1) argument.2.ofJson_toJson
  rw [kept, OrderedMap.ofList_toList]

theorem takes_stored (entry : AttributeEntry) : reader.Takes entry.StoredAs entry.stored := by
  have inRange : ∀ argument ∈ entry.storedArguments, argument.2.InRange :=
    List.forall_mem_map.2 fun argument _ => argument.2.inRange_toJson
  have reads := takes entry.name inRange
  rw [entry.ofList_classified] at reads
  exact reads

end AttributeEntry

/-! ## Declarations -/

namespace DeclarationEntry

/-- A declaration of which nothing is recorded but its id. -/
def bare (id : String) : DeclarationEntry := { id }

/-- The fields of a declaration.  Each but the id may be left out if it is the default. -/
def forms (entry : DeclarationEntry) : List FieldForm :=
  [⟨"id", (· = .string entry.id), False⟩,
    ⟨"name", (· = entry.name.elim .null .string), entry.name = (bare entry.id).name⟩,
    ⟨"scope_path", (· = .string entry.scope), entry.scope = (bare entry.id).scope⟩,
    ⟨"visibility", (· = entry.visibility.toJson), entry.visibility = (bare entry.id).visibility⟩,
    ⟨"attributes", WritesItems AttributeEntry.StoredAs entry.attributes,
      entry.attributes = (bare entry.id).attributes⟩]

/-- An object that stands for a declaration. -/
def StoredAs (entry : DeclarationEntry) : Value → Prop := WritesRecord entry.forms

theorem storedAs_toJson (entry : DeclarationEntry) : entry.StoredAs entry.toJson :=
  writesRecord_full (by simp [forms])
    (by simpa [forms] using writesItems_map AttributeEntry.storedAs_toJson entry.attributes)

/-- The draft of a declaration once some keys have been met. -/
def draft (entry : DeclarationEntry) (seen : List String) : Draft where
  id := given seen "id" entry.id
  name := given seen "name" entry.name
  scope := given seen "scope_path" entry.scope
  visibility := given seen "visibility" entry.visibility
  attributes := given seen "attributes" entry.stored.attributes

theorem follows (entry : DeclarationEntry) : shape.Follows entry.forms entry.draft where
  start := rfl
  names := rfl
  other seen unknown := by
    simp only [forms, List.map_cons, List.map_nil, List.mem_cons, not_or] at unknown
    simp only [draft, given_cons, unknown, ne_eq, not_false_eq_true]
  field := by
    have attributes := takes_list AttributeEntry.takes_stored entry.attributes
    simp only [forms, List.forall_mem_cons]
    refine ⟨Shape.follows_field rfl (takes_string _) (fun _ => rfl) fun seen => ?_,
      Shape.follows_field rfl (takes_optionalString _) (fun _ => rfl) fun seen => ?_,
      Shape.follows_field rfl (takes_string _) (fun _ => rfl) fun seen => ?_,
      Shape.follows_field rfl entry.visibility.takes (fun _ => rfl) fun seen => ?_,
      Shape.follows_field rfl attributes (fun _ => rfl) fun seen => ?_, nofun⟩
    all_goals simp (disch := decide) only [draft, stored, given_self, given_cons]

theorem takes (entry : DeclarationEntry) : reader.Takes entry.StoredAs entry.stored := by
  refine entry.follows.takes fun seen known => ?_
  simp only [forms, bare, List.forall_mem_cons] at known
  obtain ⟨id, name, scope, visibility, attributes, -⟩ := known
  -- the default is that of what is left of the attributes
  have none_stored : entry.attributes = [] → entry.stored.attributes = [] :=
    congrArg (List.map AttributeEntry.stored)
  unfold shape Draft.declaration draft
  dsimp only
  rw [required_given id, getD_given name, getD_given scope, getD_given visibility,
    getD_given (attributes.imp_right none_stored)]
  rfl

end DeclarationEntry

/-! ## Sets of declarations -/

namespace DeclarationSet

/-- The fields of a set of declarations.  Each may be left out if it is the default. -/
def forms (set : DeclarationSet) : List FieldForm :=
  [⟨"marker_available", (· = .bool set.markerAvailable),
      set.markerAvailable = empty.markerAvailable⟩,
    ⟨"declarations", WritesItems DeclarationEntry.StoredAs set.declarations,
      set.declarations = empty.declarations⟩]

/-- An object that stands for a set of declarations. -/
def StoredAs (set : DeclarationSet) : Value → Prop := WritesRecord set.forms

theorem storedAs_toJson (set : DeclarationSet) : set.StoredAs set.toJson :=
  writesRecord_full (by simp [forms])
    (by simpa [forms] using writesItems_map DeclarationEntry.storedAs_toJson set.declarations)

/-- The draft of a set once some keys have been met. -/
def draft (set : DeclarationSet) (seen : List String) : Draft where
  markerAvailable := given seen "marker_available" set.markerAvailable
  declarations := given seen "declarations" set.stored.declarations

theorem follows (set : DeclarationSet) : shape.Follows set.forms set.draft where
  start := rfl
  names := rfl
  other seen unknown := by
    simp only [forms, List.map_cons, List.map_nil, List.mem_cons, not_or] at unknown
    simp only [draft, given_cons, unknown, ne_eq, not_false_eq_true]
  field := by
    have declarations := takes_list DeclarationEntry.takes set.declarations
    simp only [forms, List.forall_mem_cons]
    refine ⟨Shape.follows_field rfl (takes_bool _) (fun _ => rfl) fun seen => ?_,
      Shape.follows_field rfl declarations (fun _ => rfl) fun seen => ?_, nofun⟩
    all_goals simp (disch := decide) only [draft, stored, given_self, given_cons]

theorem takes (set : DeclarationSet) : reader.Takes set.StoredAs set.stored := by
  refine set.follows.takes fun seen known => ?_
  simp only [forms, empty, List.forall_mem_cons] at known
  obtain ⟨markerAvailable, declarations, -⟩ := known
  have none_stored : set.declarations = [] → set.stored.declarations = [] :=
    congrArg (List.map DeclarationEntry.stored)
  unfold shape Draft.set draft
  dsimp only
  rw [getD_given markerAvailable, getD_given (declarations.imp_right none_stored)]
  rfl

end DeclarationSet

end CharDispatch
