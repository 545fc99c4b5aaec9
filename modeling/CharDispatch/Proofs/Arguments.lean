import CharDispatch.Codec.Declaration
import CharDispatch.Proofs.Json.Spaced
import CharDispatch.Proofs.Json.Fields
import CharDispatch.Proofs.Visits

/-!
# Stored arguments

The arguments of a stored attribute may be any JSON values.  A value that no argument of the
marker has is consumed exactly and only its key is kept, so reading the arguments is building
them one by one from the same keys (`ArgumentValue.ofJson` says what becomes of a value).

* `OrderedMap.keys_ofList`, `OrderedMap.get?_ofList`: of a key that comes several times the
  first place and the last value count.
* `ArgumentValue.takes`: what is read of a value, in whatever way it is written.
* `AttributeEntry.decode_arguments`: a decoded attribute is the one that is built.
-/

namespace CharDispatch

open Json Reader

/-! ## Maps from lists with repeated keys -/

namespace OrderedMap

variable {β : Type}

theorem ofList_concat (entries : List (String × β)) (entry : String × β) :
    ofList (entries ++ [entry]) = (ofList entries).insert entry.1 entry.2 := by
  rw [ofList, List.foldl_append]
  rfl

/-- The keys come in the order of their first occurrence. -/
theorem keys_ofList (entries : List (String × β)) :
    (ofList entries).keys = (entries.map Prod.fst).eraseDups := by
  -- from the end, since the last entry is the one that is inserted last
  induction entries using List.reverseRecOn with
  | nil => rfl
  | append_singleton entries entry ih =>
    rw [ofList_concat, keys_insert, ih, List.map_append, List.map_singleton,
      Host.eraseDups_concat]
    simp only [List.mem_eraseDups]

/-- Of every key the last value counts. -/
theorem get?_ofList (entries : List (String × β)) (key : String) :
    (ofList entries).get? key = entries.reverse.lookup key := by
  induction entries using List.reverseRecOn with
  | nil => rfl
  | append_singleton entries entry ih =>
    rcases entry with ⟨last, value⟩
    rw [ofList_concat, get?_insert, List.reverse_append, List.reverse_singleton,
      List.singleton_append, List.lookup_cons, ih]
    by_cases same : key = last
    · rw [if_pos same, beq_iff_eq.2 same]
    · rw [if_neg same, beq_eq_false_iff_ne.2 same]

/-- An entry under another key makes no difference. -/
theorem get?_ofList_other {before after : List (String × β)} {key other : String} {value : β}
    (differ : other ≠ key) :
    (ofList (before ++ (key, value) :: after)).get? other =
      (ofList (before ++ after)).get? other := by
  have skipped : (other == key) = false := beq_eq_false_iff_ne.2 differ
  rw [get?_ofList, get?_ofList, List.reverse_append, List.reverse_append, List.reverse_cons,
    List.lookup_append, List.lookup_append, List.lookup_append, List.lookup_cons, skipped]
  simp

end OrderedMap

/-! ## Argument values -/

/-- What a JSON value is as an argument value. -/
def ArgumentValue.ofJson : Value → ArgumentValue
  | .null => .null
  | .bool value => .bool value
  | .string value => .string value
  | .number _ | .array _ | .object _ => .other

/-- A value is not itself a number that is too great for binary64.  Numbers inside of it may
have any size. -/
def Json.Value.InRange : Value → Prop
  | .number numeral => numeral.number?.isSome = true
  | _ => True

instance (json : Value) : Decidable json.InRange := by
  unfold Json.Value.InRange
  split
  · infer_instance
  · infer_instance

namespace ArgumentValue

/-- Inside a sequence that is no argument, every item is skipped. -/
theorem passes_ignored {items : List Value} {texts : List (List Char)}
    (written : List.Forall₂ Value.WrittenAs items texts) :
    Passes (fun () => Reader.ignored) () texts () := by
  induction written with
  | nil => exact .nil
  | cons first _ ih => exact .cons (reads_ignored first) ih

/-- Inside a map that is no argument, every member is skipped. -/
theorem passes_ignoredMember {members : List (String × Value)} {texts : List (List Char)}
    (written : List.Forall₂ Value.MemberWrittenAs members texts) :
    Passes (fun () => ignoredMember) () texts () := by
  induction written with
  | nil => exact .nil
  | cons first _ ih =>
    rcases first with ⟨front, back, key, value, rfl⟩
    exact .cons (reads_member key rfl (reads_ignored value)) ih

theorem skipContents_of_passes {close : Char} {item : Reader Unit} {texts : List (List Char)}
    {chars : List Char} (closing : IsClosing close) (inside : Inside close texts chars)
    (passes : Passes (fun () => item) () texts ())
    (opens : ∀ text ∈ texts, Value.Opens (skipBlank text)) (rest : List Char) :
    skipContents close item (chars ++ rest) = .ok (.other, rest) := by
  rw [skipContents, collect, contents_of_passes closing inside passes opens]

/-- A value is taken for what it is as an argument value. -/
theorem takes {json : Value} (inRange : json.InRange) :
    reader.Takes (· = json) (ofJson json) := by
  cases json with
  | null => exact takes_ofHead rfl fun _ => rfl
  | bool value => exact takes_ofHead rfl fun _ => rfl
  | string value => exact takes_ofHead rfl fun _ => rfl
  | number numeral =>
    obtain ⟨value, fits⟩ := Option.isSome_iff_exists.1 inRange
    have scalar : (Value.number numeral).head? = some (.number value) := by
      rw [Value.head?, fits, Option.map_some]
    exact takes_ofHead scalar fun _ => rfl
  | array items =>
    rintro _ rfl text written rest -
    rcases written.inside_array with ⟨texts, chars, itemsWritten, inside, head⟩
    unfold reader ofHead
    dsimp only
    rw [head rest]
    exact skipContents_of_passes (.inl rfl) inside (passes_ignored itemsWritten)
      (Value.opens_of_items itemsWritten) rest
  | object members =>
    rintro _ rfl text written rest -
    rcases written.inside_object with ⟨texts, chars, membersWritten, inside, head⟩
    unfold reader ofHead
    dsimp only
    rw [head rest]
    exact skipContents_of_passes (.inr rfl) inside (passes_ignoredMember membersWritten)
      (Value.opens_of_members membersWritten) rest

end ArgumentValue

/-! ## Attributes -/

namespace AttributeEntry

/-- The fields of an attribute with some arguments, which may be left out if there are
none. -/
def forms (name : String) (arguments : List (String × Value)) : List FieldForm :=
  [⟨"name", (· = .string name), False⟩,
    ⟨"arguments", (· = .object arguments), arguments = []⟩]

/-- The arguments with what each value is as an argument value. -/
def classified (arguments : List (String × Value)) : List (String × ArgumentValue) :=
  arguments.map fun argument => (argument.1, ArgumentValue.ofJson argument.2)

theorem lookup_classified (arguments : List (String × Value)) (key : String) :
    (classified arguments).lookup key = (arguments.lookup key).map ArgumentValue.ofJson := by
  induction arguments with
  | nil => rfl
  | cons argument arguments ih =>
    unfold classified at ih ⊢
    rw [List.map_cons, List.lookup_cons, List.lookup_cons, ih]
    cases key == argument.1 with
    | true => rfl
    | false => rfl

/-- The draft of an attribute once some keys have been met. -/
def draft (name : String) (arguments : List (String × Value)) (seen : List String) : Draft where
  name := given seen "name" name
  arguments := given seen "arguments" (.ofList (classified arguments))

theorem follows (name : String) {arguments : List (String × Value)}
    (inRange : ∀ argument ∈ arguments, argument.2.InRange) :
    shape.Follows (forms name arguments) (draft name arguments) where
  start := rfl
  names := rfl
  other seen unknown := by
    simp only [forms, List.map_cons, List.map_nil, List.mem_cons, not_or] at unknown
    simp only [draft, given_cons, unknown, ne_eq, not_false_eq_true]
  field := by
    have takes := takes_orderedMap fun argument listed =>
      ArgumentValue.takes (inRange argument listed)
    simp only [forms, List.forall_mem_cons]
    refine ⟨Shape.follows_field rfl (takes_string name) (fun _ => rfl) fun seen => ?_,
      Shape.follows_field rfl takes (fun _ => rfl) fun seen => ?_, nofun⟩
    all_goals simp (disch := decide) only [draft, classified, given_self, given_cons]

/-- An object that writes an attribute is taken for the attribute that is built from the same
arguments. -/
theorem takes (name : String) {arguments : List (String × Value)}
    (inRange : ∀ argument ∈ arguments, argument.2.InRange) :
    reader.Takes (WritesRecord (forms name arguments)) ⟨name, .ofList (classified arguments)⟩ := by
  refine (follows name inRange).takes fun seen known => ?_
  simp only [forms, List.forall_mem_cons] at known
  obtain ⟨named, given, -⟩ := known
  have absent : arguments = [] → OrderedMap.ofList (classified arguments) = .empty := by
    rintro rfl
    rfl
  unfold shape Draft.attribute draft
  dsimp only
  rw [required_given named, getD_given (given.imp_right absent)]
  rfl

/-- An attribute whose arguments are any JSON values is decoded, from every text of an
object that writes it, as the attribute that is built from the same keys with what each
value is as an argument value.  Its keys are distinct and come in the order of their first
occurrence, each with the value of its last one.  A value of a kind that no argument has is
consumed exactly, whatever follows it, and except for its own key the arguments are those
read without it. -/
theorem decode_arguments (name : String) (arguments : List (String × Value))
    (inRange : ∀ argument ∈ arguments, argument.2.InRange) (json : Value)
    (writes : WritesRecord (forms name arguments) json) (text : String)
    (hasText : json.HasText text) :
    ∃ decoded, reader.decode text = .ok decoded ∧
      (∀ entry : DeclarationEntry, (entry.withAttribute name (classified arguments)).attributes =
        entry.attributes ++ [decoded]) ∧
      decoded.arguments.keys = (arguments.map Prod.fst).eraseDups ∧
      decoded.arguments.keys.Nodup ∧
      (∀ key, decoded.arguments.get? key =
        (arguments.reverse.lookup key).map ArgumentValue.ofJson) ∧
      (∀ argument ∈ arguments, ∀ chars, argument.2.WrittenAs chars → ∀ rest,
        Numeral.Stops rest → ArgumentValue.reader.run (chars ++ rest) =
          .ok (ArgumentValue.ofJson argument.2, rest)) ∧
      ∀ before key value after, arguments = before ++ (key, value) :: after →
        ∀ other, other ≠ key → decoded.arguments.get? other =
          (OrderedMap.ofList (classified (before ++ after))).get? other := by
  refine ⟨_, (takes name inRange).decode writes hasText, fun _ => rfl, ?_, ?_, ?_,
    ?_, ?_⟩
  · rw [OrderedMap.keys_ofList, classified, List.map_map]
    rfl
  · exact OrderedMap.distinct _
  · intro key
    rw [OrderedMap.get?_ofList, classified, ← List.map_reverse]
    exact lookup_classified _ key
  · intro argument listed chars written rest stops
    exact ArgumentValue.takes (inRange argument listed) rfl written rest stops
  · rintro before key value after rfl other differ
    have split : classified (before ++ (key, value) :: after) =
        classified before ++ (key, ArgumentValue.ofJson value) :: classified after := by
      rw [classified, List.map_append, List.map_cons, ← classified, ← classified]
    have without : classified (before ++ after) = classified before ++ classified after :=
      List.map_append
    rw [split, without, OrderedMap.get?_ofList_other differ]

/-- Arguments with a key that comes twice, a sequence and a map inside each other with marks
in their strings and a number that is too great inside, and numbers of their own. -/
def nested : List (String × Value) :=
  [("IsGlobal", .bool true),
    ("Tags", .array
      [.string "]\x7d\",\\", .object [("Tags", .array [.number ⟨false, 1, [], some 400⟩])]]),
    ("IsGlobal", .string "[\x7b"),
    ("Weight", .number ⟨true, 12, [Fin.last 9], some (-3)⟩),
    ("OptimizeFor", .null),
    ("Tags", .object [("IsGlobal", .bool true), ("", .array [])])]

/-- An attribute with these arguments, its fields in the other order and with another member
between them. -/
def nestedJson : Value :=
  .object [("arguments", .object nested),
    ("Name", .array [.null, .object [("name", .string "Other")]]), ("name", .string "Marker")]

theorem decode_arguments_nested :
    (∀ argument ∈ nested, argument.2.InRange) ∧
      WritesRecord (forms "Marker" nested) nestedJson ∧ nestedJson.HasText nestedJson.render ∧
      ∃ decoded, reader.decode nestedJson.render = .ok decoded ∧
        decoded.arguments.keys = ["IsGlobal", "Tags", "Weight", "OptimizeFor"] ∧
        decoded.arguments.get? "IsGlobal" = some (.string "[\x7b") ∧
        decoded.arguments.get? "Tags" = some .other ∧
        decoded.arguments.get? "Weight" = some .other ∧
        decoded.arguments.get? "OptimizeFor" = some .null := by
  have inRange : ∀ argument ∈ nested, argument.2.InRange := by decide +kernel
  have writes : WritesRecord (forms "Marker" nested) nestedJson := by
    refine ⟨_, rfl, by decide, ?_, ?_⟩
    · simp [forms]
    · simp [forms]
  have hasText := nestedJson.hasText_render
  refine ⟨inRange, writes, hasText, ?_⟩
  obtain ⟨decoded, read, -, keys, -, values, -, -⟩ :=
    decode_arguments "Marker" nested inRange nestedJson writes _ hasText
  refine ⟨decoded, read, keys.trans ?_, (values _).trans ?_, (values _).trans ?_,
    (values _).trans ?_, (values _).trans ?_⟩
  · decide
  all_goals rfl

end AttributeEntry

end CharDispatch
