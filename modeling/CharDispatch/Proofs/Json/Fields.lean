import CharDispatch.Proofs.Json.Skipping

/-!
# Records written field by field

A record may be written with its fields in any order, with members under other names among
them, and without the fields that may be left out (`WritesFields`).  What has been read of it
depends on the keys met so far only, and not on their order: there is one draft for every
list of keys (`Shape.Follows`), and each member leads from the draft of the keys before it to
the draft with its own key.

* `Shape.Follows.takes`: every such object is taken for the record of its last draft.
* `writesRecord_full`: the object with all fields in their order is one of them.
-/

namespace CharDispatch.Json

/-- A field as it may be written: its name, the values that stand for what a record has
there, and whether the record may do without the field. -/
structure FieldForm where
  name : String
  Writes : Value → Prop
  MayLack : Prop

/-- Members that write the fields of a record in some order.  No field comes twice, each
holds one of its values, and those that are missing may be left out.  Members under other
names may stand anywhere and hold anything. -/
structure WritesFields (forms : List FieldForm) (members : List (String × Value)) : Prop where
  once : ((members.map Prod.fst).filter fun key => decide (key ∈ forms.map FieldForm.name)).Nodup
  written : ∀ member ∈ members, ∀ form ∈ forms, form.name = member.1 → form.Writes member.2
  given : ∀ form ∈ forms, form.name ∈ members.map Prod.fst ∨ form.MayLack

/-- An object that writes the fields of a record. -/
def WritesRecord (forms : List FieldForm) (json : Value) : Prop :=
  ∃ members, json = .object members ∧ WritesFields forms members

section Full

variable {forms : List FieldForm} {members : List (String × Value)}

theorem names_of_full
    (full : List.Forall₂ (fun form member => form.name = member.1 ∧ form.Writes member.2)
      forms members) : members.map Prod.fst = forms.map FieldForm.name := by
  induction full with
  | nil => rfl
  | cons first _ ih => rw [List.map_cons, List.map_cons, ih, first.1]

theorem writes_of_full (distinct : (forms.map FieldForm.name).Nodup)
    (full : List.Forall₂ (fun form member => form.name = member.1 ∧ form.Writes member.2)
      forms members) :
    ∀ member ∈ members, ∀ form ∈ forms, form.name = member.1 → form.Writes member.2 := by
  induction full with
  | nil => nofun
  | @cons form member forms members first others ih =>
    rw [List.map_cons, List.nodup_cons] at distinct
    intro found listed other formListed same
    cases listed with
    | head =>
      cases formListed with
      | head => exact first.2
      | tail _ later =>
        have repeated : other.name ∈ forms.map FieldForm.name := List.mem_map_of_mem later
        rw [same, ← first.1] at repeated
        exact absurd repeated distinct.1
    | tail _ later =>
      cases formListed with
      | head =>
        have repeated : found.1 ∈ members.map Prod.fst := List.mem_map_of_mem later
        rw [← same, names_of_full others] at repeated
        exact absurd repeated distinct.1
      | tail _ formLater => exact ih distinct.2 found later other formLater same

/-- All fields in their order, and nothing else. -/
theorem writesRecord_full (distinct : (forms.map FieldForm.name).Nodup)
    (full : List.Forall₂ (fun form member => form.name = member.1 ∧ form.Writes member.2)
      forms members) : WritesRecord forms (.object members) := by
  refine ⟨members, rfl, ?_, writes_of_full distinct full, fun form listed => ?_⟩
  · rw [names_of_full full]
    exact distinct.filter _
  · rw [names_of_full full]
    exact .inl (List.mem_map_of_mem listed)

end Full

/-- What a draft holds under the name of a field once some keys have been met. -/
def given {α : Type} (seen : List String) (name : String) (value : α) : Option α :=
  if name ∈ seen then some value else none

section Given

variable {α : Type} {seen : List String} {name key : String} {value : α}

theorem given_eq_none (new : name ∉ seen) : given seen name value = none := if_neg new

theorem given_self : given (name :: seen) name value = some value := if_pos (.head _)

theorem given_cons (other : key ≠ name) :
    given (key :: seen) name value = given seen name value := by
  unfold given
  simp only [List.mem_cons, Ne.symm other, false_or]

/-- A field that is missing has its default. -/
theorem getD_given {fallback : α} (known : name ∈ seen ∨ value = fallback) :
    (given seen name value).getD fallback = value := by
  unfold given
  split
  · rfl
  · next missing => exact (known.resolve_left missing).symm

/-- A field that must be there is there. -/
theorem required_given (known : name ∈ seen ∨ False) :
    required name (given seen name value) = .ok value := by
  rw [given, if_pos (known.resolve_right id)]
  rfl

end Given

namespace Shape

variable {σ α : Type}

/-- Reading members of a record goes from draft to draft: there is a draft for every list of
keys that may have been met, and a field changes the draft without it into the one with it. -/
structure Follows (shape : Shape σ α) (forms : List FieldForm) (draft : List String → σ) :
    Prop where
  start : shape.start = draft []
  names : shape.fields.map Field.name = forms.map FieldForm.name
  other : ∀ {key : String} (seen : List String), key ∉ forms.map FieldForm.name →
    draft (key :: seen) = draft seen
  field : ∀ form ∈ forms, ∃ field put, shape.field? form.name = some field ∧
    field.reader.Takes form.Writes put ∧
    ∀ seen, form.name ∉ seen →
      field.isSet (draft seen) = false ∧ put (draft seen) = draft (form.name :: seen)

/-- How a field that the draft keeps as an option is followed. -/
theorem follows_field {β : Type} {shape : Shape σ α} {draft : List String → σ} {name : String}
    {get : σ → Option β} {put : β → σ → σ} {reader : Reader β} {Writes : Value → Prop} {value : β}
    (known : shape.field? name = some (.of name get put reader))
    (takes : reader.Takes Writes value)
    (held : ∀ seen, get (draft seen) = given seen name value)
    (puts : ∀ seen, put value (draft seen) = draft (name :: seen)) :
    ∃ field put, shape.field? name = some field ∧ field.reader.Takes Writes put ∧
      ∀ seen, name ∉ seen →
        field.isSet (draft seen) = false ∧ put (draft seen) = draft (name :: seen) := by
  refine ⟨_, put value, known, takes.map put, fun seen new => ⟨?_, puts seen⟩⟩
  unfold Field.of
  dsimp only
  rw [held, given_eq_none new]
  rfl

variable {shape : Shape σ α} {forms : List FieldForm} {draft : List String → σ}

/-- A member under another name is skipped. -/
theorem Follows.reads_other (follows : shape.Follows forms draft) {member : String × Value}
    {text : List Char} (written : Value.MemberWrittenAs member text) (seen : List String)
    (unknown : member.1 ∉ forms.map FieldForm.name) :
    (shape.member (draft seen)).Reads text (draft (member.1 :: seen)) := by
  rcases written with ⟨front, back, key, value, rfl⟩
  have missing : shape.field? member.1 = none := by
    refine List.find?_eq_none.2 fun field listed same => unknown ?_
    rw [← follows.names, ← beq_iff_eq.1 same]
    exact List.mem_map_of_mem listed
  rw [follows.other seen unknown]
  refine Reader.reads_member key ?_ ((Reader.reads_ignored value).map fun () => draft seen)
  rw [Shape.value, missing]

/-- A member under the name of a field that was not met yet sets it. -/
theorem Follows.reads_form (follows : shape.Follows forms draft) {form : FieldForm}
    (listed : form ∈ forms) {json : Value} (writes : form.Writes json) {text : List Char}
    (written : Value.MemberWrittenAs (form.name, json) text) {seen : List String}
    (new : form.name ∉ seen) :
    (shape.member (draft seen)).Reads text (draft (form.name :: seen)) := by
  rcases written with ⟨front, back, key, value, rfl⟩
  rcases follows.field form listed with ⟨field, put, known, takes, step⟩
  obtain ⟨fresh, puts⟩ := step seen new
  rw [← puts]
  refine Reader.reads_member key ?_ ((takes writes value).map fun put => put (draft seen))
  rw [Shape.value, known]
  dsimp only
  rw [fresh]
  rfl

/-- Going through the members leads to the draft of their keys. -/
theorem Follows.passes (follows : shape.Follows forms draft) {members : List (String × Value)}
    {texts : List (List Char)} (written : List.Forall₂ Value.MemberWrittenAs members texts)
    {seen : List String}
    (once : ((members.map Prod.fst).filter fun key =>
      decide (key ∈ forms.map FieldForm.name)).Nodup)
    (new : ∀ key ∈ members.map Prod.fst, key ∈ forms.map FieldForm.name → key ∉ seen)
    (holds : ∀ member ∈ members, ∀ form ∈ forms, form.name = member.1 → form.Writes member.2) :
    Reader.Passes shape.member (draft seen) texts
      (draft ((members.map Prod.fst).reverse ++ seen)) := by
  induction written generalizing seen with
  | nil => exact .nil
  | @cons member _ members _ first _ ih =>
    obtain ⟨firstHolds, otherHold⟩ := List.forall_mem_cons.1 holds
    rw [List.map_cons] at once new
    obtain ⟨firstNew, otherNew⟩ := List.forall_mem_cons.1 new
    have regroup : ((member :: members).map Prod.fst).reverse ++ seen =
        (members.map Prod.fst).reverse ++ member.1 :: seen := by simp
    rw [regroup]
    -- a member under another name leaves the draft, but its key counts among those met
    by_cases known : member.1 ∈ forms.map FieldForm.name
    · rw [List.filter_cons_of_pos (by simpa using known), List.nodup_cons] at once
      refine .cons ?_ (ih once.2 ?_ otherHold)
      · rcases List.mem_map.1 known with ⟨form, listed, same⟩
        rcases member with ⟨key, json⟩
        dsimp only at same firstHolds firstNew first ⊢
        subst same
        exact follows.reads_form listed (firstHolds form listed rfl) first (firstNew known)
      · intro key later isField met
        cases met with
        | head => exact once.1 (List.mem_filter.2 ⟨later, by simpa using isField⟩)
        | tail _ earlier => exact otherNew key later isField earlier
    · rw [List.filter_cons_of_neg (by simpa using known)] at once
      refine .cons (follows.reads_other first seen known) (ih once ?_ otherHold)
      intro key later isField met
      cases met with
      | head => exact known isField
      | tail _ earlier => exact otherNew key later isField earlier

/-- An object that writes the fields of a record is taken for that record, whatever the order
of the fields, whatever stands among them, and in whatever way it is written. -/
theorem Follows.takes (follows : shape.Follows forms draft) {value : α}
    (finished : ∀ seen, (∀ form ∈ forms, form.name ∈ seen ∨ form.MayLack) →
      shape.finish (draft seen) = .ok value) :
    shape.reader.Takes (WritesRecord forms) value := by
  rintro _ ⟨members, rfl, writes⟩ text written
  have passes (texts : List (List Char))
      (membersWritten : List.Forall₂ Value.MemberWrittenAs members texts) :
      Reader.Passes shape.member shape.start texts
        (draft ((members.map Prod.fst).reverse ++ [])) := by
    rw [follows.start]
    exact follows.passes membersWritten writes.once (fun _ _ _ => List.not_mem_nil) writes.written
  refine reads_written written passes (finished _ fun form listed => ?_)
  rw [List.append_nil, List.mem_reverse]
  exact writes.given form listed

end Shape

end CharDispatch.Json
