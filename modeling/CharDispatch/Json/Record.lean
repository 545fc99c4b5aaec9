import CharDispatch.Json.Reader

/-!
# Records

A record is read from a map of its fields in any order, or from a sequence of
its fields in the order of their declaration.  What has been read so far is a
draft; a record is finished from its draft, with defaults for the fields that
have one.  Unknown keys of a map are skipped with their values, a key that comes
again is refused, and a sequence may end early but not late.
-/

namespace CharDispatch.Json

/-- A field of a record with drafts of type `σ`. -/
structure Field (σ : Type) where
  name : String
  /-- Whether the draft holds the field already. -/
  isSet : σ → Bool
  /-- Reads the field and says how it changes the draft. -/
  reader : Reader (σ → σ)

/-- A field that the draft keeps as an option. -/
def Field.of {σ α : Type} (name : String) (get : σ → Option α) (put : α → σ → σ)
    (reader : Reader α) : Field σ where
  name := name
  isSet draft := (get draft).isSome
  reader := reader.map put

/-- How records of type `α` are read through drafts of type `σ`. -/
structure Shape (σ α : Type) where
  title : String
  /-- The fields in the order of their declaration. -/
  fields : List (Field σ)
  /-- The draft without any field. -/
  start : σ
  /-- The record of a draft, or the first field that is missing. -/
  finish : σ → Except String α

namespace Shape

variable {σ α : Type}

/-- The field with a given name. -/
def field? (shape : Shape σ α) (name : String) : Option (Field σ) :=
  shape.fields.find? fun field => field.name == name

/-- The reader of the value at `key`. -/
def value (shape : Shape σ α) (draft : σ) (key : String) : Except Mismatch (Reader σ) :=
  match shape.field? key with
  | some field =>
    if field.isSet draft then .error (.duplicateField key)
    else .ok (field.reader.map fun put => put draft)
  | none => .ok (Reader.ignored.map fun () => draft)

/-- A member of a record written as a map. -/
def member (shape : Shape σ α) (draft : σ) : Reader σ :=
  .keyed (shape.value draft)

/-- An element of a record written as a sequence.  The state is the draft and
the fields still to come. -/
def element (state : σ × List (Field σ)) : Reader (σ × List (Field σ)) :=
  match state with
  | (_, []) => .fail .malformed
  | (draft, field :: fields) => field.reader.map fun put => (put draft, fields)

/-- The record of a draft that was read from a map. -/
def finishMap (shape : Shape σ α) (draft : σ) : Except Mismatch α :=
  match shape.finish draft with
  | .ok value => .ok value
  | .error name => .error (.missingField name)

/-- The record of a draft that was read from a sequence. -/
def finishSequence (shape : Shape σ α) (state : σ × List (Field σ)) : Except Mismatch α :=
  match shape.finish state.1 with
  | .ok value => .ok value
  | .error name =>
    .error (.wrongLength (shape.fields.findIdx fun field => field.name == name) shape.title
      shape.fields.length)

/-- Reads a record. -/
def reader (shape : Shape σ α) : Reader α :=
  .ofHead
    (fun
      | .map, rest => Reader.collect '\x7d' shape.member shape.start shape.finishMap rest
      | .sequence, rest =>
        Reader.collect ']' element (shape.start, shape.fields) shape.finishSequence rest
      | found, _ => .error (.mismatch (.wrongKind found (.record shape.title))))
    (by
      intro head s rest value found
      split at found
      · exact Reader.length_of_collect found
      · exact Reader.length_of_collect found
      · simp at found)

end Shape

/-- A field that must be there. -/
def required {α : Type} (name : String) : Option α → Except String α
  | some value => .ok value
  | none => .error name

end CharDispatch.Json
