import CharDispatch.Codec.Visibility
import CharDispatch.Declaration
import CharDispatch.Json.Record

/-!
# Stored declarations

Declarations, their attributes and what is known of them are stored as records.
An argument keeps its value only if it is a string or a truth value; what else
there may be is written as `null`.
-/

namespace CharDispatch

open Json

/-! ## Argument values -/

namespace ArgumentValue

/-- An argument value as JSON. -/
def toJson : ArgumentValue → Value
  | .null | .other => .null
  | .bool value => .bool value
  | .string value => .string value

/-- Skips the inside of a container. -/
def skipContents (close : Char) (item : Reader Unit) (s : List Char) : Reading ArgumentValue :=
  Reader.collect close (fun () => item) () (fun () => .ok .other) s

/-- A member of a map that is not wanted. -/
def ignoredMember : Reader Unit := .keyed fun _ => .ok .ignored

/-- Reads an argument value of any kind. -/
def reader : Reader ArgumentValue :=
  .ofHead
    (fun
      | .null, rest => .ok (.null, rest)
      | .bool value, rest => .ok (.bool value, rest)
      | .string value, rest => .ok (.string value, rest)
      | .number _, rest => .ok (.other, rest)
      | .sequence, rest => skipContents ']' .ignored rest
      | .map, rest => skipContents '\x7d' ignoredMember rest)
    (by
      intro head s rest value found
      split at found
      case h_5 | h_6 => exact Reader.length_of_collect found
      all_goals
        simp only [Except.ok.injEq, Prod.mk.injEq] at found
        exact Nat.le_of_eq (congrArg List.length found.2.symm))

end ArgumentValue

/-! ## Attributes -/

namespace AttributeEntry

/-- An attribute as JSON. -/
def toJson (entry : AttributeEntry) : Value :=
  .object
    [("name", .string entry.name),
      ("arguments",
        .object (entry.arguments.toList.map fun (key, value) => (key, value.toJson)))]

/-- The attribute read so far. -/
structure Draft where
  name : Option String := none
  arguments : Option (OrderedMap ArgumentValue) := none

/-- The attribute of a draft, without arguments if none were given. -/
def Draft.attribute (draft : Draft) : Except String AttributeEntry := do
  return { name := ← required "name" draft.name, arguments := draft.arguments.getD .empty }

/-- How attributes are read. -/
def shape : Shape Draft AttributeEntry where
  title := "AttributeEntry"
  fields :=
    [.of "name" Draft.name (fun name draft => { draft with name := some name }) .string,
      .of "arguments" Draft.arguments
        (fun arguments draft => { draft with arguments := some arguments })
        (Reader.orderedMap ArgumentValue.reader)]
  start := {}
  finish := Draft.attribute

/-- Reads an attribute. -/
def reader : Reader AttributeEntry := shape.reader

end AttributeEntry

/-! ## Declarations -/

namespace DeclarationEntry

/-- A declaration as JSON. -/
def toJson (entry : DeclarationEntry) : Value :=
  .object
    [("id", .string entry.id),
      ("name", entry.name.elim .null .string),
      ("scope_path", .string entry.scope),
      ("visibility", entry.visibility.toJson),
      ("attributes", .array (entry.attributes.map AttributeEntry.toJson))]

/-- The declaration read so far. -/
structure Draft where
  id : Option String := none
  name : Option (Option String) := none
  scope : Option String := none
  visibility : Option Visibility := none
  attributes : Option (List AttributeEntry) := none

/-- The declaration of a draft; only the id has to be given. -/
def Draft.declaration (draft : Draft) : Except String DeclarationEntry := do
  return {
    id := ← required "id" draft.id
    name := draft.name.getD none
    scope := draft.scope.getD ""
    visibility := draft.visibility.getD .public
    attributes := draft.attributes.getD [] }

/-- How declarations are read. -/
def shape : Shape Draft DeclarationEntry where
  title := "DeclarationEntry"
  fields :=
    [.of "id" Draft.id (fun id draft => { draft with id := some id }) .string,
      .of "name" Draft.name (fun name draft => { draft with name := some name }) .optionalString,
      .of "scope_path" Draft.scope (fun scope draft => { draft with scope := some scope }) .string,
      .of "visibility" Draft.visibility
        (fun visibility draft => { draft with visibility := some visibility }) Visibility.reader,
      .of "attributes" Draft.attributes
        (fun attributes draft => { draft with attributes := some attributes })
        (Reader.list AttributeEntry.reader)]
  start := {}
  finish := Draft.declaration

/-- Reads a declaration. -/
def reader : Reader DeclarationEntry := shape.reader

end DeclarationEntry

/-! ## Sets of declarations -/

namespace DeclarationSet

/-- A set of declarations as JSON. -/
def toJson (set : DeclarationSet) : Value :=
  .object
    [("marker_available", .bool set.markerAvailable),
      ("declarations", .array (set.declarations.map DeclarationEntry.toJson))]

/-- The set read so far. -/
structure Draft where
  markerAvailable : Option Bool := none
  declarations : Option (List DeclarationEntry) := none

/-- The set of a draft, empty and with the marker available if nothing was given. -/
def Draft.set (draft : Draft) : DeclarationSet where
  markerAvailable := draft.markerAvailable.getD true
  declarations := draft.declarations.getD []

/-- How sets of declarations are read. -/
def shape : Shape Draft DeclarationSet where
  title := "DeclarationSet"
  fields :=
    [.of "marker_available" Draft.markerAvailable
        (fun markerAvailable draft => { draft with markerAvailable := some markerAvailable }) .bool,
      .of "declarations" Draft.declarations
        (fun declarations draft => { draft with declarations := some declarations })
        (Reader.list DeclarationEntry.reader)]
  start := {}
  finish draft := .ok draft.set

/-- Reads a set of declarations. -/
def reader : Reader DeclarationSet := shape.reader

end DeclarationSet

/-! ## Resolved declarations -/

namespace ResolvedDeclaration

/-- A resolved declaration as JSON. -/
def toJson (declaration : ResolvedDeclaration) : Value :=
  .object
    [("name", .string declaration.name),
      ("fully_qualified_name", .string declaration.qualifiedName),
      ("scope_path", .string declaration.scope),
      ("visibility", declaration.visibility.toJson)]

/-- The resolved declaration read so far. -/
structure Draft where
  name : Option String := none
  qualifiedName : Option String := none
  scope : Option String := none
  visibility : Option Visibility := none

/-- The resolved declaration of a draft, or the first field that is missing. -/
def Draft.resolved (draft : Draft) : Except String ResolvedDeclaration := do
  return {
    name := ← required "name" draft.name
    qualifiedName := ← required "fully_qualified_name" draft.qualifiedName
    scope := ← required "scope_path" draft.scope
    visibility := ← required "visibility" draft.visibility }

/-- How resolved declarations are read. -/
def shape : Shape Draft ResolvedDeclaration where
  title := "ResolvedDeclaration"
  fields :=
    [.of "name" Draft.name (fun name draft => { draft with name := some name }) .string,
      .of "fully_qualified_name" Draft.qualifiedName
        (fun qualifiedName draft => { draft with qualifiedName := some qualifiedName }) .string,
      .of "scope_path" Draft.scope (fun scope draft => { draft with scope := some scope }) .string,
      .of "visibility" Draft.visibility
        (fun visibility draft => { draft with visibility := some visibility }) Visibility.reader]
  start := {}
  finish := Draft.resolved

/-- Reads a resolved declaration. -/
def reader : Reader ResolvedDeclaration := shape.reader

end ResolvedDeclaration

end CharDispatch
