import CharDispatch.Codec.Visibility
import CharDispatch.Json.Record
import CharDispatch.Target

/-!
# Stored targets

A target is stored as a record in which every field has to be given.
-/

namespace CharDispatch.Target

open Json

/-- A target as JSON. -/
def toJson (target : Target) : Value :=
  .object
    [("name", .string target.name),
      ("fully_qualified_name", .string target.qualifiedName),
      ("scope_path", .string target.scope),
      ("visibility", target.visibility.toJson),
      ("optimize_for", .array (target.characters.map fun c => .string (String.singleton c))),
      ("global", .bool target.isGlobal)]

/-- The target read so far. -/
structure Draft where
  name : Option String := none
  qualifiedName : Option String := none
  scope : Option String := none
  visibility : Option Visibility := none
  characters : Option (List Char) := none
  isGlobal : Option Bool := none

/-- The target of a draft, or the first field that is missing. -/
def Draft.target (draft : Draft) : Except String Target := do
  return {
    name := ← required "name" draft.name
    qualifiedName := ← required "fully_qualified_name" draft.qualifiedName
    scope := ← required "scope_path" draft.scope
    visibility := ← required "visibility" draft.visibility
    characters := ← required "optimize_for" draft.characters
    isGlobal := ← required "global" draft.isGlobal }

/-- How targets are read. -/
def shape : Shape Draft Target where
  title := "GenerationTarget"
  fields :=
    [.of "name" Draft.name (fun name draft => { draft with name := some name }) .string,
      .of "fully_qualified_name" Draft.qualifiedName
        (fun qualifiedName draft => { draft with qualifiedName := some qualifiedName }) .string,
      .of "scope_path" Draft.scope (fun scope draft => { draft with scope := some scope }) .string,
      .of "visibility" Draft.visibility
        (fun visibility draft => { draft with visibility := some visibility }) Visibility.reader,
      .of "optimize_for" Draft.characters
        (fun characters draft => { draft with characters := some characters })
        (Reader.list .character),
      .of "global" Draft.isGlobal
        (fun isGlobal draft => { draft with isGlobal := some isGlobal }) .bool]
  start := {}
  finish := Draft.target

/-- Reads a target. -/
def reader : Reader Target := shape.reader

end CharDispatch.Target
