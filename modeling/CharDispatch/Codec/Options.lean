import CharDispatch.Json.Record
import CharDispatch.Json.Value
import CharDispatch.Options

/-!
# Stored options

Options are stored as a record in which every field may be left out.  What is
stored is taken as it stands.
-/

namespace CharDispatch.Options

open Json

/-- Options as JSON. -/
def toJson (options : Options) : Value :=
  .object
    [("marker", .string options.marker),
      ("artifact_name", .string options.artifactName),
      ("extension", .string options.extension),
      ("indent", .natural options.indent.toNat),
      ("embed_attribute", .bool options.embedAttribute)]

/-- The options read so far. -/
structure Draft where
  marker : Option String := none
  artifactName : Option String := none
  extension : Option String := none
  indent : Option UInt64 := none
  embedAttribute : Option Bool := none

/-- Options of a draft; fields that were not given take their defaults. -/
def Draft.options (draft : Draft) : Options where
  marker := draft.marker.getD default.marker
  artifactName := draft.artifactName.getD default.artifactName
  extension := draft.extension.getD default.extension
  indent := draft.indent.getD default.indent
  embedAttribute := draft.embedAttribute.getD default.embedAttribute

/-- How options are read. -/
def shape : Shape Draft Options where
  title := "GeneratorOptions"
  fields :=
    [.of "marker" Draft.marker (fun marker draft => { draft with marker := some marker }) .string,
      .of "artifact_name" Draft.artifactName
        (fun artifactName draft => { draft with artifactName := some artifactName }) .string,
      .of "extension" Draft.extension
        (fun extension draft => { draft with extension := some extension }) .string,
      .of "indent" Draft.indent (fun indent draft => { draft with indent := some indent }) .size,
      .of "embed_attribute" Draft.embedAttribute
        (fun embedAttribute draft => { draft with embedAttribute := some embedAttribute }) .bool]
  start := {}
  finish draft := .ok draft.options

/-- Reads options. -/
def reader : Reader Options := shape.reader

end CharDispatch.Options
