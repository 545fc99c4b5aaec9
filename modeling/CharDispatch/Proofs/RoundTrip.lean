import CharDispatch.Proofs.Stored

/-!
# Stored values read back

Every record is written with all of its fields, so reading its text gives it
back, as far as it is stored.

* `DeclarationSet.toJson_stored`, and likewise for the other types: what was read is written
  in the same way.
* `DeclarationSet.reads`, and likewise for the other types: the reader takes what
  was written.
* `codecs_roundTrip`: decoding what was encoded, and encoding it again.
-/

namespace CharDispatch

open Json Reader

/-! ## What is read is written alike -/

/-- What was stored once is stored in the same way again. -/
theorem ArgumentValue.toJson_stored (value : ArgumentValue) :
    value.stored.toJson = value.toJson := by
  cases value with
  | null => rfl
  | bool value => rfl
  | string value => rfl
  | other => rfl

theorem AttributeEntry.toJson_stored (entry : AttributeEntry) :
    entry.stored.toJson = entry.toJson := by
  have arguments : (entry.arguments.toList.map fun argument =>
      (argument.1, argument.2.stored)).map (fun argument => (argument.1, argument.2.toJson)) =
        entry.arguments.toList.map fun argument => (argument.1, argument.2.toJson) := by
    rw [List.map_map]
    refine List.map_congr_left fun argument _ => ?_
    exact congrArg (Prod.mk argument.1) argument.2.toJson_stored
  exact congrArg
    (fun members => Value.object [("name", .string entry.name), ("arguments", .object members)])
    arguments

theorem DeclarationEntry.toJson_stored (entry : DeclarationEntry) :
    entry.stored.toJson = entry.toJson := by
  unfold toJson stored
  dsimp only
  rw [List.map_map]
  have attributes : AttributeEntry.toJson ∘ AttributeEntry.stored = AttributeEntry.toJson :=
    funext AttributeEntry.toJson_stored
  rw [attributes]

theorem DeclarationSet.toJson_stored (set : DeclarationSet) :
    set.stored.toJson = set.toJson := by
  unfold toJson stored
  dsimp only
  rw [List.map_map]
  have declarations :
      DeclarationEntry.toJson ∘ DeclarationEntry.stored = DeclarationEntry.toJson :=
    funext DeclarationEntry.toJson_stored
  rw [declarations]

/-! ## What is written is read -/

theorem Options.reads (options : Options) : reader.Reads options.toJson.chars options :=
  options.takes options.storedAs_toJson (Value.writtenAs_chars _)

theorem Target.reads (target : Target) : reader.Reads target.toJson.chars target :=
  target.takes target.storedAs_toJson (Value.writtenAs_chars _)

theorem ResolvedDeclaration.reads (declaration : ResolvedDeclaration) :
    reader.Reads declaration.toJson.chars declaration :=
  declaration.takes declaration.storedAs_toJson (Value.writtenAs_chars _)

theorem AttributeEntry.reads (entry : AttributeEntry) :
    reader.Reads entry.toJson.chars entry.stored :=
  entry.takes_stored entry.storedAs_toJson (Value.writtenAs_chars _)

theorem DeclarationEntry.reads (entry : DeclarationEntry) :
    reader.Reads entry.toJson.chars entry.stored :=
  entry.takes entry.storedAs_toJson (Value.writtenAs_chars _)

theorem DeclarationSet.reads (set : DeclarationSet) : reader.Reads set.toJson.chars set.stored :=
  set.takes set.storedAs_toJson (Value.writtenAs_chars _)

/-! ## Round trips -/

/-- Decoding the text of a value gives what is kept of it, which has the same text. -/
def RoundTrips {α : Type} (reader : Reader α) (toJson : α → Value) (kept : α → α) : Prop :=
  ∀ x, reader.decode (toJson x).render = .ok (kept x) ∧
    (toJson (kept x)).render = (toJson x).render

/-- Options, targets and resolved declarations are decoded from their texts
unchanged.  Attributes, declarations and sets of them are so too, with their
arguments in order, except that an argument value of another kind has become
`null`.  In each case what was decoded has the same text again. -/
theorem codecs_roundTrip :
    RoundTrips Options.reader Options.toJson id ∧
    RoundTrips Target.reader Target.toJson id ∧
    RoundTrips ResolvedDeclaration.reader ResolvedDeclaration.toJson id ∧
    RoundTrips AttributeEntry.reader AttributeEntry.toJson AttributeEntry.stored ∧
    RoundTrips DeclarationEntry.reader DeclarationEntry.toJson DeclarationEntry.stored ∧
    RoundTrips DeclarationSet.reader DeclarationSet.toJson DeclarationSet.stored := by
  refine ⟨?_, ?_, ?_, ?_, ?_, ?_⟩
  · exact fun options => ⟨decode_render options.reads, rfl⟩
  · exact fun target => ⟨decode_render target.reads, rfl⟩
  · exact fun declaration => ⟨decode_render declaration.reads, rfl⟩
  · exact fun entry => ⟨decode_render entry.reads, congrArg Value.render entry.toJson_stored⟩
  · exact fun entry => ⟨decode_render entry.reads, congrArg Value.render entry.toJson_stored⟩
  · exact fun set => ⟨decode_render set.reads, congrArg Value.render set.toJson_stored⟩

end CharDispatch
