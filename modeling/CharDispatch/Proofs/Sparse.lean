import CharDispatch.Proofs.RoundTrip

/-!
# Sparse configuration

Stored options and declarations may leave out every field that holds its default, give the
others in any order, and have members under unknown keys between them, in each record of a
set independently.  The defaults of reading are those of building, so such an object reads
as the one with all fields.

* `sparse_readsAsFull`: every object that stands for a value reads as its full one.
-/

namespace CharDispatch

open Json Reader

/-- The full object of a value is one of those that stand for it, and all of them are
decoded alike, from each of their texts. -/
def ReadsAsFull {α : Type} (reader : Reader α) (toJson : α → Value) (StoredAs : α → Value → Prop)
    (kept : α → α) : Prop :=
  ∀ x, StoredAs x (toJson x) ∧ reader.decode (toJson x).render = .ok (kept x) ∧
    ∀ json, StoredAs x json → ∀ text, json.HasText text → reader.decode text = .ok (kept x)

theorem readsAsFull_of_takes {α : Type} {reader : Reader α} {toJson : α → Value}
    {StoredAs : α → Value → Prop} {kept : α → α} (full : ∀ x, StoredAs x (toJson x))
    (takes : ∀ x, reader.Takes (StoredAs x) (kept x)) :
    ReadsAsFull reader toJson StoredAs kept :=
  fun x => ⟨full x, (takes x).decode (full x) (toJson x).hasText_render,
    fun _ storedAs _ hasText => (takes x).decode storedAs hasText⟩

/-- Options, attributes, declarations and sets of declarations are decoded from a sparse
object as from the full one: whichever fields with their defaults are left out, in whatever
order the others come, and whatever stands under other keys, in every record of the value. -/
theorem sparse_readsAsFull :
    ReadsAsFull Options.reader Options.toJson Options.StoredAs id ∧
    ReadsAsFull AttributeEntry.reader AttributeEntry.toJson AttributeEntry.StoredAs
      AttributeEntry.stored ∧
    ReadsAsFull DeclarationEntry.reader DeclarationEntry.toJson DeclarationEntry.StoredAs
      DeclarationEntry.stored ∧
    ReadsAsFull DeclarationSet.reader DeclarationSet.toJson DeclarationSet.StoredAs
      DeclarationSet.stored := by
  refine ⟨?_, ?_, ?_, ?_⟩
  · exact readsAsFull_of_takes Options.storedAs_toJson Options.takes
  · exact readsAsFull_of_takes AttributeEntry.storedAs_toJson AttributeEntry.takes_stored
  · exact readsAsFull_of_takes DeclarationEntry.storedAs_toJson DeclarationEntry.takes
  · exact readsAsFull_of_takes DeclarationSet.storedAs_toJson DeclarationSet.takes

namespace DeclarationEntry

/-- A declaration with two attributes, the second without arguments. -/
def lexer : DeclarationEntry :=
  ((named "Lexer").withAttribute "Marker"
    [("OptimizeFor", .string "ab")]).withAttribute "Obsolete" []

/-- Both attributes without the fields that hold their defaults, the others in another order,
and another member in each. -/
def attributesJson : List Value :=
  [.object
      [("arguments", .object [("OptimizeFor", .string "ab")]), ("Name", .null),
        ("name", .string "Marker")],
    .object [("line", .number ⟨false, 1, [], some 400⟩), ("name", .string "Obsolete")]]

/-- The declaration in the same way. -/
def lexerJson : Value :=
  .object
    [("attributes", .array attributesJson),
      ("ID", .object [("id", .string "Parser"), ("id", .array [])]),
      ("name", .string "Lexer"), ("id", .string "Lexer")]

end DeclarationEntry

namespace DeclarationSet

open DeclarationEntry (lexer lexerJson attributesJson)

/-- A set with this declaration in the same way. -/
def sparseJson : Value :=
  .object
    [("comment", .array [.object [("declarations", .null)], .string "]\x7d"]),
      ("declarations", .array [lexerJson]), ("comment", .bool false)]

/-- The set is read from the text of the sparse object with a line feed and a tab in front
of all that stands inside it. -/
theorem sparse_readsAsFull_lexer :
    let text := sparseJson.renderSpaced "\n\t"
    (empty.withDeclaration lexer).StoredAs sparseJson ∧ sparseJson.HasText text ∧
      text.toList.take 4 = ['\x7b', '\n', '\t', '"'] ∧
      reader.decode text = .ok (empty.withDeclaration lexer) := by
  intro text
  have marker : AttributeEntry.storedArguments ⟨"Marker", .ofList [("OptimizeFor", .string "ab")]⟩ =
      [("OptimizeFor", .string "ab")] := rfl
  have obsolete : AttributeEntry.storedArguments ⟨"Obsolete", .ofList []⟩ = [] := rfl
  have attributes : WritesItems AttributeEntry.StoredAs lexer.attributes
      (.array attributesJson) := by
    refine ⟨_, rfl, .cons ⟨_, rfl, by decide, ?_, ?_⟩ (.cons ⟨_, rfl, by decide, ?_, ?_⟩ .nil)⟩
    all_goals simp [AttributeEntry.forms, marker, obsolete]
  have fields : lexer.id = "Lexer" ∧ lexer.name = some "Lexer" ∧ lexer.scope = "" ∧
      lexer.visibility = .public := ⟨rfl, rfl, rfl, rfl⟩
  have declaration : lexer.StoredAs lexerJson := by
    refine ⟨_, rfl, by decide, ?_, ?_⟩
    all_goals simp [DeclarationEntry.forms, DeclarationEntry.bare, attributes, fields]
  have declarations : WritesItems DeclarationEntry.StoredAs [lexer] (.array [lexerJson]) :=
    ⟨_, rfl, .cons declaration .nil⟩
  have storedAs : (empty.withDeclaration lexer).StoredAs sparseJson := by
    refine ⟨_, rfl, by decide, ?_, ?_⟩
    all_goals simp [forms, empty, withDeclaration, declarations]
  have isBlanks : IsBlanks "\n\t".toList := by decide
  have hasText : sparseJson.HasText text := Value.hasText_renderSpaced isBlanks sparseJson
  have blanksInside : text.toList.take 4 = ['\x7b', '\n', '\t', '"'] := by
    rw [Value.toList_renderSpaced]
    rfl
  exact ⟨storedAs, hasText, blanksInside, (sparse_readsAsFull.2.2.2 _).2.2 _ storedAs _ hasText⟩

end DeclarationSet

end CharDispatch
