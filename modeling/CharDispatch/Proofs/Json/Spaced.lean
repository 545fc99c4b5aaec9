import CharDispatch.Proofs.Json.Tokens

/-!
# Spaced and compact texts

Among the texts of a value are those with the same blanks in front of every mark, key and
member, and the compact one, which has no blanks.  In both, nothing is escaped that can
stand for itself.

* `Value.writtenAs_spaced`, `Value.hasText_renderSpaced`: texts with blanks.
* `Value.writtenAs_chars`, `Value.hasText_render`: compact texts, by `Value.spaced_nil`.
-/

namespace CharDispatch.Json.Value

/-- The characters of a key and its colon, with blanks in front of both. -/
def spacedKey (blanks : List Char) (key : String) : List Char :=
  blanks ++ StringText.write key.toList ++ blanks ++ [':']

mutual

/-- The characters of a value, with blanks in front of all that stands inside it. -/
def spaced (blanks : List Char) : Value → List Char
  | .null => "null".toList
  | .bool value => (if value then "true" else "false").toList
  | .number numeral => numeral.chars
  | .string value => StringText.write value.toList
  | .array [] => '[' :: (blanks ++ [']'])
  | .array (item :: items) => '[' :: (blanks ++ item.spaced blanks ++ spacedItems blanks items)
  | .object [] => '\x7b' :: (blanks ++ ['\x7d'])
  | .object ((key, value) :: members) =>
    '\x7b' :: (spacedKey blanks key ++ (blanks ++ value.spaced blanks) ++
      spacedMembers blanks members)

/-- The characters of items behind the first, up to the closing bracket. -/
def spacedItems (blanks : List Char) : List Value → List Char
  | [] => blanks ++ [']']
  | item :: items => blanks ++ ',' :: (blanks ++ item.spaced blanks ++ spacedItems blanks items)

/-- The characters of members behind the first, up to the closing brace. -/
def spacedMembers (blanks : List Char) : List (String × Value) → List Char
  | [] => blanks ++ ['\x7d']
  | (key, value) :: members =>
    blanks ++ ',' :: (spacedKey blanks key ++ (blanks ++ value.spaced blanks) ++
      spacedMembers blanks members)

end

/-- The text of a value with blanks at its end too. -/
def renderSpaced (blanks : String) (value : Value) : String :=
  String.ofList (value.spaced blanks.toList ++ blanks.toList)

theorem toList_renderSpaced (blanks : String) (value : Value) :
    (value.renderSpaced blanks).toList = value.spaced blanks.toList ++ blanks.toList :=
  String.toList_ofList

mutual

/-- Without blanks, the text is the compact one. -/
theorem spaced_nil (value : Value) : value.spaced [] = value.chars := by
  match value with
  | .null | .bool _ | .number _ | .string _ | .array [] | .object [] => simp [spaced, chars]
  | .array (item :: items) => simp [spaced, chars, spaced_nil item, spacedItems_nil items]
  | .object ((key, value) :: members) =>
    simp [spaced, spacedKey, chars, spaced_nil value, spacedMembers_nil members]

theorem spacedItems_nil (items : List Value) : spacedItems [] items = furtherItems items := by
  match items with
  | [] => rfl
  | item :: items => simp [spacedItems, furtherItems, spaced_nil item, spacedItems_nil items]

theorem spacedMembers_nil (members : List (String × Value)) :
    spacedMembers [] members = furtherMembers members := by
  match members with
  | [] => rfl
  | (key, value) :: members =>
    simp [spacedMembers, spacedKey, furtherMembers, spaced_nil value, spacedMembers_nil members]

end

/-- Blanks may stand in front of a value. -/
theorem WrittenAs.append {value : Value} {chars blanks : List Char} (isBlanks : IsBlanks blanks)
    (written : value.WrittenAs chars) : value.WrittenAs (blanks ++ chars) := by
  induction blanks with
  | nil => exact written
  | cons c blanks ih =>
    exact .blank (isBlanks c (.head _)) (ih fun d member => isBlanks d (.tail _ member))

/-- A member with its characters. -/
def Member.spaced (blanks : List Char) (member : String × Value) : Member where
  key := member.1
  value := member.2
  front := spacedKey blanks member.1
  back := blanks ++ member.2.spaced blanks

section Spaced

variable {blanks : List Char} (isBlanks : IsBlanks blanks)

include isBlanks

theorem further_items (items : List Value) :
    Further ']' (items.map fun item => blanks ++ item.spaced blanks)
      (spacedItems blanks items) := by
  induction items with
  | nil =>
    rw [spacedItems]
    exact .close isBlanks
  | cons item items ih =>
    rw [spacedItems]
    exact .comma isBlanks ih

/-- Behind its opening mark, an array holds the texts of its items. -/
theorem inside_items (items : List Value) :
    ∃ row, (array items).spaced blanks = '[' :: row ∧
      Inside ']' (items.map fun item => blanks ++ item.spaced blanks) row := by
  cases items with
  | nil => exact ⟨_, by rw [spaced], .none isBlanks⟩
  | cons item items => exact ⟨_, by rw [spaced], .some (further_items isBlanks items)⟩

theorem further_members (members : List (String × Value)) :
    Further '\x7d' ((members.map (Member.spaced blanks)).map fun member =>
      member.front ++ member.back) (spacedMembers blanks members) := by
  induction members with
  | nil =>
    rw [spacedMembers]
    exact .close isBlanks
  | cons member members ih =>
    rw [spacedMembers]
    exact .comma isBlanks ih

/-- Behind its opening mark, an object holds the texts of its members. -/
theorem inside_members (members : List (String × Value)) :
    ∃ row, (object members).spaced blanks = '\x7b' :: row ∧
      Inside '\x7d' ((members.map (Member.spaced blanks)).map fun member =>
        member.front ++ member.back) row := by
  cases members with
  | nil => exact ⟨_, by rw [spaced], .none isBlanks⟩
  | cons member members =>
    refine ⟨_, ?_, .some (further_members isBlanks members)⟩
    rw [spaced]
    rfl

theorem keyWrittenAs_spacedKey (key : String) : KeyWrittenAs key (spacedKey blanks key) :=
  ⟨blanks, _, blanks, isBlanks, StringText.writtenAs_write key.toList, isBlanks,
    by simp [spacedKey, StringText.write]⟩

/-- The text of a value with blanks is one of its texts. -/
theorem writtenAs_spaced (value : Value) : value.WrittenAs (value.spaced blanks) := by
  match value with
  | .null =>
    rw [spaced]
    exact .null
  | .bool value =>
    rw [spaced]
    exact .bool value
  | .number numeral =>
    rw [spaced]
    exact .number numeral.writtenAs_chars
  | .string value =>
    rw [spaced]
    exact .string (StringText.writtenAs_write value.toList)
  | .array items =>
    obtain ⟨row, eq, inside⟩ := inside_items isBlanks items
    let texts := items.map fun item => (item, blanks ++ item.spaced blanks)
    have each : ∀ item ∈ texts, item.1.WrittenAs item.2 :=
      List.forall_mem_map.2 fun item _ => (writtenAs_spaced item).append isBlanks
    have inRow : Inside ']' (texts.map Prod.snd) row := by
      rwa [List.map_map]
    have same : texts.map Prod.fst = items := by
      rw [List.map_map]
      exact List.map_id' items
    have written := WrittenAs.array each inRow
    rwa [same, ← eq] at written
  | .object members =>
    obtain ⟨row, eq, inside⟩ := inside_members isBlanks members
    have keys : ∀ member ∈ members.map (Member.spaced blanks),
        KeyWrittenAs member.key member.front :=
      List.forall_mem_map.2 fun member _ => keyWrittenAs_spacedKey isBlanks member.1
    have values : ∀ member ∈ members.map (Member.spaced blanks),
        member.value.WrittenAs member.back :=
      List.forall_mem_map.2 fun member _ => (writtenAs_spaced member.2).append isBlanks
    have same : (members.map (Member.spaced blanks)).map (fun member =>
        (member.key, member.value)) = members := by
      rw [List.map_map]
      exact List.map_id' members
    have written := WrittenAs.object keys values inside
    rwa [same, ← eq] at written
termination_by value
decreasing_by
  · simp only [array.sizeOf_spec]
    have lt := List.sizeOf_lt_of_mem ‹item ∈ items›
    omega
  · simp only [object.sizeOf_spec]
    have lt := List.sizeOf_lt_of_mem ‹member ∈ members›
    have inner : sizeOf member.2 < sizeOf member := by
      rcases member with ⟨key, value⟩
      simp only [Prod.mk.sizeOf_spec]
      omega
    omega

end Spaced

/-- A value has every text in which nothing but the same blanks stands between its parts. -/
theorem hasText_renderSpaced {blanks : String} (isBlanks : IsBlanks blanks.toList)
    (value : Value) : value.HasText (value.renderSpaced blanks) :=
  ⟨_, _, writtenAs_spaced isBlanks value, isBlanks, toList_renderSpaced blanks value⟩

example : renderSpaced " " (object [("a", array [null, bool true])]) =
    "\x7b \"a\" : [ null , true ] \x7d " := by decide +kernel

/-- The compact text of a value is one of its texts. -/
theorem writtenAs_chars (value : Value) : value.WrittenAs value.chars := by
  rw [← spaced_nil]
  exact writtenAs_spaced isBlanks_nil value

/-- The compact text of a value as a whole text. -/
theorem hasText_render (value : Value) : value.HasText value.render :=
  ⟨value.chars, [], value.writtenAs_chars, isBlanks_nil, by
    rw [render, String.toList_ofList, List.append_nil]⟩

end CharDispatch.Json.Value
