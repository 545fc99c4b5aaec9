import CharDispatch.Artifact.Template
import CharDispatch.Proofs.Reading
import Mathlib.Data.List.Nodup

/-!
# The text of a target

Whatever a target asks for, its text is one class with one method, in its scope
(`Template.renderTarget_eq`).

* `Template.read_renderTarget`: the text reads back as the characters of the
  target, provided that no line feed comes in with a name.
* `Template.renderTarget_eq_iff`: targets that stand in one place have one text
  if and only if they ask for the same (`Target.Agrees`).  A literal says where
  it ends, so a switch expression at the front of a text can be told from any
  other, and the modifiers of a class say its visibility.
-/

namespace CharDispatch

/-- Two targets ask for the same characters in the same order and, for private
helpers, on declarations of the same visibility. -/
def Target.Agrees (first second : Target) : Prop :=
  first.characters = second.characters ∧
    (first.isGlobal = false → first.visibility = second.visibility)

instance (first second : Target) : Decidable (first.Agrees second) :=
  inferInstanceAs (Decidable (_ ∧ (_ → _)))

namespace Template

/-! ## One class with one method -/

/-- What opens the class of a target. -/
def opening (options : Options) (target : Target) : String :=
  if target.isGlobal then "public static partial class " ++ options.artifactName
  else target.visibility.keywords ++ " partial class " ++ target.name

/-- The signature of the method of a target. -/
def signature (target : Target) : String :=
  if target.isGlobal then "public static string ToStringFast(this char value)"
  else "private string CharToStringFast(char value)"

theorem renderTarget_eq (options : Options) (target : Target) :
    renderTarget options target =
      (inFile target.scope (dispatchClass (opening options target) (signature target)
        target.characters)).render "" options.step := by
  unfold renderTarget renderGlobal renderPrivate globalClass privateClass opening signature
  split
  · rfl
  · rfl

/-! ## Reading the text back -/

section Reading

open Dispatch

/-- A line that begins with neither a blank nor an equals sign does not open a
switch expression. -/
theorem isOutside_cons {c : Char} (notBlank : c ≠ ' ') (notEquals : c ≠ '=')
    (text : List Char) : Table.IsOutside (Text.dropReturn (c :: text)) := by
  have kept (rest : List Char) : (c :: rest).dropWhile (· == ' ') = c :: rest :=
    List.dropWhile_cons_of_neg (by simpa using notBlank)
  have differ (rest : List Char) : Table.IsOutside (c :: rest) := by
    intro opens
    rw [kept] at opens
    exact notEquals (List.cons.inj opens).1
  cases text with
  | nil =>
    unfold Text.dropReturn
    split
    · change Table.IsOutside []
      decide
    · exact differ []
  | cons d text =>
    rw [Text.dropReturn_cons]
    exact differ _

/-- A class reads back as its switch expression. -/
theorem readLines_dispatchClass {opening signature : String} (characters : List Char)
    (openingOutside : Table.IsOutside (Text.dropReturn opening.toList))
    (signatureOutside : Table.IsOutside (Text.dropReturn signature.toList))
    (rest : List (List Char)) :
    Table.readLines false ((dispatchClass opening signature characters).words ++ rest) =
      some ⟨characters.map fun c => (c, [c]), true⟩ := by
  have split : (dispatchClass opening signature characters).words ++ rest =
      [Text.dropReturn opening.toList, ['\x7b'], Text.dropReturn signature.toList] ++
        ((body characters).words ++ ([['\x7d']] ++ rest)) := by
    rw [dispatchClass, Layout.words_block, Layout.words_cons, Layout.words_deeper]
    simp only [List.cons_append, List.nil_append, List.append_assoc]
    rfl
  rw [split, Table.readLines_skip, Table.readLines_body]
  intro line member
  simp only [List.mem_cons, List.not_mem_nil, or_false] at member
  rcases member with rfl | rfl | rfl
  · exact openingOutside
  · decide
  · exact signatureOutside

/-- The banner holds neither line feeds nor equals signs. -/
theorem banner_plain :
    (banner.all fun line => line.text.toList.all fun c => c != '\n' && c != '=') = true := by
  simp only [banner, List.map_cons, List.map_nil, List.all_cons, List.all_nil, Bool.and_true,
    Bool.and_eq_true]
  refine ⟨?_, ?_, ?_, ?_, ?_, ?_, ?_, ?_, ?_, ?_⟩
  all_goals exact Text.all_toList rfl rfl

theorem notMem_banner {line : Line} (member : line ∈ banner) :
    '\n' ∉ line.text.toList ∧ '=' ∉ line.text.toList := by
  have plain := List.all_eq_true.1 (List.all_eq_true.1 banner_plain line member)
  refine ⟨fun feed => ?_, fun equals => ?_⟩
  · cases plain _ feed
  · cases plain _ equals

/-- What stands in front of a class and around it does not change its reading. -/
theorem readLines_inFile {scope : String} {content : Layout} {table : Table}
    (reads : ∀ rest, Table.readLines false (content.words ++ rest) = some table) :
    Table.readLines false (inFile scope content).words = some table := by
  have bannerOutside : ∀ line ∈ banner.words, Table.IsOutside line := by
    intro said member opens
    rcases List.mem_map.1 member with ⟨line, listed, rfl⟩
    have equals : '=' ∈ (Text.dropReturn line.text.toList).dropWhile (· == ' ') := by
      rw [opens]
      decide
    have inside := (List.dropWhile_sublist _).mem equals
    exact (notMem_banner listed).2 (Text.mem_of_mem_dropReturn inside)
  have emptyOutside : Table.IsOutside (Text.dropReturn "".toList) := by decide
  rw [inFile, Layout.words_append, Table.readLines_skip bannerOutside, Layout.words_cons,
    ← List.singleton_append, Table.readLines_skip (by simpa using emptyOutside)]
  unfold inNamespace
  split
  · rw [← List.append_nil content.words]
    exact reads []
  · have named : Table.IsOutside (Text.dropReturn ("namespace " ++ scope).toList) := by
      rw [String.toList_append]
      exact isOutside_cons (by decide) (by decide) _
    rw [Layout.words_block, List.cons_append, List.cons_append, ← List.singleton_append,
      Table.readLines_skip (by simpa using named), ← List.singleton_append,
      Table.readLines_skip (by decide)]
    exact reads _

theorem isOutside_opening (options : Options) (target : Target) :
    Table.IsOutside (Text.dropReturn (opening options target).toList) := by
  unfold opening
  split
  · rw [String.toList_append]
    exact isOutside_cons (by decide) (by decide) _
  · rw [String.toList_append, String.toList_append]
    cases target.visibility with
    | «public» | internal | «private» | «protected» | protectedInternal | privateProtected =>
      exact isOutside_cons (by decide) (by decide) _

theorem isOutside_signature (target : Target) :
    Table.IsOutside (Text.dropReturn (signature target).toList) := by
  unfold signature
  split
  · decide +kernel
  · decide +kernel

theorem isFeedless_banner : banner.IsFeedless := fun _ member => (notMem_banner member).1

theorem isFeedless_inNamespace {scope : String} {content : Layout}
    (inScope : '\n' ∉ scope.toList) (inside : content.IsFeedless) :
    (inNamespace scope content).IsFeedless := by
  unfold inNamespace
  split
  · exact inside
  · refine Layout.isFeedless_block.2 ⟨?_, inside, by decide⟩
    rw [String.toList_append]
    simpa using inScope

theorem isFeedless_inFile {scope : String} {content : Layout} (inScope : '\n' ∉ scope.toList)
    (inside : content.IsFeedless) : (inFile scope content).IsFeedless :=
  Layout.isFeedless_append.2 ⟨isFeedless_banner,
    Layout.isFeedless_cons.2 ⟨by decide, isFeedless_inNamespace inScope inside⟩⟩

theorem isFeedless_dispatchClass {opening signature : String} (characters : List Char)
    (inOpening : '\n' ∉ opening.toList) (inSignature : '\n' ∉ signature.toList) :
    (dispatchClass opening signature characters).IsFeedless := by
  refine Layout.isFeedless_block.2 ⟨inOpening, ?_, by decide⟩
  exact Layout.isFeedless_cons.2
    ⟨inSignature, Layout.isFeedless_deeper.2 (Table.isFeedless_body characters)⟩

theorem feed_notMem_opening {options : Options} {target : Target}
    (inArtifactName : '\n' ∉ options.artifactName.toList)
    (inName : '\n' ∉ target.name.toList) : '\n' ∉ (opening options target).toList := by
  unfold opening
  split
  · rw [String.toList_append]
    simpa using inArtifactName
  · have inKeywords : '\n' ∉ target.visibility.keywords.toList := by
      cases target.visibility <;> decide
    rw [String.toList_append, String.toList_append]
    simpa using ⟨inKeywords, inName⟩

theorem feed_notMem_signature (target : Target) : '\n' ∉ (signature target).toList := by
  unfold signature
  split
  · decide
  · decide

theorem blank_of_mem_step (options : Options) : ∀ c ∈ options.step.toList, c = ' ' := by
  intro c member
  rw [Options.step, String.toList_ofList] at member
  exact (List.mem_replicate.1 member).2

/-- The text of a target reads back as its characters and the fallback. -/
theorem read_renderTarget {options : Options} {target : Target}
    (inArtifactName : '\n' ∉ options.artifactName.toList)
    (inName : '\n' ∉ target.name.toList) (inScope : '\n' ∉ target.scope.toList) :
    Table.read (renderTarget options target) =
      some ⟨target.characters.map fun c => (c, [c]), true⟩ := by
  have feedless := isFeedless_inFile inScope (isFeedless_dispatchClass target.characters
    (feed_notMem_opening inArtifactName inName) (feed_notMem_signature target))
  rw [renderTarget_eq, Table.read_render (by simp) (blank_of_mem_step options) feedless]
  exact readLines_inFile fun rest => readLines_dispatchClass target.characters
    (isOutside_opening options target) (isOutside_signature target) rest

end Reading

/-! ## Telling switch expressions apart -/

section Telling

open Dispatch

/-- A character literal at the front of a text says which character it is of,
and where it ends. -/
theorem write_append_inj {c d : Char} {front back : List Char}
    (same : Literal.write '\'' c ++ front = Literal.write '\'' d ++ back) :
    c = d ∧ front = back := by
  have length : (Literal.write '\'' c).length = (Literal.write '\'' d).length := by
    rw [← Table.literalLength_write c front, same, Table.literalLength_write]
  obtain ⟨literal, rest⟩ := List.append_inj same length
  have reads := Literal.read_write (Or.inl rfl) c
  rw [literal, Literal.read_write (Or.inl rfl)] at reads
  exact ⟨(List.cons.inj (Option.some.inj reads)).1.symm, rest⟩

theorem chars_arm (margin step : List Char) (c : Char) :
    Line.chars margin step ⟨0, arm c ++ ","⟩ =
      margin ++ (Literal.write '\'' c ++
        (" => ".toList ++ Literal.write '"' c ++ [',', '\n'])) := by
  rw [Line.chars_top margin step (by simp), Table.toList_arm]
  simp

/-- Arms in front of a fallback say of which characters they are: an arm begins
with an apostrophe behind the margin, and the fallback with an underscore. -/
theorem chars_arms_inj {margin step front back : List Char} {first second : List Char}
    (same :
      Layout.chars margin step (first.map fun c => ⟨0, arm c ++ ","⟩) ++
          (margin ++ '_' :: front) =
        Layout.chars margin step (second.map fun c => ⟨0, arm c ++ ","⟩) ++
          (margin ++ '_' :: back)) :
    first = second := by
  have differ (c : Char) (rest rest' : List Char) :
      Line.chars margin step ⟨0, arm c ++ ","⟩ ++ rest ≠ margin ++ '_' :: rest' := by
    intro eq
    rw [chars_arm, List.append_assoc, List.append_cancel_left_eq] at eq
    cases (List.cons.inj eq).1
  induction first generalizing second with
  | nil =>
    cases second with
    | nil => rfl
    | cons d second =>
      rw [List.map_cons, Layout.chars_cons, List.append_assoc] at same
      exact (differ d _ _ same.symm).elim
  | cons c first ih =>
    cases second with
    | nil =>
      rw [List.map_cons, Layout.chars_cons, List.append_assoc] at same
      exact (differ c _ _ same).elim
    | cons d second =>
      simp only [List.map_cons, Layout.chars_cons, chars_arm, List.append_assoc,
        List.append_cancel_left_eq] at same
      obtain ⟨rfl, tail⟩ := write_append_inj same
      simp only [List.append_cancel_left_eq] at tail
      rw [ih tail]

/-- A switch expression at the front of a text says of which characters it is. -/
theorem chars_body_inj {margin step front back : List Char} {first second : List Char}
    (same : Layout.chars margin step (body first) ++ front =
      Layout.chars margin step (body second) ++ back) : first = second := by
  have said : ("_ => " ++ fallback).toList = '_' :: " => value.ToString()".toList := by
    rw [String.toList_append]
    rfl
  have full : ("_ => " ++ fallback).toList ≠ [] := by
    rw [said]
    exact List.cons_ne_nil _ _
  simp only [body, Layout.chars_block, Layout.chars_append, Layout.chars_cons, Layout.chars_nil,
    Line.chars_top _ _ full, said, List.append_assoc, List.append_cancel_left_eq,
    List.cons_append] at same
  rw [← List.append_assoc margin step, ← List.append_assoc margin step] at same
  exact chars_arms_inj same

theorem chars_dispatchClass_inj {margin step front back : List Char} {opening signature : String}
    {first second : List Char}
    (same : Layout.chars margin step (dispatchClass opening signature first) ++ front =
      Layout.chars margin step (dispatchClass opening signature second) ++ back) :
    first = second := by
  simp only [dispatchClass, Layout.chars_block, Layout.chars_cons, Layout.chars_deeper,
    List.append_assoc, List.append_cancel_left_eq] at same
  exact chars_body_inj same

/-! ## Telling targets apart -/

/-- Files of one scope have one text only if what they hold has. -/
theorem render_inFile_inj {step scope : String} {first second : Layout}
    (same : (inFile scope first).render "" step = (inFile scope second).render "" step) :
    ∃ margin rest, Layout.chars margin step.toList first ++ rest =
      Layout.chars margin step.toList second ++ rest := by
  have chars := congrArg String.toList same
  simp only [Layout.render, String.toList_ofList, inFile, Layout.chars_append,
    Layout.chars_cons, List.append_cancel_left_eq] at chars
  unfold inNamespace at chars
  split at chars
  · exact ⟨_, [], congrArg (· ++ []) chars⟩
  · simp only [Layout.chars_block, List.append_cancel_left_eq] at chars
    exact ⟨_, _, chars⟩

/-- The visibility that a target declares its class with; the shared class has
modifiers of its own. -/
def declared (target : Target) : Option Visibility :=
  if target.isGlobal then none else some target.visibility

/-- The modifiers of a class. -/
def modifiers : Option Visibility → String
  | none => "public static"
  | some visibility => visibility.keywords

theorem declared_eq_iff {first second : Target} :
    declared first = declared second ↔ first.isGlobal = second.isGlobal ∧
      (first.isGlobal = false → first.visibility = second.visibility) := by
  unfold declared
  cases first.isGlobal with
  | true => cases second.isGlobal <;> simp
  | false => cases second.isGlobal <;> simp

theorem opening_eq (options : Options) (target : Target) :
    opening options target = modifiers (declared target) ++ " partial class " ++
      if target.isGlobal then options.artifactName else target.name := by
  unfold opening declared
  split
  · rfl
  · rfl

/-- The modifiers in front of a class say what they declare: the first eleven
characters differ. -/
theorem modifiers_append_inj {first second : Option Visibility} {front back : List Char}
    (same : (modifiers first ++ " partial class ").toList ++ front =
      (modifiers second ++ " partial class ").toList ++ back) : first = second := by
  have short (kind : Option Visibility) (rest : List Char) :
      ((modifiers kind ++ " partial class ").toList ++ rest).take 11 =
        (modifiers kind ++ " partial class ").toList.take 11 := by
    refine List.take_append_of_le_length ?_
    rcases kind with _ | visibility
    · decide
    · cases visibility <;> decide
  have all (kind : Option Visibility) : kind ∈ none :: Visibility.all.map some := by
    cases kind with
    | none => exact List.mem_cons_self
    | some visibility => exact .tail _ (List.mem_map_of_mem visibility.mem_all)
  have distinct : ((none :: Visibility.all.map some).map fun kind =>
      (modifiers kind ++ " partial class ").toList.take 11).Nodup := by decide
  have marks := congrArg (List.take 11) same
  rw [short, short] at marks
  exact List.inj_on_of_nodup_map distinct (all first) (all second) marks

theorem declared_of_chars {options : Options} {margin step front back : List Char}
    {first second : Target}
    (same :
      Layout.chars margin step (dispatchClass (opening options first) (signature first)
          first.characters) ++ front =
        Layout.chars margin step (dispatchClass (opening options second) (signature second)
          second.characters) ++ back) : declared first = declared second := by
  have opens (target : Target) (rest : List Char) : ∃ behind,
      Layout.chars margin step (dispatchClass (opening options target) (signature target)
          target.characters) ++ rest =
        margin ++ ((modifiers (declared target) ++ " partial class ").toList ++ behind) := by
    have full : (opening options target).toList ≠ [] := by
      rw [opening_eq, String.toList_append, String.toList_append]
      simp
    rw [dispatchClass, Layout.chars_block, Line.chars_top _ _ full, opening_eq,
      String.toList_append]
    simp only [List.append_assoc]
    exact ⟨_, rfl⟩
  obtain ⟨_, opensFirst⟩ := opens first front
  obtain ⟨_, opensSecond⟩ := opens second back
  rw [opensFirst, opensSecond, List.append_cancel_left_eq] at same
  exact modifiers_append_inj same

/-- Texts of targets in one scope tell what the targets declare. -/
theorem declared_of_renderTarget {options : Options} {first second : Target}
    (scope : first.scope = second.scope)
    (same : renderTarget options first = renderTarget options second) :
    declared first = declared second := by
  rw [renderTarget_eq, renderTarget_eq, ← scope] at same
  obtain ⟨_, _, held⟩ := render_inFile_inj same
  exact declared_of_chars held

/-- Targets of one kind that stand under one name in one scope have the same
text if and only if they agree. -/
theorem renderTarget_eq_iff (options : Options) {first second : Target}
    (kind : first.isGlobal = second.isGlobal) (scope : first.scope = second.scope)
    (name : first.isGlobal = false → first.name = second.name) :
    renderTarget options first = renderTarget options second ↔ first.Agrees second := by
  have sameSignature : signature first = signature second := by
    unfold signature
    rw [kind]
  have sameOpening (visibility : first.isGlobal = false → first.visibility = second.visibility) :
      opening options first = opening options second := by
    unfold opening
    rw [← kind]
    split
    · rfl
    · next isPrivate =>
      have own := Bool.eq_false_iff.2 isPrivate
      rw [name own, visibility own]
  constructor
  · intro same
    have visibility := (declared_eq_iff.1 (declared_of_renderTarget scope same)).2
    rw [renderTarget_eq, renderTarget_eq, ← scope, sameOpening visibility, sameSignature] at same
    obtain ⟨_, _, held⟩ := render_inFile_inj same
    exact ⟨chars_dispatchClass_inj held, visibility⟩
  · intro agrees
    obtain ⟨characters, visibility⟩ := agrees
    rw [renderTarget_eq, renderTarget_eq, sameOpening visibility, sameSignature, scope,
      characters]

end Telling

end Template

end CharDispatch
