import CharDispatch.Proofs.TargetText

/-!
# Nesting

What a namespace does to the text inside is to indent it.  A layout below a margin is
the layout without the margin, with the margin in front of each line that says
something (`Layout.render_margin`), provided that its lines are lines of the text: no
line feed comes in with what they say or with the indentation of one level.

* `Template.render_inFile_scope`: around a class stand the banner, the opening of the
  namespace and its closing, and the class has one step of margin.
* `Template.namespace_indents`: so the text of a target in a scope is made from its
  text in the global scope line by line.
-/

namespace CharDispatch

/-! ## The lines of a text, one by one -/

namespace Text

/-- The text with every line changed by `f`. -/
def mapLines (f : List Char → List Char) (text : String) : String :=
  String.ofList (unlines ((lines text.toList).map f))

/-- A line behind a margin; an empty line stays empty. -/
def indentLine (margin line : List Char) : List Char := if line = [] then [] else margin ++ line

theorem indentLine_full {line : List Char} (margin : List Char) (full : line ≠ []) :
    indentLine margin line = margin ++ line := if_neg full

theorem isEmpty_iff_toList {text : String} : text.isEmpty = true ↔ text.toList = [] :=
  String.isEmpty_iff.trans String.toList_eq_nil_iff.symm

end Text

/-- A line below a margin is the margin in front of the line without it. -/
theorem Line.indented_eq_indentLine (margin step : List Char) (line : Line) :
    line.indented margin step = Text.indentLine margin (line.indented [] step) := by
  unfold Line.indented
  split
  · rfl
  · next said =>
    have full : line.text.toList ≠ [] := fun nothing => said (Text.isEmpty_iff_toList.2 nothing)
    rw [Text.indentLine_full margin (List.append_ne_nil_of_right_ne_nil _ full),
      List.nil_append, List.append_assoc]

namespace Layout

theorem chars_eq_unlines (margin step : List Char) (lines : Layout) :
    chars margin step lines = Text.unlines (lines.map (Line.indented margin step)) := by
  rw [chars, Text.unlines, List.flatMap_map]
  exact List.flatMap_congr fun line _ => line.chars_eq_indented margin step

/-- The lines of the text of a layout are those of the layout. -/
theorem lines_chars {margin step : List Char} {lines : Layout}
    (noFeed : ∀ line ∈ lines, '\n' ∉ line.indented margin step) :
    Text.lines (chars margin step lines) = lines.map (Line.indented margin step) := by
  rw [chars_eq_unlines]
  exact Text.lines_unlines (List.forall_mem_map.2 noFeed)

/-- Without a margin, a line feed can come in with what the lines say or with a step. -/
theorem IsFeedless.unindented {lines : Layout} (noFeed : lines.IsFeedless) {step : List Char}
    (inStep : '\n' ∉ step) : ∀ line ∈ lines, '\n' ∉ line.indented [] step := by
  intro line member feed
  unfold Line.indented at feed
  split at feed
  · cases feed
  · rw [List.nil_append, List.mem_append] at feed
    obtain inIndent | inText := feed
    · obtain ⟨level, repeated, inLevel⟩ := List.mem_flatten.1 inIndent
      exact inStep ((List.mem_replicate.1 repeated).2 ▸ inLevel)
    · exact noFeed line member inText

theorem lines_render {step : String} {lines : Layout} (noFeed : lines.IsFeedless)
    (inStep : '\n' ∉ step.toList) :
    Text.lines (lines.render "" step).toList = lines.map (Line.indented [] step.toList) := by
  rw [render, String.toList_ofList, String.toList_empty,
    lines_chars (noFeed.unindented inStep)]

/-- The text of a layout below a margin has the margin in front of each line that says
something. -/
theorem render_margin {margin step : String} {lines : Layout} (noFeed : lines.IsFeedless)
    (inStep : '\n' ∉ step.toList) :
    lines.render margin step =
      Text.mapLines (Text.indentLine margin.toList) (lines.render "" step) := by
  rw [Text.mapLines, lines_render noFeed inStep, render, chars_eq_unlines, List.map_map]
  refine congrArg (fun all => String.ofList (Text.unlines all)) ?_
  exact List.map_congr_left fun line _ => line.indented_eq_indentLine margin.toList step.toList

/-- Every line of a layout says something. -/
def IsFull (lines : Layout) : Prop := ∀ line ∈ lines, line.text ≠ ""

/-- If every line says something, every line has the margin. -/
theorem render_margin_full {margin step : String} {lines : Layout} (full : lines.IsFull)
    (noFeed : lines.IsFeedless) (inStep : '\n' ∉ step.toList) :
    lines.render margin step = Text.mapLines (margin.toList ++ ·) (lines.render "" step) := by
  rw [render_margin noFeed inStep, Text.mapLines, Text.mapLines]
  refine congrArg (fun all => String.ofList (Text.unlines all)) (List.map_congr_left ?_)
  intro said member
  rw [lines_render noFeed inStep] at member
  obtain ⟨line, listed, rfl⟩ := List.mem_map.1 member
  have said : line.text.toList ≠ [] := fun nothing =>
    full line listed (String.toList_eq_nil_iff.1 nothing)
  rw [Line.indented, if_neg fun nothing => said (Text.isEmpty_iff_toList.1 nothing)]
  exact Text.indentLine_full _ (List.append_ne_nil_of_right_ne_nil _ said)

end Layout

/-! ## Switch expressions -/

theorem Dispatch.isFull_body (characters : List Char) : (body characters).IsFull := by
  refine (Layout.forall_mem_block (P := (· ≠ "")) (by decide)).2
    ⟨by decide, List.forall_mem_append.2 ⟨?_, ?_⟩, by decide⟩
  · intro line member
    obtain ⟨c, -, rfl⟩ := List.mem_map.1 member
    refine fun nothing => ?_
    have comma := congrArg String.toList nothing
    rw [Table.toList_arm] at comma
    exact List.append_ne_nil_of_right_ne_nil _ (List.cons_ne_nil ',' []) comma
  · intro line member
    rw [List.mem_singleton.1 member]
    decide

/-- A switch expression below any margin has the margin in front of each of its lines. -/
theorem Dispatch.render_margin {margin step : String} (inStep : '\n' ∉ step.toList)
    (characters : List Char) :
    render margin step characters =
      Text.mapLines (margin.toList ++ ·) (render "" step characters) :=
  Layout.render_margin_full (isFull_body characters) (Table.isFeedless_body characters) inStep

/-! ## Classes in a file -/

namespace Template

theorem isFull_dispatchClass {opening signature : String} (characters : List Char)
    (inOpening : opening ≠ "") (inSignature : signature ≠ "") :
    (dispatchClass opening signature characters).IsFull := by
  refine (Layout.forall_mem_block (P := (· ≠ "")) (by decide)).2 ⟨inOpening, ?_, by decide⟩
  refine List.forall_mem_cons.2 ⟨inSignature, ?_⟩
  exact List.forall_mem_map.2 (Dispatch.isFull_body characters)

theorem opening_ne_empty (options : Options) (target : Target) : opening options target ≠ "" := by
  intro nothing
  have none := congrArg String.toList nothing
  rw [opening_eq, String.toList_append, String.toList_append] at none
  simp at none

theorem signature_ne_empty (target : Target) : signature target ≠ "" := by
  unfold signature
  split
  · decide
  · decide

theorem toList_step (options : Options) :
    options.step.toList = List.replicate options.indent.toNat ' ' := String.toList_ofList

theorem feed_notMem_step (options : Options) : '\n' ∉ options.step.toList := by
  intro feed
  cases blank_of_mem_step options _ feed

theorem inNamespace_global (content : Layout) : inNamespace "" content = content := if_pos rfl

theorem inNamespace_scope {scope : String} (inside : scope ≠ "") (content : Layout) :
    inNamespace scope content = Layout.block ("namespace " ++ scope) content "\x7d" :=
  if_neg fun isEmpty => inside (String.isEmpty_iff.1 isEmpty)

/-- The banner stands at the margin, so it does not depend on the step. -/
theorem chars_banner (step : List Char) : Layout.chars [] step banner = header.toList := by
  rw [header, Layout.render, String.toList_ofList]
  refine List.flatMap_congr fun line member => ?_
  obtain ⟨text, -, rfl⟩ := List.mem_map.1 member
  rfl

/-- In the global scope, the class follows the banner and an empty line. -/
theorem render_inFile_global (content : Layout) (step : String) :
    (inFile "" content).render "" step = header ++ "\n" ++ content.render "" step := by
  rw [← String.toList_inj, inFile, inNamespace_global]
  simp only [Layout.render, String.toList_ofList, String.toList_append, String.toList_empty,
    Layout.chars_append, Layout.chars_cons, chars_banner, List.append_assoc]
  rfl

/-- In another scope, the class stands one step further in, between the opening and the
closing of the namespace. -/
theorem render_inFile_scope {scope : String} (inside : scope ≠ "") (content : Layout)
    (step : String) :
    (inFile scope content).render "" step =
      header ++ "\n" ++ ("namespace " ++ scope ++ "\n\x7b\n") ++ content.render step step ++
        "\x7d\n" := by
  have full : ("namespace " ++ scope).toList ≠ [] := by
    rw [String.toList_append]
    simp
  rw [← String.toList_inj, inFile, inNamespace_scope inside]
  simp only [Layout.render, String.toList_ofList, String.toList_append, String.toList_empty,
    Layout.chars_append, Layout.chars_cons, Layout.chars_block, chars_banner,
    Line.chars_top _ _ full, List.nil_append, List.append_assoc]
  rfl

/-- The text of a target in any scope but the global one is its text in the global scope
with every line behind the banner and the empty line indented by one step, and with the
opening and the closing of the namespace around these.  In the same way a switch
expression below any margin, behind whatever is written, is the one without margin with
the margin in front of each of its lines. -/
theorem namespace_indents {options : Options} {target : Target}
    (inArtifactName : '\n' ∉ options.artifactName.toList)
    (inName : '\n' ∉ target.name.toList) :
    (∃ inside : String,
      renderTarget options { target with scope := "" } = header ++ "\n" ++ inside ∧
      ∀ scope : String, scope ≠ "" →
        renderTarget options { target with scope } =
          header ++ "\n" ++ ("namespace " ++ scope ++ "\n\x7b\n") ++
            Text.mapLines (List.replicate options.indent.toNat ' ' ++ ·) inside ++ "\x7d\n") ∧
    ∀ (written margin step : String) (characters : List Char), '\n' ∉ step.toList →
      Dispatch.renderBehind written margin step characters =
        written ++
          Text.mapLines (margin.toList ++ ·) (Dispatch.renderBehind "" "" step characters) := by
  let content := dispatchClass (opening options target) (signature target) target.characters
  have noFeed : content.IsFeedless := isFeedless_dispatchClass target.characters
    (feed_notMem_opening inArtifactName inName) (feed_notMem_signature target)
  have full : content.IsFull := isFull_dispatchClass target.characters
    (opening_ne_empty options target) (signature_ne_empty target)
  refine ⟨⟨content.render "" options.step, ?_, ?_⟩, ?_⟩
  · rw [renderTarget_eq]
    exact render_inFile_global content options.step
  · intro scope inside
    rw [renderTarget_eq, ← toList_step,
      ← Layout.render_margin_full full noFeed (feed_notMem_step options)]
    exact render_inFile_scope inside content options.step
  · intro written margin step characters inStep
    rw [Dispatch.renderBehind, Dispatch.renderBehind, String.empty_append,
      Dispatch.render_margin inStep]

/-- A private helper over characters that have marks, a line feed and a backslash, two
spaces further in. -/
theorem namespace_indents_marks :
    let options := Options.default.withIndent 2
    let target : Target := ⟨"Lexer", "Lexer", "", .internal, ['\'', '"', '\n', '\\'], false⟩
    '\n' ∉ options.artifactName.toList ∧ '\n' ∉ target.name.toList ∧ "App.Text" ≠ "" ∧
      '\n' ∉ "\t".toList ∧
      (∃ inside : String,
        renderTarget options { target with scope := "App.Text" } =
          header ++ "\n" ++ ("namespace " ++ "App.Text" ++ "\n\x7b\n") ++
            Text.mapLines ([' ', ' '] ++ ·) inside ++ "\x7d\n") ∧
      Dispatch.renderBehind "x" "\n" "\t" target.characters =
        "x" ++
          Text.mapLines (['\n'] ++ ·) (Dispatch.renderBehind "" "" "\t" target.characters) := by
  intro options target
  have inArtifactName : '\n' ∉ options.artifactName.toList := by decide +kernel
  have inName : '\n' ∉ target.name.toList := by decide +kernel
  obtain ⟨⟨inside, -, enclosed⟩, behind⟩ := namespace_indents inArtifactName inName
  exact ⟨inArtifactName, inName, by decide, by decide, ⟨inside, enclosed "App.Text" (by decide)⟩,
    behind "x" "\n" "\t" target.characters (by decide)⟩

end Template

end CharDispatch
