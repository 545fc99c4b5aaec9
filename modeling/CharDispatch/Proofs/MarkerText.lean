import CharDispatch.Proofs.HintName
import CharDispatch.Proofs.Nesting
import Mathlib.Data.List.TakeWhile

/-!
# The text of the marker definition

The definition is found by the name that discovery looks for: the marker is cut at its
last dot (`Options.marker_eq_of_dot`), the part in front opens the namespace and the
part behind names the class.  Line by line, the class is that of a marker in the global
scope, one step further in (`Template.lines_renderMarker`).

`MarkerText.named?` reads a name from a single line, wherever that stands, so
`MarkerText.named` lists all that the lines of a text open.  Of a marker definition these
are the two parts of the marker (`Template.named_renderMarker`), and they determine it
unless its first character is its only dot (`Template.renderMarker_definesMarker`).
-/

namespace CharDispatch

/-! ## The parts of a marker -/

namespace Options

/-- The marker is cut at the dot behind which there is no other. -/
theorem marker_parts {options : Options} {front back : List Char}
    (split : options.marker.toList = front ++ '.' :: back) (noDot : '.' ∉ back) :
    options.markerNamespace.toList = front ∧ options.markerShortName.toList = back := by
  have plain := passes_of_noDot noDot
  have reversed : options.marker.toList.reverse = back.reverse ++ '.' :: front.reverse := by
    rw [split, List.reverse_append, List.reverse_cons, List.append_assoc, List.singleton_append]
  rw [markerNamespace, markerShortName, String.toList_ofList, String.toList_ofList, reversed,
    List.dropWhile_append_of_pos plain, List.takeWhile_append_of_pos plain,
    List.dropWhile_cons_of_neg (by decide), List.takeWhile_cons_of_neg (by decide)]
  simp

/-- A marker with a dot is its namespace, a dot and its short name. -/
theorem marker_eq_of_dot {options : Options} (dot : '.' ∈ options.marker.toList) :
    options.markerNamespace ++ "." ++ options.markerShortName = options.marker := by
  obtain ⟨back, front, reversed, noDot⟩ :=
    List.eq_append_cons_of_mem (List.mem_reverse.2 dot)
  have split : options.marker.toList = front.reverse ++ '.' :: back.reverse := by
    rw [← List.reverse_reverse options.marker.toList, reversed, List.reverse_append,
      List.reverse_cons, List.append_assoc, List.singleton_append]
  obtain ⟨scope, name⟩ := marker_parts split fun member => noDot (List.mem_reverse.1 member)
  rw [← String.toList_inj, String.toList_append, String.toList_append, scope, name, split,
    List.append_assoc]
  rfl

/-- A marker without a dot is its short name, in the global scope. -/
theorem marker_eq_of_noDot {options : Options} (noDot : '.' ∉ options.marker.toList) :
    options.markerNamespace = "" ∧ options.markerShortName = options.marker := by
  have plain := passes_of_noDot noDot
  have nothing : options.marker.toList.reverse.dropWhile (· != '.') = [] :=
    List.dropWhile_eq_nil_iff.2 plain
  have all : options.marker.toList.reverse.takeWhile (· != '.') =
      options.marker.toList.reverse := List.takeWhile_eq_self_iff.2 plain
  rw [markerNamespace, markerShortName, nothing, all]
  simp

/-- The first character of the marker is its only dot. -/
def HasLeadingDotOnly (options : Options) : Prop :=
  ∃ name : String, '.' ∉ name.toList ∧ options.marker = "." ++ name

/-- Then the parts of the marker are those of the marker without the dot. -/
theorem HasLeadingDotOnly.parts {options : Options} (leading : options.HasLeadingDotOnly) :
    options.markerNamespace = "" ∧ options.markerShortName ≠ options.marker := by
  obtain ⟨name, noDot, dotted⟩ := leading
  have split : options.marker.toList = [] ++ '.' :: name.toList := by
    rw [dotted, String.toList_append]
    rfl
  obtain ⟨scope, short⟩ := marker_parts split noDot
  refine ⟨String.toList_eq_nil_iff.1 scope, fun same => noDot ?_⟩
  rw [← short, same, split]
  exact List.mem_cons_self

/-- The two parts determine the marker, but for a dot that is its first character and
its only one. -/
theorem marker_eq_of_parts {first second : Options}
    (scope : first.markerNamespace = second.markerNamespace)
    (name : first.markerShortName = second.markerShortName) :
    first.marker = second.marker ∨ first.HasLeadingDotOnly ∨ second.HasLeadingDotOnly := by
  -- a dot in one of two markers with the same parts cannot stand behind anything
  have leading {dotted plain : Options} (dot : '.' ∈ dotted.marker.toList)
      (scope : dotted.markerNamespace = plain.markerNamespace)
      (noDot : '.' ∉ plain.marker.toList) : dotted.HasLeadingDotOnly := by
    refine ⟨dotted.markerShortName, dotted.shortName_noDot, ?_⟩
    rw [← marker_eq_of_dot dot, scope, (marker_eq_of_noDot noDot).1, String.empty_append]
  by_cases dotFirst : '.' ∈ first.marker.toList
  · by_cases dotSecond : '.' ∈ second.marker.toList
    · rw [← marker_eq_of_dot dotFirst, ← marker_eq_of_dot dotSecond, scope, name]
      exact .inl rfl
    · exact .inr (.inl (leading dotFirst scope dotSecond))
  · by_cases dotSecond : '.' ∈ second.marker.toList
    · exact .inr (.inr (leading dotSecond scope.symm dotFirst))
    · rw [← (marker_eq_of_noDot dotFirst).2, ← (marker_eq_of_noDot dotSecond).2, name]
      exact .inl rfl

/-- The short name of the marker is a marker in the global scope with the same short name. -/
theorem parts_withShortName (options : Options) :
    (options.withMarker options.markerShortName).markerNamespace = "" ∧
      (options.withMarker options.markerShortName).markerShortName = options.markerShortName :=
  marker_eq_of_noDot options.shortName_noDot

theorem feed_notMem_parts {options : Options} (inMarker : '\n' ∉ options.marker.toList) :
    '\n' ∉ options.markerNamespace.toList ∧ '\n' ∉ options.markerShortName.toList := by
  constructor
  · intro feed
    rw [markerNamespace, String.toList_ofList, List.mem_reverse] at feed
    have inside := (List.dropWhile_sublist _).mem (List.mem_of_mem_drop feed)
    exact inMarker (List.mem_reverse.1 inside)
  · intro feed
    rw [markerShortName, String.toList_ofList, List.mem_reverse] at feed
    exact inMarker (List.mem_reverse.1 ((List.takeWhile_sublist _).mem feed))

end Options

/-! ## Names in single lines -/

namespace MarkerText

open Dispatch

/-- What a line of source can open by name. -/
inductive Kind where
  | scope | attributeClass

/-- What stands in front of the name. -/
def Kind.front : Kind → String
  | .scope => "namespace "
  | .attributeClass => "public class "

/-- What stands behind the name. -/
def Kind.back : Kind → String
  | .scope => ""
  | .attributeClass => " : System.Attribute"

/-- The name of what a line opens, blanks in front of the line apart. -/
def named? (kind : Kind) (line : List Char) : Option (List Char) := do
  let rest ← Table.dropFront? kind.front.toList (line.dropWhile (· == ' '))
  let name ← Table.dropFront? kind.back.toList.reverse rest.reverse
  return name.reverse

/-- The names of all that lines open. -/
def named (kind : Kind) (lines : List (List Char)) : List (List Char) :=
  lines.filterMap (named? kind)

theorem dropFront?_eq_some_iff {front text rest : List Char} :
    Table.dropFront? front text = some rest ↔ text = front ++ rest := by
  refine ⟨fun dropped => ?_, ?_⟩
  · induction front generalizing text with
    | nil => cases text <;> exact Option.some.inj dropped
    | cons f front ih =>
      cases text with
      | nil => cases dropped
      | cons c text =>
        rw [Table.dropFront?] at dropped
        split at dropped
        · next same => rw [same, ih dropped, List.cons_append]
        · cases dropped
  · rintro rfl
    exact Table.dropFront?_append front rest

/-- A name is read from the line that is made from it. -/
theorem named?_eq_some_iff {kind : Kind} {line name : List Char} :
    named? kind line = some name ↔
      line.dropWhile (· == ' ') = kind.front.toList ++ (name ++ kind.back.toList) := by
  unfold named?
  rw [Option.bind_eq_bind, Option.bind_eq_some_iff]
  constructor
  · rintro ⟨rest, begins, found⟩
    rw [Option.bind_eq_some_iff] at found
    obtain ⟨reversed, ends, same⟩ := found
    rw [dropFront?_eq_some_iff] at begins ends
    cases same
    rw [begins, ← List.reverse_reverse rest, ends, List.reverse_append, List.reverse_reverse]
  · intro made
    refine ⟨_, dropFront?_eq_some_iff.2 made, ?_⟩
    rw [List.reverse_append, Table.dropFront?_append]
    exact congrArg some (List.reverse_reverse name)

/-- Indentation does not show. -/
theorem named?_append {blanks : List Char} (blank : ∀ c ∈ blanks, c = ' ') (kind : Kind)
    (line : List Char) : named? kind (blanks ++ line) = named? kind line := by
  have spaces : ∀ c ∈ blanks, (c == ' ') = true := fun c member => beq_iff_eq.2 (blank c member)
  rw [named?, named?, List.dropWhile_append_of_pos spaces]

/-- Of the lines of a layout, it shows what they say. -/
theorem named?_indented {step : List Char} (blank : ∀ c ∈ step, c = ' ') (kind : Kind)
    (line : Line) : named? kind (line.indented [] step) = named? kind line.text.toList := by
  unfold Line.indented
  split
  · next nothing => rw [Text.isEmpty_iff_toList.1 nothing]
  · exact named?_append (blank_of_mem_indent (List.forall_mem_nil _) blank line.depth) kind _

/-- The letter that lines of a kind begin with. -/
def Kind.letter : Kind → Char
  | .scope => 'n'
  | .attributeClass => 'p'

theorem Kind.front_eq (kind : Kind) : ∃ rest, kind.front.toList = kind.letter :: rest := by
  cases kind with
  | scope => exact ⟨"amespace ".toList, by decide⟩
  | attributeClass => exact ⟨"ublic class ".toList, by decide⟩

theorem Kind.ne_letter (kind : Kind) {c : Char} (mark : c.isLower = false) : c ≠ kind.letter := by
  rintro rfl
  cases kind <;> cases mark

/-- A line that begins with another character opens nothing. -/
theorem named?_cons {kind : Kind} {c : Char} (notBlank : c ≠ ' ') (other : c ≠ kind.letter)
    (text : List Char) : named? kind (c :: text) = none := by
  refine Option.eq_none_iff_forall_ne_some.2 fun name found => ?_
  obtain ⟨rest, begins⟩ := kind.front_eq
  rw [named?_eq_some_iff, List.dropWhile_cons_of_neg (by simpa using notBlank), begins,
    List.cons_append] at found
  exact other (List.cons.inj found).1

theorem named?_nil (kind : Kind) : named? kind [] = none := by
  obtain ⟨rest, begins⟩ := kind.front_eq
  rw [named?, begins]
  rfl

/-- A line that begins with a mark opens nothing, whatever follows. -/
theorem named?_mark {c : Char} {front : String} {rest : List Char}
    (spelled : front = String.ofList (c :: rest)) (mark : c ≠ ' ' ∧ c.isLower = false)
    (kind : Kind) (back : String) : named? kind (front ++ back).toList = none := by
  rw [String.toList_append, spelled, String.toList_ofList]
  exact named?_cons mark.1 (kind.ne_letter mark.2) _

/-- A fixed line is read by its characters. -/
theorem named?_spelled {text : String} {characters : List Char}
    (spelled : text = String.ofList characters) (kind : Kind) :
    named? kind text.toList = named? kind characters := by
  rw [spelled, String.toList_ofList]

/-- What begins a line of another kind opens nothing. -/
theorem named?_front (other : Kind) {kind : Kind} (differ : other.letter ≠ kind.letter)
    (rest : List Char) : named? kind (other.front.toList ++ rest) = none := by
  have notBlank : other.letter ≠ ' ' := by cases other <;> decide
  obtain ⟨behind, begins⟩ := other.front_eq
  rw [begins, List.cons_append]
  exact named?_cons notBlank differ _

/-- The line that is made for a name opens what has that name. -/
theorem named?_self (kind : Kind) (name : String) :
    named? kind (kind.front ++ name ++ kind.back).toList = some name.toList := by
  have notBlank : kind.letter ≠ ' ' := by cases kind <;> decide
  obtain ⟨rest, begins⟩ := kind.front_eq
  rw [named?_eq_some_iff, String.toList_append, String.toList_append, begins, List.cons_append,
    List.cons_append, List.dropWhile_cons_of_neg (by simpa using notBlank), List.append_assoc]
  rfl

end MarkerText

/-! ## The lines of the definition -/

/-- A line at the margin is what it says. -/
theorem Line.indented_top (step : List Char) (text : String) :
    Line.indented [] step ⟨0, text⟩ = text.toList := by
  unfold Line.indented
  split
  · next nothing => exact (Text.isEmpty_iff_toList.1 nothing).symm
  · rfl

/-- One level deeper, the lines have one step of margin. -/
theorem Layout.map_deeper (step : List Char) (lines : Layout) :
    (deeper lines).map (Line.indented [] step) =
      (lines.map (Line.indented [] step)).map (Text.indentLine step) := by
  rw [deeper, List.map_map, List.map_map]
  refine List.map_congr_left fun line _ => ?_
  refine Eq.trans ?_ (line.indented_eq_indentLine step step)
  unfold Function.comp Line.indented
  simp only [List.replicate_succ, List.flatten_cons, List.nil_append]

namespace Template

/-- Lines in a scope: between the opening of its namespace and the closing, with the
margin in front of those that are not empty. -/
def scopeLines (scope : String) (margin : List Char) (inside : List (List Char)) :
    List (List Char) :=
  if scope = "" then inside
  else ("namespace " ++ scope).toList :: ['\x7b'] :: inside.map (Text.indentLine margin) ++
    [['\x7d']]

/-- Lines behind the banner and an empty line, under the condition of the definition. -/
def guardedLines (inside : List (List Char)) : List (List Char) :=
  Text.lines header.toList ++ [] :: ("#if " ++ embedSymbol).toList :: inside ++
    ["#endif".toList]

/-- The lines of the class of the marker, in the global scope. -/
def markerLines (options : Options) : List (List Char) :=
  (markerClass options).map (Line.indented [] options.step.toList)

theorem map_inNamespace (scope : String) (step : List Char) (content : Layout) :
    (inNamespace scope content).map (Line.indented [] step) =
      scopeLines scope step (content.map (Line.indented [] step)) := by
  rw [scopeLines]
  split
  · next global => rw [global, inNamespace_global]
  · next inside =>
    rw [inNamespace_scope inside, Layout.block]
    simp only [List.map_cons, List.map_append, List.cons_append, List.map_nil, Line.indented_top,
      Layout.map_deeper]
    rfl

theorem lines_header {step : List Char} (inStep : '\n' ∉ step) :
    Text.lines header.toList = banner.map (Line.indented [] step) := by
  rw [← chars_banner step]
  exact Layout.lines_chars (isFeedless_banner.unindented inStep)

/-- A fixed text is checked through its characters. -/
theorem feed_notMem_spelled {text : String} {characters : List Char}
    (spelled : text = String.ofList characters) (absent : characters.contains '\n' = false) :
    '\n' ∉ text.toList := by
  rw [spelled, String.toList_ofList]
  simpa using absent

theorem feed_notMem_append {front back : String} (inFront : '\n' ∉ front.toList)
    (inBack : '\n' ∉ back.toList) : '\n' ∉ (front ++ back).toList := by
  rw [String.toList_append, List.mem_append]
  exact not_or.2 ⟨inFront, inBack⟩

theorem isFeedless_markerMembers {options : Options}
    (inArtifactName : '\n' ∉ options.artifactName.toList) :
    (markerMembers options).IsFeedless := by
  unfold markerMembers
  simp only [List.map_cons, List.map_nil, Layout.isFeedless_cons]
  refine ⟨?_, ?_, ?_, ?_, ?_, ?_, ?shared, ?helper, ?_, ?_, Layout.isFeedless_nil⟩
  case shared =>
    exact feed_notMem_append (feed_notMem_append (feed_notMem_spelled rfl rfl) inArtifactName)
      (feed_notMem_spelled rfl rfl)
  case helper =>
    exact feed_notMem_append (feed_notMem_spelled rfl rfl) (feed_notMem_spelled rfl rfl)
  all_goals exact feed_notMem_spelled rfl rfl

theorem isFeedless_markerClass {options : Options}
    (inName : '\n' ∉ options.markerShortName.toList)
    (inArtifactName : '\n' ∉ options.artifactName.toList) :
    (markerClass options).IsFeedless := by
  have fixed {text : String} {characters : List Char} (spelled : text = String.ofList characters)
      (absent : characters.contains '\n' = false) := feed_notMem_spelled spelled absent
  refine Layout.isFeedless_append.2 ⟨?_, Layout.isFeedless_block.2 ⟨?_, ?_, fixed rfl rfl⟩⟩
  · refine Layout.isFeedless_cons.2 ⟨feed_notMem_append (fixed rfl rfl) (fixed rfl rfl), ?_⟩
    refine Layout.isFeedless_cons.2 ⟨?_, Layout.isFeedless_nil⟩
    exact feed_notMem_append (feed_notMem_append (fixed rfl rfl) (fixed rfl rfl)) (fixed rfl rfl)
  · exact feed_notMem_append (feed_notMem_append (fixed rfl rfl) inName) (fixed rfl rfl)
  · exact isFeedless_markerMembers inArtifactName

theorem isFeedless_markerFile {options : Options} (inMarker : '\n' ∉ options.marker.toList)
    (inArtifactName : '\n' ∉ options.artifactName.toList) : (markerFile options).IsFeedless := by
  obtain ⟨inScope, inName⟩ := Options.feed_notMem_parts inMarker
  refine Layout.isFeedless_append.2 ⟨Layout.isFeedless_append.2 ⟨isFeedless_banner, ?_⟩, ?_⟩
  · refine Layout.isFeedless_cons.2 ⟨by decide, Layout.isFeedless_cons.2 ⟨by decide, ?_⟩⟩
    exact isFeedless_inNamespace inScope (isFeedless_markerClass inName inArtifactName)
  · exact Layout.isFeedless_cons.2 ⟨by decide, Layout.isFeedless_nil⟩

/-- Line by line, the definition is the class of the marker in its namespace. -/
theorem lines_renderMarker (options : Options) (inMarker : '\n' ∉ options.marker.toList)
    (inArtifactName : '\n' ∉ options.artifactName.toList) :
    Text.lines (renderMarker options).toList =
      guardedLines (scopeLines options.markerNamespace options.step.toList
        (markerLines options)) := by
  have inStep := feed_notMem_step options
  rw [renderMarker, Layout.lines_render (isFeedless_markerFile inMarker inArtifactName) inStep,
    guardedLines, lines_header inStep, markerFile]
  simp only [List.map_append, List.map_cons, List.map_nil, map_inNamespace, Line.indented_top]
  rfl

/-- An empty line of the class stays empty in the namespace. -/
theorem nil_mem_markerLines (options : Options) : [] ∈ markerLines options := by
  have blank : ⟨1, ""⟩ ∈ markerClass options := by
    refine List.mem_append_right _ (.tail _ (.tail _ (List.mem_append_left _ ?_)))
    refine List.mem_map.2 ⟨⟨0, ""⟩, ?_, rfl⟩
    exact .tail _ (.tail _ (.tail _ (.tail _ (.head _))))
  exact List.mem_map.2 ⟨⟨1, ""⟩, blank, rfl⟩

/-! ## What the lines open -/

section Opening

open MarkerText

/-- A fixed line that begins with a mark opens nothing. -/
theorem opensNothing {kind : Kind} {c : Char} {text : String} {rest : List Char}
    (spelled : text = String.ofList (c :: rest)) (mark : c ≠ ' ' ∧ c.isLower = false) :
    named? kind text.toList = none := by
  rw [named?_spelled spelled]
  exact named?_cons mark.1 (kind.ne_letter mark.2) rest

/-- The names of all that the lines of a layout open. -/
def opened (kind : Kind) (lines : Layout) : List (List Char) :=
  lines.filterMap fun line => named? kind line.text.toList

/-- The lines of the text of a layout are read as what they say. -/
theorem named_lines {step : String} (blank : ∀ c ∈ step.toList, c = ' ') {lines : Layout}
    (noFeed : lines.IsFeedless) (kind : Kind) :
    named kind (Text.lines (lines.render "" step).toList) = opened kind lines := by
  have inStep : '\n' ∉ step.toList := fun feed => by cases blank _ feed
  rw [Layout.lines_render noFeed inStep, named, List.filterMap_map]
  exact List.filterMap_congr fun line _ => named?_indented blank kind line

theorem opened_append (kind : Kind) (above below : Layout) :
    opened kind (above ++ below) = opened kind above ++ opened kind below :=
  List.filterMap_append

theorem opened_cons_of_none {kind : Kind} {text : String}
    (nothing : named? kind text.toList = none) (depth : Nat) (lines : Layout) :
    opened kind (⟨depth, text⟩ :: lines) = opened kind lines :=
  List.filterMap_cons_none nothing

theorem opened_block (kind : Kind) (opening : String) (inner : Layout) :
    opened kind (Layout.block opening inner "\x7d") =
      (named? kind opening.toList).toList ++ opened kind inner := by
  have brace : named? kind "\x7b".toList = none := opensNothing rfl (by decide)
  have close : named? kind "\x7d".toList = none := opensNothing rfl (by decide)
  have nested : opened kind (Layout.deeper inner) = opened kind inner := by
    rw [opened, Layout.deeper, List.filterMap_map]
    rfl
  have inside : opened kind (⟨0, "\x7b"⟩ :: (Layout.deeper inner ++ [⟨0, "\x7d"⟩])) =
      opened kind inner := by
    rw [opened_cons_of_none brace, opened_append, nested, opened_cons_of_none close]
    exact List.append_nil _
  rw [← inside, Layout.block, List.cons_append, List.cons_append]
  cases name : named? kind opening.toList with
  | none => exact opened_cons_of_none name 0 _
  | some said => exact List.filterMap_cons_some name

theorem opened_banner (kind : Kind) : opened kind banner = [] := by
  rw [opened, List.filterMap_eq_nil_iff]
  unfold banner
  simp only [List.map_cons, List.map_nil, List.forall_mem_cons]
  refine ⟨?_, ?_, ?_, ?_, ?_, ?_, ?_, ?_, named?_nil kind, ?_, List.forall_mem_nil _⟩
  all_goals exact opensNothing rfl (by decide)

theorem opened_markerMembers (kind : Kind) (options : Options) :
    opened kind (markerMembers options) = [] := by
  rw [opened, List.filterMap_eq_nil_iff]
  unfold markerMembers
  simp only [List.map_cons, List.map_nil, List.forall_mem_cons]
  refine ⟨?_, ?_, ?_, ?text, named?_nil kind, ?_, ?shared, ?helper, ?_, ?flag,
    List.forall_mem_nil _⟩
  case text =>
    rw [named?_spelled rfl]
    cases kind <;> decide
  case flag =>
    rw [named?_spelled rfl]
    cases kind <;> decide
  case shared =>
    rw [String.append_assoc]
    exact named?_mark rfl (by decide) kind _
  case helper => exact named?_mark rfl (by decide) kind _
  all_goals exact opensNothing rfl (by decide)

theorem opened_markerClass (kind : Kind) (options : Options) :
    opened kind (markerClass options) = (named? kind
      ("public class " ++ options.markerShortName ++ " : System.Attribute").toList).toList := by
  rw [markerClass, opened_append, opened_block, opened_markerMembers, List.append_nil]
  refine (congrArg (· ++ _) ?_).trans (List.nil_append _)
  rw [opened, List.filterMap_eq_nil_iff]
  simp only [List.forall_mem_cons, String.append_assoc]
  exact ⟨named?_mark rfl (by decide) kind _, named?_mark rfl (by decide) kind _,
    List.forall_mem_nil _⟩

theorem opened_inNamespace (kind : Kind) (scope : String) (content : Layout) :
    opened kind (inNamespace scope content) =
      (if scope = "" then [] else (named? kind ("namespace " ++ scope).toList).toList) ++
        opened kind content := by
  split
  · next global => rw [global, inNamespace_global, List.nil_append]
  · next inside => rw [inNamespace_scope inside, opened_block]

/-- The definition opens what its namespace and its class open. -/
theorem opened_markerFile (kind : Kind) (options : Options) :
    opened kind (markerFile options) =
      opened kind (inNamespace options.markerNamespace (markerClass options)) := by
  have condition : named? kind ("#if " ++ embedSymbol).toList = none :=
    named?_mark rfl (by decide) kind _
  have closing : named? kind "#endif".toList = none := opensNothing rfl (by decide)
  rw [markerFile, opened_append, opened_append, opened_banner, List.nil_append,
    opened_cons_of_none (named?_nil kind), opened_cons_of_none condition,
    opened_cons_of_none closing]
  exact List.append_nil _

/-- The names that the lines of the definition open are the parts of the marker. -/
theorem named_renderMarker {options : Options} (inMarker : '\n' ∉ options.marker.toList)
    (inArtifactName : '\n' ∉ options.artifactName.toList) :
    named .scope (Text.lines (renderMarker options).toList) =
        (if options.markerNamespace = "" then [] else [options.markerNamespace.toList]) ∧
      named .attributeClass (Text.lines (renderMarker options).toList) =
        [options.markerShortName.toList] := by
  have read (kind : Kind) : named kind (Text.lines (renderMarker options).toList) =
      (if options.markerNamespace = "" then []
        else (named? kind ("namespace " ++ options.markerNamespace).toList).toList) ++
      (named? kind
        ("public class " ++ options.markerShortName ++ " : System.Attribute").toList).toList := by
    rw [renderMarker, named_lines (blank_of_mem_step options)
      (isFeedless_markerFile inMarker inArtifactName), opened_markerFile, opened_inNamespace,
      opened_markerClass]
  have opensScope : named? .scope ("namespace " ++ options.markerNamespace).toList =
      some options.markerNamespace.toList := by
    rw [← String.append_empty (s := "namespace " ++ options.markerNamespace)]
    exact named?_self .scope options.markerNamespace
  have opensClass := named?_self .attributeClass options.markerShortName
  have noScope (name : String) :
      named? .attributeClass ("namespace " ++ name).toList = none := by
    rw [String.toList_append]
    exact named?_front .scope (by decide) _
  have noClass (name : String) :
      named? .scope ("public class " ++ name ++ " : System.Attribute").toList = none := by
    rw [String.append_assoc, String.toList_append]
    exact named?_front .attributeClass (by decide) _
  constructor
  · rw [read, noClass, opensScope]
    exact List.append_nil _
  · rw [read, noScope]
    unfold Kind.front Kind.back at opensClass
    rw [opensClass]
    split
    · rfl
    · rfl

end Opening

/-- Without a namespace, the definition is that of the short name. -/
theorem renderMarker_of_global {options : Options} (global : options.markerNamespace = "") :
    renderMarker options = renderMarker (options.withMarker options.markerShortName) := by
  obtain ⟨scope, name⟩ := options.parts_withShortName
  have sameClass : markerClass (options.withMarker options.markerShortName) =
      markerClass options := by
    rw [markerClass, markerClass, name]
    rfl
  rw [renderMarker, renderMarker, markerFile, markerFile, global, scope, sameClass]
  rfl

/-- The marker is its namespace, a dot and its short name, in which there is no dot; without
a dot, it is its short name.  Line by line, the definition stands under its condition behind
the banner, and is the class of the definition of the short name in the namespace: between
the opening and the closing, with one step in front of every line that is not empty.  It
opens this namespace, if there is one, this class and no other, which is how its text
determines the marker, unless the first character of the marker is its only dot.  In that
case it is the text of another marker. -/
theorem renderMarker_definesMarker {options : Options}
    (inMarker : '\n' ∉ options.marker.toList)
    (inArtifactName : '\n' ∉ options.artifactName.toList) :
    '.' ∉ options.markerShortName.toList ∧
    ('.' ∈ options.marker.toList →
      options.markerNamespace ++ "." ++ options.markerShortName = options.marker) ∧
    ('.' ∉ options.marker.toList →
      options.markerNamespace = "" ∧ options.markerShortName = options.marker) ∧
    (∃ block,
      Text.lines (renderMarker (options.withMarker options.markerShortName)).toList =
        guardedLines block ∧
      Text.lines (renderMarker options).toList =
        guardedLines (scopeLines options.markerNamespace
          (List.replicate options.indent.toNat ' ') block) ∧
      [] ∈ block) ∧
    MarkerText.named .scope (Text.lines (renderMarker options).toList) =
      (if options.markerNamespace = "" then [] else [options.markerNamespace.toList]) ∧
    MarkerText.named .attributeClass (Text.lines (renderMarker options).toList) =
      [options.markerShortName.toList] ∧
    (∀ other : Options, '\n' ∉ other.marker.toList → '\n' ∉ other.artifactName.toList →
      (∀ kind, MarkerText.named kind (Text.lines (renderMarker options).toList) =
        MarkerText.named kind (Text.lines (renderMarker other).toList)) →
      options.marker = other.marker ∨
        options.HasLeadingDotOnly ∨ other.HasLeadingDotOnly) ∧
    (options.HasLeadingDotOnly →
      renderMarker options = renderMarker (options.withMarker options.markerShortName) ∧
        options.markerShortName ≠ options.marker) := by
  have named := named_renderMarker inMarker inArtifactName
  refine ⟨options.shortName_noDot, Options.marker_eq_of_dot, Options.marker_eq_of_noDot,
    ⟨markerLines options, ?_, ?_, nil_mem_markerLines options⟩, named.1, named.2, ?_, ?_⟩
  · have inName := (Options.feed_notMem_parts inMarker).2
    have lines := lines_renderMarker (options.withMarker options.markerShortName)
      inName inArtifactName
    obtain ⟨scope, name⟩ := options.parts_withShortName
    rw [lines, scope, scopeLines, if_pos rfl, markerLines, markerClass, name]
    rfl
  · rw [lines_renderMarker options inMarker inArtifactName, toList_step]
  · intro other inOtherMarker inOtherName same
    have namedOther := named_renderMarker inOtherMarker inOtherName
    have scopes := same .scope
    have names := same .attributeClass
    rw [named.1, namedOther.1] at scopes
    rw [named.2, namedOther.2, List.singleton_inj, String.toList_inj] at names
    refine Options.marker_eq_of_parts ?_ names
    split at scopes
    · next global =>
      split at scopes
      · next globalOther => exact global.trans globalOther.symm
      · cases scopes
    · split at scopes
      · cases scopes
      · exact String.toList_inj.1 (List.singleton_inj.1 scopes)
  · intro leading
    exact ⟨renderMarker_of_global leading.parts.1, leading.parts.2⟩

/-- A marker with a leading dot, two dots in a row and a further one, two spaces a step. -/
theorem renderMarker_definesMarker_dotted :
    let options := (Options.default.withMarker ".App..Fast.Chars").withIndent 2
    '\n' ∉ options.marker.toList ∧ '\n' ∉ options.artifactName.toList ∧
      MarkerText.named .scope (Text.lines (renderMarker options).toList) =
        [".App..Fast".toList] ∧
      MarkerText.named .attributeClass (Text.lines (renderMarker options).toList) =
        ["Chars".toList] := by
  intro options
  have inMarker : '\n' ∉ options.marker.toList := by decide +kernel
  have inArtifactName : '\n' ∉ options.artifactName.toList := by decide +kernel
  obtain ⟨-, -, -, -, scope, name, -⟩ := renderMarker_definesMarker inMarker inArtifactName
  have parts : options.markerNamespace = ".App..Fast" ∧ options.markerShortName = "Chars" := by
    decide +kernel
  rw [parts.1] at scope
  rw [parts.2] at name
  exact ⟨inMarker, inArtifactName, scope, name⟩

end Template

end CharDispatch
