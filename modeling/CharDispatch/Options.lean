/-!
# Options

The options of a pass name the marker that declarations carry and say how
artifacts are named and laid out.  Defaults are those of the structure, so an
option that is not given is the same however the options come about.

* `Options.shortName_noDot`: the short name of the marker holds no dot.
-/

namespace CharDispatch

/-- How a pass finds declarations and names and lays out artifacts. -/
structure Options where
  /-- The fully qualified name of the marker attribute. -/
  marker : String := "CharGenerators.CharExtensionsAttribute"
  /-- The name of the shared class, and the last part of every hint name. -/
  artifactName : String := "CharExtensions"
  /-- The file extension of artifacts, without its dot. -/
  extension : String := "cs"
  /-- The number of spaces for a level of nesting. -/
  indent : UInt64 := 4
  /-- Whether the definition of the marker is generated too. -/
  embedAttribute : Bool := true
deriving DecidableEq, Repr

namespace Options

/-- The options nobody has changed. -/
def default : Options := {}

instance : Inhabited Options := ⟨default⟩

/-- Looks for another marker. -/
def withMarker (options : Options) (marker : String) : Options := { options with marker }

/-- Uses another name for the shared class. -/
def withArtifactName (options : Options) (artifactName : String) : Options :=
  { options with artifactName }

/-- Uses another extension; the dots it starts with are left out. -/
def withExtension (options : Options) (extension : String) : Options :=
  { options with extension := String.ofList (extension.toList.dropWhile (· == '.')) }

/-- Uses another number of spaces for a level. -/
def withIndent (options : Options) (indent : UInt64) : Options := { options with indent }

/-- Chooses whether the marker definition is generated. -/
def withEmbedAttribute (options : Options) (embedAttribute : Bool) : Options :=
  { options with embedAttribute }

/-- The marker after its last dot. -/
def markerShortName (options : Options) : String :=
  String.ofList (options.marker.toList.reverse.takeWhile (· != '.')).reverse

/-- The marker before its last dot, empty when it has none. -/
def markerNamespace (options : Options) : String :=
  String.ofList ((options.marker.toList.reverse.dropWhile (· != '.')).drop 1).reverse

/-- The name of an artifact: the scope, if there is one, and the declaration,
if the artifact belongs to one, in front of what all artifacts share. -/
def hintName (options : Options) (declaration : Option String) (scope : String) : String :=
  (if scope.isEmpty then "" else scope ++ ".") ++ declaration.getD "" ++
    options.artifactName ++ ".g." ++ options.extension

/-- The name of the artifact that holds the marker definition. -/
def markerHintName (options : Options) : String :=
  options.markerShortName ++ ".g." ++ options.extension

/-- The indentation of one level. -/
def step (options : Options) : String := String.ofList (List.replicate options.indent.toNat ' ')

theorem shortName_noDot (options : Options) : '.' ∉ options.markerShortName.toList := by
  intro member
  simp only [markerShortName, String.toList_ofList, List.mem_reverse] at member
  have := List.all_takeWhile (p := (· != '.')) (l := options.marker.toList.reverse)
  simpa using List.all_eq_true.1 this '.' member

end Options

end CharDispatch
