import CharDispatch.Dispatch
import CharDispatch.Options
import CharDispatch.Target

/-!
# Artifact templates

The layouts of the three kinds of artifact: the shared extension class of a
scope, the private helper inside a partial part of its declaration, and the
definition of the marker.  All start with the same banner, and a scope wraps
what it holds in a namespace block.
-/

namespace CharDispatch.Template

/-- The banner that tells readers to leave the file alone, and the nullable
context. -/
def banner : Layout :=
  ["//------------------------------------------------------------------------------",
    "// <auto-generated>",
    "//     This code was generated by the CharGenerators source generator.",
    "//",
    "//     Changes to this file may cause incorrect behavior and will be lost if",
    "//     the code is regenerated.",
    "// </auto-generated>",
    "//------------------------------------------------------------------------------",
    "",
    "#nullable enable"].map (Line.mk 0)

/-- The text of the banner. -/
def header : String := banner.render "" ""

/-- The symbol that makes a build compile the marker definition. -/
def embedSymbol : String := "CHARGENERATORS_EMBED_ATTRIBUTES"

/-- The symbol without which uses of the marker are left out of the build. -/
def usagesSymbol : String := "CHARGENERATORS_USAGES"

/-- The lines inside a namespace block, or as they are in the global scope. -/
def inNamespace (scope : String) (inner : Layout) : Layout :=
  if scope.isEmpty then inner else Layout.block ("namespace " ++ scope) inner "\x7d"

/-- A class that holds one method, whose body is the dispatch over `characters`. -/
def dispatchClass (declaration signature : String) (characters : List Char) : Layout :=
  Layout.block declaration (⟨0, signature⟩ :: Layout.deeper (Dispatch.body characters)) "\x7d"

/-- The class shared by a scope. -/
def globalClass (options : Options) (characters : List Char) : Layout :=
  dispatchClass ("public static partial class " ++ options.artifactName)
    "public static string ToStringFast(this char value)" characters

/-- The part of a declaration that holds its private helper. -/
def privateClass (target : Target) : Layout :=
  dispatchClass (target.visibility.keywords ++ " partial class " ++ target.name)
    "private string CharToStringFast(char value)" target.characters

/-- A banner, an empty line, and a class in its scope. -/
def inFile (scope : String) (content : Layout) : Layout :=
  banner ++ ⟨0, ""⟩ :: inNamespace scope content

/-- The text of the shared class of `scope`. -/
def renderGlobal (options : Options) (scope : String) (characters : List Char) : String :=
  (inFile scope (globalClass options characters)).render "" options.step

/-- The text of a private helper, whatever kind of artifact the target asks for. -/
def renderPrivate (options : Options) (target : Target) : String :=
  (inFile target.scope (privateClass target)).render "" options.step

/-- The text of the artifact that `target` asks for. -/
def renderTarget (options : Options) (target : Target) : String :=
  if target.isGlobal then renderGlobal options target.scope target.characters
  else renderPrivate options target

/-- The documented properties of the marker. -/
def markerMembers (options : Options) : Layout :=
  ["/// <summary>",
    "/// Generate the switch for the listed characters.",
    "/// </summary>",
    "public string? OptimizeFor \x7b get; set; \x7d",
    "",
    "/// <summary>",
    "/// If set to <c>true</c>, the <c>ToStringFast</c> extension method is generated on <c>" ++
      options.artifactName ++ "</c>.",
    "/// If set to <c>false</c>, a private <c>CharToStringFast(char value)</c> " ++
      "helper method is generated.",
    "/// </summary>",
    "public bool Global \x7b get; set; \x7d"].map (Line.mk 0)

/-- The class of the marker with its own attributes. -/
def markerClass (options : Options) : Layout :=
  [⟨0, "[System.AttributeUsage(System.AttributeTargets.Class, AllowMultiple = false, " ++
      "Inherited = false)]"⟩,
    ⟨0, "[System.Diagnostics.Conditional(\"" ++ usagesSymbol ++ "\")]"⟩] ++
  Layout.block ("public class " ++ options.markerShortName ++ " : System.Attribute")
    (markerMembers options) "\x7d"

/-- The lines of the marker definition. -/
def markerFile (options : Options) : Layout :=
  banner ++ ⟨0, ""⟩ :: ⟨0, "#if " ++ embedSymbol⟩ ::
    inNamespace options.markerNamespace (markerClass options) ++ [⟨0, "#endif"⟩]

/-- The text of the marker definition. -/
def renderMarker (options : Options) : String := (markerFile options).render "" options.step

end CharDispatch.Template
