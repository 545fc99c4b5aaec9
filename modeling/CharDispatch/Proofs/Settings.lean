import CharDispatch.Proofs.HintName
import CharDispatch.Proofs.Stored

/-!
# Settings

Options come about in two ways: settings are applied one after the other in code, or
they are listed in an object that is read.  Each kind of setting is given once at most,
and then the order is of no account.  The two ways agree but for one point: applying an
extension leaves out the dots it starts with (`Setting.apply`), and reading takes it as it
stands (`Setting.put`).

* `Options.decode_settings`: what is read is what the settings say as they stand.
* `Options.built_eq`: what is built is this with the extension cleared of its leading dots.
* `Options.decode_settings_built`: so the two are the same exactly if there are none, which
  the options that are read do not ensure (`Options.not_decode_built_dotted`).
-/

namespace CharDispatch

open Json Reader

/-- A field of options with the value it is to have. -/
inductive Setting where
  | marker (value : String)
  | artifactName (value : String)
  | extension (value : String)
  | indent (value : UInt64)
  | embedAttribute (value : Bool)

namespace Setting

/-- The name of the field in stored options. -/
def key : Setting → String
  | .marker _ => "marker"
  | .artifactName _ => "artifact_name"
  | .extension _ => "extension"
  | .indent _ => "indent"
  | .embedAttribute _ => "embed_attribute"

/-- The value as JSON. -/
def toJson : Setting → Value
  | .marker value => .string value
  | .artifactName value => .string value
  | .extension value => .string value
  | .indent value => .natural value.toNat
  | .embedAttribute value => .bool value

/-- The object that lists settings. -/
def object (settings : List Setting) : Value :=
  .object (settings.map fun setting => (setting.key, setting.toJson))

/-- The options with a setting applied in code. -/
def apply (options : Options) : Setting → Options
  | .marker value => options.withMarker value
  | .artifactName value => options.withArtifactName value
  | .extension value => options.withExtension value
  | .indent value => options.withIndent value
  | .embedAttribute value => options.withEmbedAttribute value

/-- The options with the value of a setting as it stands. -/
def put (options : Options) : Setting → Options
  | .marker value => { options with marker := value }
  | .artifactName value => { options with artifactName := value }
  | .extension value => { options with extension := value }
  | .indent value => { options with indent := value }
  | .embedAttribute value => { options with embedAttribute := value }

end Setting

namespace Options

/-- Options with settings applied in turn to the default ones. -/
def built (settings : List Setting) : Options := settings.foldl Setting.apply default

/-- Options with the values of settings as they stand, and defaults elsewhere. -/
def listed (settings : List Setting) : Options := settings.foldl Setting.put default

/-- All settings of some options. -/
def settings (options : Options) : List Setting :=
  [.marker options.marker, .artifactName options.artifactName, .extension options.extension,
    .indent options.indent, .embedAttribute options.embedAttribute]

/-! ## Settings that are listed -/

theorem distinct_settings (options : Options) : (options.settings.map Setting.key).Nodup := by
  change ["marker", "artifact_name", "extension", "indent", "embed_attribute"].Nodup
  decide

theorem mem_settings_put (options : Options) (setting : Setting) :
    setting ∈ (setting.put options).settings := by
  cases setting <;> simp [settings, Setting.put]

/-- A setting changes no other field. -/
theorem mem_settings_put_iff {setting other : Setting} (differ : setting.key ≠ other.key)
    (options : Options) :
    setting ∈ (Setting.put options other).settings ↔ setting ∈ options.settings := by
  cases other with
  | marker | artifactName | extension | indent | embedAttribute =>
    cases setting <;> simp_all [settings, Setting.put, Setting.key]

/-- One field has one value. -/
theorem eq_of_mem_settings {options : Options} {first second : Setting}
    (hasFirst : first ∈ options.settings) (hasSecond : second ∈ options.settings)
    (same : first.key = second.key) : first = second :=
  List.inj_on_of_nodup_map options.distinct_settings hasFirst hasSecond same

section Listed

variable {given : List Setting} {setting : Setting}

/-- Fields that are not among the settings stay as they are. -/
theorem mem_settings_foldl_iff (start : Options) (other : setting.key ∉ given.map Setting.key) :
    setting ∈ (given.foldl Setting.put start).settings ↔ setting ∈ start.settings := by
  induction given generalizing start with
  | nil => exact Iff.rfl
  | cons first given ih =>
    rw [List.map_cons, List.mem_cons, not_or] at other
    rw [List.foldl_cons, ih _ other.2, mem_settings_put_iff other.1]

/-- A setting that is given is kept, as its field is not given again. -/
theorem mem_settings_foldl (start : Options) (distinct : (given.map Setting.key).Nodup)
    (member : setting ∈ given) : setting ∈ (given.foldl Setting.put start).settings := by
  induction given generalizing start with
  | nil => cases member
  | cons first given ih =>
    rw [List.map_cons, List.nodup_cons] at distinct
    cases member with
    | head =>
      rw [List.foldl_cons, mem_settings_foldl_iff _ distinct.1]
      exact mem_settings_put start setting
    | tail _ later => exact ih _ distinct.2 later

/-- The options have the settings that are given, and defaults for the other fields. -/
theorem mem_settings_listed_iff (distinct : (given.map Setting.key).Nodup) :
    setting ∈ (listed given).settings ↔ setting ∈ given ∨
      setting.key ∉ given.map Setting.key ∧ setting ∈ default.settings := by
  by_cases known : setting.key ∈ given.map Setting.key
  · obtain ⟨first, member, same⟩ := List.mem_map.1 known
    have kept := mem_settings_foldl default distinct member
    constructor
    · intro has
      exact .inl (eq_of_mem_settings has kept same.symm ▸ member)
    · rintro (member | ⟨unknown, -⟩)
      · exact mem_settings_foldl default distinct member
      · exact absurd known unknown
  · have notGiven : setting ∉ given := fun member => known (List.mem_map_of_mem member)
    rw [listed, mem_settings_foldl_iff default known, or_iff_right notGiven, and_iff_right known]

end Listed

/-- A field as settings write it. -/
def form (setting : Setting) : FieldForm :=
  ⟨setting.key, (· = setting.toJson), setting ∈ default.settings⟩

theorem forms_eq (options : Options) : options.forms = options.settings.map form := by
  simp [forms, settings, form, Setting.key, Setting.toJson]

/-- The object that lists settings stands for the options that have them. -/
theorem storedAs_object {given : List Setting} (distinct : (given.map Setting.key).Nodup) :
    (listed given).StoredAs (Setting.object given) := by
  have keys : (given.map fun setting => (setting.key, setting.toJson)).map Prod.fst =
      given.map Setting.key := by
    rw [List.map_map]
    rfl
  refine ⟨_, rfl, ?_, ?_, ?_⟩
  · rw [keys]
    exact distinct.filter _
  · intro member member_ form listedForm same
    obtain ⟨setting, isGiven, rfl⟩ := List.mem_map.1 member_
    rw [forms_eq] at listedForm
    obtain ⟨other, has, rfl⟩ := List.mem_map.1 listedForm
    have kept := (mem_settings_listed_iff distinct).2 (.inl isGiven)
    rw [eq_of_mem_settings has kept same]
    rfl
  · intro form listedForm
    rw [forms_eq] at listedForm
    obtain ⟨setting, has, rfl⟩ := List.mem_map.1 listedForm
    rw [keys]
    obtain isGiven | ⟨-, isDefault⟩ := (mem_settings_listed_iff distinct).1 has
    · exact .inl (List.mem_map_of_mem isGiven)
    · exact .inr isDefault

/-- Each text of the object is read as the options that have the settings. -/
theorem decode_settings {given : List Setting} (distinct : (given.map Setting.key).Nodup)
    {text : String} (hasText : (Setting.object given).HasText text) :
    reader.decode text = .ok (listed given) :=
  (listed given).takes.decode (storedAs_object distinct) hasText

/-! ## Settings that are applied -/

theorem toList_withExtension (options : Options) (extension : String) :
    (options.withExtension extension).extension.toList =
      extension.toList.dropWhile (· == '.') := String.toList_ofList

/-- Applying a setting to options without leading dots in their extension clears it of
leading dots too. -/
theorem apply_cleared (options : Options) (setting : Setting) :
    setting.apply (options.withExtension options.extension) =
      (setting.put options).withExtension (setting.put options).extension := by
  cases setting <;> rfl

/-- What is built is what is listed, with the extension cleared of leading dots. -/
theorem built_eq (given : List Setting) :
    built given = (listed given).withExtension (listed given).extension := by
  have run (start : Options) :
      given.foldl Setting.apply (start.withExtension start.extension) =
        (given.foldl Setting.put start).withExtension
          (given.foldl Setting.put start).extension := by
    induction given generalizing start with
    | nil => rfl
    | cons first given ih => rw [List.foldl_cons, List.foldl_cons, apply_cleared, ih]
  have plain : default.withExtension default.extension = default := by decide
  rw [built, ← plain]
  exact run default

/-- The extension begins with a dot. -/
def HasDottedExtension (options : Options) : Prop := options.extension.toList.head? = some '.'

instance (options : Options) : Decidable options.HasDottedExtension :=
  inferInstanceAs (Decidable (_ = _))

theorem not_hasDottedExtension_withExtension (options : Options) (extension : String) :
    ¬ (options.withExtension extension).HasDottedExtension := by
  unfold HasDottedExtension
  rw [toList_withExtension]
  intro dotted
  have first := List.head?_dropWhile_not (· == '.') extension.toList
  rw [dotted] at first
  cases first

/-- There is nothing to clear if the extension does not begin with a dot. -/
theorem extension_cleared_iff (options : Options) :
    options.extension = (options.withExtension options.extension).extension ↔
      ¬ options.HasDottedExtension := by
  constructor
  · intro same dotted
    refine not_hasDottedExtension_withExtension options options.extension ?_
    unfold HasDottedExtension at dotted ⊢
    rw [← same, dotted]
  · intro plain
    rw [← String.toList_inj, toList_withExtension]
    unfold HasDottedExtension at plain
    cases spelled : options.extension.toList with
    | nil => rfl
    | cons c rest =>
      rw [spelled, List.head?_cons, Option.some_inj] at plain
      rw [List.dropWhile_cons_of_neg (by simpa using plain)]

theorem cleared_eq_iff (options : Options) :
    options = options.withExtension options.extension ↔ ¬ options.HasDottedExtension := by
  refine Iff.trans ⟨fun same => congrArg extension same, fun same => ?_⟩
    options.extension_cleared_iff
  exact congrArg (fun extension => { options with extension }) same

/-- Another extension is another hint name. -/
theorem hintName_withExtension_iff (options : Options) (extension : String)
    (declaration : Option String) (scope : String) :
    options.hintName declaration scope =
        (options.withExtension extension).hintName declaration scope ↔
      options.extension = (options.withExtension extension).extension := by
  rw [← String.toList_inj, toList_hintName, toList_hintName, List.append_cancel_left_eq]
  change options.artifactName.toList ++ _ = options.artifactName.toList ++ _ ↔ _
  rw [List.append_cancel_left_eq, List.append_cancel_left_eq, String.toList_inj]

/-- Settings of distinct fields, in any order, are read from each text of the object that
lists them.  What is read has the settings as they are given and defaults elsewhere.  What is
built from them in code is this with the extension cleared of the dots it starts with, so it
never has such a dot.  If there is one in what is read, and only then, the two differ, and so
do all their hint names. -/
theorem decode_settings_built {given : List Setting} (distinct : (given.map Setting.key).Nodup)
    {text : String} (hasText : (Setting.object given).HasText text) :
    ∃ loaded, reader.decode text = .ok loaded ∧
      (∀ setting, setting ∈ loaded.settings ↔ setting ∈ given ∨
        setting.key ∉ given.map Setting.key ∧ setting ∈ default.settings) ∧
      built given = loaded.withExtension loaded.extension ∧
      ¬ (built given).HasDottedExtension ∧
      (loaded = built given ↔ ¬ loaded.HasDottedExtension) ∧
      ∀ declaration scope,
        loaded.hintName declaration scope = (built given).hintName declaration scope ↔
          ¬ loaded.HasDottedExtension := by
  refine ⟨listed given, decode_settings distinct hasText,
    fun setting => mem_settings_listed_iff distinct, built_eq given, ?_, ?_, ?_⟩
  · rw [built_eq]
    exact not_hasDottedExtension_withExtension (listed given) _
  · rw [built_eq]
    exact cleared_eq_iff (listed given)
  · intro declaration scope
    rw [built_eq, hintName_withExtension_iff]
    exact extension_cleared_iff (listed given)

/-- Three settings in an order of their own, with dots inside and behind the extension. -/
theorem decode_settings_built_inner :
    let given : List Setting := [.embedAttribute false, .extension "g.txt.", .indent 2]
    (given.map Setting.key).Nodup ∧
      (Setting.object given).HasText (Setting.object given).render ∧
      reader.decode (Setting.object given).render = .ok (built given) := by
  intro given
  have distinct : (given.map Setting.key).Nodup := by decide +kernel
  have hasText := (Setting.object given).hasText_render
  obtain ⟨loaded, decoded, has, -, -, same, -⟩ := decode_settings_built distinct hasText
  have isGiven : Setting.extension "g.txt." ∈ loaded.settings :=
    (has _).2 (.inl (.tail _ (.head _)))
  have extension : "g.txt." = loaded.extension := by simpa [settings] using isGiven
  have plain : ¬ loaded.HasDottedExtension := by
    unfold HasDottedExtension
    rw [← extension]
    decide
  exact ⟨distinct, hasText, decoded.trans (congrArg _ (same.2 plain))⟩

/-- An extension with a leading dot is read as it stands and built without the dot. -/
theorem not_decode_built_dotted :
    reader.decode (Setting.object [.extension ".txt"]).render =
        .ok { default with extension := ".txt" } ∧
      hintName { default with extension := ".txt" } none "" = "CharExtensions.g..txt" ∧
      (built [.extension ".txt"]).hintName none "" = "CharExtensions.g.txt" ∧
      ¬ ∀ given : List Setting, (given.map Setting.key).Nodup →
        ∀ text, (Setting.object given).HasText text → reader.decode text = .ok (built given) := by
  have distinct : ([.extension ".txt"].map Setting.key).Nodup := by decide
  have hasText := (Setting.object [.extension ".txt"]).hasText_render
  have decoded := decode_settings distinct hasText
  refine ⟨decoded, by decide +kernel, by decide +kernel, fun agree => ?_⟩
  have same := Except.ok.inj (decoded.symm.trans (agree _ distinct _ hasText))
  have differ : (listed [.extension ".txt"]).extension ≠ (built [.extension ".txt"]).extension := by
    decide +kernel
  exact differ (congrArg extension same)

end Options

end CharDispatch
