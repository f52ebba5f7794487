import SchemaDesk.Proofs.FormatOutcomes
import SchemaDesk.Proofs.ObjectMembers
import SchemaDesk.Proofs.SettingsLayers
import SchemaDesk.Proofs.TextForms

/-!
# Sections that have a normal form

Whatever stands in a section, it has a normal form, with one exception: a number beyond all
numbers where a whole number is wanted. What is read for a setting is what was laid over the
defaults for it, or the default, and what was brought into normal form stays as it is.
-/

namespace SchemaDesk

namespace Json

/-- A floating-point value beyond all numbers. -/
def IsInfinite (value : Json) : Prop :=
  ∃ negative, value = .float (.infinity negative)

/-- Whatever else keeps a value from being a whole number, it is not that it is out of range. -/
theorem outOfRange_of_toWhole {value : Json} (hfinite : ¬value.IsInfinite) {e : ConversionError}
    (herror : value.toWhole = .error e) : e.outOfRange = false := by
  cases value with
  | bool b => cases herror
  | int i => cases herror
  | float x =>
      cases x with
      | infinity negative => exact absurd ⟨negative, rfl⟩ hfinite
      | finite => cases herror
      | nan =>
          cases herror
          rfl
  | str t =>
      unfold toWhole at herror
      dsimp only at herror
      split at herror
      next => cases herror
      next =>
        cases herror
        rfl
      next =>
        cases herror
        rfl
  | _ =>
      cases herror
      rfl

/-- Every value counts as some whole number between two bounds, unless it is infinite. -/
theorem exists_clampedWhole_iff (value : Json) (low high fallback : Int) :
    (∃ i, value.clampedWhole low high fallback = .ok i) ↔ ¬value.IsInfinite := by
  refine ⟨?_, ?_⟩
  · rintro ⟨i, hclamped⟩ ⟨negative, rfl⟩
    cases hclamped
  · intro hfinite
    unfold clampedWhole
    split
    next => exact ⟨_, rfl⟩
    next e herror =>
      rw [outOfRange_of_toWhole hfinite herror]
      exact ⟨fallback, rfl⟩

end Json

namespace Settings

open Json

/-! ## Numbers and strings of a section -/

section Field

variable {defaults fields : Fields} {name : CodeText} {fallback low high : Int}

theorem numberOf_eq (hdefault : defaults.get name = .int fallback) :
    numberOf defaults fields name low high = (fields.get name).clampedWhole low high fallback := by
  rw [numberOf, hdefault]
  rfl

theorem exists_numberOf_iff (hdefault : defaults.get name = .int fallback) (low high : Int) :
    (∃ i, numberOf defaults fields name low high = .ok i) ↔ ¬(fields.get name).IsInfinite := by
  rw [numberOf_eq hdefault]
  exact exists_clampedWhole_iff _ low high fallback

theorem numberOf_bounds (hdefault : defaults.get name = .int fallback) (hlow : low ≤ fallback)
    (hhigh : fallback ≤ high) {i : Int} (hnumber : numberOf defaults fields name low high = .ok i) :
    low ≤ i ∧ i ≤ high := by
  rw [numberOf_eq hdefault] at hnumber
  exact clampedWhole_bounds (Int.le_trans hlow hhigh) hlow hhigh hnumber

/-- A number within the bounds stays. -/
theorem numberOf_of_bounds (hdefault : defaults.get name = .int fallback) {i : Int}
    (hfield : fields.get name = .int i) (hbounds : low ≤ i ∧ i ≤ high) :
    numberOf defaults fields name low high = .ok i := by
  rw [numberOf_eq hdefault, hfield, clampedWhole, toWhole]
  exact congrArg Except.ok (by omega)

/-- A string that stands in for an empty one stands in again. -/
theorem ifEmpty_ifEmpty (own other : CodeText) :
    (if (if own.isEmpty then other else own).isEmpty then other
      else if own.isEmpty then other else own) = if own.isEmpty then other else own := by
  by_cases hown : own.isEmpty = true
  · simp only [if_pos hown, ite_self]
  · simp only [if_neg hown]

theorem strip_ifEmpty {own other : CodeText} (hown : CodeText.strip own = own)
    (hother : CodeText.strip other = other) :
    CodeText.strip (if own.isEmpty then other else own) =
      if own.isEmpty then other else own := by
  split
  · exact hother
  · exact hown

theorem strip_stringOf (fields : Fields) (name : CodeText) :
    CodeText.strip (stringOf fields name) = stringOf fields name :=
  Text.trimWhere_trimWhere CodePoint.isBlank _

/-- A trimmed string stays. -/
theorem stringOf_of_str {s : CodeText} (hfield : fields.get name = .str s)
    (hstrip : CodeText.strip s = s) : stringOf fields name = s := by
  rw [stringOf, hfield, lenientString_str, hstrip]

theorem strip_namedString
    (hdefault : CodeText.strip (defaults.get name).string = (defaults.get name).string) :
    CodeText.strip (namedString defaults fields name) = namedString defaults fields name :=
  strip_ifEmpty (strip_stringOf fields name) hdefault

theorem namedString_ne_nil (hdefault : (defaults.get name).string ≠ []) :
    namedString defaults fields name ≠ [] := by
  rw [namedString]
  split
  next => exact hdefault
  next hnonempty => simpa using hnonempty

/-- A string in normal form stays. -/
theorem namedString_of_str {again : Fields} {s : CodeText}
    (hdefault : CodeText.strip (defaults.get name).string = (defaults.get name).string)
    (hnamed : s = namedString defaults fields name) (hfield : again.get name = .str s) :
    s = namedString defaults again name := by
  have hstrip : CodeText.strip s = s := hnamed ▸ strip_namedString hdefault
  rw [namedString, stringOf_of_str hfield hstrip, hnamed, namedString, ifEmpty_ifEmpty]

end Field

/-! ## Sections of a file -/

/-- The section of settings at a name. -/
def sectionOf (data : Fields) (name : CodeText) : Fields :=
  ((data.get? name).bind Json.fields?).getD []

/-- What is read for a setting is what was laid over the defaults for it, or the default. -/
theorem get_filledIn_overlay {defaults lower upper : Fields} {part name : CodeText} {value : Json}
    (hdefaults : Distinct (.obj defaults)) (hupper : Distinct (.obj upper))
    (hlower : defaults.get? part = some (.obj lower)) (hvalue : lower.get? name = some value)
    (hscalar : value.isObject = false) :
    (filledIn lower (.obj (sectionOf (overlay defaults upper) part))).get name =
      ((Json.obj upper).atPath? [part, name]).getD value := by
  have hdistinct : (Keyed.keys (sectionOf (overlay defaults upper) part)).Nodup := by
    unfold sectionOf
    cases hpart : (overlay defaults upper).get? part with
    | none => exact List.nodup_nil
    | some found =>
        have hfound := distinct_get? (distinct_overlay hdefaults hupper) hpart
        cases found with
        | obj fields => exact (distinct_obj_iff.mp hfound).1
        | _ => exact List.nodup_nil
  have hread : ((sectionOf (overlay defaults upper) part).get? name).or (lower.get? name) =
      some (((Json.obj upper).atPath? [part, name]).getD value) := by
    rw [sectionOf, get?_overlay defaults (distinct_obj_iff.mp hupper).1, hlower, hvalue]
    cases hpart : upper.get? part with
    | none => simp [Json.atPath?, hpart, Json.fields?, hvalue]
    | some found =>
        cases found with
        | obj inner =>
            have hinner := (distinct_obj_iff.mp (distinct_get? hupper hpart)).1
            rw [Option.map_some, Option.some_or, Option.bind_some, overlayValue_obj, Json.fields?,
              Option.getD_some, get?_overlay lower hinner, hvalue]
            cases hfield : Fields.get? inner name with
            | none => simp [Json.atPath?, hpart, hfield]
            | some field =>
                simp [Json.atPath?, hpart, hfield, overlayValue_over_not_object hscalar]
        | _ => simp [Json.atPath?, hpart, overlayValue, Json.fields?]
  rw [filledIn, Fields.get, Json.fields?, Option.getD_some, Fields.get?_update _ hdistinct, hread]
  rfl

theorem defaults_distinct : Distinct (.obj defaults) := by
  have hscalars {fields : Fields} (hnames : (Keyed.keys fields).Nodup)
      (hvalues : ∀ field ∈ fields, Scalar field.2) : Distinct (.obj fields) :=
    .obj hnames fun field hmem => .scalar (hvalues field hmem)
  refine .obj (by decide) ?_
  intro field hmem
  simp only [defaults, List.mem_cons, List.not_mem_nil, or_false] at hmem
  rcases hmem with rfl | rfl | rfl
  · exact hscalars (by decide)
      (by simp [editorDefaults, ofString, Scalar.bool, Scalar.int, Scalar.str])
  · exact hscalars (by decide) (by simp [formatterDefaults, ofString, Scalar.int, Scalar.str])
  · exact hscalars (by decide)
      (by simp [assistantDefaults, ofString, Scalar.bool, Scalar.int, Scalar.str])

end Settings

/-! ## Normal forms -/

open Settings

/-- A section of the formatter has a normal form unless its number is infinite. -/
theorem FormatterSettings.exists_ofSection_iff (raw : Json) :
    (∃ settings, ofSection raw = .ok settings) ↔
      ¬((filledIn formatterDefaults raw).get "timeout_ms").IsInfinite := by
  have hdefault : formatterDefaults.get "timeout_ms" = .int 15000 := rfl
  rw [← exists_numberOf_iff hdefault 1000 60000]
  refine ⟨?_, ?_⟩
  · rintro ⟨settings, hsettings⟩
    obtain ⟨timeout, htimeout, -⟩ := bind_eq_ok hsettings
    exact ⟨timeout, htimeout⟩
  · rintro ⟨timeout, htimeout⟩
    exact ⟨_, by rw [ofSection, htimeout]; rfl⟩

namespace AssistantSettings

/-- The names of the numbers in a section of the assistant. -/
def numberNames : List CodeText :=
  ["debounce_ms", "inline_timeout_ms", "max_output_tokens", "cache_size"]

theorem debounce_default : assistantDefaults.get "debounce_ms" = .int 500 :=
  rfl

theorem timeout_default : assistantDefaults.get "inline_timeout_ms" = .int 10000 :=
  rfl

theorem maxTokens_default : assistantDefaults.get "max_output_tokens" = .int 100 :=
  rfl

theorem cacheSize_default : assistantDefaults.get "cache_size" = .int 8 :=
  rfl

/-- The key of a section, or else the one of the environment. -/
def keyOf (environment : Environment) (fields : Fields) : CodeText :=
  if (stringOf fields "api_key").isEmpty then CodeText.strip ((environment keyVariable).getD [])
  else stringOf fields "api_key"

/-- The settings are what these fields are read as. -/
structure IsNormalForm (environment : Environment) (fields : Fields)
    (settings : AssistantSettings) : Prop where
  enabled : settings.enabled = (fields.get "enabled").truthy
  baseUrl : settings.baseUrl = namedString assistantDefaults fields "base_url"
  apiKey : settings.apiKey = keyOf environment fields
  model : settings.model = namedString assistantDefaults fields "model"
  language : settings.language = namedString assistantDefaults fields "language"
  debounce : numberOf assistantDefaults fields "debounce_ms" 40 5000 = .ok settings.debounce
  timeout : numberOf assistantDefaults fields "inline_timeout_ms" 1000 30000 =
    .ok settings.timeout
  maxTokens : numberOf assistantDefaults fields "max_output_tokens" 16 512 =
    .ok settings.maxTokens
  cacheSize : numberOf assistantDefaults fields "cache_size" 1 64 = .ok settings.cacheSize

section NormalForm

variable {environment : Environment} {raw : Json} {fields : Fields} {settings : AssistantSettings}

theorem ofSection_eq_ok_iff : ofSection environment raw = .ok settings ↔
    IsNormalForm environment (filledIn assistantDefaults raw) settings := by
  refine ⟨?_, ?_⟩
  · intro hsettings
    obtain ⟨debounce, hdebounce, hsettings⟩ := bind_eq_ok hsettings
    obtain ⟨timeout, htimeout, hsettings⟩ := bind_eq_ok hsettings
    obtain ⟨maxTokens, hmaxTokens, hsettings⟩ := bind_eq_ok hsettings
    obtain ⟨cacheSize, hcacheSize, hsettings⟩ := bind_eq_ok hsettings
    cases hsettings
    exact ⟨rfl, rfl, rfl, rfl, rfl, hdebounce, htimeout, hmaxTokens, hcacheSize⟩
  · rintro ⟨henabled, hbase, hkey, hmodel, hlanguage, hdebounce, htimeout, hmaxTokens, hcacheSize⟩
    rw [ofSection, hdebounce, htimeout, hmaxTokens, hcacheSize, ← henabled, ← hbase, ← hmodel,
      ← hlanguage]
    rw [keyOf] at hkey
    exact hkey ▸ rfl

/-- A section of the assistant has a normal form unless one of its numbers is infinite. -/
theorem exists_ofSection_iff (environment : Environment) (raw : Json) :
    (∃ settings, ofSection environment raw = .ok settings) ↔
      ∀ name ∈ numberNames, ¬((filledIn assistantDefaults raw).get name).IsInfinite := by
  simp only [numberNames, List.forall_mem_cons, List.not_mem_nil, false_implies, implies_true,
    and_true]
  rw [← exists_numberOf_iff debounce_default 40 5000,
    ← exists_numberOf_iff timeout_default 1000 30000,
    ← exists_numberOf_iff maxTokens_default 16 512, ← exists_numberOf_iff cacheSize_default 1 64]
  refine ⟨?_, ?_⟩
  · rintro ⟨settings, hsettings⟩
    have hnormal := ofSection_eq_ok_iff.mp hsettings
    exact ⟨⟨_, hnormal.debounce⟩, ⟨_, hnormal.timeout⟩, ⟨_, hnormal.maxTokens⟩,
      ⟨_, hnormal.cacheSize⟩⟩
  · rintro ⟨⟨debounce, hdebounce⟩, ⟨timeout, htimeout⟩, ⟨maxTokens, hmaxTokens⟩,
      ⟨cacheSize, hcacheSize⟩⟩
    exact ⟨_, by rw [ofSection, hdebounce, htimeout, hmaxTokens, hcacheSize]; rfl⟩

theorem strip_keyOf (environment : Environment) (fields : Fields) :
    CodeText.strip (keyOf environment fields) = keyOf environment fields :=
  strip_ifEmpty (strip_stringOf fields "api_key") (Text.trimWhere_trimWhere CodePoint.isBlank _)

theorem keyOf_toFields (hkey : settings.apiKey = keyOf environment fields) :
    keyOf environment settings.toFields = settings.apiKey := by
  have hstrip : CodeText.strip settings.apiKey = settings.apiKey :=
    hkey ▸ strip_keyOf environment fields
  rw [keyOf, stringOf_of_str rfl hstrip, hkey, keyOf, ifEmpty_ifEmpty]

/-- Settings in normal form are read as they are. -/
theorem IsNormalForm.toFields (hnormal : IsNormalForm environment fields settings) :
    IsNormalForm environment settings.toFields settings where
  enabled := rfl
  baseUrl := namedString_of_str (by decide) hnormal.baseUrl rfl
  apiKey := (keyOf_toFields hnormal.apiKey).symm
  model := namedString_of_str (by decide) hnormal.model rfl
  language := namedString_of_str (by decide) hnormal.language rfl
  debounce := numberOf_of_bounds debounce_default rfl
    (numberOf_bounds debounce_default (by decide) (by decide) hnormal.debounce)
  timeout := numberOf_of_bounds timeout_default rfl
    (numberOf_bounds timeout_default (by decide) (by decide) hnormal.timeout)
  maxTokens := numberOf_of_bounds maxTokens_default rfl
    (numberOf_bounds maxTokens_default (by decide) (by decide) hnormal.maxTokens)
  cacheSize := numberOf_of_bounds cacheSize_default rfl
    (numberOf_bounds cacheSize_default (by decide) (by decide) hnormal.cacheSize)

theorem ofSection_toFields (hsettings : ofSection environment raw = .ok settings) :
    ofSection environment (.obj settings.toFields) = .ok settings := by
  have hfilled : filledIn assistantDefaults (.obj settings.toFields) = settings.toFields := rfl
  rw [ofSection_eq_ok_iff, hfilled]
  exact (ofSection_eq_ok_iff.mp hsettings).toFields

end NormalForm

end AssistantSettings

end SchemaDesk
