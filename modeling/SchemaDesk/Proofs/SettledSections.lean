import SchemaDesk.Proofs.NormalSections

/-!
# Sections in normal form are settled

What a section is read as lies within the ranges of its settings, whatever stood in the section.
Read once more, or as what an assistant is configured with, a normal form stays as it is.
-/

namespace SchemaDesk

open Settings

namespace FormatterSettings

/-- Each setting of the formatter lies within its range. -/
structure InRange (settings : FormatterSettings) : Prop where
  mode : settings.toFields.get "mode" = .ofString "cli" ∨
    settings.toFields.get "mode" = .ofString "service"
  timeout : 1000 ≤ settings.timeout ∧ settings.timeout ≤ 60000
  trimmed : ∀ s ∈ [settings.serviceUrl, settings.command, settings.projectRoot],
    CodeText.strip s = s

section

variable {raw : Json} {settings : FormatterSettings}

theorem inRange_of_ofSection (hsettings : ofSection raw = .ok settings) : settings.InRange := by
  have htimeout := timeout_bounds hsettings
  obtain ⟨timeout, -, hsettings⟩ := bind_eq_ok hsettings
  cases hsettings
  refine ⟨?_, htimeout, by simp [strip_stringOf]⟩
  simp only [toFields]
  cases modeOf _ with
  | commandLine => exact .inl rfl
  | service => exact .inr rfl

@[simp]
theorem modeOf_name (mode : FormatterMode) : modeOf mode.name = mode := by
  cases mode <;> decide

/-- Settings within their ranges are read as they are. -/
theorem InRange.ofSection_toFields (hrange : settings.InRange) :
    ofSection (.obj settings.toFields) = .ok settings := by
  have hfilled : filledIn formatterDefaults (.obj settings.toFields) = settings.toFields := rfl
  have htimeout : numberOf formatterDefaults settings.toFields "timeout_ms" 1000 60000 =
      .ok settings.timeout :=
    numberOf_of_bounds rfl rfl hrange.timeout
  have hmode : modeOf (settings.toFields.get "mode").lenientText = settings.mode := by
    simp [toFields, Fields.get, Fields.get?, Keyed.get?]
  have hurl : stringOf settings.toFields "service_url" = settings.serviceUrl :=
    stringOf_of_str rfl (hrange.trimmed _ (by simp))
  have hcommand : stringOf settings.toFields "prisma_command" = settings.command :=
    stringOf_of_str rfl (hrange.trimmed _ (by simp))
  have hroot : stringOf settings.toFields "project_root" = settings.projectRoot :=
    stringOf_of_str rfl (hrange.trimmed _ (by simp))
  simp only [ofSection, hfilled, htimeout, hmode, hurl, hcommand, hroot]
  rfl

end

end FormatterSettings

namespace AssistantSettings

/-- Each setting of the assistant lies within its range. -/
structure InRange (settings : AssistantSettings) : Prop where
  debounce : 40 ≤ settings.debounce ∧ settings.debounce ≤ 5000
  timeout : 1000 ≤ settings.timeout ∧ settings.timeout ≤ 30000
  maxTokens : 16 ≤ settings.maxTokens ∧ settings.maxTokens ≤ 512
  cacheSize : 1 ≤ settings.cacheSize ∧ settings.cacheSize ≤ 64
  named : ∀ s ∈ [settings.baseUrl, settings.model, settings.language],
    s ≠ [] ∧ CodeText.strip s = s
  apiKey : CodeText.strip settings.apiKey = settings.apiKey

section

variable {environment : Environment} {fields : Fields} {settings : AssistantSettings}

theorem IsNormalForm.inRange (hnormal : IsNormalForm environment fields settings) :
    settings.InRange where
  debounce := numberOf_bounds debounce_default (by decide) (by decide) hnormal.debounce
  timeout := numberOf_bounds timeout_default (by decide) (by decide) hnormal.timeout
  maxTokens := numberOf_bounds maxTokens_default (by decide) (by decide) hnormal.maxTokens
  cacheSize := numberOf_bounds cacheSize_default (by decide) (by decide) hnormal.cacheSize
  named := by
    simp only [List.forall_mem_cons, List.not_mem_nil, false_implies, implies_true, and_true]
    rw [hnormal.baseUrl, hnormal.model, hnormal.language]
    exact ⟨⟨namedString_ne_nil (by decide), strip_namedString (by decide)⟩,
      ⟨namedString_ne_nil (by decide), strip_namedString (by decide)⟩,
      ⟨namedString_ne_nil (by decide), strip_namedString (by decide)⟩⟩
  apiKey := hnormal.apiKey ▸ strip_keyOf environment fields

end

theorem ofFields_toFields (settings : AssistantSettings) :
    ofFields settings.toFields = .ok settings :=
  rfl

/-- An assistant is configured with the normal form itself. -/
theorem configuredBy_eq_ofSection (environment : Environment) (raw : Json) :
    configuredBy environment raw = ofSection environment raw := by
  rw [configuredBy]
  cases ofSection environment raw with
  | error e => rfl
  | ok normal => simp only [bind, Except.bind, ofFields_toFields]

end AssistantSettings

namespace Settings

/-- Whatever stands in a section and in the environment: where the section has a normal form, its
settings lie within their ranges, and they are its normal form again. An assistant is configured
with the same settings by the section and by its normal form. -/
theorem normal_form_settled :
    (∀ (raw : Json) (settings : FormatterSettings), FormatterSettings.ofSection raw = .ok settings →
      settings.InRange ∧ FormatterSettings.ofSection (.obj settings.toFields) = .ok settings) ∧
    ∀ (environment : Environment) (raw : Json) (settings : AssistantSettings),
      AssistantSettings.ofSection environment raw = .ok settings →
        settings.InRange ∧
        AssistantSettings.ofSection environment (.obj settings.toFields) = .ok settings ∧
        AssistantSettings.configuredBy environment raw = .ok settings ∧
        AssistantSettings.configuredBy environment (.obj settings.toFields) = .ok settings := by
  refine ⟨?_, ?_⟩
  · intro raw settings hsettings
    have hrange := FormatterSettings.inRange_of_ofSection hsettings
    exact ⟨hrange, hrange.ofSection_toFields⟩
  · intro environment raw settings hsettings
    have hrange := (AssistantSettings.ofSection_eq_ok_iff.mp hsettings).inRange
    have hagain := AssistantSettings.ofSection_toFields hsettings
    simp only [AssistantSettings.configuredBy_eq_ofSection]
    exact ⟨hrange, hagain, hsettings, hagain⟩

/-- A mode in other letters with a number as a text; and a key from the environment in place of
white space, with texts and numbers that do not fit. -/
theorem normal_form_settled_unfit :
    (∃ settings, FormatterSettings.ofSection
        (.obj [("mode", .ofString " SERVICE\n"), ("prisma_command", .arr [.int 1, .null]),
          ("timeout_ms", .ofString "5")]) = .ok settings ∧
      settings.InRange ∧ FormatterSettings.ofSection (.obj settings.toFields) = .ok settings) ∧
    ∃ settings, AssistantSettings.ofSection
        (fun name => if name = "OPENAI_API_KEY" then some " sk-env ".toList else none)
        (.obj [("api_key", .ofString "  "), ("model", .int 0), ("base_url", .ofString "\t"),
          ("debounce_ms", .null), ("cache_size", .ofString " 1_000 ")]) = .ok settings ∧
      settings.InRange ∧ settings.apiKey = "sk-env".toList ∧ settings.cacheSize = 64 ∧
      AssistantSettings.configuredBy
        (fun name => if name = "OPENAI_API_KEY" then some " sk-env ".toList else none)
        (.obj settings.toFields) = .ok settings := by
  have hformatter : FormatterSettings.ofSection
      (.obj [("mode", .ofString " SERVICE\n"), ("prisma_command", .arr [.int 1, .null]),
        ("timeout_ms", .ofString "5")]) =
      .ok { mode := .service, serviceUrl := "http://127.0.0.1:3000/api/format-schema".toList,
            command := "[1, None]".toList, projectRoot := [], timeout := 1000 } := by
    decide +kernel
  have hassistant : AssistantSettings.ofSection
      (fun name => if name = "OPENAI_API_KEY" then some " sk-env ".toList else none)
      (.obj [("api_key", .ofString "  "), ("model", .int 0), ("base_url", .ofString "\t"),
        ("debounce_ms", .null), ("cache_size", .ofString " 1_000 ")]) =
      .ok { enabled := false, baseUrl := "https://api.openai.com/v1".toList,
            apiKey := "sk-env".toList, model := "gpt-3.5-turbo".toList,
            language := "prisma".toList, debounce := 500, timeout := 10000, maxTokens := 100,
            cacheSize := 64 } := by
    decide +kernel
  obtain ⟨hrange, -, -, hconfigured⟩ := normal_form_settled.2 _ _ _ hassistant
  exact ⟨⟨_, hformatter, normal_form_settled.1 _ _ hformatter⟩,
    _, hassistant, hrange, rfl, rfl, hconfigured⟩

end Settings

end SchemaDesk
