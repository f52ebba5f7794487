import SchemaDesk.Formatting.Formatter
import SchemaDesk.Proofs.BinaryRounding
import SchemaDesk.Settings.Normal

/-!
# Outcomes of formatting

Whatever the first formatter answers, and whatever it lets through, a document is
formatted by it, or by the pass to fall back on, or stays as it is. A formatter that
settings choose falls back on the local pass, which cannot fail.
-/

namespace SchemaDesk

namespace Formatter

/-- The first formatter is configured and returns this result for a request. -/
def Returns (formatter : Formatter) (request : FormatRequest) (result : FormatResult) : Prop :=
  ∃ provider, formatter.primary = some provider ∧ provider.configured = true ∧
    (provider.format request).result = .ok result

/-- What an outcome for a document owes to the first formatter, which is handed the document
with the request, and to the pass to fall back on. -/
structure Accounts (formatter : Formatter) (request : FormatRequest) (source : Text)
    (outcome : FormatOutcome) : Prop where
  primary : outcome.mode = .primary ↔ ∃ result, formatter.Returns request result ∧ result.ok = true
  text : ∀ result, formatter.Returns request result → result.ok = true →
    outcome.text = result.text
  fallback : outcome.mode ≠ .primary → ∀ text, formatter.localPass source = .ok text →
    outcome.mode = .fallback ∧ outcome.text = text
  failed : outcome.mode ≠ .primary → ∀ fault, formatter.localPass source = .error fault →
    outcome.mode = .failed ∧ outcome.text = source ∧ outcome.changesDocument = false
  carried : ∀ result, formatter.Returns request result →
    outcome.debugLines = result.debugLines ∧
      (result.ok = false → outcome.primaryErrorKind = result.errorKind)
  unavailable : (∀ result, ¬ formatter.Returns request result) →
    outcome.primaryErrorKind = FormatErrorKind.unavailable.name ∧ outcome.debugLines = []

/-! ## The outcome for a result -/

section Outcome

variable (formatter : Formatter) (source : Text) {result : FormatResult}

theorem mode_outcome_eq_primary_iff (result : FormatResult) :
    (formatter.outcome source result).mode = .primary ↔ result.ok = true := by
  unfold outcome
  split
  next hok => exact iff_of_true rfl hok
  next hok =>
    refine iff_of_false (fun hmode => ?_) hok
    split at hmode <;> cases hmode

theorem text_outcome (hok : result.ok = true) :
    (formatter.outcome source result).text = result.text := by
  rw [outcome, if_pos hok]

theorem outcome_of_localPass {text : Text}
    (hmode : (formatter.outcome source result).mode ≠ .primary)
    (htext : formatter.localPass source = .ok text) :
    (formatter.outcome source result).mode = .fallback ∧
      (formatter.outcome source result).text = text := by
  rw [Ne, mode_outcome_eq_primary_iff] at hmode
  rw [outcome, if_neg hmode, htext]
  exact ⟨rfl, rfl⟩

theorem outcome_of_fault {fault : Fault}
    (hmode : (formatter.outcome source result).mode ≠ .primary)
    (hfault : formatter.localPass source = .error fault) :
    (formatter.outcome source result).mode = .failed ∧
      (formatter.outcome source result).text = source ∧
      (formatter.outcome source result).changesDocument = false := by
  rw [Ne, mode_outcome_eq_primary_iff] at hmode
  rw [outcome, if_neg hmode, hfault]
  exact ⟨rfl, rfl, rfl⟩

theorem debugLines_outcome (result : FormatResult) :
    (formatter.outcome source result).debugLines = result.debugLines := by
  unfold outcome
  split
  · rfl
  · split <;> rfl

theorem primaryErrorKind_outcome (hok : result.ok = false) :
    (formatter.outcome source result).primaryErrorKind = result.errorKind := by
  rw [outcome, if_neg (by simp [hok])]
  split <;> rfl

end Outcome

/-! ## What is asked of the first formatter -/

section Accounts

variable {formatter : Formatter} {request : FormatRequest}

theorem Returns.unique {result other : FormatResult} (hresult : formatter.Returns request result)
    (hother : formatter.Returns request other) : other = result := by
  obtain ⟨provider, hprimary, -, hvisit⟩ := hresult
  obtain ⟨again, hagain, -, hvisit'⟩ := hother
  obtain rfl : provider = again := Option.some.inj (hprimary.symm.trans hagain)
  exact Except.ok.inj (hvisit'.symm.trans hvisit)

theorem accounts_of_returns (source : Text) {result : FormatResult}
    (hresult : formatter.Returns request result) :
    formatter.Accounts request source (formatter.outcome source result) where
  primary := by
    rw [mode_outcome_eq_primary_iff]
    constructor
    · exact fun hok => ⟨result, hresult, hok⟩
    · rintro ⟨other, hother, hok⟩
      rwa [hresult.unique hother] at hok
  text other hother hok := by
    obtain rfl := hresult.unique hother
    exact text_outcome formatter source hok
  fallback hmode _ htext := outcome_of_localPass formatter source hmode htext
  failed hmode _ hfault := outcome_of_fault formatter source hmode hfault
  carried other hother := by
    obtain rfl := hresult.unique hother
    exact ⟨debugLines_outcome formatter source other, primaryErrorKind_outcome formatter source⟩
  unavailable hmissing := absurd hresult (hmissing result)

theorem accounts_of_missing (source message : Text)
    (hmissing : ∀ result, ¬ formatter.Returns request result) :
    formatter.Accounts request source
      (formatter.outcome source (.failed .unavailable message [])) where
  primary := by
    rw [mode_outcome_eq_primary_iff]
    constructor
    · intro hok
      cases hok
    · rintro ⟨result, hresult, -⟩
      exact absurd hresult (hmissing result)
  text result hresult := absurd hresult (hmissing result)
  fallback hmode _ htext := outcome_of_localPass formatter source hmode htext
  failed hmode _ hfault := outcome_of_fault formatter source hmode hfault
  carried result hresult := absurd hresult (hmissing result)
  unavailable _ :=
    ⟨primaryErrorKind_outcome formatter source rfl, debugLines_outcome formatter source _⟩

theorem accounts_format (formatter : Formatter) (source filePath projectRoot : Text) :
    formatter.Accounts { source := some source, filePath, projectRoot } source
      (formatter.format source filePath projectRoot).outcome := by
  unfold format
  split
  next provider hprimary =>
    split
    next hconfigured =>
      dsimp only
      cases hvisit : (provider.format { source := some source, filePath, projectRoot }).result with
      | ok result =>
        rw [settle, hvisit]
        exact accounts_of_returns source ⟨provider, hprimary, hconfigured, hvisit⟩
      | error fault =>
        rw [settle, hvisit]
        refine accounts_of_missing source fault.message ?_
        rintro result ⟨again, hagain, -, hresult⟩
        obtain rfl : provider = again := Option.some.inj (hprimary.symm.trans hagain)
        cases hvisit.symm.trans hresult
    next hconfigured =>
      refine accounts_of_missing source _ ?_
      rintro result ⟨again, hagain, hagainConfigured, -⟩
      obtain rfl : provider = again := Option.some.inj (hprimary.symm.trans hagain)
      exact hconfigured hagainConfigured
  next hprimary =>
    refine accounts_of_missing source _ ?_
    rintro result ⟨again, hagain, -⟩
    cases hprimary.symm.trans hagain

end Accounts

end Formatter

/-! ## Formatters that settings choose -/

namespace Json

theorem clampedWhole_bounds {value : Json} {low high fallback i : Int} (hle : low ≤ high)
    (hlow : low ≤ fallback) (hhigh : fallback ≤ high)
    (hwhole : value.clampedWhole low high fallback = .ok i) : low ≤ i ∧ i ≤ high := by
  unfold clampedWhole at hwhole
  split at hwhole
  next =>
    cases hwhole
    omega
  next =>
    split at hwhole
    · cases hwhole
    · cases hwhole
      exact ⟨hlow, hhigh⟩

end Json

theorem FormatterSettings.timeout_bounds {raw : Json} {settings : FormatterSettings}
    (hsettings : ofSection raw = .ok settings) :
    1000 ≤ settings.timeout ∧ settings.timeout ≤ 60000 := by
  unfold ofSection at hsettings
  obtain ⟨timeout, htimeout, hsettings⟩ := bind_eq_ok hsettings
  obtain ⟨fallback, hfallback, hclamped⟩ := bind_eq_ok htimeout
  cases hsettings
  cases hfallback
  exact Json.clampedWhole_bounds (by decide) (by decide) (by decide) hclamped

theorem Json.exists_toFloat_int {i : Int} (hi : i.natAbs ≤ 60000) :
    ∃ value, (Json.int i).toFloat = .ok value := by
  obtain ⟨value, hvalue⟩ := Decimal.Binary64.exists_ofInt? (i := i) <| calc
    (i.natAbs : ℚ) ≤ 60000 := by exact_mod_cast hi
    _ < 2 ^ (16 : ℤ) := by norm_num
    _ ≤ 2 ^ (1023 : ℤ) := zpow_le_zpow_right₀ (by norm_num) (by norm_num)
  exact ⟨value, by rw [Json.toFloat, hvalue]⟩

theorem Json.exists_toFloat_orElse (value other : Decimal.Binary64) :
    ∃ seconds, ((Json.float value).orElse (.float other)).toFloat = .ok seconds := by
  unfold Json.orElse
  split <;> exact ⟨_, rfl⟩

theorem FormatService.exists_ofSettings (url : Json) (value : Decimal.Binary64) :
    ∃ remote, ofSettings url (.float value) = .ok remote := by
  obtain ⟨seconds, hseconds⟩ := Json.exists_toFloat_orElse value (.ofRatio false 15 1)
  exact ⟨_, by rw [ofSettings, defaultTimeout, hseconds]; rfl⟩

theorem FormatCommand.exists_ofSettings (command : Json) (value : Decimal.Binary64) :
    ∃ tool, ofSettings command (.float value) = .ok tool := by
  obtain ⟨seconds, hseconds⟩ := Json.exists_toFloat_orElse value (.ofRatio false 15 1)
  exact ⟨_, by rw [ofSettings, defaultTimeout, hseconds]; rfl⟩

namespace ChosenFormatter

theorem exists_seconds {timeout : Int} (htimeout : timeout.natAbs ≤ 60000) :
    ∃ value, seconds (.int timeout) = .ok value := by
  have hfloat : ∃ value, ((Json.int timeout).orElse (.int 15000)).toFloat = .ok value := by
    unfold Json.orElse
    split
    · exact Json.exists_toFloat_int htimeout
    · exact Json.exists_toFloat_int (by decide)
  obtain ⟨value, hvalue⟩ := hfloat
  exact ⟨_, by rw [seconds, hvalue]; rfl⟩

theorem exists_ofSettings {settings : FormatterSettings}
    (htimeout : settings.timeout.natAbs ≤ 60000) :
    ∃ chosen, ofSettings settings.toFields = .ok chosen := by
  obtain ⟨value, hvalue⟩ := exists_seconds htimeout
  have hseconds : seconds (settings.toFields.get "timeout_ms") = .ok value := hvalue
  unfold ofSettings
  rw [hseconds]
  dsimp only [bind, Except.bind]
  split
  next =>
    obtain ⟨remote, hremote⟩ :=
      FormatService.exists_ofSettings (settings.toFields.get "service_url") value
    exact ⟨.service remote, by rw [hremote]; rfl⟩
  next =>
    obtain ⟨tool, htool⟩ :=
      FormatCommand.exists_ofSettings (settings.toFields.get "prisma_command") value
    exact ⟨.command tool, by rw [htool]; rfl⟩

end ChosenFormatter

theorem Formatter.Accounts.resolved {formatter : Formatter} {request : FormatRequest}
    {source text : Text} {outcome : FormatOutcome}
    (haccounts : formatter.Accounts request source outcome)
    (htext : formatter.localPass source = .ok text) :
    outcome.mode ≠ .failed ∧
      ((∃ result, formatter.Returns request result ∧ result.ok = true ∧
          outcome.text = result.text) ∨
        outcome.text = text) := by
  by_cases hmode : outcome.mode = .primary
  · obtain ⟨result, hresult, hok⟩ := haccounts.primary.mp hmode
    refine ⟨by simp [hmode], .inl ⟨result, hresult, hok, haccounts.text result hresult hok⟩⟩
  · obtain ⟨hfallback, hpass⟩ := haccounts.fallback hmode text htext
    exact ⟨by simp [hfallback], .inr hpass⟩

/-- Formatting always comes to an outcome: the text of the first formatter exactly when that
is configured and gives one, else what the pass to fall back on makes of the document, else
the document as it is. A formatter that settings in normal form choose never fails. -/
theorem Formatter.format_resolved :
    (∀ (formatter : Formatter) (source filePath projectRoot : Text),
      formatter.Accounts { source := some source, filePath, projectRoot } source
        (formatter.format source filePath projectRoot).outcome) ∧
    ∀ (raw : Json) (settings : FormatterSettings), FormatterSettings.ofSection raw = .ok settings →
      ∃ chosen, ChosenFormatter.ofSettings settings.toFields = .ok chosen ∧
        ∀ (network : Network) (place : Workplace) (source filePath projectRoot : Text),
          let formatter := chosen.formatter network place
          let outcome := (formatter.format source filePath projectRoot).outcome
          outcome.mode ≠ .failed ∧
            ((∃ result,
              formatter.Returns { source := some source, filePath, projectRoot } result ∧
                result.ok = true ∧ outcome.text = result.text) ∨
              outcome.text = LocalPass.format source) := by
  refine ⟨accounts_format, ?_⟩
  intro raw settings hsettings
  have htimeout : settings.timeout.natAbs ≤ 60000 := by
    have hbounds := FormatterSettings.timeout_bounds hsettings
    omega
  obtain ⟨chosen, hchosen⟩ := ChosenFormatter.exists_ofSettings htimeout
  refine ⟨chosen, hchosen, ?_⟩
  intro network place source filePath projectRoot
  exact (accounts_format (chosen.formatter network place) source filePath projectRoot).resolved rfl

/-- A section that gives a service, at an address without a scheme, less than a second. -/
theorem Formatter.format_resolved_bare_address :
    ∃ settings chosen,
      FormatterSettings.ofSection
        (.obj [("mode", .ofString " Service"), ("service_url", .ofString "localhost"),
          ("timeout_ms", .int 5)]) = .ok settings ∧
      settings.timeout = 1000 ∧
      ChosenFormatter.ofSettings settings.toFields = .ok chosen ∧
      ∀ (network : Network) (place : Workplace),
        ((chosen.formatter network place).format "model A ".toList [] []).outcome.mode ≠
          .failed := by
  have hsettings : FormatterSettings.ofSection
      (.obj [("mode", .ofString " Service"), ("service_url", .ofString "localhost"),
        ("timeout_ms", .int 5)]) =
      .ok { mode := .service, serviceUrl := "localhost".toList, command := [],
            projectRoot := [], timeout := 1000 } := by
    decide +kernel
  obtain ⟨chosen, hchosen, hresolved⟩ := Formatter.format_resolved.2 _ _ hsettings
  exact ⟨_, chosen, hsettings, rfl, hchosen, fun network place => (hresolved network place _ _ _).1⟩

end SchemaDesk
