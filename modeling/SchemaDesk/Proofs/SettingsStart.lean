import SchemaDesk.Launch.Start
import SchemaDesk.Proofs.NormalSections
import SchemaDesk.Proofs.SettingsCycle
import SchemaDesk.Proofs.SettingsHistory

/-!
# Starting from a settings file

From which settings files the formatter and the assistant can be made. A file that is no
text, no document or no object does no harm, nor does any value in any place of one that is;
but two things do: nesting too deep to be read, and an infinite value where a whole number
is wanted.
-/

namespace SchemaDesk.Launch

open SettingsStore Settings

/-- The formatter and the assistant can be made from what a file holds: the settings are
loaded, each section has a normal form, a formatter is chosen by the one, and a session of
the assistant takes the other. -/
def Survives (path : Path) (environment : Environment) (files : Files) : Prop :=
  ∃ store, loadSettings path files = .ok store ∧
    (∃ settings chosen,
      FormatterSettings.ofSection (.obj (store.sectionAt "formatter".toList)) = .ok settings ∧
        ChosenFormatter.ofSettings settings.toFields = .ok chosen) ∧
    ∃ settings,
      AssistantSettings.ofSection environment (.obj (store.sectionAt "ai".toList)) =
        .ok settings ∧
      ∀ session : AssistSession, ∃ result,
        (AssistantSettings.ofSection environment (.obj settings.toFields)).map
          session.updateSettings = .ok result

/-- Where files have the whole numbers of the formatter and the assistant. -/
def numberPaths : List (List CodeText) :=
  ["formatter", "timeout_ms"] ::
    AssistantSettings.numberNames.map fun name => [↑"ai", name]

/-- In the place of a whole number there is an infinite value. -/
def HoldsInfinity (fields : Fields) : Prop :=
  ∃ names ∈ numberPaths, ∃ value ∈ (Json.obj fields).atPath? names, value.IsInfinite

theorem not_holdsInfinity_nil : ¬HoldsInfinity [] := by
  rintro ⟨names, hnames, value, hvalue, -⟩
  simp only [numberPaths, AssistantSettings.numberNames, List.map_cons, List.map_nil, List.mem_cons,
    List.not_mem_nil, or_false] at hnames
  rcases hnames with rfl | rfl | rfl | rfl | rfl <;> cases hvalue

/-! ## Loading -/

/-- The store that a program starts with. -/
def freshStore (path : Path) : SettingsStore where
  path := path
  defaults := Settings.defaults
  data := Settings.defaults

theorem new_defaults (path : Path) :
    SettingsStore.new path Settings.defaults = .ok (freshStore path) :=
  rfl

theorem loadSettings_eq_ok_iff {path : Path} {files : Files} {store : SettingsStore} :
    loadSettings path files = .ok store ↔ (freshStore path).load files = (.ok (), store) := by
  rcases hload : (freshStore path).load files with ⟨loaded, after⟩
  rw [loadSettings, new_defaults]
  cases loaded <;> simp [Except.mapError, bind, Except.bind, pure, Except.pure, hload]

theorem exists_loadSettings_iff (path : Path) (files : Files) :
    (∃ store, loadSettings path files = .ok store) ↔
      (∃ found, files.exists? path = .ok found) ∧ ¬NestsTooDeeply files path := by
  have hload := StoreState.load_succeeds_iff (freshStore path) files
  simp only [loadSettings_eq_ok_iff]
  refine Iff.trans ⟨?_, ?_⟩ hload
  · rintro ⟨store, hstore⟩
    rw [hstore]
  · intro hloads
    exact ⟨_, Prod.ext hloads rfl⟩

/-! ## Sections -/

theorem sectionAt_eq (store : SettingsStore) {name : CodeText}
    (hname : Text.splitWhere (· == .char '.') name = [name]) :
    store.sectionAt name = sectionOf store.data name := by
  rw [sectionAt, SettingsStore.get?, hname, sectionOf]
  cases hpart : store.data.get? name with
  | none => simp [Json.atPath?, hpart]
  | some value => simp [Json.atPath?, hpart]

section Sections

variable {upper : Fields} (hupper : Json.Distinct (.obj upper))

include hupper

/-- A number is read as infinite exactly if a file has it so. -/
theorem isInfinite_iff {lower : Fields} {part name : CodeText} {number : Int}
    (hlower : Settings.defaults.get? part = some (.obj lower))
    (hnumber : lower.get? name = some (.int number)) :
    ((filledIn lower (.obj (sectionOf (overlay Settings.defaults upper) part))).get
      name).IsInfinite ↔ ∃ value ∈ (Json.obj upper).atPath? [part, name], value.IsInfinite := by
  rw [get_filledIn_overlay defaults_distinct hupper hlower hnumber rfl]
  cases (Json.obj upper).atPath? [part, name] with
  | none => simp [Json.IsInfinite]
  | some value => simp

theorem exists_sections_iff (environment : Environment) :
    ((∃ settings, FormatterSettings.ofSection
        (.obj (sectionOf (overlay Settings.defaults upper) "formatter")) = .ok settings) ∧
      ∃ settings, AssistantSettings.ofSection environment
        (.obj (sectionOf (overlay Settings.defaults upper) "ai")) = .ok settings) ↔
      ¬HoldsInfinity upper := by
  have hformatter : Settings.defaults.get? "formatter" = some (.obj formatterDefaults) := rfl
  have hassistant : Settings.defaults.get? "ai" = some (.obj assistantDefaults) := rfl
  have hnumbers (name : CodeText) (hname : name ∈ AssistantSettings.numberNames) :
      ∃ number, assistantDefaults.get? name = some (.int number) := by
    simp only [AssistantSettings.numberNames, List.mem_cons, List.not_mem_nil, or_false] at hname
    rcases hname with rfl | rfl | rfl | rfl <;> exact ⟨_, rfl⟩
  rw [FormatterSettings.exists_ofSection_iff, AssistantSettings.exists_ofSection_iff,
    isInfinite_iff hupper hformatter rfl, HoldsInfinity, numberPaths]
  simp only [List.mem_cons, List.mem_map, exists_eq_or_imp, exists_exists_and_eq_and, not_or,
    not_exists, not_and]
  refine and_congr_right fun _ => forall₂_congr ?_
  intro name hname
  obtain ⟨number, hnumber⟩ := hnumbers name hname
  rw [isInfinite_iff hupper hassistant hnumber]
  simp only [not_exists, not_and]

end Sections

/-! ## Starting -/

theorem survives_iff_sections (path : Path) (environment : Environment) (files : Files) :
    Survives path environment files ↔ ∃ store, loadSettings path files = .ok store ∧
      (∃ settings,
        FormatterSettings.ofSection (.obj (sectionOf store.data "formatter")) = .ok settings) ∧
      ∃ settings,
        AssistantSettings.ofSection environment (.obj (sectionOf store.data "ai")) =
          .ok settings := by
  have hformatter (store : SettingsStore) :
      store.sectionAt "formatter".toList = sectionOf store.data "formatter" :=
    sectionAt_eq store (by decide)
  have hassistant (store : SettingsStore) :
      store.sectionAt "ai".toList = sectionOf store.data "ai" :=
    sectionAt_eq store (by decide)
  simp only [Survives, hformatter, hassistant]
  refine exists_congr fun store => and_congr_right fun _ => and_congr ?_ ?_
  · refine exists_congr fun settings => ?_
    refine ⟨fun ⟨_, hsettings, _⟩ => hsettings, fun hsettings => ?_⟩
    have htimeout : settings.timeout.natAbs ≤ 60000 := by
      have hbounds := FormatterSettings.timeout_bounds hsettings
      omega
    obtain ⟨chosen, hchosen⟩ := ChosenFormatter.exists_ofSettings htimeout
    exact ⟨chosen, hsettings, hchosen⟩
  · refine exists_congr fun settings => ?_
    refine ⟨And.left, fun hsettings => ⟨hsettings, ?_⟩⟩
    intro session
    rw [AssistantSettings.ofSection_toFields hsettings]
    exact ⟨_, rfl⟩

/-- A program starts from a settings file exactly if the file is not nested too deeply and has
no infinite value in the place of a whole number. -/
theorem survives_iff_finite (path : Path) (environment : Environment) (files : Files) :
    Survives path environment files ↔
      (∃ found, files.exists? path = .ok found) ∧ ¬NestsTooDeeply files path ∧
        ∀ fields, HoldsObject files path fields → ¬HoldsInfinity fields := by
  have hloaded {store : SettingsStore} (hstore : loadSettings path files = .ok store) :
      (∃ settings, FormatterSettings.ofSection (.obj (sectionOf store.data "formatter")) =
          .ok settings) ∧
        (∃ settings, AssistantSettings.ofSection environment (.obj (sectionOf store.data "ai")) =
          .ok settings) ↔
        ∀ fields, HoldsObject files path fields → ¬HoldsInfinity fields := by
    obtain ⟨-, upper, hupper, -, hdata, hheld, hnothing⟩ :=
      exists_overlay_of_load (loadSettings_eq_ok_iff.mp hstore)
    have hdata : store.data = overlay Settings.defaults upper := hdata
    rw [hdata, exists_sections_iff hupper.distinct]
    refine ⟨fun hfinite fields hfields => ?_, fun hfinite => ?_⟩
    · rw [hheld fields hfields]
      exact hfinite
    · rcases hnothing with rfl | hfields
      · exact not_holdsInfinity_nil
      · exact hfinite upper hfields
  rw [survives_iff_sections, ← and_assoc, ← exists_loadSettings_iff, ← exists_and_right]
  exact exists_congr fun store => and_congr_right hloaded

/-- Settings with a timeout beyond all numbers. -/
def endlessFiles : Files :=
  Files.empty.put StoreState.homePath (.file (Text.Utf8.encode
    "\x7b\"formatter\": \x7b\"timeout_ms\": 1e999\x7d\x7d".toList))

/-- The file is loaded without a note, and the formatter cannot be made from it. -/
theorem endless_timeout_not_survived :
    (∃ store, loadSettings StoreState.homePath endlessFiles = .ok store ∧ store.problem = none ∧
      FormatterSettings.ofSection (.obj (store.sectionAt "formatter".toList)) =
        .error .infinityToWhole) ∧
      ∀ environment, ¬Survives StoreState.homePath environment endlessFiles := by
  have hloads : ((freshStore StoreState.homePath).load endlessFiles).1 = .ok () := by
    decide +kernel
  have hnote : ((freshStore StoreState.homePath).load endlessFiles).2.problem = none := by
    decide +kernel
  have hsection : FormatterSettings.ofSection
      (.obj (((freshStore StoreState.homePath).load endlessFiles).2.sectionAt
        "formatter".toList)) = .error .infinityToWhole := by
    decide +kernel
  have hload : loadSettings StoreState.homePath endlessFiles =
      .ok ((freshStore StoreState.homePath).load endlessFiles).2 :=
    loadSettings_eq_ok_iff.mpr (Prod.ext hloads rfl)
  refine ⟨⟨_, hload, hnote, hsection⟩, ?_⟩
  rintro environment ⟨store, hstore, ⟨settings, chosen, hsettings, -⟩, -⟩
  cases hload.symm.trans hstore
  cases hsection.symm.trans hsettings

end SchemaDesk.Launch
