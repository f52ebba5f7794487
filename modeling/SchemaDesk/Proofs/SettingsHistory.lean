import SchemaDesk.Proofs.Run
import SchemaDesk.Proofs.SettingsEvents
import SchemaDesk.Proofs.TextForms
import SchemaDesk.Window

/-!
# The history of a settings store

What a settings store says about itself after any number of events: whether its settings
are in no file yet, and what was wrong with the file that was loaded last. Closing a window
saves settings of the first kind only, so it leaves alone what was there to be loaded.
-/

namespace SchemaDesk

namespace StoreState

open SettingsStore

/-- What a store remembers of the reports up to now. -/
structure Remembers (path : Path) (defaults : Fields) (reports : List StoreReport)
    (state : StoreState) : Prop where
  path_eq : state.store.path = path
  defaults_eq : state.store.defaults = defaults
  dirty_iff : state.store.dirty = true ↔ reports.getLast? = some .foundNothing

section Step

variable {path : Path} {defaults : Fields} {reports : List StoreReport} {state : StoreState}

theorem Remembers.load (hstate : Remembers path defaults reports state) :
    Remembers path defaults (reports ++ state.report .load) (state.step .load) := by
  obtain ⟨hpath, hdefaults, hdirty⟩ := hstate
  unfold report step
  rcases state.store.load_cases state.files with ⟨fault, hexists, heq⟩ | ⟨hexists, heq⟩ |
    ⟨hexists, -, e, heq⟩ | ⟨hexists, -, fields, -, heq⟩ | ⟨hexists, -, -, problem, heq⟩
  all_goals rw [heq, hexists]
  · exact ⟨hpath, hdefaults, by simpa using hdirty⟩
  · exact ⟨hpath, hdefaults, by simp⟩
  · exact ⟨hpath, hdefaults, by simpa using hdirty⟩
  · exact ⟨hpath, hdefaults, by simp⟩
  · exact ⟨hpath, hdefaults, by simp⟩

theorem Remembers.save (hstate : Remembers path defaults reports state) :
    Remembers path defaults (reports ++ state.report .save) (state.step .save) := by
  obtain ⟨hpath, hdefaults, hdirty⟩ := hstate
  unfold report step
  rcases hsave : state.store.save state.files with ⟨result, left⟩
  cases result with
  | error e => exact ⟨hpath, hdefaults, by simpa using hdirty⟩
  | ok saved =>
      obtain ⟨made, t, -, -, -, rfl⟩ := save_eq_ok hsave
      exact ⟨hpath, hdefaults, by simp⟩

theorem put_eq_ok {store changed : SettingsStore} {steps : List PathStep} {value : Json}
    (hput : store.put steps value = .ok changed) :
    changed = { store with data := changed.data } := by
  unfold SettingsStore.put at hput
  split at hput
  next =>
    cases hput
    rfl
  next => cases hput

theorem Remembers.put (hstate : Remembers path defaults reports state) (steps : List PathStep)
    (value : Json) : Remembers path defaults reports (state.step (.put steps value)) := by
  obtain ⟨hpath, hdefaults, hdirty⟩ := hstate
  unfold step
  dsimp only
  split
  next changed hput =>
    rw [put_eq_ok hput]
    exact ⟨hpath, hdefaults, hdirty⟩
  next => exact ⟨hpath, hdefaults, hdirty⟩

theorem Remembers.step (hstate : Remembers path defaults reports state) (event : StoreEvent) :
    Remembers path defaults (reports ++ state.report event) (state.step event) := by
  cases event with
  | load => exact hstate.load
  | save => exact hstate.save
  | get key => simpa [report, StoreState.step] using hstate
  | sectionAt key => simpa [report, StoreState.step] using hstate
  | put steps value => simpa [report] using hstate.put steps value
  | outside files =>
      rw [report, List.append_nil]
      · exact ⟨hstate.path_eq, hstate.defaults_eq, hstate.dirty_iff⟩
      all_goals nofun

end Step

/-- Every store remembers its history. -/
theorem remembers_after {path : Path} {defaults : Fields} {store : SettingsStore}
    (hnew : SettingsStore.new path defaults = .ok store) (files : Files)
    (events : List StoreEvent) :
    Remembers path defaults (Run.outputs step report ⟨store, files⟩ events)
      (Run.after step ⟨store, files⟩ events) := by
  obtain ⟨-, rfl⟩ := new_eq_ok hnew
  refine Run.after_induction step _
    (fun events => Remembers path defaults (Run.outputs step report _ events)) ?_ ?_ events
  · exact ⟨rfl, rfl, by simp [Run.outputs]⟩
  · intro events event hstate
    rw [Run.outputs_concat]
    exact hstate.step event

/-! ## What a store says -/

/-- What a settings store says and does after a run with these reports. -/
structure Truthful (path : Path) (defaults : Fields) (reports : List StoreReport)
    (state : StoreState) : Prop where
  /-- It is dirty when the last load or save that succeeded was a load that found nothing. -/
  dirty_iff : state.store.dirty = true ↔ reports.getLast? = some .foundNothing
  load_leaves_files : (state.step .load).files = state.files
  /-- Loading succeeds unless the path is too long or the file nested too deeply. -/
  load_succeeds_iff : (state.store.load state.files).1 = .ok () ↔
    (∃ found, state.files.exists? path = .ok found) ∧ ¬NestsTooDeeply state.files path
  /-- After a load that succeeded there is a note exactly of a file that holds no object, -/
  problem_iff : (state.store.load state.files).1 = .ok () →
    ((state.step .load).store.problem.isSome = true ↔
      state.files.exists? path = .ok true ∧ ∀ fields, ¬HoldsObject state.files path fields)
  /-- and the settings are then the defaults. -/
  data_of_problem : (state.step .load).store.problem.isSome = true →
    (state.step .load).store.data = defaults
  load_fails : ∀ fault, (state.store.load state.files).1 = .error fault →
    (state.step .load).store = { state.store with problem := none }
  /-- Saving that fails changes nothing. -/
  save_fails : ∀ e left, state.store.save state.files = (.error e, left) →
    (state.step .save).store = state.store ∧
      Files.SameContents state.files (state.step .save).files
  /-- It was refused, unless no file can have the path or no text the settings. -/
  refused : ∀ e left t, state.store.save state.files = (.error e, left) →
    '\x00' ∉ path.text → fileText state.store.data = .ok t → ∃ fault, e = .refused path fault
  save_succeeds : ∀ saved left, state.store.save state.files = (.ok saved, left) →
    (state.step .save).store = { state.store with dirty := false } ∧
      ∃ t, fileText state.store.data = .ok t ∧
        (state.step .save).files.read path = .ok (Text.Utf8.encode t)
  /-- A window that is closed leaves all files alone, unless the settings were in none when
  they were loaded. -/
  close_leaves_files : ∀ window : Window, window.settings = state.store →
    reports.getLast? ≠ some .foundNothing → (window.close state.files).2 = state.files

theorem load_succeeds_iff (store : SettingsStore) (files : Files) :
    (store.load files).1 = .ok () ↔
      (∃ found, files.exists? store.path = .ok found) ∧ ¬NestsTooDeeply files store.path := by
  rcases store.load_cases files with ⟨fault, hexists, heq⟩ | ⟨hexists, heq⟩ |
    ⟨hexists, hnested, e, heq⟩ | ⟨hexists, hnested, fields, -, heq⟩ |
      ⟨hexists, hnested, -, problem, heq⟩
  all_goals rw [heq, hexists]
  · simp
  · have hnested : ¬NestsTooDeeply files store.path := by
      intro hnested
      rw [hnested.exists?] at hexists
      cases hexists
    simp [hnested]
  · simp [hnested]
  · simp [hnested]
  · simp [hnested]

theorem problem_iff (store : SettingsStore) (files : Files)
    (hload : (store.load files).1 = .ok ()) :
    (store.load files).2.problem.isSome = true ↔
      files.exists? store.path = .ok true ∧ ∀ fields, ¬HoldsObject files store.path fields := by
  rcases store.load_cases files with ⟨fault, hexists, heq⟩ | ⟨hexists, heq⟩ |
    ⟨hexists, -, e, heq⟩ | ⟨hexists, -, fields, hfields, heq⟩ |
      ⟨hexists, -, hnone, problem, heq⟩
  all_goals rw [heq] at hload ⊢
  · cases hload
  · simp [hexists]
  · cases hload
  · simp only [Option.isSome_none, Bool.false_eq_true, false_iff, not_and, not_forall]
    exact fun _ => ⟨fields, not_not_intro hfields⟩
  · simp [hexists, hnone]

theorem data_of_problem (store : SettingsStore) (files : Files)
    (hproblem : (store.load files).2.problem.isSome = true) :
    (store.load files).2.data = store.defaults := by
  rcases store.load_cases files with ⟨fault, -, heq⟩ | ⟨-, heq⟩ | ⟨-, -, e, heq⟩ |
    ⟨-, -, fields, -, heq⟩ | ⟨-, -, -, problem, heq⟩
  all_goals rw [heq] at hproblem ⊢
  all_goals cases hproblem

theorem load_fails (store : SettingsStore) (files : Files) {fault : Fault}
    (hload : (store.load files).1 = .error fault) :
    (store.load files).2 = { store with problem := none } := by
  rcases store.load_cases files with ⟨fault, -, heq⟩ | ⟨-, heq⟩ | ⟨-, -, e, heq⟩ |
    ⟨-, -, fields, -, heq⟩ | ⟨-, -, -, problem, heq⟩
  all_goals rw [heq] at hload ⊢
  all_goals cases hload

/-- Whatever happened to a store and its files, it says what became of them, and it never
writes over what was there to be loaded. -/
theorem truthful_after {path : Path} {defaults : Fields} {store : SettingsStore}
    (hnew : SettingsStore.new path defaults = .ok store) (files : Files)
    (events : List StoreEvent) :
    Truthful path defaults (Run.outputs step report ⟨store, files⟩ events)
      (Run.after step ⟨store, files⟩ events) := by
  have hstate := remembers_after hnew files events
  generalize Run.outputs step report ⟨store, files⟩ events = reports at hstate ⊢
  generalize Run.after step ⟨store, files⟩ events = state at hstate ⊢
  obtain ⟨rfl, rfl, hdirty⟩ := hstate
  refine ⟨hdirty, rfl, load_succeeds_iff _ _, problem_iff _ _, data_of_problem _ _,
    fun fault => load_fails _ _, ?_, ?_, ?_, ?_⟩
  · intro e left hsave
    simp only [step, hsave]
    exact ⟨trivial, sameContents_of_save_error hsave⟩
  · intro e left t hsave hnul htext
    exact refused_of_save_error hsave hnul htext
  · intro saved left hsave
    obtain ⟨made, t, -, htext, hwrite, rfl⟩ := save_eq_ok hsave
    simp only [step, hsave]
    exact ⟨trivial, t, htext, Files.read_of_write hwrite⟩
  · intro window hwindow hreports
    have hclean : window.settings.dirty = false := by
      rw [hwindow]
      exact eq_false_of_ne_true fun hdirt => hreports (hdirty.mp hdirt)
    simp [Window.close, hclean]

/-- Where the settings of the examples are. -/
def homePath : Path where
  root := []
  names := ["settings.json".toList]

/-- Defaults of one number. -/
def oneNumber : Fields :=
  [("a", .int 1)]

/-- A store that has loaded nothing yet. -/
def freshStore : SettingsStore where
  path := homePath
  defaults := oneNumber
  data := oneNumber

theorem truthful_after_put :
    SettingsStore.new homePath oneNumber = .ok freshStore ∧
      Run.outputs step report ⟨freshStore, .empty⟩ [.load, .put [.name "a"] (.int 2)] =
        [.foundNothing] ∧
      Truthful homePath oneNumber [.foundNothing]
        (Run.after step ⟨freshStore, .empty⟩ [.load, .put [.name "a"] (.int 2)]) := by
  have hnew : SettingsStore.new homePath oneNumber = .ok freshStore := rfl
  exact ⟨hnew, rfl, truthful_after hnew .empty [.load, .put [.name "a"] (.int 2)]⟩

/-! ## Files that are nested too deeply -/

/-- A file that is nested too deeply is neither loaded nor noted. -/
theorem load_of_nestsTooDeeply {store : SettingsStore} {files : Files}
    (hnested : NestsTooDeeply files store.path) :
    (store.load files).2 = { store with problem := none } := by
  cases hload : (store.load files).1 with
  | error fault => exact load_fails store files hload
  | ok _ => exact absurd hnested ((load_succeeds_iff store files).mp hload).2

/-- A load that fails on what was put where there was no file leaves it all as it was: the
settings are still dirty, and no problem is noted. -/
theorem store_after_nested {files : Files} (hnested : NestsTooDeeply files homePath) :
    (Run.after step ⟨freshStore, .empty⟩ [.load, .outside files, .load]).store =
      { (freshStore.load .empty).2 with problem := none } :=
  load_of_nestsTooDeeply hnested

/-- Files with nothing but brackets in the settings. -/
def bracketFiles : Files :=
  Files.empty.put homePath (.file (Text.Utf8.encode (List.replicate 5000 '[')))

theorem reads_bracketFiles : Reads bracketFiles homePath (.error (.nesting .readingArray)) := by
  have hwrite : Files.empty.write homePath (Text.Utf8.encode (List.replicate 5000 '[')) =
      .ok bracketFiles := rfl
  have hreturn : '\r' ∉ List.replicate 5000 '[' := fun hmem =>
    absurd (List.eq_of_mem_replicate hmem) (by decide)
  refine ⟨_, _, Files.read_of_write hwrite, Text.Utf8.decode_encode _, ?_⟩
  rw [Text.unifyLineEnds_of_not_mem hreturn]
  exact Json.parseWithin_replicate_bracket (by decide)

/-- A file is there, it is no document, and after loading it there is no note of it; the
settings still count as being in no file, so closing a window writes over it. -/
theorem brackets_not_noted :
    bracketFiles.exists? homePath = .ok true ∧
      (∀ fields, ¬HoldsObject bracketFiles homePath fields) ∧
      (Run.after step ⟨freshStore, .empty⟩
        [.load, .outside bracketFiles, .load]).store.problem = none ∧
      (Run.after step ⟨freshStore, .empty⟩
        [.load, .outside bracketFiles, .load]).store.dirty = true := by
  have hstep := store_after_nested (Or.inl ⟨_, reads_bracketFiles⟩)
  refine ⟨reads_bracketFiles.exists?, ?_, ?_, ?_⟩
  · intro fields hfields
    cases Reads.unique hfields reads_bracketFiles
  · rw [hstep]
  · rw [hstep]
    rfl

end StoreState

end SchemaDesk
