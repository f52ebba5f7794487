import SchemaDesk.Proofs.FileStates
import SchemaDesk.Settings.Store

/-!
# Events of a settings store

Everything that happens to a settings store and to the files around it, and what loading
and saving come to, case by case. A load or save that comes to an end without an error
reports what it did.
-/

namespace SchemaDesk

namespace SettingsStore

theorem new_eq_ok {path : Path} {defaults : Fields} {store : SettingsStore}
    (hnew : SettingsStore.new path defaults = .ok store) :
    Json.depthOfFields defaults ≤ Json.copyingLevels ∧
      store = { path, defaults, data := defaults } := by
  obtain ⟨copied, hcopy, hstore⟩ := bind_eq_ok hnew
  unfold Fields.copy at hcopy
  split at hcopy
  next hdepth =>
    cases hcopy
    cases hstore
    exact ⟨hdepth, rfl⟩
  next => cases hcopy

/-- The file at a path is a text, and reading it as a document comes to this. -/
def Reads (files : Files) (path : Path) (result : Except Json.ReadError Json) : Prop :=
  ∃ octets t, files.read path = .ok octets ∧ Text.Utf8.decode octets = .ok t ∧
    Json.parse (Text.unifyLineEnds t) = result

/-- The file at a path holds an object with these fields. -/
def HoldsObject (files : Files) (path : Path) (fields : Fields) : Prop :=
  Reads files path (.ok (.obj fields))

/-- The file at a path is nested more deeply than is read, or than is copied. -/
def NestsTooDeeply (files : Files) (path : Path) : Prop :=
  (∃ e, Reads files path (.error (.nesting e))) ∨
    ∃ fields, HoldsObject files path fields ∧ Json.copyingLevels < Json.depthOfFields fields

theorem Reads.unique {files : Files} {path : Path} {result other : Except Json.ReadError Json}
    (hresult : Reads files path result) (hother : Reads files path other) : result = other := by
  obtain ⟨octets, t, hread, hdecode, rfl⟩ := hresult
  obtain ⟨octets', t', hread', hdecode', rfl⟩ := hother
  rw [hread] at hread'
  cases hread'
  rw [hdecode] at hdecode'
  cases hdecode'
  rfl

theorem HoldsObject.unique {files : Files} {path : Path} {fields others : Fields}
    (hfields : HoldsObject files path fields) (hothers : HoldsObject files path others) :
    fields = others := by
  cases Reads.unique hfields hothers
  rfl

theorem Reads.exists? {files : Files} {path : Path} {result : Except Json.ReadError Json}
    (hresult : Reads files path result) : files.exists? path = .ok true := by
  obtain ⟨octets, t, hread, -, -⟩ := hresult
  exact Files.exists?_of_read hread

theorem NestsTooDeeply.exists? {files : Files} {path : Path} (hnested : NestsTooDeeply files path) :
    files.exists? path = .ok true := by
  rcases hnested with ⟨e, hreads⟩ | ⟨fields, hfields, -⟩
  · exact hreads.exists?
  · exact Reads.exists? hfields

theorem depth_le_of_not_nestsTooDeeply {files : Files} {path : Path} {fields : Fields}
    (hnested : ¬NestsTooDeeply files path) (hfields : HoldsObject files path fields) :
    Json.depthOfFields fields ≤ Json.copyingLevels := by
  refine Nat.le_of_not_lt ?_
  intro hdeep
  exact hnested (Or.inr ⟨fields, hfields, hdeep⟩)

theorem readObject_of_not_reads {files : Files} {path : Path}
    (hnone : ∀ result, ¬Reads files path result) :
    readObject files path = .ok (.error .unreadable) := by
  unfold readObject
  split
  next => rfl
  next octets hread =>
    split
    next => rfl
    next t hdecode => exact absurd ⟨octets, t, hread, hdecode, rfl⟩ (hnone _)

/-- What reading the object of a file comes to. -/
theorem readObject_cases (files : Files) (path : Path) :
    (∃ e, Reads files path (.error (.nesting e)) ∧ readObject files path = .error e) ∨
      (∃ fields, HoldsObject files path fields ∧ readObject files path = .ok (.ok fields)) ∨
        (¬NestsTooDeeply files path ∧ (∀ fields, ¬HoldsObject files path fields) ∧
          ∃ problem, readObject files path = .ok (.error problem)) := by
  by_cases hreads : ∃ result, Reads files path result
  · obtain ⟨result, hresult⟩ := hreads
    have hother {other : Except Json.ReadError Json} (hne : result ≠ other) :
        ¬Reads files path other := fun hreads => hne (hresult.unique hreads)
    obtain ⟨octets, t, hread, hdecode, hparse⟩ := id hresult
    unfold readObject
    simp only [hread, hdecode, hparse]
    split
    next fields => exact Or.inr (Or.inl ⟨fields, hresult, rfl⟩)
    next value hvalue =>
      have hobject (fields : Fields) : ¬HoldsObject files path fields :=
        hother fun heq => hvalue fields (Except.ok.inj heq)
      refine Or.inr (Or.inr ⟨?_, hobject, _, rfl⟩)
      rintro (⟨e, hreads⟩ | ⟨fields, hfields, -⟩)
      · exact hother (by simp) hreads
      · exact hobject fields hfields
    next =>
      have hobject (fields : Fields) : ¬HoldsObject files path fields := hother (by simp)
      refine Or.inr (Or.inr ⟨?_, hobject, _, rfl⟩)
      rintro (⟨e, hreads⟩ | ⟨fields, hfields, -⟩)
      · exact hother (by simp) hreads
      · exact hobject fields hfields
    next e => exact Or.inl ⟨e, hresult, rfl⟩
  · have hnone (result : Except Json.ReadError Json) : ¬Reads files path result :=
      fun hresult => hreads ⟨result, hresult⟩
    refine Or.inr (Or.inr ⟨?_, fun fields => hnone _, _, readObject_of_not_reads hnone⟩)
    rintro (⟨e, hdeep⟩ | ⟨fields, hfields, -⟩)
    · exact hnone _ hdeep
    · exact hnone _ hfields

/-- What loading comes to: the path is too long; there is no file; the file is nested too
deeply; it holds an object; or it holds none. -/
theorem load_cases (store : SettingsStore) (files : Files) :
    (∃ fault, files.exists? store.path = .error fault ∧
        store.load files = (.error fault, { store with problem := none })) ∨
      (files.exists? store.path = .ok false ∧ store.load files =
        (.ok (), { store with data := store.defaults, dirty := true, problem := none })) ∨
      (files.exists? store.path = .ok true ∧ NestsTooDeeply files store.path ∧
        ∃ e : NestingError, store.load files = (.error e.fault, { store with problem := none })) ∨
      (files.exists? store.path = .ok true ∧ ¬NestsTooDeeply files store.path ∧
        ∃ fields, HoldsObject files store.path fields ∧ store.load files = (.ok (), { store with
          data := Settings.overlay store.defaults fields, dirty := false, problem := none })) ∨
      (files.exists? store.path = .ok true ∧ ¬NestsTooDeeply files store.path ∧
        (∀ fields, ¬HoldsObject files store.path fields) ∧
        ∃ problem, store.load files = (.ok (), { store with
          data := store.defaults, dirty := false, problem := some problem })) := by
  unfold load
  split
  next fault hexists => exact Or.inl ⟨fault, hexists, rfl⟩
  next hexists => exact Or.inr (Or.inl ⟨hexists, rfl⟩)
  next hexists =>
    right; right
    unfold readSettings
    rcases readObject_cases files store.path with ⟨e, hreads, hread⟩ | ⟨fields, hfields, hread⟩ |
      ⟨hnested, hnone, problem, hread⟩
    · left
      refine ⟨hexists, Or.inl ⟨e, hreads⟩, e, ?_⟩
      simp only [hread, bind, Except.bind]
    · by_cases hdepth : Json.depthOfFields fields ≤ Json.copyingLevels
      · right; left
        refine ⟨hexists, ?_, fields, hfields, ?_⟩
        · rintro (⟨e, hreads⟩ | ⟨others, hothers, hdeep⟩)
          · cases hreads.unique hfields
          · cases hothers.unique hfields
            omega
        · simp only [hread, bind, Except.bind, Fields.copy, if_pos hdepth]
          rfl
      · left
        refine ⟨hexists, Or.inr ⟨fields, hfields, Nat.lt_of_not_le hdepth⟩, .copying, ?_⟩
        simp only [hread, bind, Except.bind, Fields.copy, if_neg hdepth]
    · right; right
      refine ⟨hexists, hnested, hnone, problem, ?_⟩
      simp only [hread, bind, Except.bind]
      rfl

/-- What saving did that succeeded. -/
theorem save_eq_ok {store saved : SettingsStore} {files left : Files}
    (hsave : store.save files = (.ok saved, left)) :
    ∃ made t, Files.SameContents files made ∧ fileText store.data = .ok t ∧
      made.write store.path (Text.Utf8.encode t) = .ok left ∧
        saved = { store with dirty := false } := by
  have hmade := Files.sameContents_ensureDirectories files store.path.parent
  unfold save at hsave
  split at hsave
  next => cases hsave
  next made hparents =>
    rw [hparents] at hmade
    split at hsave
    next => cases hsave
    next t ht =>
      split at hsave
      next => cases hsave
      next hwrite =>
        cases hsave
        exact ⟨made, t, hmade, ht, hwrite, rfl⟩

/-- Saving that fails changes no file. -/
theorem sameContents_of_save_error {store : SettingsStore} {files left : Files} {e : SaveError}
    (hsave : store.save files = (.error e, left)) : Files.SameContents files left := by
  have hmade := Files.sameContents_ensureDirectories files store.path.parent
  unfold save at hsave
  split at hsave
  next hparents =>
    rw [hparents] at hmade
    cases hsave
    exact hmade
  next hparents =>
    rw [hparents] at hmade
    split at hsave
    next =>
      cases hsave
      exact hmade
    next =>
      split at hsave
      next =>
        cases hsave
        exact hmade
      next => cases hsave

/-- Saving that fails was refused as the files have it, if the path can be one of a file and
the settings have a text. -/
theorem refused_of_save_error {store : SettingsStore} {files left : Files} {e : SaveError}
    (hsave : store.save files = (.error e, left)) (hnul : '\x00' ∉ store.path.text) {t : Text}
    (htext : fileText store.data = .ok t) : ∃ fault, e = .refused store.path fault := by
  unfold save at hsave
  split at hsave
  next fault made hparents =>
    cases hsave
    have hkind := Files.isIo_of_ensureDirectories (Files.nul_not_mem_parent hnul) hparents
    exact ⟨fault, by rw [SaveError.ofFault, if_pos hkind]⟩
  next =>
    rw [htext] at hsave
    dsimp only at hsave
    split at hsave
    next fault hwrite =>
      cases hsave
      exact ⟨fault, by rw [SaveError.ofFault, if_pos (Files.isIo_of_write hnul hwrite)]⟩
    next => cases hsave

end SettingsStore

/-! ## Events -/

/-- What happens to a settings store and to the files around it. -/
inductive StoreEvent where
  | load
  | save
  | get (key : CodeText)
  | sectionAt (key : CodeText)
  | put (steps : List PathStep) (value : Json)
  /-- The files are changed by something else. -/
  | outside (files : Files)

/-- A settings store and the files around it. -/
structure StoreState where
  store : SettingsStore
  files : Files

/-- What a load or a save did that came to an end without an error. -/
inductive StoreReport where
  /-- A file was there and was loaded. -/
  | loaded
  /-- There was no file to load. -/
  | foundNothing
  | saved
  deriving DecidableEq, Repr

namespace StoreState

/-- One event. What cannot be put leaves the settings as they are. -/
def step (state : StoreState) : StoreEvent → StoreState
  | .load => { state with store := (state.store.load state.files).2 }
  | .save =>
    match state.store.save state.files with
    | (.ok store, files) => { store, files }
    | (.error _, files) => { state with files }
  | .get _ | .sectionAt _ => state
  | .put steps value =>
    match state.store.put steps value with
    | .ok store => { state with store }
    | .error _ => state
  | .outside files => { state with files }

/-- What an event reports. -/
def report (state : StoreState) : StoreEvent → List StoreReport
  | .load =>
    match (state.store.load state.files).1, state.files.exists? state.store.path with
    | .error _, _ => []
    | .ok (), .ok false => [.foundNothing]
    | .ok (), _ => [.loaded]
  | .save =>
    match state.store.save state.files with
    | (.ok _, _) => [.saved]
    | (.error _, _) => []
  | _ => []

end StoreState

end SchemaDesk
