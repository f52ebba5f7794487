import SchemaDesk.Proofs.FileStates
import SchemaDesk.Proofs.WindowEvents

/-!
# Saved files

A document that was saved is what the file at its path holds. Saving it where its path says
leaves the window as it was, whether it succeeds or fails. But a path that was asked for is the
path of the document even if nothing could be written there.
-/

namespace SchemaDesk

theorem Files.read_of_writeUnless {files left : Files} {broken : Option BrokenWrite} {path : Path}
    {octets : List UInt8} (hwrite : files.writeUnless broken path octets = (.ok (), left)) :
    left.read path = .ok octets := by
  unfold writeUnless at hwrite
  split at hwrite
  next => cases hwrite
  next =>
    split at hwrite
    next hleft =>
      cases hwrite
      exact read_of_write hleft
    next => cases hwrite

namespace Window

/-- What the user may rely on when a document is saved. If it fails, the window has the path,
the title and the text that it had; else the file at its path holds its text. -/
structure KeptOrSaved (before : Window) (saving : Saving) : Prop where
  filePath : saving.answer = .ok false → saving.window.filePath = before.filePath
  title : saving.answer = .ok false → saving.window.title = before.title
  text : saving.answer = .ok false → saving.window.text = before.text
  saved : saving.answer = .ok true →
    saving.files.read (.ofText saving.window.filePath) =
      .ok (Text.Utf8.encode saving.window.text)

theorem KeptOrSaved.withNotices {before : Window} {saving : Saving}
    (hkept : KeptOrSaved before saving) (notices : List WindowNotice) :
    KeptOrSaved before { saving with notices } :=
  ⟨hkept.filePath, hkept.title, hkept.text, hkept.saved⟩

/-- Saving fails at a path that was asked for and that is not the path of the document. -/
structure FailsElsewhere (window : Window) (files : Files) (chosen : Text)
    (broken : Option Files.BrokenWrite) : Prop where
  ne_nil : chosen ≠ []
  ne_filePath : chosen ≠ window.filePath
  fails : ∃ fault left,
    files.writeUnless broken (.ofText chosen) (Text.Utf8.encode window.text) =
      (.error fault, left) ∧ fault.kind.isIo = true

/-! ## Saving in place -/

variable {window : Window} {files : Files} {chosen : Text} {broken : Option Files.BrokenWrite}

/-- A fault of input or output is the answer no, and any other one is let through. -/
theorem saveHere_cases (window : Window) (files : Files) (broken : Option Files.BrokenWrite) :
    (∃ left, files.writeUnless broken (.ofText window.filePath) (Text.Utf8.encode window.text) =
        (.ok (), left) ∧
      (window.saveHere files broken).answer = .ok true ∧
      (window.saveHere files broken).files = left) ∨
    (∃ fault left, files.writeUnless broken (.ofText window.filePath)
        (Text.Utf8.encode window.text) = (.error fault, left) ∧
      (window.saveHere files broken).answer =
        if fault.kind.isIo then .ok false else .error (.fault fault)) := by
  unfold saveHere
  dsimp only
  split
  next left hwrite => exact .inl ⟨left, hwrite, rfl, rfl⟩
  next fault left hwrite =>
    refine .inr ⟨fault, left, hwrite, ?_⟩
    unfold afterFault
    split <;> rfl

theorem answer_saveHere_eq_false_iff :
    (window.saveHere files broken).answer = .ok false ↔
      ∃ fault left, files.writeUnless broken (.ofText window.filePath)
        (Text.Utf8.encode window.text) = (.error fault, left) ∧ fault.kind.isIo = true := by
  rcases window.saveHere_cases files broken with ⟨left, hwrite, hanswer, -⟩ |
    ⟨fault, left, hwrite, hanswer⟩
  · simp [hwrite, hanswer]
  · rw [hwrite, hanswer]
    cases hio : fault.kind.isIo <;> simp [hio]

theorem read_of_saveHere (hanswer : (window.saveHere files broken).answer = .ok true) :
    (window.saveHere files broken).files.read (.ofText window.filePath) =
      .ok (Text.Utf8.encode window.text) := by
  rcases window.saveHere_cases files broken with ⟨left, hwrite, -, hleft⟩ |
    ⟨fault, left, hwrite, hbroken⟩
  · rw [hleft]
    exact Files.read_of_writeUnless hwrite
  · rw [hbroken] at hanswer
    split at hanswer <;> cases hanswer

theorem keptOrSaved_saveHere (window : Window) (files : Files)
    (broken : Option Files.BrokenWrite) :
    KeptOrSaved window (window.saveHere files broken) := by
  have hwindow := window.saveHere_eq files broken
  refine ⟨?_, ?_, ?_, fun hanswer => ?_⟩
  · exact fun _ => congrArg filePath hwindow
  · exact fun _ => congrArg title hwindow
  · exact fun _ => congrArg text hwindow
  · rw [hwindow]
    exact read_of_saveHere hanswer

/-! ## Saving at a path that is asked for -/

/-- A path that is given is the path of the document before anything is written. -/
theorem saveAs_of_ne_nil (window : Window) (files : Files) (hchosen : chosen ≠ [])
    (current : Text) (broken : Option Files.BrokenWrite) :
    ∃ notices, window.saveAs files chosen current broken =
      { { window with filePath := chosen }.saveHere files broken with notices } := by
  unfold saveAs
  dsimp only
  rw [if_neg (by simpa using hchosen)]
  exact ⟨_, rfl⟩

theorem keptOrSaved_saveAs_iff (window : Window) (files : Files) (chosen current : Text)
    (broken : Option Files.BrokenWrite) :
    KeptOrSaved window (window.saveAs files chosen current broken) ↔
      ¬FailsElsewhere window files chosen broken := by
  by_cases hchosen : chosen = []
  · have hsame : KeptOrSaved window (window.saveAs files chosen current broken) := by
      subst hchosen
      exact ⟨fun _ => rfl, fun _ => rfl, fun _ => rfl, nofun⟩
    exact iff_of_true hsame fun hfails => hfails.ne_nil hchosen
  · obtain ⟨notices, hsaveAs⟩ := window.saveAs_of_ne_nil files hchosen current broken
    have hwindow := saveHere_eq { window with filePath := chosen } files broken
    rw [hsaveAs]
    constructor
    · intro hkept hfails
      have hpath := hkept.filePath (answer_saveHere_eq_false_iff.mpr hfails.fails)
      rw [hwindow] at hpath
      exact hfails.ne_filePath hpath
    · intro hfails
      apply KeptOrSaved.withNotices
      by_cases hsame : chosen = window.filePath
      · have hself : ({ window with filePath := chosen } : Window) = window := by rw [hsame]
        rw [hself]
        exact window.keptOrSaved_saveHere files broken
      · have hanswer : ({ window with filePath := chosen }.saveHere files broken).answer ≠
            .ok false := by
          intro hfalse
          have hwrite := answer_saveHere_eq_false_iff.mp hfalse
          exact hfails ⟨hchosen, hsame, hwrite⟩
        exact ⟨fun h => absurd h hanswer, fun h => absurd h hanswer, fun h => absurd h hanswer,
          (keptOrSaved_saveHere { window with filePath := chosen } files broken).saved⟩

/-- Where the writing fails, the window has the path that was asked for. -/
theorem saveAs_of_failsElsewhere (hfails : FailsElsewhere window files chosen broken)
    (current : Text) :
    (window.saveAs files chosen current broken).answer = .ok false ∧
      (window.saveAs files chosen current broken).window =
        { window with filePath := chosen } := by
  obtain ⟨notices, hsaveAs⟩ := window.saveAs_of_ne_nil files hfails.ne_nil current broken
  rw [hsaveAs]
  exact ⟨answer_saveHere_eq_false_iff.mpr hfails.fails, saveHere_eq _ files broken⟩

/-- Whatever the system does with the file, saving a document that has a path keeps the window
or saves the document. Asking for a path does so too, unless writing fails at a path that is
not the one of the document: then the window has that path although nothing was saved there. -/
theorem keptOrSaved_iff (window : Window) (files : Files) (chosen current : Text)
    (broken : Option Files.BrokenWrite) :
    (KeptOrSaved window (window.save files chosen current broken) ↔
      (window.filePath = [] → ¬FailsElsewhere window files chosen broken)) ∧
    (KeptOrSaved window (window.saveAs files chosen current broken) ↔
      ¬FailsElsewhere window files chosen broken) ∧
    (FailsElsewhere window files chosen broken →
      (window.saveAs files chosen current broken).answer = .ok false ∧
        (window.saveAs files chosen current broken).window =
          { window with filePath := chosen }) := by
  have hsaveAs := window.keptOrSaved_saveAs_iff files chosen current broken
  refine ⟨?_, hsaveAs, fun hfails => saveAs_of_failsElsewhere hfails current⟩
  unfold save
  split
  next hnone => simpa [List.isEmpty_iff.mp hnone] using hsaveAs
  next hpath =>
    refine iff_of_true (window.keptOrSaved_saveHere files broken) fun hnone => ?_
    exact absurd (List.isEmpty_iff.mpr hnone) hpath

/-- A document with a path, for which a path in a directory that is not there is given. -/
theorem failed_saveAs_takes_path :
    ∃ window, openOn .bare (fun _ => none) "model A \x7b\x7d".toList "/shop.prisma".toList =
        .ok window ∧
      (window.saveAs .empty "/missing/copy.prisma".toList []).answer = .ok false ∧
      (window.saveAs .empty "/missing/copy.prisma".toList []).window.filePath =
        "/missing/copy.prisma".toList ∧
      ¬KeptOrSaved window (window.saveAs .empty "/missing/copy.prisma".toList []) := by
  obtain ⟨window, hopen, hpath⟩ : ∃ window, openOn .bare (fun _ => none)
      "model A \x7b\x7d".toList "/shop.prisma".toList = .ok window ∧
        window.filePath = "/shop.prisma".toList := ⟨_, rfl, rfl⟩
  have hother : "/missing/copy.prisma".toList ≠ window.filePath := by
    rw [hpath]
    decide
  have hfails : FailsElsewhere window .empty "/missing/copy.prisma".toList none :=
    ⟨by decide, hother, _, _, rfl, rfl⟩
  obtain ⟨hanswer, hwindow⟩ := saveAs_of_failsElsewhere hfails []
  refine ⟨window, hopen, hanswer, by rw [hwindow], fun hkept => ?_⟩
  exact (window.keptOrSaved_saveAs_iff ..).mp hkept hfails

end Window

end SchemaDesk
